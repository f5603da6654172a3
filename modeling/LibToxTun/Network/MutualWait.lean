import LibToxTun.Network.Simulation

/-! # Who waits is sent something

An endpoint that waits for a packet has caused one to be sent: the invariant says,
for every waiting phase, which message on either wire stands for the answer. It
fails only where a request is received by an endpoint that waits for the answer to
its own request.
-/

namespace LibToxTun

open Foundation

/-- An acceptance is on its way, followed by rejections of proposals only. -/
def AcceptPending : List Letter → Prop
  | [] => False
  | l :: rest => (l.msg = .accept ∧ ∀ r ∈ rest, r.msg = .ipReject) ∨ AcceptPending rest

/-- The last message on its way is a request. -/
def RequestPending (w : List Letter) : Prop := ∃ l, w.getLast? = some l ∧ l.msg = .request

section
variable (l : Letter) (w : List Letter)

@[simp] theorem acceptPending_append : AcceptPending (w ++ [l]) ↔
    l.msg = .accept ∨ (l.msg = .ipReject ∧ AcceptPending w) := by
  induction w with
  | nil => simp [AcceptPending]
  | cons k w ih =>
      simp only [List.cons_append, AcceptPending, ih, List.mem_append, List.mem_singleton]
      constructor
      · rintro (⟨accept, rejects⟩ | accept | ⟨reject, pending⟩)
        · exact .inr ⟨rejects l (.inr rfl), .inl ⟨accept, fun r hr => rejects r (.inl hr)⟩⟩
        · exact .inl accept
        · exact .inr ⟨reject, .inr pending⟩
      · rintro (accept | ⟨reject, ⟨accept, rejects⟩ | pending⟩)
        · exact .inr (.inl accept)
        · exact .inl ⟨accept, fun r hr => hr.elim (rejects r) fun h => h ▸ reject⟩
        · exact .inr (.inr ⟨reject, pending⟩)

@[simp] theorem requestPending_append : RequestPending (w ++ [l]) ↔ l.msg = .request := by
  simp [RequestPending]

theorem requestPending_cons : RequestPending (l :: w) ↔
    (w = [] ∧ l.msg = .request) ∨ RequestPending w := by
  cases w with
  | nil => simp [RequestPending]
  | cons k w => simp [RequestPending]

@[simp] theorem not_requestPending_nil : ¬ RequestPending [] := by simp [RequestPending]

end

/-- What a waiting party may count on. -/
structure Answered (me you : Party) (mine theirs : List Letter) : Prop where
  confirmation : ∀ subnet, me.phase = some (.expectingIpConfirmation subnet) →
    (∃ l ∈ mine, l.msg.isProposal = true) ∨ ∃ l ∈ theirs, l.msg ≠ .request
  packet : me.phase = some .expectingIpPacket → AcceptPending mine ∨
    ((∀ l ∈ mine, l.msg = .ipReject) ∧ ∃ subnet, you.phase = some (.expectingIpConfirmation subnet)) ∨
    ∃ l ∈ theirs, l.msg.isBye = true
  request : me.phase = some .ownRequestPending → RequestPending mine ∨
    (mine = [] ∧ you.phase ≠ none ∧ you.phase ≠ some .ownRequestPending) ∨
    (mine = [] ∧ ∃ l ∈ theirs, l.msg ≠ .request)

section
variable {me you next : Party} {mine theirs out : List Letter}

theorem answered_of_idle (idle : ∀ phase, me.phase = some phase → phase.waits = false) :
    Answered me you mine theirs := by
  refine ⟨fun subnet same => ?_, fun same => ?_, fun same => ?_⟩
  all_goals cases idle _ same

theorem answered_of_none (free : me.phase = none) : Answered me you mine theirs :=
  answered_of_idle fun phase same => by
    rw [free] at same
    cases same

theorem answered_of_proposal {subnet : UInt8}
    (expecting : me.phase = some (.expectingIpConfirmation subnet))
    (sends : ∃ l ∈ out, l.msg.isProposal = true) : Answered me you (mine ++ out) theirs := by
  obtain ⟨l, hl, proposal⟩ := sends
  refine ⟨fun _ _ => .inl ⟨l, List.mem_append_right _ hl, proposal⟩, fun same => ?_, fun same => ?_⟩
  all_goals
    rw [expecting] at same
    cases same

/-! ## What a party does by itself -/

theorem Answered.act_own (h : Answered me you mine theirs) (act : me.Act next out) :
    Answered next you (mine ++ out) theirs := by
  cases act with
  | stay =>
      rw [List.append_nil]
      exact h
  | request free => exact ⟨by simp, by simp, fun _ => .inl (by simp)⟩
  | accept ringing => exact ⟨by simp, fun _ => .inl (by simp), by simp⟩
  | leave kind linked => exact answered_of_none rfl
  | refuse free => exact answered_of_none free

theorem Party.Act.linked (act : me.Act next out) (linked : me.phase ≠ none) :
    (next.phase ≠ none ∧ (next.phase = some .ownRequestPending → me.phase = some .ownRequestPending) ∧
      ∀ subnet, me.phase = some (.expectingIpConfirmation subnet) → next.phase = me.phase) ∨
    ∃ l ∈ out, l.msg.isBye = true := by
  cases act with
  | stay => exact .inl ⟨linked, id, fun _ _ => rfl⟩
  | request free => exact (linked free).elim
  | accept ringing => exact .inl ⟨by simp, by simp, by simp [ringing]⟩
  | leave kind _ => exact .inr ⟨_, List.mem_singleton_self _, rfl⟩
  | refuse free => exact (linked free).elim

/-- Messages that are sent do not take anything from the peer. -/
theorem Answered.act_peer (h' : Answered you me theirs mine) (act : me.Act next out) :
    Answered you next theirs (mine ++ out) := by
  have kept {P : Letter → Prop} (found : ∃ l ∈ mine, P l) : ∃ l ∈ mine ++ out, P l :=
    found.imp fun _ h => ⟨List.mem_append_left _ h.1, h.2⟩
  have left {P : Letter → Prop} (found : ∃ l ∈ out, P l) : ∃ l ∈ mine ++ out, P l :=
    found.imp fun _ h => ⟨List.mem_append_right _ h.1, h.2⟩
  refine ⟨fun subnet same => ?_, fun same => ?_, fun same => ?_⟩
  · exact (h'.confirmation subnet same).imp_right kept
  · rcases h'.packet same with pending | ⟨rejects, subnet, there⟩ | bye
    · exact .inl pending
    · rcases act.linked (by simp [there]) with ⟨-, -, stays⟩ | bye
      · exact .inr (.inl ⟨rejects, subnet, (stays subnet there).trans there⟩)
      · exact .inr (.inr (left bye))
    · exact .inr (.inr (kept bye))
  · rcases h'.request same with pending | ⟨empty, linked, other⟩ | ⟨empty, answer⟩
    · exact .inl pending
    · rcases act.linked linked with ⟨present, asks, -⟩ | ⟨l, hl, bye⟩
      · exact .inr (.inl ⟨empty, present, fun own => other (asks own)⟩)
      · refine .inr (.inr ⟨empty, left ⟨l, hl, fun request => ?_⟩⟩)
        rw [request] at bye
        cases bye
    · exact .inr (.inr ⟨empty, kept answer⟩)

theorem Answered.act (h : Answered me you mine theirs) (h' : Answered you me theirs mine)
    (act : me.Act next out) :
    Answered next you (mine ++ out) theirs ∧ Answered you next theirs (mine ++ out) :=
  ⟨h.act_own act, h'.act_peer act⟩

/-! ## What a party does with a message -/

section
variable {letter : Letter} (receive : Party.Receive letter me next out)
include receive

theorem Party.Receive.proposal (proposal : letter.msg.isProposal = true) :
    ∃ l ∈ out, l.msg ≠ .request := by
  cases receive with
  | stray other noBye => exact ⟨_, List.mem_singleton_self _, by simp⟩
  | taken expecting => exact ⟨_, List.mem_singleton_self _, by simp⟩
  | declined expecting => exact ⟨_, List.mem_singleton_self _, by simp⟩
  | _ => cases proposal

/-- An acceptance and the rejection of a proposal lead to the next proposal, or to a reset. -/
theorem Party.Receive.proposes (seeks : letter.msg = .accept ∨ letter.msg = .ipReject) :
    (∃ subnet, next.phase = some (.expectingIpConfirmation subnet)) ∨ ∃ l ∈ out, l.msg.isBye = true := by
  cases receive with
  | stray other noBye => exact .inr ⟨_, List.mem_singleton_self _, rfl⟩
  | accepted subnet asking => exact .inl ⟨subnet, rfl⟩
  | proposed subnet expecting => exact .inl ⟨subnet, rfl⟩
  | _ => simp at seeks

/-- A request that does not meet an own one leads to a connection, or to a reset. -/
theorem Party.Receive.requested (request : letter.msg = .request)
    (free : me.phase ≠ some .ownRequestPending) :
    (next.phase ≠ none ∧ next.phase ≠ some .ownRequestPending) ∨ ∃ l ∈ out, l.msg ≠ .request := by
  cases receive with
  | ignored linked => exact .inl ⟨linked, free⟩
  | ring absent => exact .inl ⟨by simp, by simp⟩
  | refused absent => exact .inr ⟨_, List.mem_singleton_self _, by simp⟩
  | stray other noBye => exact (other request).elim
  | _ => cases request

theorem Answered.receive_own (h : Answered me you mine (letter :: theirs))
    (ok : ¬ (letter.msg = .request ∧ me.phase = some .ownRequestPending)) :
    Answered next you (mine ++ out) theirs := by
  have later {P : Letter → Prop} (other : ¬P letter) (found : ∃ l ∈ letter :: theirs, P l) :
      ∃ l ∈ theirs, P l := ((List.exists_mem_cons_iff ..).mp found).resolve_left other
  cases receive with
  | ignored linked =>
      rw [List.append_nil]
      refine ⟨fun subnet same => ?_, fun same => ?_, fun same => (ok ⟨rfl, same⟩).elim⟩
      · exact (h.confirmation subnet same).imp_right (later (by simp))
      · exact (h.packet same).imp_right (Or.imp_right (later (by simp [Msg.isBye])))
  | accepted subnet asking => exact answered_of_proposal rfl ⟨_, List.mem_singleton_self _, rfl⟩
  | proposed subnet expecting => exact answered_of_proposal rfl ⟨_, List.mem_singleton_self _, rfl⟩
  | declined expecting =>
      refine ⟨by simp [expecting], fun same => ?_, by simp [expecting]⟩
      rcases h.packet same with pending | ⟨rejects, there⟩ | bye
      · exact .inl (by simp [pending])
      · exact .inr (.inl ⟨by simpa [or_imp, forall_and] using rejects, there⟩)
      · exact .inr (.inr (later (by simp [Msg.isBye]) bye))
  | ring absent => exact answered_of_idle fun phase same => by cases same; rfl
  | taken expecting => exact answered_of_idle fun phase same => by cases same; rfl
  | confirmed expecting => exact answered_of_idle fun phase same => by cases same; rfl
  | refused absent => exact answered_of_none absent
  | ended kind => exact answered_of_none rfl
  | endedBack kind => exact answered_of_none rfl
  | stray other noBye => exact answered_of_none rfl

theorem Answered.receive_peer (h' : Answered you me (letter :: theirs) mine)
    (ok : ¬ (letter.msg = .request ∧ me.phase = some .ownRequestPending)) :
    Answered you next theirs (mine ++ out) := by
  have kept {P : Letter → Prop} (found : ∃ l ∈ mine, P l) : ∃ l ∈ mine ++ out, P l :=
    found.imp fun _ h => ⟨List.mem_append_left _ h.1, h.2⟩
  have left {P : Letter → Prop} (found : ∃ l ∈ out, P l) : ∃ l ∈ mine ++ out, P l :=
    found.imp fun _ h => ⟨List.mem_append_right _ h.1, h.2⟩
  refine ⟨fun subnet same => ?_, fun same => ?_, fun same => ?_⟩
  · rcases h'.confirmation subnet same with proposal | answer
    · rcases (List.exists_mem_cons_iff ..).mp proposal with here | later
      · exact .inr (left (receive.proposal here))
      · exact .inl later
    · exact .inr (kept answer)
  · rcases h'.packet same with (⟨accept, rejects⟩ | pending) | ⟨rejects, -⟩ | bye
    · rcases receive.proposes (.inl accept) with there | bye
      · exact .inr (.inl ⟨rejects, there⟩)
      · exact .inr (.inr (left bye))
    · exact .inl pending
    · rw [List.forall_mem_cons] at rejects
      rcases receive.proposes (.inr rejects.1) with there | bye
      · exact .inr (.inl ⟨rejects.2, there⟩)
      · exact .inr (.inr (left bye))
    · exact .inr (.inr (kept bye))
  · rcases h'.request same with pending | ⟨empty, -⟩ | ⟨empty, -⟩
    · rcases (requestPending_cons _ _).mp pending with ⟨empty, request⟩ | pending
      · rcases receive.requested request (fun own => ok ⟨request, own⟩) with linked | answer
        · exact .inr (.inl ⟨empty, linked⟩)
        · exact .inr (.inr ⟨empty, left answer⟩)
      · exact .inl pending
    · cases empty
    · cases empty

end

/-- A request that does not meet the receiver's own one keeps the invariant. -/
theorem Answered.receive {letter : Letter} (h : Answered me you mine (letter :: theirs))
    (h' : Answered you me (letter :: theirs) mine)
    (ok : ¬ (letter.msg = .request ∧ me.phase = some .ownRequestPending))
    (receive : Party.Receive letter me next out) :
    Answered next you (mine ++ out) theirs ∧ Answered you next theirs (mine ++ out) :=
  ⟨h.receive_own receive ok, h'.receive_peer receive ok⟩

/-! ## The end -/

/-- With nothing on its way, the two parties do not both wait. -/
theorem Answered.quiet (h : Answered me you [] []) (h' : Answered you me [] [])
    {phase phase' : Phase} (mine : me.phase = some phase) (theirs : you.phase = some phase')
    (waits : phase.waits = true) : phase'.waits = false := by
  have proposing {p q : Party} (h : Answered p q [] []) (subnet : UInt8) :
      p.phase ≠ some (.expectingIpConfirmation subnet) := fun same => by
    simpa using h.confirmation subnet same
  have packet {p q : Party} (h : Answered p q [] []) (h' : Answered q p [] []) :
      p.phase ≠ some .expectingIpPacket := fun same => by
    rcases h.packet same with pending | ⟨-, subnet, there⟩ | ⟨l, hl, -⟩
    · exact pending
    · exact proposing h' subnet there
    · cases hl
  have asking {p q : Party} (h : Answered p q [] []) (same : p.phase = some .ownRequestPending) :
      q.phase ≠ some .ownRequestPending := by
    rcases h.request same with pending | ⟨-, -, there⟩ | ⟨-, l, hl, -⟩
    · exact (not_requestPending_nil pending).elim
    · exact there
    · cases hl
  cases phase with
  | ownRequestPending =>
      cases phase' with
      | ownRequestPending => exact (asking h mine theirs).elim
      | expectingIpPacket => exact (packet h' h theirs).elim
      | expectingIpConfirmation subnet => exact (proposing h' subnet theirs).elim
      | _ => rfl
  | expectingIpPacket => exact (packet h h' mine).elim
  | expectingIpConfirmation subnet => exact (proposing h subnet mine).elim
  | _ => cases waits

end

/-! ## The net -/

/-- An endpoint holds a connection that waits for a packet from the other one. -/
def Net.waits (n : Net) (x : Side) : Bool :=
  match n.connection x with
  | none => false
  | some c => c.state = .ownRequestPending || c.state = .expectingIpPacket ||
      c.state = .expectingIpConfirmation

/-- A request is delivered to an endpoint that waits for the answer to its own one. -/
def Net.collides (n : Net) (move : Move) : Bool :=
  n.meets (fun p _ c => p.data.isRequest && c.state = .ownRequestPending) move

theorem Net.Abstracts.waits {n : Net} {d : Duplex Party Letter} (h : n.Abstracts d) {x : Side}
    (waits : n.waits x = true) : ∃ phase, (d.party x).phase = some phase ∧ phase.waits = true := by
  have shown := h.shown x
  simp only [Net.waits] at waits
  cases found : n.connection x with
  | none => simp [found] at waits
  | some c =>
      rw [found] at shown waits
      generalize phase : (d.party x).phase = ph at shown
      cases shown with
      | @some c ph shows _ =>
          refine ⟨ph, rfl, ?_⟩
          cases ph <;> simp [shows.1] at waits ⊢ <;> rfl

theorem reach_answered {friend : Side → UInt32} {n : Net}
    (reached : Reach Net.step (fun n i => HonestInput i ∧ !n.collides i.2) (Net.start friend) n) :
    ∃ d, n.Abstracts d ∧ d.Holds Answered := by
  refine Net.reach_holds (fun l p => ¬ (l.msg = .request ∧ p.phase = some .ownRequestPending))
    (fun _ _ => And.left) ?guards ?start (fun _ _ _ _ _ _ h h' => h.act h')
    (fun _ _ _ _ _ _ _ h h' => h.receive h') reached
  case guards =>
    rintro n d E x l rest shows ⟨-, spared⟩ next ⟨request, asking⟩
    obtain ⟨c, state, spared⟩ := shows.meets next (by simpa [Net.collides] using spared) asking
    simp [Letter.parcel, request, state.1] at spared
  case start => exact fun x => ⟨by simp [Duplex.start], by simp [Duplex.start], by simp [Duplex.start]⟩

/-- As long as no request meets the receiver's own one, there is no mutual wait. -/
theorem no_mutual_wait {friend : Side → UInt32} {n : Net}
    (reached : Reach Net.step (fun n i => HonestInput i ∧ !n.collides i.2) (Net.start friend) n)
    (quiet : ∀ x, n.wire x = []) : ¬ ∀ x, n.waits x = true := by
  intro waits
  obtain ⟨d, shows, holds⟩ := reach_answered reached
  obtain ⟨phase, mine, here⟩ := shows.waits (waits .a)
  obtain ⟨phase', theirs, there⟩ := shows.waits (waits .b)
  have empty (x : Side) : d.wire x = [] := by simpa [quiet x] using shows.wire x
  have h := holds .a
  have h' := holds .b
  rw [empty, empty] at h h'
  rw [h.quiet h' mine theirs here] at there
  cases there

/-- Both users ask at the same time, and both requests are dropped. -/
theorem crossing_requests_wait : ∃ n, Reach Net.step (fun _ i => HonestInput i)
    (Net.start fun _ => 7) n ∧ (∀ x, n.wire x = [] ∧ n.air x = []) ∧ ∀ x, n.waits x = true := by
  let E := Env.obliging fun _ => some []
  obtain ⟨n, taken, still⟩ := exists_run Net.step (Net.start fun _ => 7)
    [(E, .sendConnectionRequest .a), (E, .sendConnectionRequest .b), (E, .deliver .a),
      (E, .deliver .b)]
    (P := fun n => (∀ x, n.wire x = [] ∧ n.air x = []) ∧ ∀ x, n.waits x = true) (by decide +kernel)
  exact ⟨n, Reach.of_run taken (by simp [E, Move.Framed]), still⟩

/-- A request that was rejected, and one that was asked for again. -/
theorem no_mutual_wait_renewed : ∃ n, Reach Net.step (fun n i => HonestInput i ∧ !n.collides i.2)
    (Net.start fun _ => 7) n ∧ n.waits .a = true ∧ ¬ ∀ x, n.waits x = true := by
  let E := Env.obliging fun _ => some []
  obtain ⟨n, taken, quiet, waits⟩ := exists_run (guarded (fun n i => !n.collides i.2) Net.step)
    (Net.start fun _ => 7)
    [(E, .sendConnectionRequest .a), (E, .deliver .b), (E, .rejectConnection .b),
      (E, .deliver .a), (E, .sendConnectionRequest .a), (E, .deliver .b)]
    (P := fun n => (∀ x, n.wire x = []) ∧ n.waits .a = true) (by decide +kernel)
  have reached := Reach.of_guarded_run (P := HonestInput) taken (by simp [E, Move.Framed])
  exact ⟨n, reached, waits, no_mutual_wait reached quiet⟩

end LibToxTun
