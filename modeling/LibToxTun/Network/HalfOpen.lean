import LibToxTun.Network.Stamps

/-! # No half-open connections

A connection on one side only does not outlive the letters on their way. Requests
and goodbyes of an endpoint alternate on the wire; a party that has asked is met by
a connection or by a goodbye sent after its last request. It fails only where a
goodbye from before that request ends the connection.
-/

namespace LibToxTun

open Foundation

/-- Whether there is a connection, and whether it was requested from this side. -/
def Party.role (p : Party) : Option Bool := p.phase.map Phase.initiated

/-- Every request is followed by a goodbye, or it is the last one and still pending. -/
def EachRequest (pending : Bool) : List Letter → Prop
  | [] => True
  | l :: rest => (l.msg = .request → (∃ b ∈ rest, b.msg.isBye = true) ∨
      (pending = true ∧ requests rest = 0)) ∧ EachRequest pending rest

/-- Every goodbye is followed by a request. -/
def EachBye : List Letter → Prop
  | [] => True
  | l :: rest => (l.msg.isBye = true → requests rest ≠ 0) ∧ EachBye rest

/-- Neither requests nor goodbyes. -/
def Plain (w : List Letter) : Prop := ∀ l ∈ w, l.msg ≠ .request ∧ l.msg.isBye = false

/-- A goodbye sent after a number of requests were received. -/
def FreshBye (k : Nat) (w : List Letter) : Prop := ∃ l ∈ w, l.msg.isBye = true ∧ k ≤ l.heard

section
variable {pending : Bool} {w v : List Letter} {l : Letter}

theorem Plain.requests (h : Plain v) : requests v = 0 :=
  (requests_eq_zero v).mpr fun l hl => (h l hl).1

theorem eachRequest_of_none (h : requests w = 0) : EachRequest pending w := by
  induction w with
  | nil => exact trivial
  | cons l w ih =>
      rw [requests_cons] at h
      split at h
      · omega
      · next other => exact ⟨fun request => (other request).elim, ih h⟩

theorem EachRequest.plain (h : EachRequest pending w) (plain : Plain v) :
    EachRequest pending (w ++ v) := by
  induction w with
  | nil => exact eachRequest_of_none plain.requests
  | cons l w ih =>
      refine ⟨fun request => ?_, ih h.2⟩
      rcases h.1 request with ⟨b, hb, bye⟩ | ⟨pends, none⟩
      · exact .inl ⟨b, List.mem_append_left _ hb, bye⟩
      · exact .inr ⟨pends, (requests_append w v).trans (by rw [none, plain.requests])⟩

theorem eachRequest_bye (bye : l.msg.isBye = true) : EachRequest pending (w ++ [l]) := by
  induction w with
  | nil => exact ⟨fun request => by simp [request, Msg.isBye] at bye, trivial⟩
  | cons k w ih => exact ⟨fun _ => .inl ⟨l, by simp, bye⟩, ih⟩

theorem EachRequest.request (h : EachRequest false w) : EachRequest true (w ++ [l]) := by
  induction w with
  | nil => exact ⟨fun _ => .inr ⟨rfl, rfl⟩, trivial⟩
  | cons k w ih =>
      refine ⟨fun request => ?_, ih h.2⟩
      rcases h.1 request with ⟨b, hb, bye⟩ | ⟨pends, -⟩
      · exact .inl ⟨b, List.mem_append_left _ hb, bye⟩
      · cases pends

theorem EachBye.plain (h : EachBye w) (plain : Plain v) : EachBye (w ++ v) := by
  induction w with
  | nil =>
      induction v with
      | nil => exact trivial
      | cons l v ih =>
          refine ⟨fun bye => ?_, ih fun k hk => plain k (List.mem_cons_of_mem _ hk)⟩
          rw [(plain l List.mem_cons_self).2] at bye
          cases bye
  | cons l w ih =>
      refine ⟨fun bye none => h.1 bye ?_, ih h.2⟩
      exact Nat.eq_zero_of_add_eq_zero_right ((requests_append w v).symm.trans none)

theorem eachBye_request (request : l.msg = .request) : EachBye (w ++ [l]) := by
  induction w with
  | nil => exact ⟨fun bye => by simp [request, Msg.isBye] at bye, trivial⟩
  | cons k w ih => exact ⟨fun _ => by simp [request], ih⟩

theorem Plain.not_bye (h : Plain v) : ¬ ∃ b ∈ v, b.msg.isBye = true := by
  rintro ⟨b, hb, bye⟩
  rw [(h b hb).2] at bye
  cases bye

theorem freshBye_plain (plain : Plain v) {k : Nat} : FreshBye k (w ++ v) ↔ FreshBye k w := by
  constructor
  · rintro ⟨l, hl, bye, fresh⟩
    rcases List.mem_append.mp hl with old | new
    · exact ⟨l, old, bye, fresh⟩
    · exact (plain.not_bye ⟨l, new, bye⟩).elim
  · rintro ⟨l, hl, bye, fresh⟩
    exact ⟨l, List.mem_append_left _ hl, bye, fresh⟩

end

/-! ## What a party does to its role -/

section
variable {me next : Party} {out : List Letter}

/-- A party keeps its role, or asks, or says goodbye. -/
theorem Party.Act.role_cases (h : me.Act next out) :
    (next.role = me.role ∧ Plain out ∧ next.asked = me.asked) ∨
    (me.role = none ∧ next.role = some true ∧ ∃ l, out = [l] ∧ l.msg = .request) ∨
    (next.role = none ∧ ∃ l, out = [l] ∧ l.msg.isBye = true ∧ l.heard = me.heard) := by
  cases h with
  | stay => exact .inl ⟨rfl, nofun, rfl⟩
  | accept ringing =>
      refine .inl ⟨by simp [role, ringing, Phase.initiated], ?_, rfl⟩
      simp [Plain, Msg.isBye]
  | request free => exact .inr (.inl ⟨by simp [role, free], rfl, _, rfl, rfl⟩)
  | leave kind linked => exact .inr (.inr ⟨rfl, _, rfl, rfl, rfl⟩)
  | refuse free => exact .inr (.inr ⟨by simp [role, free], _, rfl, rfl, rfl⟩)

/-- A letter leaves the role as it is, or a request makes a connection, or a goodbye
ends it without a word, or it ends with a goodbye. -/
theorem Party.Receive.role_cases {letter : Letter} (h : Party.Receive letter me next out) :
    (next.role = me.role ∧ Plain out ∧ letter.msg.isBye = false ∧
      (letter.msg = .request → me.role ≠ none)) ∨
    (letter.msg = .request ∧ me.role = none ∧ next.role = some false ∧ out = []) ∨
    (letter.msg.isBye = true ∧ next.role = none ∧ out = []) ∨
    (next.role = none ∧ ∃ l, out = [l] ∧ l.msg.isBye = true ∧ l.heard = next.heard) := by
  cases h with
  | ignored linked => exact .inl ⟨rfl, nofun, rfl, fun _ => by simpa [role] using linked⟩
  | ring free => exact .inr (.inl ⟨rfl, by simp [role, free], rfl, rfl⟩)
  | refused free => exact .inr (.inr (.inr ⟨by simp [role, free], _, rfl, rfl, rfl⟩))
  | ended kind => exact .inr (.inr (.inl ⟨rfl, rfl, rfl⟩))
  | endedBack kind => exact .inr (.inr (.inr ⟨rfl, _, rfl, rfl, rfl⟩))
  | stray other noBye => exact .inr (.inr (.inr ⟨rfl, _, rfl, rfl, rfl⟩))
  | accepted subnet asking =>
      exact .inl ⟨by simp [role, asking, Phase.initiated], by simp [Plain, Msg.isBye], rfl, nofun⟩
  | taken expecting =>
      exact .inl ⟨by simp [role, expecting, Phase.initiated], by simp [Plain, Msg.isBye], rfl, nofun⟩
  | declined expecting => exact .inl ⟨rfl, by simp [Plain, Msg.isBye], rfl, nofun⟩
  | confirmed expecting =>
      exact .inl ⟨by simp [role, expecting, Phase.initiated], nofun, rfl, nofun⟩
  | proposed subnet expecting =>
      exact .inl ⟨by simp [role, expecting, Phase.initiated], by simp [Plain, Msg.isBye], rfl, nofun⟩

end

/-! ## The invariant -/

/-- What a party knows of the other one from what was sent. -/
structure Paired (me you : Party) (mine theirs : List Letter) : Prop
    extends Stamped me you mine theirs where
  request : EachRequest (you.role = some true) theirs
  bye : you.role = some true → EachBye theirs
  met : you.role = some true → requests theirs = 0 → me.role ≠ none ∨ FreshBye you.asked mine
  joined : me.role = some false → (∃ b ∈ theirs, b.msg.isBye = true) ∨
    (you.role = some true ∧ requests theirs = 0 ∧ ¬ FreshBye you.asked mine)

section
variable {me you next : Party} {mine theirs out : List Letter}

theorem Paired.act (h : Paired me you mine theirs) (h' : Paired you me theirs mine)
    (act : me.Act next out) :
    Paired next you (mine ++ out) theirs ∧ Paired you next theirs (mine ++ out) := by
  obtain ⟨stamped, stamped'⟩ := h.toStamped.act h'.toStamped act
  rcases act.role_cases with ⟨role, plain, asked⟩ | ⟨free, asks, l, rfl, request⟩ |
    ⟨gone, l, rfl, bye, heard⟩
  · refine ⟨⟨stamped, h.request, h.bye, ?_, ?_⟩, ⟨stamped', ?_, ?_, ?_, ?_⟩⟩
    · rw [role, freshBye_plain plain]
      exact h.met
    · rw [role, freshBye_plain plain]
      exact h.joined
    · rw [role]
      exact h'.request.plain plain
    · rw [role]
      exact fun asks => (h'.bye asks).plain plain
    · rw [role, asked, requests_append, plain.requests]
      exact h'.met
    · intro joined
      rw [role, asked, requests_append, plain.requests]
      rcases h'.joined joined with ⟨b, hb, bye⟩ | pending
      · exact .inl ⟨b, List.mem_append_left _ hb, bye⟩
      · exact .inr pending
  · have ended : EachRequest false mine := by simpa [free] using h'.request
    refine ⟨⟨stamped, h.request, h.bye, fun _ _ => .inl (by simp [asks]), by simp [asks]⟩,
      ⟨stamped', ?_, fun _ => eachBye_request request, by simp [request], fun joined => ?_⟩⟩
    · simpa [asks] using ended.request
    · rcases h'.joined joined with ⟨b, hb, bye⟩ | ⟨asked, -⟩
      · exact .inl ⟨b, List.mem_append_left _ hb, bye⟩
      · rw [free] at asked
        cases asked
  · refine ⟨⟨stamped, h.request, h.bye, fun _ none => .inr ⟨l, by simp, bye, ?_⟩, by simp [gone]⟩,
      ⟨stamped', eachRequest_bye bye, by simp [gone], by simp [gone], fun _ => .inl ⟨l, by simp, bye⟩⟩⟩
    have counted := h.counted
    omega

/-- A goodbye may end a connection its receiver asked for only when its sender had
received the request. -/
theorem Paired.receive {letter : Letter} (h : Paired me you mine (letter :: theirs))
    (h' : Paired you me (letter :: theirs) mine)
    (ok : letter.msg.isBye = true → me.role = some true → me.asked ≤ letter.heard)
    (receive : Party.Receive letter me next out) :
    Paired next you (mine ++ out) theirs ∧ Paired you next theirs (mine ++ out) := by
  obtain ⟨stamped, stamped'⟩ := h.toStamped.receive h'.toStamped receive
  obtain ⟨-, asked, -, -⟩ := receive.counters
  have counted := h.counted
  have counted' := h'.counted
  rw [requests_cons] at counted
  rcases receive.role_cases with ⟨role, plain, noBye, known⟩ | ⟨request, free, joins, rfl⟩ |
    ⟨bye, gone, rfl⟩ | ⟨gone, l, rfl, bye, heard⟩
  · refine ⟨⟨stamped, h.request.2, fun asks => (h.bye asks).2, fun asks none => ?_, fun joined => ?_⟩,
      ⟨stamped', ?_, ?_, fun asks none => ?_, fun joined => ?_⟩⟩
    · rw [role, freshBye_plain plain]
      by_cases request : letter.msg = .request
      · exact .inl (known request)
      · exact h.met asks (by simpa [request] using none)
    · rw [freshBye_plain plain]
      rw [role] at joined
      rcases h.joined joined with ⟨b, hb, bye⟩ | ⟨asks, none, stale⟩
      · rcases List.mem_cons.mp hb with rfl | hb
        · rw [noBye] at bye
          cases bye
        · exact .inl ⟨b, hb, bye⟩
      · exact .inr ⟨asks, by rw [requests_cons] at none; omega, stale⟩
    · rw [role]
      exact h'.request.plain plain
    · rw [role]
      exact fun asks => (h'.bye asks).plain plain
    · rw [role] at asks
      rw [requests_append, plain.requests] at none
      rcases h'.met asks none with linked | ⟨b, hb, bye, fresh⟩
      · exact .inl linked
      · rcases List.mem_cons.mp hb with rfl | hb
        · rw [noBye] at bye
          cases bye
        · exact .inr ⟨b, hb, bye, asked ▸ fresh⟩
    · rw [role, asked, requests_append, plain.requests]
      rcases h'.joined joined with ⟨b, hb, bye⟩ | ⟨asks, none, stale⟩
      · exact .inl ⟨b, List.mem_append_left _ hb, bye⟩
      · refine .inr ⟨asks, none, fun ⟨b, hb, fresh⟩ => stale ⟨b, List.mem_cons_of_mem _ hb, fresh⟩⟩
  · simp only [List.append_nil] at stamped stamped' ⊢
    refine ⟨⟨stamped, h.request.2, fun asks => (h.bye asks).2, fun _ _ => .inl (by simp [joins]),
      fun _ => ?_⟩, ⟨stamped', ?_, by simp [joins], by simp [joins], fun joined => ?_⟩⟩
    · rcases h.request.1 request with bye | ⟨asks, none⟩
      · exact .inl bye
      · refine .inr ⟨by simpa using asks, none, fun ⟨b, hb, _, fresh⟩ => ?_⟩
        have past := h.past b hb
        rw [if_pos request] at counted
        omega
    · simpa [free, joins] using h'.request
    · rcases h'.joined joined with bye | ⟨asks, -⟩
      · exact .inl bye
      · rw [free] at asks
        cases asks
  · simp only [List.append_nil] at stamped stamped' ⊢
    refine ⟨⟨stamped, h.request.2, fun asks => (h.bye asks).2, fun asks none => ?_, by simp [gone]⟩,
      ⟨stamped', ?_, by simp [gone], by simp [gone], fun joined => ?_⟩⟩
    · exact ((h.bye asks).1 bye none).elim
    · by_cases asks : me.role = some true
      · have fresh := ok bye asks
        have past := h'.past letter List.mem_cons_self
        exact eachRequest_of_none (by omega)
      · simpa [gone, asks] using h'.request
    · rcases h'.joined joined with bye' | ⟨asks, none, stale⟩
      · exact .inl bye'
      · exact (stale ⟨letter, List.mem_cons_self, bye, ok bye asks⟩).elim
  · refine ⟨⟨stamped, h.request.2, fun asks => (h.bye asks).2,
      fun _ none => .inr ⟨l, by simp, bye, ?_⟩, by simp [gone]⟩,
      ⟨stamped', eachRequest_bye bye, by simp [gone], by simp [gone], fun _ => .inl ⟨l, by simp, bye⟩⟩⟩
    have counted := stamped.counted
    omega

/-- With nothing on its way, a connection is met by a connection. -/
theorem Paired.quiet (h : Paired me you [] []) (h' : Paired you me [] []) (linked : me.role ≠ none) :
    you.role ≠ none := by
  cases role : me.role with
  | none => exact (linked role).elim
  | some initiated =>
      cases initiated with
      | true =>
          rcases h'.met role rfl with there | ⟨l, hl, -⟩
          · exact there
          · cases hl
      | false =>
          rcases h.joined role with ⟨l, hl, -⟩ | ⟨asks, -⟩
          · cases hl
          · rw [asks]
            nofun

end

/-! ## The net -/

/-- A packet that tells that there is no connection any more. -/
def Data.isBye (d : Data) : Bool :=
  match PacketId.ofByte d.header with
  | .connectionReject => true
  | .connectionClose => true
  | .connectionReset => true
  | _ => false

/-- The connection was requested from this side: it waits for the answer, or the
search for a subnet has begun. -/
def Connection.initiated (c : Connection) : Bool := c.state = .ownRequestPending || c.subnet ≠ -1

/-- A goodbye from before the last request ends the connection it was to make. -/
def Net.belated (n : Net) (move : Move) : Bool :=
  n.meets (fun p asked c => p.data.isBye && c.initiated && decide (p.heard < asked)) move

@[simp] theorem Msg.data_isBye (m : Msg) : m.data.isBye = m.isBye := by
  cases m with
  | bye kind => cases kind <;> rfl
  | _ => rfl

theorem Connection.Shows.initiated {c : Connection} {phase : Phase} (h : c.Shows phase) :
    c.initiated = phase.initiated := by
  cases phase with
  | ownRequestPending | friendsRequestPending | expectingIpPacket | connectedSecond subnet =>
      simp [Connection.initiated, Phase.initiated, h.1, h.2]
  | expectingIpConfirmation subnet | connectedFirst subnet =>
      have counted : c.subnet ≠ -1 := by have := h.2.1; omega
      simp [Connection.initiated, Phase.initiated, counted]

theorem reach_paired {friend : Side → UInt32} {n : Net}
    (reached : Reach Net.step (fun n i => HonestInput i ∧ !n.belated i.2) (Net.start friend) n) :
    ∃ d, n.Abstracts d ∧ d.Holds Paired := by
  refine Net.reach_holds
    (fun l p => l.msg.isBye = true → p.role = some true → p.asked ≤ l.heard)
    (fun _ _ => And.left) ?guards ?start (fun _ _ _ _ _ _ h h' => h.act h')
    (fun _ _ _ _ _ _ _ h h' => h.receive h') reached
  case guards =>
    rintro n d E x l rest shows ⟨-, spared⟩ next bye asks
    obtain ⟨phase, linked, initiated⟩ := Option.map_eq_some_iff.mp asks
    obtain ⟨c, state, spared⟩ := shows.meets next (by simpa [Net.belated] using spared) linked
    simp only [Letter.parcel, Msg.data_isBye, bye, state.initiated, initiated, Bool.and_self,
      Bool.true_and] at spared
    exact Nat.not_lt.mp (of_decide_eq_false spared)
  case start =>
    refine fun x => ⟨⟨rfl, List.forall_mem_nil _, List.Pairwise.nil⟩, trivial, fun _ => trivial, ?_, ?_⟩ <;>
      simp [Duplex.start, Party.role]

theorem Party.role_ne_none {p : Party} : p.role ≠ none ↔ p.phase ≠ none := by
  simp [Party.role]

/-- As long as no goodbye from before a request meets the connection it was to make, no
connection is left on one side only. -/
theorem no_half_open {friend : Side → UInt32} {n : Net}
    (reached : Reach Net.step (fun n i => HonestInput i ∧ !n.belated i.2) (Net.start friend) n)
    (quiet : ∀ x, n.wire x = []) : (n.connection .a).isSome = (n.connection .b).isSome := by
  obtain ⟨d, shows, holds⟩ := reach_paired reached
  have empty (x : Side) : d.wire x = [] := by simpa [quiet x] using shows.wire x
  have meets (x : Side) (linked : (n.connection x).isSome = true) :
      (n.connection x.other).isSome = true := by
    have h := holds x
    have h' := holds x.other
    rw [Side.other_other] at h'
    rw [empty, empty] at h h'
    rw [shows.isSome_iff, ← Party.role_ne_none] at linked ⊢
    exact h.quiet h' linked
  exact Bool.eq_iff_iff.mpr ⟨meets .a, meets .b⟩

/-- A request is closed and renewed; the rejection of the first one ends the second. -/
theorem belated_rejection_half_open : ∃ n, Reach Net.step (fun _ i => HonestInput i)
    (Net.start fun _ => 7) n ∧ (∀ x, n.wire x = [] ∧ n.air x = []) ∧
      (n.connection .a).isSome = false ∧ (n.connection .b).isSome = true := by
  let E := Env.obliging fun _ => some []
  obtain ⟨n, taken, still⟩ := exists_run Net.step (Net.start fun _ => 7)
    [(E, .sendConnectionRequest .a), (E, .closeConnection .a),
      (E, .sendConnectionRequest .a), (E, .deliver .b), (E, .rejectConnection .b), (E, .deliver .b),
      (E, .deliver .b), (E, .deliver .a)]
    (P := fun n => (∀ x, n.wire x = [] ∧ n.air x = []) ∧ (n.connection .a).isSome = false ∧
      (n.connection .b).isSome = true) (by decide +kernel)
  exact ⟨n, Reach.of_run taken (by simp [E, Move.Framed]), still⟩

/-- A request that is closed and renewed. -/
theorem no_half_open_renewed : ∃ n, Reach Net.step (fun n i => HonestInput i ∧ !n.belated i.2)
    (Net.start fun _ => 7) n ∧ (n.connection .a).isSome = true ∧
      (n.connection .a).isSome = (n.connection .b).isSome := by
  let E := Env.obliging fun _ => some []
  obtain ⟨n, taken, quiet, linked⟩ := exists_run
    (guarded (fun n i => !n.belated i.2) Net.step) (Net.start fun _ => 7)
    [(E, .sendConnectionRequest .a), (E, .deliver .b), (E, .closeConnection .a),
      (E, .deliver .b), (E, .sendConnectionRequest .a), (E, .deliver .b)]
    (P := fun n => (∀ x, n.wire x = []) ∧ (n.connection .a).isSome = true) (by decide +kernel)
  have reached := Reach.of_guarded_run (P := HonestInput) taken (by simp [E, Move.Framed])
  exact ⟨n, reached, linked, no_half_open reached quiet⟩

end LibToxTun
