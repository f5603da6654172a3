import LibToxTun.Network.HalfOpen

/-! # Agreement on the addresses

An acceptance of an address carries neither the address nor a session, so what the
two sides agree on follows from what can be on the wires: while one side waits for
the confirmation of a subnet, the other one has the proposal, its answer, or nothing
to do with the session any more. It fails only where an acceptance from before a
request is taken for the answer to it.
-/

namespace LibToxTun

open Foundation

/-- A party that has not accepted anything: without a connection, or just asking. -/
def Away (phase : Option Phase) : Prop := phase = none ∨ phase = some .ownRequestPending

/-- Only requests and goodbyes, and a goodbye among them. -/
def Over (w : List Letter) : Prop :=
  (∀ l ∈ w, l.msg = .request ∨ l.msg.isBye = true) ∧ ∃ l ∈ w, l.msg.isBye = true

/-- What becomes of an acceptance on its way: its sender waits for a proposal, or
has left after it. The last argument is what follows the acceptance. -/
def Accepted (you : Option Phase) (mine after : List Letter) : Prop :=
  mine = [] ∧ ((you = some .expectingIpPacket ∧ after = []) ∨ (Away you ∧ Over after))

/-- The acceptances that come after a number of requests have a property. -/
def EachAccept (k : Nat) (P : List Letter → Prop) : List Letter → Prop
  | [] => True
  | l :: rest => (l.msg = .accept → k ≤ l.heard → P rest) ∧ EachAccept k P rest

/-- While a subnet is proposed: the phase of the other side and the two wires. -/
inductive Negotiates (s : UInt8) : Option Phase → List Letter → List Letter → Prop where
  | proposed {l : Letter} (proposal : l.msg = .proposal s) :
      Negotiates s (some .expectingIpPacket) [l] []
  | declined {l : Letter} (reject : l.msg = .ipReject) :
      Negotiates s (some .expectingIpPacket) [] [l]
  | taken {l : Letter} (accept : l.msg = .ipAccept) :
      Negotiates s (some (.connectedSecond s)) [] [l]
  | leftUnread {you : Option Phase} {l : Letter} {theirs : List Letter} (away : Away you)
      (past : Over theirs) (proposal : l.msg = .proposal s) : Negotiates s you [l] theirs
  | left {you : Option Phase} {theirs : List Letter} (away : Away you) (past : Over theirs) :
      Negotiates s you [] theirs
  | leftAnswered {you : Option Phase} {l : Letter} {theirs : List Letter} (away : Away you)
      (past : Over theirs) (answer : l.msg = .ipReject ∨ l.msg = .ipAccept) :
      Negotiates s you [] (l :: theirs)

/-- After a subnet was confirmed. -/
inductive Settled (s : UInt8) : Option Phase → List Letter → List Letter → Prop where
  | both : Settled s (some (.connectedSecond s)) [] []
  | left {you : Option Phase} {theirs : List Letter} (away : Away you) (past : Over theirs) :
      Settled s you [] theirs

/-- A party that does not answer: away, or on the first side of a session. -/
inductive Leads : Option Phase → Prop where
  | away {phase : Option Phase} (away : Away phase) : Leads phase
  | proposing (s : UInt8) : Leads (some (.expectingIpConfirmation s))
  | connected (s : UInt8) : Leads (some (.connectedFirst s))

/-- What a party may conclude from its own phase. -/
structure Agrees (me you : Party) (mine theirs : List Letter) : Prop
    extends Stamped me you mine theirs where
  asking : me.phase = some .ownRequestPending → ∀ l, mine.getLast? = some l → l.msg = .request
  accepted : me.phase = some .ownRequestPending → EachAccept me.asked (Accepted you.phase mine) theirs
  ringing : me.phase = some .friendsRequestPending → ∀ l ∈ theirs, l.msg.isProposal = false
  expecting : me.phase = some .expectingIpPacket → ∀ l ∈ theirs, l.msg.isProposal = true →
    mine = [] ∧ Leads you.phase
  proposing : ∀ s, me.phase = some (.expectingIpConfirmation s) → Negotiates s you.phase mine theirs
  first : ∀ s, me.phase = some (.connectedFirst s) → Settled s you.phase mine theirs
  second : ∀ s, me.phase = some (.connectedSecond s) →
    (∀ l ∈ mine, l.msg ≠ .request ∧ l.msg ≠ .accept) ∧ Leads you.phase
  head : ∀ l ∈ theirs.tail, l.msg.isProposal = false

/-! ## What is on the wires -/

section
variable {w v out : List Letter} {l : Letter} {k : Nat} {P Q : List Letter → Prop}

theorem Over.append (h : Over w) (only : ∀ l ∈ v, l.msg = .request ∨ l.msg.isBye = true) :
    Over (w ++ v) := by
  obtain ⟨b, hb, bye⟩ := h.2
  refine ⟨fun l hl => ?_, b, List.mem_append_left _ hb, bye⟩
  rcases List.mem_append.mp hl with old | new
  · exact h.1 l old
  · exact only l new

theorem over_bye (bye : l.msg.isBye = true) : Over [l] := by
  refine ⟨fun k hk => ?_, l, List.mem_singleton_self l, bye⟩
  rw [List.mem_singleton.mp hk]
  exact .inr bye

theorem Over.of_cons (h : Over (l :: w)) (request : l.msg = .request) : Over w := by
  obtain ⟨b, hb, bye⟩ := h.2
  refine ⟨fun k hk => h.1 k (List.mem_cons_of_mem _ hk), b, ?_, bye⟩
  rcases List.mem_cons.mp hb with rfl | hb
  · rw [request] at bye
    cases bye
  · exact hb

theorem Over.not_head (h : Over (l :: w)) (other : l.msg ≠ .request) (noBye : l.msg.isBye = false) :
    False := by
  rcases h.1 l List.mem_cons_self with request | bye
  · exact other request
  · rw [noBye] at bye
    cases bye

theorem eachAccept_append : EachAccept k P (w ++ v) ↔
    EachAccept k (fun after => P (after ++ v)) w ∧ EachAccept k P v := by
  induction w with
  | nil => simp [EachAccept]
  | cons l w ih => simp only [List.cons_append, EachAccept, ih, and_assoc]

theorem EachAccept.mono (h : EachAccept k P w) (weaker : ∀ after, P after → Q after) :
    EachAccept k Q w := by
  induction w with
  | nil => exact trivial
  | cons l w ih => exact ⟨fun accept fresh => weaker _ (h.1 accept fresh), ih h.2⟩

theorem eachAccept_of_stale (stale : ∀ l ∈ w, l.heard < k) : EachAccept k P w := by
  induction w with
  | nil => exact trivial
  | cons l w ih =>
      exact ⟨fun _ fresh => (Nat.not_le.mpr (stale l List.mem_cons_self) fresh).elim,
        ih fun m hm => stale m (List.mem_cons_of_mem _ hm)⟩

theorem eachAccept_of_none (none : ∀ l ∈ w, l.msg ≠ .accept) : EachAccept k P w := by
  induction w with
  | nil => exact trivial
  | cons l w ih =>
      exact ⟨fun accept => (none l List.mem_cons_self accept).elim,
        ih fun m hm => none m (List.mem_cons_of_mem _ hm)⟩

end

/-! ## The other side acts -/

section
variable {you next : Party} {mine theirs out : List Letter} {s : UInt8}

theorem Away.act (h : Away you.phase) (act : you.Act next out) :
    Away next.phase ∧ ∀ l ∈ out, l.msg = .request ∨ l.msg.isBye = true := by
  cases act with
  | stay => exact ⟨h, nofun⟩
  | request free => exact ⟨.inr rfl, by simp⟩
  | accept ringing => rcases h with h | h <;> simp [ringing] at h
  | leave kind linked => exact ⟨.inl rfl, by simp [Msg.isBye]⟩
  | refuse free => exact ⟨h, by simp [Msg.isBye]⟩

theorem Leads.act (h : Leads you.phase) (act : you.Act next out) : Leads next.phase := by
  cases act with
  | stay => exact h
  | request free => exact .away (.inr rfl)
  | accept ringing =>
      rw [ringing] at h
      cases h with
      | away away => rcases away with h | h <;> cases h
  | leave kind linked => exact .away (.inl rfl)
  | refuse free => exact h

theorem Party.Act.expecting (act : you.Act next out) (phase : you.phase = some .expectingIpPacket) :
    (next.phase = some .expectingIpPacket ∧ out = []) ∨
      (Away next.phase ∧ Over out) := by
  cases act with
  | stay => exact .inl ⟨phase, rfl⟩
  | leave kind linked => exact .inr ⟨.inl rfl, over_bye rfl⟩
  | request free | accept ringing | refuse free => simp_all

theorem Party.Act.second (act : you.Act next out) (phase : you.phase = some (.connectedSecond s)) :
    (next.phase = some (.connectedSecond s) ∧ out = []) ∨ (Away next.phase ∧ Over out) := by
  cases act with
  | stay => exact .inl ⟨phase, rfl⟩
  | leave kind linked => exact .inr ⟨.inl rfl, over_bye rfl⟩
  | request free | accept ringing | refuse free => simp_all

theorem Accepted.act {after : List Letter} (h : Accepted you.phase mine after)
    (act : you.Act next out) : Accepted next.phase mine (after ++ out) := by
  obtain ⟨quiet, ⟨phase, rfl⟩ | ⟨away, past⟩⟩ := h
  · exact ⟨quiet, act.expecting phase⟩
  · obtain ⟨away', only⟩ := away.act act
    exact ⟨quiet, .inr ⟨away', past.append only⟩⟩

theorem Negotiates.act (h : Negotiates s you.phase mine theirs) (act : you.Act next out) :
    Negotiates s next.phase mine (theirs ++ out) := by
  generalize phase : you.phase = ph at h
  cases h with
  | proposed proposal =>
      rcases act.expecting phase with ⟨same, rfl⟩ | ⟨away, past⟩
      · exact same ▸ .proposed proposal
      · exact .leftUnread away past proposal
  | declined reject =>
      rcases act.expecting phase with ⟨same, rfl⟩ | ⟨away, past⟩
      · exact same ▸ .declined reject
      · exact .leftAnswered away past (.inl reject)
  | taken accept =>
      rcases act.second phase with ⟨same, rfl⟩ | ⟨away, past⟩
      · exact same ▸ .taken accept
      · exact .leftAnswered away past (.inr accept)
  | leftUnread away past proposal =>
      obtain ⟨away', only⟩ := Away.act (phase ▸ away) act
      exact .leftUnread away' (past.append only) proposal
  | left away past =>
      obtain ⟨away', only⟩ := Away.act (phase ▸ away) act
      exact .left away' (past.append only)
  | leftAnswered away past answer =>
      obtain ⟨away', only⟩ := Away.act (phase ▸ away) act
      exact .leftAnswered away' (past.append only) answer

theorem Settled.act (h : Settled s you.phase mine theirs) (act : you.Act next out) :
    Settled s next.phase mine (theirs ++ out) := by
  generalize phase : you.phase = ph at h
  cases h with
  | both =>
      rcases act.second phase with ⟨same, rfl⟩ | ⟨away, past⟩
      · exact same ▸ .both
      · exact .left away past
  | left away past =>
      obtain ⟨away', only⟩ := Away.act (phase ▸ away) act
      exact .left away' (past.append only)

theorem Negotiates.receive {l : Letter} (h : Negotiates s you.phase (l :: mine) theirs)
    (receive : Party.Receive l you next out) : Negotiates s next.phase mine (theirs ++ out) := by
  generalize phase : you.phase = ph at h
  cases h with
  | proposed proposal =>
      cases receive with
      | taken expecting =>
          cases proposal
          exact .taken rfl
      | declined expecting => exact phase ▸ .declined rfl
      | stray other noBye => exact .left (.inl rfl) (over_bye rfl)
      | _ => cases proposal
  | leftUnread away past proposal =>
      cases receive with
      | taken expecting | declined expecting =>
          rw [← phase, expecting] at away
          rcases away with h | h <;> cases h
      | stray other noBye => exact .left (.inl rfl) (past.append (by simp [Msg.isBye]))
      | _ => cases proposal

/-! ## The answer is read -/

theorem Negotiates.answered {you : Option Phase} {l : Letter} (h : Negotiates s you mine (l :: theirs))
    (reject : l.msg = .ipReject) : Accepted you mine theirs := by
  cases h with
  | declined _ => exact ⟨rfl, .inl ⟨rfl, rfl⟩⟩
  | taken accept => rw [reject] at accept; cases accept
  | leftUnread away past proposal =>
      exact (past.not_head (by simp [reject]) (by simp [reject, Msg.isBye])).elim
  | left away past => exact (past.not_head (by simp [reject]) (by simp [reject, Msg.isBye])).elim
  | leftAnswered away past answer => exact ⟨rfl, .inr ⟨away, past⟩⟩

theorem Negotiates.confirmed {you : Option Phase} {l : Letter} (h : Negotiates s you mine (l :: theirs))
    (accept : l.msg = .ipAccept) : Settled s you mine theirs := by
  cases h with
  | declined reject => rw [accept] at reject; cases reject
  | taken _ => exact .both
  | leftUnread away past proposal =>
      exact (past.not_head (by simp [accept]) (by simp [accept, Msg.isBye])).elim
  | left away past => exact (past.not_head (by simp [accept]) (by simp [accept, Msg.isBye])).elim
  | leftAnswered away past answer => exact .left away past

theorem Negotiates.ignored {you : Option Phase} {l : Letter} (h : Negotiates s you mine (l :: theirs))
    (request : l.msg = .request) : Negotiates s you mine theirs := by
  cases h with
  | declined reject => rw [request] at reject; cases reject
  | taken accept => rw [request] at accept; cases accept
  | leftUnread away past proposal => exact .leftUnread away (past.of_cons request) proposal
  | left away past => exact .left away (past.of_cons request)
  | leftAnswered away past answer => rw [request] at answer; rcases answer with h | h <;> cases h

theorem Settled.ignored {you : Option Phase} {l : Letter} (h : Settled s you mine (l :: theirs))
    (request : l.msg = .request) : Settled s you mine theirs := by
  cases h with
  | left away past => exact .left away (past.of_cons request)

theorem Settled.quiet {you : Option Phase} {l : Letter} : ¬ Settled s you (l :: mine) theirs :=
  fun h => by cases h

theorem Accepted.negotiates {you : Option Phase} (h : Accepted you mine theirs) {l : Letter}
    (proposal : l.msg = .proposal s) : Negotiates s you (mine ++ [l]) theirs := by
  obtain ⟨rfl, ⟨rfl, rfl⟩ | ⟨away, past⟩⟩ := h
  · exact .proposed proposal
  · exact .leftUnread away past proposal

end

/-! ## A party acts -/

section
variable {me you next : Party} {mine theirs out : List Letter}

theorem quiet_of_asking {w : List Letter} (asking : ∀ l, w.getLast? = some l → l.msg = .request)
    (none : requests w = 0) : w = [] := by
  by_contra nonempty
  exact (requests_eq_zero w).mp none _ (List.getLast_mem nonempty)
    (asking _ (List.getLast?_eq_some_getLast nonempty))

/-- At most one letter at a time can be a proposal, and it comes first. -/
theorem head_append {w : List Letter} (head : ∀ l ∈ w.tail, l.msg.isProposal = false)
    (new : w ≠ [] → ∀ l ∈ out, l.msg.isProposal = false) (short : out.length ≤ 1) :
    ∀ l ∈ (w ++ out).tail, l.msg.isProposal = false := by
  cases w with
  | nil =>
      intro l hl
      match out, short with
      | [], _ => cases hl
      | [_], _ => cases hl
  | cons k w =>
      intro l hl
      rcases List.mem_append.mp hl with old | added
      · exact head l old
      · exact new (List.cons_ne_nil k w) l added

theorem Party.Act.letters (act : me.Act next out) :
    out.length ≤ 1 ∧ ∀ l ∈ out, l.msg.isProposal = false := by
  cases act <;> simp [Msg.isProposal]

theorem Agrees.act (h : Agrees me you mine theirs) (h' : Agrees you me theirs mine)
    (act : me.Act next out) : Agrees next you (mine ++ out) theirs := by
  have stamped := (h.toStamped.act h'.toStamped act).1
  cases act with
  | stay =>
      simpa using h
  | request free =>
      refine ⟨stamped, fun _ l last => ?_, fun _ => eachAccept_of_stale fun l hl => ?_, nofun, nofun,
        nofun, nofun, nofun, h.head⟩
      · rw [List.getLast?_concat] at last
        cases last
        rfl
      · have past := h'.past l hl
        have counted := h'.counted
        simp only
        omega
  | accept ringing =>
      refine ⟨stamped, nofun, nofun, nofun, fun _ l hl proposal => ?_, nofun, nofun, nofun, h.head⟩
      rw [h.ringing ringing l hl] at proposal
      cases proposal
  | leave kind linked =>
      exact ⟨stamped, nofun, nofun, nofun, nofun, nofun, nofun, nofun, h.head⟩
  | refuse free =>
      refine ⟨stamped, ?_, ?_, ?_, ?_, ?_, ?_, ?_, h.head⟩ <;> simp [free]

theorem Agrees.acted (h : Agrees me you mine theirs) (h' : Agrees you me theirs mine)
    (act : me.Act next out) : Agrees you next theirs (mine ++ out) := by
  obtain ⟨short, plain⟩ := act.letters
  refine ⟨(h.toStamped.act h'.toStamped act).2, h'.asking, fun asks => ?_, fun rings l hl => ?_,
    fun expects l hl proposal => ?_, fun s proposes => (h'.proposing s proposes).act act,
    fun s settled => (h'.first s settled).act act,
    fun s settled => ⟨(h'.second s settled).1, (h'.second s settled).2.act act⟩,
    head_append h'.head (fun _ => plain) short⟩
  · refine eachAccept_append.mpr ⟨(h'.accepted asks).mono fun after acc => acc.act act, ?_⟩
    cases act with
    | accept ringing =>
        refine ⟨fun _ fresh => ⟨quiet_of_asking (h'.asking asks) ?_, .inl ⟨rfl, rfl⟩⟩, trivial⟩
        have counted := h.counted
        simp only [Party.letter_heard] at fresh
        omega
    | stay | request free | leave kind linked | refuse free => exact eachAccept_of_none (by simp)
  · rcases List.mem_append.mp hl with old | new
    · exact h'.ringing rings l old
    · exact plain l new
  · rcases List.mem_append.mp hl with old | new
    · exact ⟨(h'.expecting expects l old proposal).1, (h'.expecting expects l old proposal).2.act act⟩
    · rw [plain l new] at proposal
      cases proposal

/-! ## A party receives -/

/-- Who proposes does so on an acceptance that still stands. -/
theorem Agrees.proposes {letter : Letter} (h : Agrees me you mine (letter :: theirs))
    (ok : letter.msg = .accept → me.phase = some .ownRequestPending → me.asked ≤ letter.heard)
    (receive : Party.Receive letter me next out) :
    (∀ l ∈ out, l.msg.isProposal = false) ∨ (Accepted you.phase mine theirs ∧ Leads next.phase) := by
  cases receive with
  | accepted subnet asking =>
      exact .inr ⟨(h.accepted asking).1 rfl (ok rfl asking), .proposing subnet⟩
  | proposed subnet expecting =>
      exact .inr ⟨(h.proposing _ expecting).answered rfl, .proposing subnet⟩
  | _ => exact .inl (by simp [Msg.isProposal])

theorem Party.Receive.letters {letter : Letter} (receive : Party.Receive letter me next out) :
    out.length ≤ 1 ∧ ∀ l ∈ out, l.msg ≠ .accept := by
  cases receive <;> simp

theorem Agrees.receive {letter : Letter} (h : Agrees me you mine (letter :: theirs))
    (h' : Agrees you me (letter :: theirs) mine)
    (ok : letter.msg = .accept → me.phase = some .ownRequestPending → me.asked ≤ letter.heard)
    (receive : Party.Receive letter me next out) : Agrees next you (mine ++ out) theirs := by
  have stamped := (h.toStamped.receive h'.toStamped receive).1
  have noProposal : ∀ l ∈ theirs, l.msg.isProposal = false := h.head
  have head : ∀ l ∈ theirs.tail, l.msg.isProposal = false :=
    fun l hl => noProposal l (List.mem_of_mem_tail hl)
  have unexpected {P : Prop} : ∀ l ∈ theirs, l.msg.isProposal = true → P := fun l hl proposal => by
    rw [noProposal l hl] at proposal
    cases proposal
  cases receive with
  | ignored linked =>
      rw [List.append_nil] at stamped ⊢
      exact ⟨stamped, h.asking, fun asks => (h.accepted asks).2, fun _ => noProposal,
        fun _ => unexpected, fun s proposes => (h.proposing s proposes).ignored rfl,
        fun s settled => (h.first s settled).ignored rfl, h.second, head⟩
  | ring free => exact ⟨stamped, nofun, nofun, fun _ => noProposal, nofun, nofun, nofun, nofun, head⟩
  | refused free => refine ⟨stamped, ?_, ?_, ?_, ?_, ?_, ?_, ?_, head⟩ <;> simp [free]
  | ended kind | endedBack kind | stray other noBye =>
      exact ⟨stamped, nofun, nofun, nofun, nofun, nofun, nofun, nofun, head⟩
  | accepted subnet asking =>
      have stands := (h.accepted asking).1 rfl (ok rfl asking)
      refine ⟨stamped, nofun, nofun, nofun, nofun, fun s same => ?_, nofun, nofun, head⟩
      cases same
      exact stands.negotiates rfl
  | taken expecting =>
      obtain ⟨rfl, leads⟩ := h.expecting expecting _ List.mem_cons_self rfl
      exact ⟨stamped, nofun, nofun, nofun, nofun, nofun, nofun, fun _ _ => ⟨by simp, leads⟩, head⟩
  | declined expecting =>
      refine ⟨stamped, ?_, ?_, ?_, fun _ => unexpected, ?_, ?_, ?_, head⟩ <;> simp [expecting]
  | confirmed expecting =>
      rw [List.append_nil] at stamped ⊢
      refine ⟨stamped, nofun, nofun, nofun, nofun, nofun, fun s same => ?_, nofun, head⟩
      cases same
      exact (h.proposing _ expecting).confirmed rfl
  | proposed subnet expecting =>
      have stands := (h.proposing _ expecting).answered rfl
      refine ⟨stamped, nofun, nofun, nofun, nofun, fun s same => ?_, nofun, nofun, head⟩
      cases same
      exact stands.negotiates rfl

/-- Who does not answer, and does not receive a request, still does not answer. -/
theorem Leads.receive {letter : Letter} (h : Leads me.phase) (other : letter.msg ≠ .request)
    (receive : Party.Receive letter me next out) : Leads next.phase := by
  cases receive with
  | ignored linked | ring free | refused free => exact (other rfl).elim
  | ended kind | endedBack kind | stray other noBye => exact .away (.inl rfl)
  | accepted subnet asking => exact .proposing subnet
  | taken expecting | declined expecting =>
      rw [expecting] at h
      cases h with
      | away away => rcases away with h | h <;> cases h
  | confirmed expecting => exact .connected _
  | proposed subnet expecting => exact .proposing subnet

theorem Agrees.received {letter : Letter} (h : Agrees me you mine (letter :: theirs))
    (h' : Agrees you me (letter :: theirs) mine)
    (ok : letter.msg = .accept → me.phase = some .ownRequestPending → me.asked ≤ letter.heard)
    (receive : Party.Receive letter me next out) : Agrees you next theirs (mine ++ out) := by
  obtain ⟨short, noAccept⟩ := receive.letters
  have proposes := h.proposes ok receive
  refine ⟨(h.toStamped.receive h'.toStamped receive).2, fun asks l last => ?_, fun asks => ?_,
    fun rings l hl => ?_, fun expects l hl proposal => ?_,
    fun s proposing => (h'.proposing s proposing).receive receive, fun s settled => ?_,
    fun s settled => ?_, head_append h'.head (fun nonempty => ?_) short⟩
  · exact h'.asking asks l (by rw [List.getLast?_cons, last]; rfl)
  · refine eachAccept_append.mpr ⟨(h'.accepted asks).mono fun after acc => ?_,
      eachAccept_of_none noAccept⟩
    cases acc.1
  · rcases List.mem_append.mp hl with old | new
    · exact h'.ringing rings l old
    · rcases proposes with plain | ⟨⟨-, ⟨phase, -⟩ | ⟨away, -⟩⟩, -⟩
      · exact plain l new
      · rw [rings] at phase
        cases phase
      · rw [rings] at away
        rcases away with h | h <;> cases h
  · rcases List.mem_append.mp hl with old | new
    · cases (h'.expecting expects l old proposal).1
    · rcases proposes with plain | ⟨⟨-, ⟨-, quiet⟩ | ⟨away, -⟩⟩, leads⟩
      · rw [plain l new] at proposal
        cases proposal
      · exact ⟨quiet, leads⟩
      · rw [expects] at away
        rcases away with h | h <;> cases h
  · exact ((h'.first s settled).quiet).elim
  · obtain ⟨plain, leads⟩ := h'.second s settled
    exact ⟨fun l hl => plain l (List.mem_cons_of_mem _ hl),
      leads.receive (plain letter List.mem_cons_self).1 receive⟩
  · rcases proposes with plain | ⟨⟨quiet, -⟩, -⟩
    · exact plain
    · exact (nonempty quiet).elim

end

/-! ## The net -/

/-- An acceptance from before the last request is taken for the answer to it. -/
def Net.mistaken (n : Net) (move : Move) : Bool :=
  n.meets (fun p asked c => PacketId.ofByte p.data.header = .connectionAccept &&
    c.state = .ownRequestPending && decide (p.heard < asked)) move

theorem reach_agrees {friend : Side → UInt32} {n : Net}
    (reached : Reach Net.step (fun n i => HonestInput i ∧ !n.mistaken i.2) (Net.start friend) n) :
    ∃ d, n.Abstracts d ∧ d.Holds Agrees := by
  refine Net.reach_holds
    (fun l p => l.msg = .accept → p.phase = some .ownRequestPending → p.asked ≤ l.heard)
    (fun _ _ => And.left) ?guards ?start
    (fun _ _ _ _ _ _ h h' act => ⟨h.act h' act, h.acted h' act⟩)
    (fun _ _ _ _ _ _ _ h h' ok receive => ⟨h.receive h' ok receive, h.received h' ok receive⟩) reached
  case guards =>
    rintro n d E x l rest shows ⟨-, spared⟩ next accept asking
    obtain ⟨c, state, spared⟩ := shows.meets next (by simpa [Net.mistaken] using spared) asking
    have header : PacketId.ofByte Msg.accept.data.header = .connectionAccept := rfl
    simp only [Letter.parcel, accept, header, state.1, decide_true, Bool.true_and] at spared
    exact Nat.not_lt.mp (of_decide_eq_false spared)
  case start =>
    intro x
    constructor
    case toStamped => exact ⟨rfl, List.forall_mem_nil _, List.Pairwise.nil⟩
    all_goals simp [Duplex.start]

/-- A connected side has a subnet, and the last byte says which side it is. -/
theorem Net.Abstracts.address {n : Net} {d : Duplex Party Letter} (h : n.Abstracts d) {x : Side}
    {c : Connection} (linked : n.connection x = some c) (connected : c.state = .connected) :
    (∃ s, (d.party x).phase = some (.connectedFirst s) ∧ c.tun.ip = some (s, 1)) ∨
      ∃ s, (d.party x).phase = some (.connectedSecond s) ∧ c.tun.ip = some (s, 2) := by
  have shown := h.shown x
  rw [linked] at shown
  generalize (d.party x).phase = ph at shown
  cases shown with
  | @some c phase shows _ =>
      cases phase with
      | connectedFirst s => exact .inl ⟨s, rfl, shows.2.2.2⟩
      | connectedSecond s => exact .inr ⟨s, rfl, shows.2.2⟩
      | _ => simp [shows.1] at connected

theorem Agrees.connected {me you : Party} {mine theirs : List Letter} (h : Agrees me you mine theirs)
    {s : UInt8} (leading : me.phase = some (.connectedFirst s)) {t : UInt8}
    (connected : you.phase = some (.connectedFirst t) ∨ you.phase = some (.connectedSecond t)) :
    you.phase = some (.connectedSecond s) := by
  have settled := h.first s leading
  generalize you.phase = ph at settled connected
  cases settled with
  | both => rfl
  | left away past =>
      rcases away with rfl | rfl <;> rcases connected with h | h <;> cases h

theorem Agrees.leads {me you : Party} {mine theirs : List Letter} (h : Agrees me you mine theirs)
    {s t : UInt8} (second : me.phase = some (.connectedSecond s)) :
    you.phase ≠ some (.connectedSecond t) := by
  intro same
  have leads := (h.second s second).2
  rw [same] at leads
  cases leads with
  | away away => rcases away with h | h <;> cases h

/-- As long as no acceptance is taken for the answer to a later request, two connected
endpoints have the addresses 1 and 2 of one subnet. -/
theorem connected_agree {friend : Side → UInt32} {n : Net}
    (reached : Reach Net.step (fun n i => HonestInput i ∧ !n.mistaken i.2) (Net.start friend) n)
    {c : Side → Connection} (linked : ∀ x, n.connection x = some (c x))
    (connected : ∀ x, (c x).state = .connected) :
    ∃ x subnet, (c x).tun.ip = some (subnet, 1) ∧ (c x.other).tun.ip = some (subnet, 2) := by
  obtain ⟨d, shows, holds⟩ := reach_agrees reached
  have answers {x : Side} {s : UInt8} (here : (d.party x).phase = some (.connectedFirst s))
      (ip : (c x).tun.ip = some (s, 1)) :
      ∃ x subnet, (c x).tun.ip = some (subnet, 1) ∧ (c x.other).tun.ip = some (subnet, 2) := by
    rcases shows.address (linked x.other) (connected x.other) with ⟨t, there, ip'⟩ | ⟨t, there, ip'⟩
    · rw [(holds x).connected here (.inl there)] at there
      cases there
    · rw [(holds x).connected here (.inr there)] at there
      cases there
      exact ⟨x, s, ip, ip'⟩
  rcases shows.address (linked .a) (connected .a) with ⟨s, here, ip⟩ | ⟨s, here, ip⟩
  · exact answers here ip
  · rcases shows.address (linked .b) (connected .b) with ⟨t, there, ip'⟩ | ⟨t, there, ip'⟩
    · exact answers there ip'
    · exact ((holds .a).leads here there).elim

/-- Three requests in a row; the answers to the second are taken for those to the
third, and each side sets a subnet the other one has given up. -/
theorem mistaken_acceptance_disagrees : ∃ n, Reach Net.step (fun _ i => HonestInput i)
    (Net.start fun _ => 7) n ∧ n.address .a = some (.connected, some (2, 1)) ∧
      n.address .b = some (.connected, some (1, 2)) := by
  let A := Env.obliging fun _ => some []
  let B := Env.obliging fun _ => some [(192, 168, 0, 1)]
  obtain ⟨n, taken, apart⟩ := exists_run Net.step (Net.start fun _ => 7)
    [(A, .sendConnectionRequest .a), (A, .closeConnection .a),
      (A, .sendConnectionRequest .a), (B, .deliver .b), (B, .acceptConnection .b),
      (B, .closeConnection .b), (B, .deliver .b), (B, .deliver .b), (B, .acceptConnection .b),
      (A, .deliver .a), (A, .deliver .a), (A, .sendConnectionRequest .a), (A, .deliver .a),
      (B, .deliver .b), (B, .deliver .b), (B, .deliver .b), (A, .deliver .a), (B, .deliver .b),
      (A, .deliver .a), (A, .deliver .a)]
    (P := fun n => n.address .a = some (.connected, some (2, 1)) ∧
      n.address .b = some (.connected, some (1, 2))) (by decide +kernel)
  exact ⟨n, Reach.of_run taken (by simp [A, B, Move.Framed]), apart⟩

/-- A request that is closed and renewed before it is answered. -/
theorem connected_agree_renewed : ∃ (n : Net) (c : Side → Connection),
    Reach Net.step (fun n i => HonestInput i ∧ !n.mistaken i.2) (Net.start fun _ => 7) n ∧
      (∀ x, n.connection x = some (c x)) ∧ (∀ x, (c x).state = .connected) ∧
      ∃ x subnet, (c x).tun.ip = some (subnet, 1) ∧ (c x.other).tun.ip = some (subnet, 2) := by
  let A := Env.obliging fun _ => some []
  let B := Env.obliging fun _ => some [(192, 168, 0, 1)]
  obtain ⟨n, taken, both⟩ := exists_run
    (guarded (fun n i => !n.mistaken i.2) Net.step) (Net.start fun _ => 7)
    [(A, .sendConnectionRequest .a), (A, .closeConnection .a), (B, .deliver .b),
      (B, .deliver .b), (A, .sendConnectionRequest .a), (B, .deliver .b), (B, .acceptConnection .b),
      (A, .deliver .a), (B, .deliver .b), (A, .deliver .a), (B, .deliver .b), (A, .deliver .a)]
    (P := fun n => ∀ x, (n.connection x).map Connection.state = some .connected) (by decide +kernel)
  have reached := Reach.of_guarded_run (P := HonestInput) taken (by simp [A, B, Move.Framed])
  have linked (x : Side) : ∃ c, n.connection x = some c ∧ c.state = .connected :=
    Option.map_eq_some_iff.mp (both x)
  choose c linked connected using linked
  exact ⟨n, c, reached, linked, connected, connected_agree reached linked connected⟩

end LibToxTun
