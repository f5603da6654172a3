import LibToxTun.Core.Steps

/-! # Consent

An address is set and a connection comes up in two places only: at the confirmation of
an own proposal, and at a proposal whose subnet is unused. The states that lead there
are entered after a request or an acceptance of the user, whatever the friend sends.
-/

namespace LibToxTun

open Foundation Foundation.Action

/-- How a packet sets up a connection, with the bytes of the address. -/
inductive Route (E : Env) (c : Connection) (d : Data) : UInt8 → UInt8 → Prop where
  | confirmed (header : PacketId.ofByte d.header = .ipAccept)
      (expecting : c.state = .expectingIpConfirmation) : Route E c d (UInt8.ofInt c.subnet) 1
  | accepted (header : PacketId.ofByte d.header = .ipProposal)
      (expecting : c.state = .expectingIpPacket) {subnet ipPostfix : UInt8}
      (bytes : proposalBytes d = .ok (subnet, ipPostfix))
      (unused : E.unusedAt 0 subnet = true) : Route E c d subnet ipPostfix

/-- The packet an operation brings a connection sets it up as an effect shows. -/
def SetUpBy (E : Env) (core : ToxTunCore) (op : Op) (f : UInt32) (e : Effect) : Prop :=
  ∃ dataRaw c d joins fs, op = .receive f dataRaw ∧ core.connections f = some c ∧
    c.fragments.arrival (Data.fromToxData dataRaw) = .packet d joins fs ∧ d.toxHeaderSet = true ∧
    ∃ subnet ipPostfix, Route E c d subnet ipPostfix ∧
      ∀ g s p, e = .ipSet g s p → s = subnet ∧ p = ipPostfix

theorem unwound_concerns {P : UInt32 → Effect → Prop} (ordinary : Ordinary P) (fr : Frame)
    (joins : Nat) : fr.Concerns P (fr.unwound joins) := by
  induction joins with
  | zero => exact Std.Refl.refl fr
  | succ joins ih =>
      rw [Frame.unwound, Function.iterate_succ_apply']
      have first := touch_concerns ordinary (fr.unwound joins) .connectedFriend
      have second := touch_concerns ordinary ((fr.unwound joins).touch .connectedFriend) .fragments
      exact IsTrans.trans (r := Frame.Concerns P) _ _ _ ih
        (IsTrans.trans (r := Frame.Concerns P) _ _ _ first second)

section
variable {E : Env} (passive : E.Passive)
include passive

/-- The packet that arrives sets a connection up on one of the two routes only. -/
theorem dispatch_concerns {P : UInt32 → Effect → Prop} (ordinary : Ordinary P)
    (writes : ∀ f s d, P f (.tunWrite f s d)) {c : Connection} {d : Data} {fr : Frame}
    (self : fr.self.state = c.state ∧ fr.self.subnet = c.subnet) (clock : fr.world.clock = 0)
    (header : d.getToxHeader = .ok (PacketId.ofByte d.header))
    (whole : PacketId.ofByte d.header ≠ .fragment)
    (sets : ∀ subnet ipPostfix, Route E c d subnet ipPostfix →
      ∀ f, P f (.ipSet f subnet ipPostfix) ∧ P f (.entered f .connected)) :
    Frame.Concerns P fr (handleDataFuel E 1 d fr).state := by
  have carries := carriesErasure_concerns ordinary passive
  have setIp (subnet ipPostfix : UInt8) (route : Route E c d subnet ipPostfix) :=
    setIp_concerns ordinary passive (fun f => (sets subnet ipPostfix route f).1)
      fun f => (sets subnet ipPostfix route f).2
  refine carries.handleDataFuel_succ ⟨?_, ?_, ?_, ?_⟩
  · intro proposal expecting subnet ipPostfix bytes unused
    rw [header] at proposal
    cases id : PacketId.ofByte d.header with
    | ipProposal =>
        rw [self.1] at expecting
        rw [clock] at unused
        exact setIp subnet ipPostfix (.accepted id expecting bytes unused)
    | _ =>
        rw [id] at proposal
        cases proposal
  · intro confirmation expecting
    rw [header] at confirmation
    rw [self.2]
    cases id : PacketId.ofByte d.header with
    | ipAccept =>
        rw [self.1] at expecting
        exact setIp _ 1 (.confirmed id expecting)
    | _ =>
        rw [id] at confirmation
        cases confirmation
  · intro _
    refine carries.sendToTun (fun fr d => ?_) d
    have start : Frame.Concerns P fr fr := Std.Refl.refl fr
    exact start.log (writes fr.connectedFriend fr.self.state d)
  · intro fragment
    rw [header, Except.ok.injEq] at fragment
    exact (whole fragment).elim

/-- Whatever sets a connection up is the handling of a packet on one of the routes. -/
theorem setUp_route {core : ToxTunCore} {op : Op} {e : Effect}
    (he : e ∈ (step core (E, op)).effects) (up : e.setsUp = true) :
    SetUpBy E core op e.friend e := by
  cases friend : op.friend with
  | none =>
      cases op with
      | setCallback callback => cases he
      | _ => cases friend
  | some f =>
      have about := effects_friend passive core friend e he
      rw [about]
      let P (g : UInt32) (e : Effect) : Prop := e.setsUp = true → SetUpBy E core op f e
      have ordinary : Ordinary P := by
        intro e other _ up
        rw [other] at up
        cases up
      have carries := carriesErasure_concerns ordinary passive
      have emits : Emits (P f) ⟨core, 0, []⟩ (exec E op ⟨core, 0, []⟩).state := by
        refine carries.exec friend fun dataRaw c received found => ?_
        let fr := Frame.enter f c ⟨core, 0, []⟩
        have arrived := handleData_arrival E (show fr.alive = true from rfl)
          (Data.fromToxData_toxHeaderSet dataRaw)
        have stored (fs : Fragments) : fr.Concerns P (fr.withFragments fs) := .of_same rfl rfl
        change (c.fragments.arrival (Data.fromToxData dataRaw)).outcome E fr _ at arrived
        change fr.Concerns P (handleData E (Data.fromToxData dataRaw) fr).state
        cases arrival : c.fragments.arrival (Data.fromToxData dataRaw) with
        | packet d joins fs =>
            rw [arrival] at arrived
            obtain ⟨set, whole⟩ := Fragments.arrive_packet (Data.fromToxData_toxHeaderSet dataRaw) arrival
            have handled : Frame.Concerns P (fr.withFragments fs)
                (handleDataFuel E 1 d (fr.withFragments fs)).state :=
              dispatch_concerns passive ordinary (c := c) (fun f s d up => by cases up) ⟨rfl, rfl⟩ rfl
                (Data.getToxHeader_of_set set) whole fun subnet ipPostfix route g =>
                ⟨fun _ => ⟨dataRaw, c, d, joins, fs, received, found, arrival, set, subnet, ipPostfix,
                  route, fun g s p same => by cases same; exact ⟨rfl, rfl⟩⟩,
                fun _ => ⟨dataRaw, c, d, joins, fs, received, found, arrival, set, subnet, ipPostfix,
                  route, fun g s p same => by cases same⟩⟩
            have dispatched := IsTrans.trans (r := Frame.Concerns P) _ _ _ (stored fs) handled
            have unwinds : Respects (Frame.Concerns P)
                (modify fun fr => fr.unwound joins : Code Frame Unit) :=
              fun fr => unwound_concerns ordinary fr joins
            rw [show handleData E (Data.fromToxData dataRaw) fr = _ from arrived]
            exact IsTrans.trans (r := Frame.Concerns P) _ _ _ dispatched (unwinds.andThen _)
        | kept fs =>
            rw [arrival] at arrived
            rw [show handleData E (Data.fromToxData dataRaw) fr = _ from arrived]
            exact stored fs
        | corrupted =>
            rw [arrival] at arrived
            obtain ⟨fs, ended⟩ := arrived
            rw [ended]
            exact stored fs
        | unfinished => exact (Fragments.arrival_finishes _ _ arrival).elim
      exact emits.forall_mem rfl e he up

end

/-! ## How a connection comes to its state -/

/-- The proposals among packets. -/
def proposalsIn (packets : List Data) : List Data :=
  packets.filter fun d => decide (PacketId.ofByte d.header = .ipProposal)

/-- The proposals that tox took for a friend. -/
def Transition.proposals (f : UInt32) (t : Transition) : List Data :=
  proposalsIn (t.effects.filterMap (Effect.packetTo f))

/-- How a reply comes to a connection, as far as its state and its proposals go. -/
inductive Grows (entry : Option Connection) (call : Call) (packets : List Data) (c : Connection) :
    Prop where
  | requested (absent : entry = none) (own : call = .sendConnectionRequest)
      (state : c.state = .ownRequestPending)
  | rung (absent : entry = none) (state : c.state = .friendsRequestPending)
  | up (present : entry ≠ none) (state : c.state = .connected)
  | kept {c' : Connection} (present : entry = some c') (state : c.state = c'.state)
      (subnet : c.subnet = c'.subnet) (silent : proposalsIn packets = [])
  | accepted (present : entry ≠ none) (own : call = .acceptConnection)
      (state : c.state = .expectingIpPacket)
  | proposed {c' : Connection} (present : entry = some c')
      (before : c'.state = .ownRequestPending ∨ c'.state = .expectingIpConfirmation)
      (state : c.state = .expectingIpConfirmation)
      (proposal : proposalsIn packets = [Data.fromIpPostfix (UInt8.ofInt c.subnet) 2])

section
variable {E : Env} {c c' : Connection} {call : Call}

theorem propose_grows {c'' : Connection} (expecting : c.state = .expectingIpConfirmation)
    (before : c''.state = .ownRequestPending ∨ c''.state = .expectingIpConfirmation)
    (kept : (E.propose c).connection = some c') :
    Grows (some c'') call (E.propose c).packets c' := by
  obtain ⟨⟨subnet, clock, found⟩, search⟩ := search_total E c.subnet 0
  simp only [Env.propose, search] at kept ⊢
  cases found with
  | false => cases kept
  | true =>
      dsimp only at kept ⊢
      split at kept
      · next sends =>
          cases kept
          rw [if_pos sends]
          exact .proposed rfl before expecting rfl
      · cases kept

theorem consider_grows {c'' : Connection} {subnet ipPostfix : UInt8} (state : c.state = c''.state)
    (same : c.subnet = c''.subnet) (kept : (E.consider c subnet ipPostfix).connection = some c') :
    Grows (some c'') call (E.consider c subnet ipPostfix).packets c' := by
  unfold Env.consider at kept ⊢
  split at kept
  · next unused =>
      rw [if_pos unused]
      split at kept
      · cases kept
        exact .up (by simp) rfl
      · cases kept
  · next used =>
      rw [if_neg used]
      split at kept
      · next sends =>
          cases kept
          rw [if_pos sends]
          exact .kept rfl state same rfl
      · cases kept

theorem respond_grows (fs : Fragments) {d : Data}
    (kept : (E.respond { c with fragments := fs } d).connection = some c') :
    Grows (some c) call (E.respond { c with fragments := fs } d).packets c' := by
  have same {ps : List Data} (silent : proposalsIn ps = [])
      (stays : some { c with fragments := fs } = some c') : Grows (some c) call ps c' := by
    cases stays
    exact .kept rfl rfl rfl silent
  simp only [Env.respond] at kept ⊢
  cases header : PacketId.ofByte d.header with
  | connectionRequest =>
      rw [header] at kept
      exact same rfl kept
  | connectionAccept =>
      rw [header] at kept
      dsimp only at kept ⊢
      split at kept
      · next own =>
          rw [if_pos own]
          exact propose_grows rfl (.inl own) kept
      · cases kept
  | connectionReject | connectionClose =>
      rw [header] at kept
      dsimp only at kept
      split at kept <;> cases kept
  | connectionReset =>
      rw [header] at kept
      cases kept
  | ipProposal =>
      rw [header] at kept
      dsimp only at kept ⊢
      split at kept
      · next expecting =>
          rw [if_pos expecting]
          cases bytes : proposalBytes d with
          | error e =>
              rw [bytes] at kept
              exact same rfl kept
          | ok pair =>
              rw [bytes] at kept
              exact @consider_grows E { c with fragments := fs } c' call c pair.1 pair.2 rfl rfl kept
      · cases kept
  | ipAccept =>
      rw [header] at kept
      dsimp only at kept
      split at kept
      · cases kept
        exact .up (by simp) rfl
      · cases kept
  | ipReject =>
      rw [header] at kept
      dsimp only at kept ⊢
      split at kept
      · next expecting =>
          rw [if_pos expecting]
          exact @propose_grows E { c with fragments := fs } c' call c expecting (.inr expecting) kept
      · cases kept
  | data =>
      rw [header] at kept
      dsimp only at kept ⊢
      split at kept
      · next connected =>
          rw [if_pos connected]
          exact same rfl kept
      · cases kept
  | fragment =>
      rw [header] at kept
      exact same rfl kept
  | unnamed b =>
      rw [header] at kept
      exact same rfl kept

theorem absent_grows {r : Reply} (reply : E.reply none call = some r)
    (made : r.connection = some c') : Grows none call r.packets c' := by
  cases call with
  | receive dataRaw =>
      cases reply
      simp only [Env.greet] at made
      split at made
      · split at made
        · cases made
          exact .rung rfl rfl
        · cases made
      · cases made
      · cases made
  | sendConnectionRequest =>
      cases reply
      dsimp only at made
      split at made
      · cases made
        exact .requested rfl rfl rfl
      · cases made
  | iterate reads | acceptConnection | rejectConnection | closeConnection =>
      cases reply
      cases made

theorem found_grows {r : Reply} (reply : E.reply (some c) call = some r)
    (kept : r.connection = some c') : Grows (some c) call r.packets c' := by
  cases call with
  | receive dataRaw =>
      simp only [Env.reply, Env.receive] at reply
      cases arrival : c.fragments.arrival (Data.fromToxData dataRaw) with
      | packet d joins fs =>
          rw [arrival] at reply
          cases reply
          exact respond_grows fs kept
      | kept fs =>
          rw [arrival] at reply
          cases reply
          cases kept
          exact .kept rfl rfl rfl rfl
      | corrupted | unfinished =>
          rw [arrival] at reply
          cases reply
  | iterate reads =>
      obtain ⟨⟨⟩, -⟩ | ⟨c₀, entry, -, rfl⟩ | ⟨c₀, entry, connected, -, rfl⟩ := Env.reply_iterate reply
      · cases entry
        cases kept
        exact .kept rfl rfl rfl rfl
      · cases entry
        obtain ⟨index, same⟩ := E.forward_connection 0 c reads
        simp only [same] at kept
        cases kept
        exact .up (by simp) connected
  | sendConnectionRequest =>
      cases reply
      cases kept
      exact .kept rfl rfl rfl rfl
  | acceptConnection =>
      cases reply
      dsimp only at kept
      split at kept
      · split at kept
        · cases kept
          exact .accepted (by simp) rfl rfl
        · cases kept
      · rw [E.dismiss_connection] at kept
        cases kept
  | rejectConnection | closeConnection =>
      cases reply
      rw [E.dismiss_connection] at kept
      cases kept

/-- Every reply comes to a connection in one of these ways. -/
theorem reply_grows {entry : Option Connection} {r : Reply} (reply : E.reply entry call = some r)
    (kept : r.connection = some c') : Grows entry call r.packets c' := by
  cases entry with
  | none => exact absent_grows reply kept
  | some c => exact found_grows reply kept

end

/-! ## Lifetimes -/

/-- The step that inserted the connection the friend has now, and the steps since. -/
structure Since (f : UInt32) (done : List Transition) (ins : Transition) (life : List Transition) :
    Prop where
  suffix : ∃ before, done = before ++ ins :: life
  inserted : ins.before.connections f = none
  lasting : ∀ u ∈ life, (u.before.connections f).isSome = true

/-- How the connection to a friend came to its state. -/
structure Consented (f : UInt32) (done : List Transition) (c : Connection) (ins : Transition)
    (life : List Transition) : Prop where
  since : Since f done ins life
  asked : c.state = .ownRequestPending ∨ c.state = .expectingIpConfirmation →
    ins.op = .sendConnectionRequest f
  accepted : c.state = .expectingIpPacket → ∃ u ∈ life, u.op = .acceptConnection f
  proposed : c.state = .expectingIpConfirmation →
    ((ins :: life).flatMap (Transition.proposals f)).getLast? =
      some (Data.fromIpPostfix (UInt8.ofInt c.subnet) 2)

/-- The connection to the friend, if there is one, came to its state by consent. -/
def Consents (f : UInt32) (done : List Transition) (core : ToxTunCore) : Prop :=
  ∀ c, core.connections f = some c → ∃ ins life, Consented f done c ins life

section
variable {f : UInt32} {done life : List Transition} {c c' : Connection} {ins t : Transition}

theorem since_insertion (inserted : t.before.connections f = none) : Since f (done ++ [t]) t [] :=
  ⟨⟨done, rfl⟩, inserted, by simp⟩

theorem Since.goesOn (h : Since f done ins life) (present : (t.before.connections f).isSome = true) :
    Since f (done ++ [t]) ins (life ++ [t]) := by
  obtain ⟨before, rfl⟩ := h.suffix
  refine ⟨⟨before, by simp⟩, h.inserted, fun u hu => ?_⟩
  rcases List.mem_append.mp hu with old | new
  · exact h.lasting u old
  · rw [List.mem_singleton.mp new]
    exact present

theorem Consented.keeps (h : Consented f done c ins life)
    (present : (t.before.connections f).isSome = true) (state : c'.state = c.state)
    (subnet : c'.subnet = c.subnet) (silent : t.proposals f = []) :
    Consented f (done ++ [t]) c' ins (life ++ [t]) := by
  refine ⟨h.since.goesOn present, ?_, ?_, ?_⟩
  · rw [state]
    exact h.asked
  · intro expecting
    obtain ⟨u, hu, own⟩ := h.accepted (state.symm.trans expecting)
    exact ⟨u, List.mem_append_left _ hu, own⟩
  · intro expecting
    rw [← List.cons_append, List.flatMap_append, List.flatMap_singleton, silent, List.append_nil,
      subnet]
    exact h.proposed (state.symm.trans expecting)

/-- A connection that is up has no more to account for. -/
theorem Consented.rises (h : Consented f done c ins life)
    (present : (t.before.connections f).isSome = true) (up : c'.state = .connected) :
    Consented f (done ++ [t]) c' ins (life ++ [t]) := by
  refine ⟨h.since.goesOn present, ?_, ?_, ?_⟩ <;> simp [up]

theorem Grows.consented {call : Call} (grows : Grows (t.before.connections f) call
      (t.effects.filterMap (Effect.packetTo f)) c') (own : t.op = call.op f)
    (h : ∀ c, t.before.connections f = some c → ∃ ins life, Consented f done c ins life) :
    ∃ ins life, Consented f (done ++ [t]) c' ins life := by
  -- A connection that was there has a history, whatever becomes of its state.
  have history (present : t.before.connections f ≠ none) :
      (t.before.connections f).isSome = true ∧ ∃ c ins life, t.before.connections f = some c ∧
        Consented f done c ins life := by
    obtain ⟨c, found⟩ := Option.ne_none_iff_exists'.mp present
    obtain ⟨ins, life, consented⟩ := h c found
    exact ⟨by rw [found]; rfl, c, ins, life, found, consented⟩
  cases grows with
  | requested absent same state =>
      refine ⟨t, [], since_insertion absent, fun _ => ?_, by simp [state], by simp [state]⟩
      rw [own, same]
      rfl
  | rung absent state =>
      exact ⟨t, [], since_insertion absent, by simp [state], by simp [state], by simp [state]⟩
  | up present state =>
      obtain ⟨some, c, ins, life, -, consented⟩ := history present
      exact ⟨ins, life ++ [t], consented.rises some state⟩
  | @kept c'' found state subnet silent =>
      obtain ⟨ins, life, consented⟩ := h c'' found
      exact ⟨ins, life ++ [t], consented.keeps (by rw [found]; rfl) state subnet silent⟩
  | accepted present same state =>
      obtain ⟨some, c, ins, life, -, consented⟩ := history present
      exact ⟨ins, life ++ [t], consented.since.goesOn some, by simp [state],
        fun _ => ⟨t, by simp, by rw [own, same]; rfl⟩, by simp [state]⟩
  | @proposed c'' found before state proposal =>
      obtain ⟨ins, life, consented⟩ := h c'' found
      refine ⟨ins, life ++ [t], consented.since.goesOn (by rw [found]; rfl),
        fun _ => consented.asked before, by simp [state], fun _ => ?_⟩
      have last : t.proposals f = [Data.fromIpPostfix (UInt8.ofInt c'.subnet) 2] := proposal
      rw [← List.cons_append, List.flatMap_append, List.flatMap_singleton, last,
        List.getLast?_append]
      rfl

end

theorem Consents.step {E : Env} (passive : E.Passive) {f : UInt32} {done : List Transition}
    {core next : ToxTunCore} (h : Consents f done core) {op : Op}
    (after : (step core (E, op)).after = some next) :
    Consents f (done ++ [LibToxTun.step core (E, op)]) next := by
  intro c' found'
  have present {c : Connection} (found : core.connections f = some c) :
      ((LibToxTun.step core (E, op)).before.connections f).isSome = true :=
    Option.isSome_iff_exists.mpr ⟨c, found⟩
  rcases step_entry passive after f with
    ⟨same, answer, answers, entry⟩ | ⟨same, -, entry⟩ | ⟨friend, other, entry⟩ |
      ⟨same, silent, entry⟩
  · next call r =>
      change op = call.op f at same
      subst same
      have kept : r.connection = some c' := entry.symm.trans found'
      rcases Env.answer_cases answer with ⟨-, -, rfl⟩ | reply
      · cases kept
      · have grows := reply_grows reply kept
        rw [← answers.packets] at grows
        exact grows.consented rfl h
  · next reads index =>
      change op = .iterate f reads at same
      subst same
      obtain ⟨c, found, moved⟩ := Option.map_eq_some_iff.mp (entry.symm.trans found')
      have found : core.connections f = some c := found
      obtain ⟨ins, life, consented⟩ := h c found
      refine ⟨ins, life ++ [LibToxTun.step core (E, .iterate f reads)], ?_⟩
      by_cases connected : c.state = .connected
      · exact consented.rises (present found) (by rw [← moved]; exact connected)
      · have silent := (iterate_idle (E := E) found connected reads).packets
        refine consented.keeps (present found) (by rw [← moved]; rfl) (by rw [← moved]; rfl) ?_
        rw [Transition.proposals, silent]
        rfl
  · have friend : op.friend = some _ := friend
    have found : core.connections f = some c' := entry.symm.trans found'
    obtain ⟨ins, life, consented⟩ := h c' found
    have silent : (LibToxTun.step core (E, op)).proposals f = [] := by
      rw [Transition.proposals, packets_other passive core friend other]
      rfl
    exact ⟨ins, life ++ [_], consented.keeps (present found) rfl rfl silent⟩
  · have found : core.connections f = some c' := entry.symm.trans found'
    obtain ⟨ins, life, consented⟩ := h c' found
    have silent : (LibToxTun.step core (E, op)).proposals f = [] := by
      rw [Transition.proposals, silent]
      rfl
    exact ⟨ins, life ++ [_], consented.keeps (present found) rfl rfl silent⟩

/-! ## Runs -/

theorem proposal_bytes {d : Data} (set : d.toxHeaderSet = true)
    (header : PacketId.ofByte d.header = .ipProposal) {subnet ipPostfix : UInt8}
    (bytes : proposalBytes d = .ok (subnet, ipPostfix)) : d.bytes = [165, subnet, ipPostfix] := by
  have id : d.header = 165 := by
    rw [← PacketId.toByte_ofByte d.header, header]
    rfl
  by_cases size : d.size = 3
  · obtain ⟨s, p, body, hs, hp⟩ := Data.ipBytes_of_size set header size
    simp only [proposalBytes, hs, hp, bind, Except.bind, Except.ok.injEq, Prod.mk.injEq] at bytes
    obtain ⟨rfl, rfl⟩ := bytes
    rw [Data.bytes, id, body]
  · rw [proposalBytes_eq, Data.ipByte_of_size_ne set header size] at bytes
    cases bytes

/-- The addresses that may be set: that of the last proposal, or that of the proposal
at hand when its subnet is unused. -/
def Agreed (f : UInt32) (c : Connection) (t : Transition) (history : List Transition)
    (subnet ipPostfix : UInt8) : Prop :=
  ((history.flatMap (Transition.proposals f)).getLast? = some (Data.fromIpPostfix subnet 2) ∧
    ipPostfix = 1) ∨
  ∃ dataRaw d joins fs, t.op = .receive f dataRaw ∧
    c.fragments.arrival (Data.fromToxData dataRaw) = .packet d joins fs ∧
    d.bytes = [165, subnet, ipPostfix] ∧ t.env.unusedAt 0 subnet = true

/-- In every run, a connection is set up only in the lifetime of a connection that the
user asked for or accepted, and only with an address that was agreed on. -/
theorem set_up_by_consent {registered : Bool} {inputs : List (Env × Op)}
    (passive : ∀ input ∈ inputs, input.1.Passive) {pre post : List Transition} {t : Transition}
    (split : transitions (ToxTunCore.empty registered) inputs = pre ++ t :: post) {e : Effect}
    (he : e ∈ t.effects) (up : e.setsUp = true) :
    ∃ c ins life, t.before.connections e.friend = some c ∧ Since e.friend pre ins life ∧
      (ins.op = .sendConnectionRequest e.friend ∨ ∃ u ∈ life, u.op = .acceptConnection e.friend) ∧
      ∀ g subnet ipPostfix, e = .ipSet g subnet ipPostfix →
        Agreed e.friend c t (ins :: life) subnet ipPostfix := by
  have start : Consents e.friend [] (ToxTunCore.empty registered) := fun c found => by cases found
  have reached := transitions_history (I := Consents e.friend) (C := fun _ => True) start
    (fun done before input next h hmem _ after => h.step (passive input hmem) after) split
    fun _ _ => trivial
  obtain ⟨before, consents, ⟨E, op⟩, hmem, rfl⟩ := reached
  obtain ⟨dataRaw, c, d, joins, fs, received, found, arrival, set, subnet, ipPostfix, route, same⟩ :=
    setUp_route (passive _ hmem) he up
  obtain ⟨ins, life, consented⟩ := consents c found
  refine ⟨c, ins, life, found, consented.since, ?_, ?_⟩
  · cases route with
    | confirmed header expecting => exact .inl (consented.asked (.inr expecting))
    | accepted header expecting bytes unused => exact .inr (consented.accepted expecting)
  · intro g s p set'
    obtain ⟨rfl, rfl⟩ := same g s p set'
    cases route with
    | confirmed header expecting => exact .inl ⟨consented.proposed expecting, rfl⟩
    | accepted header expecting bytes unused =>
        exact .inr ⟨dataRaw, d, joins, fs, received, arrival, proposal_bytes set header bytes, unused⟩

/-- A request is accepted, and so is the proposal. -/
def requested : List (Env × Op) :=
  [(.obliging fun _ => some [], .sendConnectionRequest 7),
    (.obliging fun _ => some [], .receive 7 [161]),
    (.obliging fun _ => some [], .receive 7 [166])]

theorem requested_set_up : ∃ pre t post e,
    transitions (ToxTunCore.empty true) requested = pre ++ t :: post ∧ e = .ipSet 7 0 1 ∧
    e ∈ t.effects ∧ ∃ c ins life, t.before.connections e.friend = some c ∧
      Since e.friend pre ins life ∧
      (ins.op = .sendConnectionRequest e.friend ∨ ∃ u ∈ life, u.op = .acceptConnection e.friend) ∧
      ∀ g subnet ipPostfix, e = .ipSet g subnet ipPostfix →
        Agreed e.friend c t (ins :: life) subnet ipPostfix := by
  have sets : ((transitions (ToxTunCore.empty true) requested).any fun t =>
      t.effects.any fun e => decide (e = .ipSet 7 0 1)) = true := by decide +kernel
  obtain ⟨t, mem, shows⟩ := List.any_eq_true.mp sets
  obtain ⟨e, he, same⟩ := List.any_eq_true.mp shows
  obtain ⟨pre, post, split⟩ := List.append_of_mem mem
  have same : e = .ipSet 7 0 1 := of_decide_eq_true same
  have passive : ∀ input ∈ requested, input.1.Passive := by
    simp [requested, Env.Passive, Env.obliging]
  exact ⟨pre, t, post, e, split, same, he,
    set_up_by_consent passive split he (by rw [same]; rfl)⟩

end LibToxTun
