import LibToxTun.Core.Steps

/-! # Events that nobody hears

Without a callback function an event is an exception, and it is raised below
functions that must not throw: in handlers, in a reset and in the destructor. The
missing callback is harmless exactly where no event is raised.
-/

namespace LibToxTun

open Foundation

/-! ## Where an event is raised -/

namespace Env

variable (E : Env)

/-- The next proposal can be made: counting on, the search meets an unused subnet
before 256, and the packet is sent. -/
def CanPropose (subnet : Int) : Prop :=
  ∃ n, (∀ m ≤ n, incSubnet^[m + 1] subnet ≠ 256) ∧
    E.unusedAt n (UInt8.ofInt (incSubnet^[n + 1] subnet)) = true ∧
    (∀ m < n, E.unusedAt m (UInt8.ofInt (incSubnet^[m + 1] subnet)) = false) ∧ E.sends (n + 1) = true

/-- A packet that is no fragment makes a connection raise an event. -/
def RaisesOn (c : Connection) (d : Data) : Prop :=
  match PacketId.ofByte d.header with
  | .connectionRequest => False
  | .connectionAccept => c.state ≠ .ownRequestPending ∨ ¬ E.CanPropose c.subnet
  | .connectionReject => True
  | .connectionClose => True
  | .connectionReset => True
  | .ipProposal => c.state ≠ .expectingIpPacket ∨ ∃ subnet ipPostfix,
      proposalBytes d = .ok (subnet, ipPostfix) ∧ (E.unusedAt 0 subnet = true ∨ E.sends 1 = false)
  | .ipAccept => True
  | .ipReject => c.state ≠ .expectingIpConfirmation ∨ ¬ E.CanPropose c.subnet
  | .data => c.state ≠ .connected
  | .fragment => False
  | .unnamed _ => False

/-- A call on a friend raises an event for the friend. -/
def Raises (c : Option Connection) (call : Call) : Prop :=
  ∃ c', c = some c' ∧ match call with
    | .receive dataRaw => E.RaisesOn c' (Data.fromToxData dataRaw)
    | .iterate _ => False
    | .sendConnectionRequest => False
    | .acceptConnection =>
        c'.state = .friendsRequestPending ∧ E.sends 0 = false ∨ c'.state.resets = true
    | .rejectConnection => c'.state.resets = true
    | .closeConnection => c'.state.resets = true

end Env

section
variable {E : Env}

theorem search_found {fuel : Nat} {start subnet : Int} {clock clock' : Nat} {found : Bool}
    (h : E.search fuel start clock = some (subnet, clock', found)) :
    ∃ n, clock' = clock + n + 1 ∧ (∀ m < n, incSubnet^[m + 1] start ≠ 256 ∧
        E.unusedAt (clock + m) (UInt8.ofInt (incSubnet^[m + 1] start)) = false) ∧
      (found = true → incSubnet^[n + 1] start ≠ 256 ∧
        E.unusedAt (clock + n) (UInt8.ofInt (incSubnet^[n + 1] start)) = true) ∧
      (found = false → incSubnet^[n + 1] start = 256) := by
  induction fuel generalizing start clock with
  | zero => cases h
  | succ fuel ih =>
      simp only [Env.search] at h
      split at h
      · next last =>
          cases h
          exact ⟨0, rfl, by simp, by simp, fun _ => last⟩
      · next inside =>
          split at h
          · next unused =>
              cases h
              exact ⟨0, rfl, by simp, fun _ => ⟨inside, unused⟩, by simp⟩
          · next used =>
              obtain ⟨n, rfl, before, yes, no⟩ := ih h
              refine ⟨n + 1, by omega, fun m less => ?_, fun f => ?_, no⟩
              · cases m with
                | zero => exact ⟨inside, by simpa using used⟩
                | succ m =>
                    have earlier := before m (by omega)
                    rw [show clock + (m + 1) = clock + 1 + m by omega]
                    exact earlier
              · rw [show clock + (n + 1) = clock + 1 + n by omega]
                exact yes f

/-- A proposal raises no event exactly when it can be made. -/
theorem propose_events (c : Connection) :
    (E.propose c).events = [] ↔ E.CanPropose c.subnet := by
  obtain ⟨⟨subnet, clock, found⟩, search⟩ := search_total E c.subnet 0
  obtain ⟨n, rfl, before, yes, no⟩ := search_found search
  simp only [Nat.zero_add] at before yes
  simp only [Env.propose, search]
  cases found with
  | false =>
      simp only [Env.killedAt, List.cons_ne_self, false_iff]
      rintro ⟨k, inside, unused, -, -⟩
      rcases Nat.lt_or_ge k n with less | more
      · rw [(before k less).2] at unused
        cases unused
      · exact inside n more (no rfl)
  | true =>
      have first : E.CanPropose c.subnet ↔ E.sends (n + 1) = true := by
        constructor
        · rintro ⟨k, -, unused, used, sends⟩
          rcases Nat.lt_trichotomy k n with less | rfl | more
          · rw [(before k less).2] at unused
            cases unused
          · exact sends
          · have found := (yes rfl).2
            rw [used n more] at found
            cases found
        · intro sends
          refine ⟨n, fun m le => ?_, (yes rfl).2, fun m less => (before m less).2, sends⟩
          rcases Nat.lt_or_ge m n with less | more
          · exact (before m less).1
          · rw [Nat.le_antisymm le more]
            exact (yes rfl).1
      rw [first]
      cases sends : E.sends (n + 1) <;> simp [sends, Env.killedAt]

theorem respond_events (c : Connection) (d : Data) :
    (E.respond c d).events = [] ↔ ¬ E.RaisesOn c d := by
  simp only [Env.respond, Env.RaisesOn]
  cases header : PacketId.ofByte d.header with
  | connectionRequest => simp [Reply.kept]
  | connectionAccept =>
      dsimp only
      split
      · next own =>
          rw [propose_events]
          simp [own]
      · next other => simp [Env.killedAt, other]
  | connectionReject | connectionClose =>
      dsimp only
      split <;> simp [Env.killedAt]
  | connectionReset => simp
  | ipProposal =>
      dsimp only
      split
      · next expecting =>
          cases bytes : proposalBytes d with
          | error e => simp [Reply.kept, expecting]
          | ok pair =>
              obtain ⟨subnet, ipPostfix⟩ := pair
              simp only [Env.consider]
              cases unused : E.unusedAt 0 subnet <;> cases sends : E.sends 1 <;>
                simp [expecting, unused, Env.killedAt]
      · next other => simp [Env.killedAt, other]
  | ipAccept =>
      dsimp only
      split <;> simp [Env.killedAt]
  | ipReject =>
      dsimp only
      split
      · next expecting =>
          rw [propose_events]
          simp [expecting]
      · next other => simp [Env.killedAt, other]
  | data =>
      dsimp only
      split
      · next connected => simp [Reply.kept, connected]
      · next other => simp [Env.killedAt, other]
  | fragment => simp [Reply.kept]
  | unnamed b => simp [Reply.kept]

theorem dismiss_events (c : Connection) : (E.dismiss c).events = [] ↔ c.state.resets = false := by
  cases h : c.state <;> simp [Env.dismiss, h, State.resets, Env.killedAt]

end

/-- A call that does not bring a fragment, nor an empty frame from the device. -/
structure Call.Plain (call : Call) : Prop where
  whole : ∀ dataRaw, call = .receive dataRaw →
    PacketId.ofByte (Data.fromToxData dataRaw).header ≠ .fragment
  framed : ∀ reads, call = .iterate reads → some [] ∉ reads

/-- The events of a reply, from the state before the call. -/
theorem reply_events {E : Env} {c : Option Connection} {call : Call} (plain : call.Plain)
    (answered : call.requests c = false) :
    ∃ r, E.reply c call = some r ∧ (r.events = [] ↔ ¬ E.Raises c call) := by
  cases call with
  | receive dataRaw =>
      have whole := plain.whole dataRaw rfl
      cases c with
      | none =>
          simp only [Call.requests, Option.isNone_none, Bool.true_and, decide_eq_false_iff_not]
            at answered
          refine ⟨_, rfl, ?_⟩
          simp only [Env.Raises, reduceCtorEq, false_and, exists_false, not_false_eq_true, iff_true]
          unfold Env.greet
          split
          · exact (answered ‹_›).elim
          · rfl
          · rfl
      | some c =>
          have arrival : c.fragments.arrival (Data.fromToxData dataRaw) =
              .packet (Data.fromToxData dataRaw) 0 c.fragments := Fragments.arrive_whole whole
          refine ⟨_, by rw [Env.reply, Env.receive, arrival], ?_⟩
          simpa [Env.Raises] using respond_events (E := E) c (Data.fromToxData dataRaw)
  | iterate reads =>
      cases reply : E.reply c (.iterate reads) with
      | none =>
          obtain ⟨c', dataRaw, -, ⟨⟩, -⟩ | ⟨c', reads', -, same, -, empty⟩ := Env.reply_none reply
          exact (plain.framed reads' same empty).elim
      | some r =>
          refine ⟨r, rfl, ?_⟩
          simp only [Env.Raises, and_false, exists_false, not_false_eq_true, iff_true]
          obtain ⟨-, rfl⟩ | ⟨c', -, -, rfl⟩ | ⟨c', -, -, -, rfl⟩ := Env.reply_iterate reply <;> rfl
  | sendConnectionRequest =>
      refine ⟨_, rfl, ?_⟩
      simp only [Env.Raises, and_false, exists_false, not_false_eq_true, iff_true]
      split
      · rfl
      · split <;> rfl
  | acceptConnection =>
      refine ⟨_, rfl, ?_⟩
      cases c with
      | none => simp [Env.Raises]
      | some c =>
          simp only [Env.Raises, Option.some.injEq, exists_eq_left']
          split
          · next ringing =>
              cases sends : E.sends 0 <;> simp [ringing, State.resets, Env.killedAt]
          · next silent =>
              rw [dismiss_events]
              simp [silent]
  | rejectConnection | closeConnection =>
      refine ⟨_, rfl, ?_⟩
      cases c with
      | none => simp [Env.Raises]
      | some c =>
          simp only [Env.Raises, Option.some.injEq, exists_eq_left']
          rw [dismiss_events]
          simp

/-! ## Steps -/

def ToxTunCore.heard (core : ToxTunCore) : ToxTunCore := { core with callbackFunction := true }

namespace Transition

def heard (t : Transition) : Transition := step t.before.heard (t.env, t.op)

/-- A call without a callback function goes as it does with one, except that a request
of a friend without a connection is ignored. -/
structure Harmless (t : Transition) (f : UInt32) (call : Call) : Prop where
  completes : t.after ≠ none
  same : call.requests (t.before.connections f) = false →
    t.heard.after = t.after.map ToxTunCore.heard ∧
      ∀ g, t.effects.filterMap (Effect.packetTo g) = t.heard.effects.filterMap (Effect.packetTo g)
  ignored : call.requests (t.before.connections f) = true →
    t.after = some t.before ∧ ∀ g, t.effects.filterMap (Effect.packetTo g) = []

end Transition

section
variable {E : Env} (passive : E.Passive) {core : ToxTunCore} {f : UInt32} {call : Call}
include passive

/-- Without a callback function a call is harmless exactly when it raises no event. -/
theorem harmless_iff (unset : core.callbackFunction = false) (plain : call.Plain) :
    (step core (E, call.op f)).Harmless f call ↔ ¬ E.Raises (core.connections f) call := by
  have friend : (call.op f).friend = some f := by cases call <;> rfl
  cases requests : call.requests (core.connections f) with
  | true =>
      have absent : core.connections f = none := by
        cases call with
        | receive dataRaw => exact (by simpa [Call.requests] using requests : _ ∧ _).1
        | _ => cases requests
      have ignored := request_ignored (E := E) unset requests
      have after : (step core (E, call.op f)).after = some core :=
        ignored.after.trans (congrArg some (ToxTunCore.put_eq_self absent))
      refine ⟨fun _ raises => ?_, fun _ => ⟨by simp [after], fun answered => ?_, fun _ => ⟨after, ?_⟩⟩⟩
      · obtain ⟨c, found, -⟩ := raises
        rw [absent] at found
        cases found
      · exact absurd (requests.symm.trans answered) (by decide)
      · intro g
        by_cases own : g = f
        · rw [own]
          exact ignored.packets
        · exact packets_other passive _ friend own
  | false =>
      obtain ⟨r, reply, quiet⟩ := reply_events plain requests
      have mutes := step_mutes unset call requests reply
      rw [← quiet]
      unfold Transition.Mutes at mutes
      split at mutes
      · next silent =>
          have heard : (step core.heard (E, call.op f)).Answers f r := by
            have answers := @step_reply E passive core.heard f rfl call
            rwa [show E.reply (core.heard.connections f) call = some r from reply] at answers
          refine ⟨fun _ => silent, fun _ => ⟨by simp [mutes.after], fun _ => ⟨?_, fun g => ?_⟩, ?_⟩⟩
          · rw [mutes.after]
            exact heard.after
          · by_cases own : g = f
            · rw [own]
              exact mutes.packets.trans heard.packets.symm
            · rw [packets_other passive _ friend own]
              exact (packets_other passive _ friend own).symm
          · intro ignored
            exact absurd (requests.symm.trans ignored) (by decide)
      · next raised =>
          exact ⟨fun harmless => (harmless.completes mutes.1).elim, fun silent => (raised silent).elim⟩

end

/-! ## Destruction -/

def World.heard (w : World) : World := { w with core := w.core.heard }

/-- The destruction of a core without a callback function goes as it does with one. -/
def ToxTunCore.Destructible (E : Env) (friends : List UInt32) (core : ToxTunCore) : Prop :=
  ∃ w, destructor E friends ⟨core, 0, []⟩ = .returned () w ∧
    destructor E friends ⟨core.heard, 0, []⟩ = .returned () w.heard

section
variable (E : Env) {f : UInt32} {w : World}

theorem erased_quiet {c : Connection} (quiet : c.state.resets = false) (w : World) :
    (Frame.enter f c w).erased E = ((Frame.enter f c w).unlinked.farewell E).expired :=
  Frame.erased_eq E fun resets => absurd (quiet.symm.trans resets) (by decide)

/-- What the erasure of a quiet connection leaves does not depend on the callback. -/
theorem erased_heard {c : Connection} (quiet : c.state.resets = false) :
    ((Frame.enter f c w.heard).erased E).leave = ((Frame.enter f c w).erased E).leave.heard := by
  rw [erased_quiet E quiet, erased_quiet E quiet]
  cases state : c.state <;> simp [state, State.resets] at quiet <;>
    simp [Frame.expired, Frame.unlinked, Frame.farewell, Frame.enter, Frame.leave, Frame.sent,
      Frame.log, World.log, World.tick, World.setConnection, World.heard, ToxTunCore.heard, state]

theorem erased_core {c : Connection} (quiet : c.state.resets = false) :
    ((Frame.enter f c w).erased E).leave.core = w.core.put f none := by
  rw [erased_quiet E quiet]
  cases state : c.state <;> simp [state, State.resets] at quiet <;>
    simp [Frame.expired, Frame.unlinked, Frame.farewell, Frame.enter, Frame.leave, Frame.sent,
      Frame.log, World.log, World.tick, World.setConnection, ToxTunCore.put, state]

theorem erase_quiet {c : Connection} (found : w.core.connections f = some c)
    (quiet : c.state.resets = false) :
    ToxTunCore.erase E f w = .returned 1 ((Frame.enter f c w).erased E).leave := by
  let fr := Frame.enter f c w
  have erased := eraseSelf_eq E (show fr.alive = true from rfl)
    fun resets => absurd (quiet.symm.trans resets) (by decide)
  simp only [fr] at erased
  simp [ToxTunCore.erase, ToxTunCore.connection, found, onConnection, erased]

theorem erase_pending {c : Connection} (found : w.core.connections f = some c)
    (pending : c.state.resets = true) (unset : w.core.callbackFunction = false) :
    ∃ w', ToxTunCore.erase E f w = .terminated w' := by
  let fr := Frame.enter f c w
  have ends := eraseSelf_unregistered E (show fr.alive = true from rfl) pending unset
  simp only [fr] at ends
  simp [ToxTunCore.erase, ToxTunCore.connection, found, onConnection, ends]

theorem erase_absent (absent : w.core.connections f = none) :
    ToxTunCore.erase E f w = .returned 0 w := by
  simp [ToxTunCore.erase, ToxTunCore.connection, absent]

/-- The loop over the entries goes through exactly when it meets no connection that
resets, and then it goes as it does with a callback. -/
theorem destroyAll_iff (unset : w.core.callbackFunction = false) (friends : List UInt32) :
    (∃ w', ToxTunCore.destroyAll E friends w = .returned () w' ∧
      ToxTunCore.destroyAll E friends w.heard = .returned () w'.heard) ↔
    ∀ f ∈ friends, ∀ c, w.core.connections f = some c → c.state.resets = false := by
  induction friends generalizing w with
  | nil => exact ⟨fun _ _ h => absurd h List.not_mem_nil, fun _ => ⟨w, rfl, rfl⟩⟩
  | cons f rest ih =>
      simp only [ToxTunCore.destroyAll, Action.bind_apply, List.forall_mem_cons]
      cases found : w.core.connections f with
      | none =>
          have found' : w.heard.core.connections f = none := found
          rw [erase_absent E found, erase_absent E found', Outcome.andThen_returned,
            Outcome.andThen_returned, ih unset]
          simp
      | some c =>
          have found' : w.heard.core.connections f = some c := found
          cases resets : c.state.resets with
          | true =>
              obtain ⟨w', ends⟩ := erase_pending E found resets unset
              simp [ends, resets]
          | false =>
              have left := erased_core E (f := f) (w := w) resets
              have still : ((Frame.enter f c w).erased E).leave.core.callbackFunction = false := by
                rw [left]
                exact unset
              rw [erase_quiet E found resets, erase_quiet E found' resets, erased_heard E resets,
                Outcome.andThen_returned, Outcome.andThen_returned, ih still, left]
              constructor
              · intro later
                refine ⟨fun c' same => ?_, fun g hg c' there => ?_⟩
                · cases same
                  exact resets
                · by_cases own : g = f
                  · rw [own, found] at there
                    cases there
                    exact resets
                  · exact later g hg c' (by rw [ToxTunCore.put_other _ _ _ own]; exact there)
              · intro all g hg c' there
                by_cases own : g = f
                · rw [own, ToxTunCore.put_self] at there
                  cases there
                · rw [ToxTunCore.put_other _ _ _ own] at there
                  exact all.2 g hg c' there

theorem destructible_iff {core : ToxTunCore} (unset : core.callbackFunction = false)
    (friends : List UInt32) :
    core.Destructible E friends ↔
      ∀ f ∈ friends, ∀ c, core.connections f = some c → c.state.resets = false := by
  have all := destroyAll_iff E (w := ⟨core, 0, []⟩) unset friends
  rw [← all]
  have through {w w' : World} :
      ToxTunCore.destructor E friends w = .returned () w' ↔
        ToxTunCore.destroyAll E friends w = .returned () w' := by
    rw [ToxTunCore.destructor, Action.noexcept_apply]
    cases ToxTunCore.destroyAll E friends w <;> simp
  simp only [ToxTunCore.Destructible, through]
  rfl

end

/-! ## Runs -/

/-- Without a callback function, in every run, a packet that is no fragment or a call
of the user goes as it does with a callback exactly when it raises no event, and so
does the destruction exactly when it meets no connection that resets. -/
theorem unheard_iff {core : ToxTunCore} {inputs : List (Env × Op)}
    (passive : ∀ input ∈ inputs, input.1.Passive) {t : Transition}
    (mem : t ∈ transitions core inputs) (unset : t.before.callbackFunction = false) :
    (∀ f call, t.op = call.op f → call.Plain →
      (t.Harmless f call ↔ ¬ t.env.Raises (t.before.connections f) call)) ∧
    ∀ E friends, t.before.Destructible E friends ↔
      ∀ f ∈ friends, ∀ c, t.before.connections f = some c → c.state.resets = false := by
  obtain ⟨before, -, ⟨E, op⟩, hmem, rfl⟩ :=
    mem_transitions (I := fun _ => True) trivial (fun _ _ _ _ _ _ => trivial) mem
  refine ⟨fun f call same plain => ?_, fun E' friends => destructible_iff E' unset friends⟩
  have same : op = call.op f := same
  subst same
  exact harmless_iff (passive _ hmem) unset plain

/-- The callback is removed while a request is ringing at the friend, who rejects it. -/
def unheardReject : List (Env × Op) :=
  [(.obliging fun _ => some [], .sendConnectionRequest 7),
    (.obliging fun _ => some [], .setCallback false),
    (.obliging fun _ => some [], .receive 7 [162])]

theorem unheardReject_iff : ∃ t ∈ transitions (ToxTunCore.empty true) unheardReject,
    t.before.callbackFunction = false ∧ (∀ f call, t.op = call.op f → call.Plain →
      (t.Harmless f call ↔ ¬ t.env.Raises (t.before.connections f) call)) ∧
    ∀ E friends, t.before.Destructible E friends ↔
      ∀ f ∈ friends, ∀ c, t.before.connections f = some c → c.state.resets = false := by
  have removed : ((transitions (ToxTunCore.empty true) unheardReject).any fun t =>
      !t.before.callbackFunction) = true := by decide +kernel
  obtain ⟨t, mem, unset⟩ := List.any_eq_true.mp removed
  have unset : t.before.callbackFunction = false := by simpa using unset
  have passive : ∀ input ∈ unheardReject, input.1.Passive := by
    simp [unheardReject, Env.Passive, Env.obliging]
  exact ⟨t, mem, unset, unheard_iff passive mem unset⟩

/-- The process ends with the rejection. -/
theorem unheardReject_ends : ¬ ∀ t ∈ transitions (ToxTunCore.empty true) unheardReject,
    t.before.callbackFunction = false → ∀ f call, t.op = call.op f → call.Plain → t.Harmless f call := by
  intro harmless
  have last : ∃ t ∈ transitions (ToxTunCore.empty true) unheardReject,
      t.op = .receive 7 [162] ∧ t.before.callbackFunction = false ∧ t.after.isNone = true := by
    refine ⟨_, List.mem_cons_of_mem _ (List.mem_cons_of_mem _ List.mem_cons_self), rfl, ?_, ?_⟩ <;>
      decide +kernel
  obtain ⟨t, mem, op, unset, ended⟩ := last
  have plain : (Call.receive [162]).Plain := by
    refine ⟨fun dataRaw same => ?_, nofun⟩
    cases same
    decide
  exact (harmless t mem unset 7 (.receive [162]) op plain).completes (Option.isNone_iff_eq_none.mp ended)

end LibToxTun
