import LibToxTun.Core.Evolution
import LibToxTun.Reentrancy.Events

/-! # Tables that callbacks leave

The tables reached when every callback function may make a call in each of its
events. No connection in such a table is being deleted, so the comparison of a call
in an event with the call afterwards holds at all of them.
-/

namespace LibToxTun

open Foundation

/-- In an event the callback function does nothing, or makes a call for the friend. -/
def Env.Reenters (E' : Env) : Prop :=
  ∃ E : Env, E.Passive ∧ ∃ userCallback, E' = E.withCallback userCallback ∧
    ∀ event fr, userCallback event fr = fr ∨ ∃ u note, userCallback event fr = fr.perform E u note

theorem Env.Passive.reenters {E : Env} (passive : E.Passive) : E.Reenters :=
  ⟨E, passive, E.userCallback, rfl, fun event fr => .inl (passive event fr)⟩

/-- No connection of the table is being deleted. -/
def ToxTunCore.Standing (core : ToxTunCore) : Prop := ∀ f, core.StandingAt f

namespace ToxTunCore

variable {core core' core'' : ToxTunCore} {f : UInt32}

theorem Settles.refl (standing : core.StandingAt f) : core.Settles core f :=
  ⟨core.connections f, (put_eq_self rfl).symm, standing⟩

theorem Settles.trans (h : core.Settles core' f) (h' : core'.Settles core'' f) :
    core.Settles core'' f := by
  obtain ⟨entry, rfl, -⟩ := h
  obtain ⟨entry', same, standing⟩ := h'
  exact ⟨entry', same.trans (put_put ..), standing⟩

theorem Settles.standingAt (h : core.Settles core' f) : core'.StandingAt f := h.choose_spec.2

theorem Settles.callbackFunction (h : core.Settles core' f) :
    core'.callbackFunction = core.callbackFunction := by
  obtain ⟨entry, rfl, -⟩ := h
  rfl

theorem settles_none (core : ToxTunCore) (f : UInt32) : core.Settles (core.put f none) f :=
  ⟨none, rfl, fun c found => by simp at found⟩

theorem settles_initial (core : ToxTunCore) (f : UInt32) (initiateConnection : Bool) :
    core.Settles (core.put f (some (Connection.initial initiateConnection))) f := by
  refine ⟨_, rfl, fun c found => ?_⟩
  rw [put_self, Option.some.injEq] at found
  subst found
  cases initiateConnection <;> simp [Connection.initial]

theorem Settles.standing (h : core.Settles core' f) (standing : core.Standing) : core'.Standing := by
  obtain ⟨entry, same, own⟩ := h
  intro g
  by_cases other : g = f
  · exact other ▸ own
  · intro c found
    rw [same, put_other _ _ _ other] at found
    exact standing g c found

end ToxTunCore

/-! ## Calls -/

section
variable {E : Env} (passive : E.Passive) {w : World} (registered : w.core.callbackFunction = true)
  {f : UInt32} (standing : w.core.StandingAt f)
include passive registered standing

theorem ToxTunCore.erase_settles : w.core.Settles (ToxTunCore.erase E f w).state.core f := by
  cases found : w.core.connections f with
  | none =>
      rw [ToxTunCore.erase_absent E found]
      exact .refl standing
  | some c =>
      obtain ⟨w', erased, -, core⟩ := ToxTunCore.erase_goodbyes passive registered found
      rw [erased, Outcome.state, core]
      exact ToxTunCore.settles_none ..

theorem ToxTunCore.acceptConnection_settles :
    w.core.Settles (ToxTunCore.acceptConnection E f w).state.core f := by
  cases found : w.core.connections f with
  | none =>
      have missing : ToxTunCore.acceptConnection E f w =
          .thrown (.toxTunError "No connection to accept from this friend") w := by
        simp [ToxTunCore.acceptConnection, ToxTunCore.connection, found]
      rw [missing]
      exact .refl standing
  | some c =>
      let fr := Frame.enter f c w
      have live : fr.Live w.core f c w.clock (w.trace.filterMap (Effect.packetTo f))
          (w.trace.filterMap (Effect.eventOf f)) := ⟨rfl, rfl, rfl, rfl, rfl, rfl, rfl, rfl⟩
      by_cases ringing : c.state = .friendsRequestPending
      · rw [acceptConnection_found found (acceptConnection_eq E live.alive registered ringing)]
        have entered := live.enterState .expectingIpPacket
        simp only [Outcome.state, Frame.accepted]
        split
        · exact (entered.sent _).settles (by simp)
        · rw [((entered.unsent _).killed passive).leave.core_eq]
          exact ToxTunCore.settles_none ..
      · obtain ⟨w', erased, -, core⟩ := ToxTunCore.erase_goodbyes passive registered found
        have left : fr.leave = w := World.setConnection_self found
        rw [acceptConnection_caught found (acceptConnection_refused E live.alive ringing)
          (left.symm ▸ erased), Outcome.state, core]
        exact ToxTunCore.settles_none ..

theorem UserCall.run_settles (u : UserCall) : w.core.Settles (u.run E f w).state.core f := by
  have erased : w.core.Settles
      ((ToxTunCore.erase E f w).andThen fun _ => pure ()).guarded.state.core f := by
    rw [Outcome.guarded_state, Outcome.andThen_state _ fun _ _ => rfl]
    exact ToxTunCore.erase_settles passive registered standing
  cases u with
  | getConnectionState => exact .refl standing
  | sendConnectionRequest =>
      cases found : w.core.connections f with
      | none =>
          simp only [run, ToxTunCore.sendConnectionRequest_absent found]
          split
          · split
            · exact ToxTunCore.settles_initial ..
            · exact .refl standing
          · exact .refl standing
      | some c =>
          have refused : ToxTunCore.sendConnectionRequest E f w = .thrown (.toxTunError
              "You have allready an open connection to this friend") w := by
            simp [ToxTunCore.sendConnectionRequest, ToxTunCore.connection, found]
          rw [run, refused]
          exact .refl standing
  | acceptConnection => exact ToxTunCore.acceptConnection_settles passive registered standing
  | rejectConnection => exact erased
  | closeConnection =>
      have closes : ToxTunCore.closeConnection E f w =
          ((ToxTunCore.erase E f w).andThen fun _ => pure ()).guarded := by
        simp [ToxTunCore.closeConnection, ToxTunCore.deleteConnection]
      rw [run, closes]
      exact erased

end

/-! ## Operations -/

section
variable {E : Env} (passive : E.Passive) {userCallback : Event → Frame → Frame}
  (calls : ∀ event fr, userCallback event fr = fr ∨
    ∃ u note, userCallback event fr = fr.perform E u note)
  {core : ToxTunCore} {f : UInt32}

include passive calls

omit passive in
theorem raise_cases (x : Frame) (event : Event) :
    x.raise (E.withCallback userCallback) event = x.log (.raised event x.connectedFriend) ∨
      ∃ u note, x.raise (E.withCallback userCallback) event =
        (x.log (.raised event x.connectedFriend)).perform E u note := calls _ _

omit passive in
theorem raise_connectedFriend (x : Frame) (event : Event) :
    (x.raise (E.withCallback userCallback) event).connectedFriend = x.connectedFriend := by
  rcases raise_cases calls x event with told | ⟨u, note, told⟩
  · rw [told, Frame.log_connectedFriend]
  · rw [told, Frame.perform_connectedFriend, Frame.log_connectedFriend]

theorem raise_settles {x : Frame} (friend : x.connectedFriend = f)
    (registered : core.callbackFunction = true) (settled : core.Settles x.leave.core f)
    (event : Event) : core.Settles (x.raise (E.withCallback userCallback) event).leave.core f := by
  subst friend
  let y := x.log (.raised event x.connectedFriend)
  have same : y.leave.core = x.leave.core := by
    simp only [y, Frame.leave, Frame.log]
    split <;> rfl
  have still : y.leave.core.callbackFunction = true := by
    rw [same, settled.callbackFunction, registered]
  rcases raise_cases calls x event with told | ⟨u, note, told⟩
  · rw [told]
    exact same ▸ settled
  · rw [told, Frame.perform_leave]
    exact settled.trans (same ▸ u.run_settles passive still (same.symm ▸ settled.standingAt))

omit passive calls in
theorem Burial.settles {tail : Frame → Frame} (burial : Burial tail) {fr : Frame}
    (friend : fr.connectedFriend = f) (settled : core.Settles fr.leave.core f) :
    core.Settles (tail fr).leave.core f := by
  have left : (tail fr).leave = (tail fr).world := if_neg (by simp [burial.unlinked])
  rw [left]
  rcases burial.core fr with gone | ⟨unlinked, kept⟩
  · obtain ⟨entry, same, -⟩ := settled
    have emptied : fr.world.core.put f none = core.put f none := by
      cases linked : fr.linked with
      | true =>
          have own : fr.leave.core = fr.world.core.put f (some fr.self) := by
            rw [Frame.leave, if_pos linked, friend]
            rfl
          rw [← ToxTunCore.put_put fr.world.core f (some fr.self), ← own, same, ToxTunCore.put_put]
      | false =>
          have own : fr.leave = fr.world := if_neg (by simp [linked])
          rw [← own, same, ToxTunCore.put_put]
    rw [gone, friend, emptied]
    exact ToxTunCore.settles_none ..
  · have same : fr.leave = fr.world := if_neg (by simp [unlinked])
    rw [kept, ← same]
    exact settled

/-- The last frame of an operation, whatever calls are made in its events. -/
theorem Raises.settles {last : (Event → Frame → Frame) → Frame} {es : List Event}
    (raises : Raises E core f last es) (registered : core.callbackFunction = true) :
    core.Settles (last userCallback).leave.core f := by
  cases raises with
  | silent _ settles same => rw [same]; exact settles
  | accepts live up same =>
      rw [same]
      exact raise_settles passive calls live.friend registered (live.settles (by simp [up])) _
  | drops live standing dropped burial same =>
      rw [same]
      exact burial.settles ((raise_connectedFriend calls _ _).trans live.friend)
        (raise_settles passive calls live.friend registered (live.settles standing) _)
  | @outlives x c k ps live standing subnet ipPostfix told =>
      let fr := (x.raise (E.withCallback userCallback) .connectionClosed).buried
      have buried : core.Settles fr.leave.core f := Frame.buried_burial.settles
        ((raise_connectedFriend calls _ .connectionClosed).trans live.friend)
        (raise_settles passive calls live.friend registered (live.settles standing) _)
      have friend : (fr.addressed subnet ipPostfix).connectedFriend = f := by
        rw [Frame.addressed_connectedFriend, Frame.buried_burial.friend,
          raise_connectedFriend calls, live.friend]
      have same : (fr.addressed subnet ipPostfix).leave.core = fr.leave.core := by
        have unlinked : fr.linked = false := Frame.buried_burial.unlinked _
        simp [Frame.leave, unlinked]
      rw [told, Frame.outlived, Frame.ipSet_eq]
      exact raise_settles passive calls friend registered (same.symm ▸ buried) _

/-- The destructor of an entry, whatever call is made in its event, before or after the entry
goes. -/
theorem erased_settles (registered : core.callbackFunction = true) (c : Connection) :
    core.Settles ((Frame.enter f c ⟨core, 0, []⟩).erased (E.withCallback userCallback)).leave.core f := by
  cases resets : c.state.resets with
  | true =>
      cases order : E.unlinksFirst 0 with
      | true =>
          have expired (fr : Frame) : fr.expired.leave.core = fr.leave.core := by
            cases linked : fr.linked <;>
              simp [Frame.expired, Frame.leave, Frame.log, linked, World.log, World.setConnection]
          rw [erased_first resets order, expired]
          exact raise_settles passive calls
            (show (Frame.leaving E core f c).connectedFriend = f from rfl) registered
            (ToxTunCore.settles_none core f) .connectionClosed
      | false => exact (erased_raises resets order).settles passive calls registered
  | false =>
      have gone := (Frame.live_enter core f c).erased (E := E.withCallback userCallback)
        fun h => absurd (resets.symm.trans h) (by decide)
      rw [gone.leave.core_eq]
      exact ToxTunCore.settles_none ..

end

/-! ## Steps and runs -/

theorem Env.Evolves.standing {E : Env} {entry entry' : Option Connection} {call : Call}
    (evolves : E.Evolves entry call entry') (standing : ∀ c, entry = some c → c.state ≠ .deleting) :
    ∀ c, entry' = some c → c.state ≠ .deleting := by
  intro c' same
  cases evolves with
  | gone => cases same
  | fresh initiateConnection =>
      cases same
      cases initiateConnection <;> simp [Connection.initial]
  | kept state tun subnet =>
      cases same
      rw [state]
      exact standing _ rfl
  | accepted ringing => cases same; simp
  | proposed state unused => cases same; simp [state]
  | taken state tun unused => cases same; simp [state]
  | confirmed arrival header expecting state tun => cases same; simp [state]

theorem Transition.Answers.settles {t : Transition} {f : UInt32} {r : Reply} (answers : t.Answers f r)
    (standing : ∀ c, r.connection = some c → c.state ≠ .deleting) {next : ToxTunCore}
    (after : t.after = some next) : t.before.Settles next f := by
  rw [answers.after, Option.some.injEq] at after
  subst after
  refine ⟨r.connection, rfl, fun c found => standing c ?_⟩
  rwa [ToxTunCore.put_self] at found

theorem settles_of_outcome {t : Transition} {f : UInt32} {next : ToxTunCore}
    (settles : t.before.Settles t.outcome.state.core f) (after : t.after = some next) :
    t.before.Settles next f := by
  unfold Transition.after at after
  cases outcome : t.outcome with
  | returned v w | thrown e w =>
      rw [outcome] at after settles
      cases after
      exact settles
  | terminated w | outOfFuel w =>
      rw [outcome] at after
      cases after

section
variable {E : Env} (reenters : E.Reenters) {core next : ToxTunCore} {f : UInt32}
  (standing : core.StandingAt f)
include reenters standing

omit standing in
theorem acceptConnection_settles (registered : core.callbackFunction = true)
    (after : (step core (E, .acceptConnection f)).after = some next) : core.Settles next f := by
  obtain ⟨E, passive, userCallback, rfl, calls⟩ := reenters
  cases found : core.connections f with
  | none => exact (acceptConnection_missing found).settles (by simp) after
  | some c =>
      let fr := Frame.enter f c ⟨core, 0, []⟩
      have alive : fr.alive = true := rfl
      refine settles_of_outcome ?_ after
      by_cases ringing : c.state = .friendsRequestPending
      · obtain ⟨es, raises⟩ := accepted_raises (E := E) (Frame.live_enter core f c)
        rw [show (step core (E.withCallback userCallback, .acceptConnection f)).outcome = _ from
          acceptConnection_found found (acceptConnection_eq _ alive registered ringing)]
        exact raises.settles passive calls registered
      · have left : fr.leave = ⟨core, 0, []⟩ := World.setConnection_self found
        have erased := erase_outcome (E := E.withCallback userCallback) registered found
        rw [← left] at erased
        rw [show (step core (E.withCallback userCallback, .acceptConnection f)).outcome = _ from
          acceptConnection_caught found (acceptConnection_refused _ alive ringing) erased]
        rw [left]
        exact erased_settles passive calls registered c

end

end LibToxTun
