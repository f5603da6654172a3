import LibToxTun.Reentrancy.Positions

/-! # Callbacks that use the library

Where every operation raises its events, for any callback function at once. A call
made in an event comes to the same as the call made afterwards exactly where the
operation has done with the connection.
-/

namespace LibToxTun

open Foundation

/-- The entry of a friend is none of a connection that is being deleted. -/
def ToxTunCore.StandingAt (core : ToxTunCore) (f : UInt32) : Prop :=
  ∀ c, core.connections f = some c → c.state ≠ .deleting

/-- Only the entry of a friend is new, and it is none that is being deleted. -/
def ToxTunCore.Settles (core core' : ToxTunCore) (f : UInt32) : Prop :=
  ∃ entry, core' = core.put f entry ∧ core'.StandingAt f

/-! ## Where the handlers raise their events -/

/-- The last frame of an operation as it depends on the callback function, and the
events of an operation without calls. -/
inductive Raises (E : Env) (core : ToxTunCore) (f : UInt32)
    (last : (Event → Frame → Frame) → Frame) : List Event → Prop where
  | silent {y : Frame} (quiet : y.world.events f = []) (settles : core.Settles y.leave.core f)
      (same : ∀ userCallback, last userCallback = y) : Raises E core f last []
  | accepts {x : Frame} {c : Connection} {k : Nat} {ps : List Data} (live : x.Live core f c k ps [])
      (up : c.state = .connected)
      (same : ∀ userCallback, last userCallback =
        x.raise (E.withCallback userCallback) .connectionAccepted) :
      Raises E core f last [.connectionAccepted]
  | drops {x : Frame} {c : Connection} {k : Nat} {ps : List Data} (live : x.Live core f c k ps [])
      (standing : c.state ≠ .deleting) {event : Event}
      (dropped : event = .connectionRejected ∨ event = .connectionClosed)
      {tail : Frame → Frame} (burial : Burial tail)
      (same : ∀ userCallback, last userCallback =
        tail (x.raise (E.withCallback userCallback) event)) : Raises E core f last [event]
  | outlives {x : Frame} {c : Connection} {k : Nat} {ps : List Data} (live : x.Live core f c k ps [])
      (standing : c.state ≠ .deleting) (subnet ipPostfix : UInt8)
      (same : ∀ userCallback, last userCallback =
        x.outlived (E.withCallback userCallback) subnet ipPostfix) :
      Raises E core f last [.connectionClosed, .connectionAccepted]

theorem Frame.Live.settles {core : ToxTunCore} {f : UInt32} {c : Connection} {k : Nat}
    {ps : List Data} {es : List Event} {x : Frame} (live : x.Live core f c k ps es)
    (standing : c.state ≠ .deleting) : core.Settles x.leave.core f := by
  refine ⟨some c, live.leave.core_eq, fun c' found => ?_⟩
  rw [live.leave.core_eq, ToxTunCore.put_self, Option.some.injEq] at found
  exact found ▸ standing

section
variable {E : Env} {core : ToxTunCore} {f : UInt32} {c : Connection} {k : Nat} {ps : List Data}
  {x : Frame} (live : x.Live core f c k ps []) (standing : c.state ≠ .deleting)
include live standing

theorem kept_raises : Raises E core f (fun _ => x) [] :=
  .silent live.events (live.settles standing) fun _ => rfl

theorem killed_raises :
    Raises E core f (fun userCallback => x.killed (E.withCallback userCallback)) [.connectionClosed] :=
  .drops (live.tried _) standing (by decide) Frame.buried_burial fun _ => rfl

omit standing in
theorem Frame.Live.addressed (subnet ipPostfix : UInt8) :
    (x.addressed subnet ipPostfix).Live core f
      { c with tun := ⟨some (subnet, ipPostfix)⟩, state := .connected } k ps [] := by
  rw [Frame.addressed, Frame.touch_of_alive live.alive, live.self_eq]
  have device : Live core f { c with tun := ⟨some (subnet, ipPostfix)⟩ } k ps []
      ({ x with self := { c with tun := ⟨some (subnet, ipPostfix)⟩ } }.log
        (.ipSet x.connectedFriend subnet ipPostfix)) := (live.member _).log rfl rfl
  have entered := device.enterState .connected
  rw [touch_of_alive entered.alive]
  exact entered

omit live standing in
/-- The destructor of the entry runs before the entry goes. -/
theorem erased_raises (resets : c.state.resets = true) (last : E.unlinksFirst 0 = false) :
    Raises E core f
      (fun userCallback => (Frame.enter f c ⟨core, 0, []⟩).erased (E.withCallback userCallback))
      [.connectionClosed] := by
  refine .drops ((Frame.live_enter core f c).tried _) (fun deleting => ?_) (.inr rfl)
    Frame.expired_burial (erased_last resets last)
  rw [deleting] at resets
  cases resets

omit standing in
theorem accepted_raises :
    ∃ es, Raises E core f (fun userCallback => x.accepted (E.withCallback userCallback)) es := by
  have entered := live.enterState .expectingIpPacket
  simp only [Frame.accepted]
  cases sends : E.sends (x.enterState .expectingIpPacket).world.clock with
  | true =>
      simp only [withCallback_sends, sends, if_true]
      exact ⟨_, kept_raises (entered.sent _) (by simp)⟩
  | false =>
      simp only [withCallback_sends, sends, Bool.false_eq_true, if_false]
      exact ⟨_, killed_raises (entered.unsent _) (by simp)⟩

end

/-! ## The call in the event, and the call afterwards -/

section
variable {E : Env} {core : ToxTunCore} {f : UInt32} {last : (Event → Frame → Frame) → Frame}
  {es : List Event}

theorem Frame.Live.raised {x : Frame} {c : Connection} {k : Nat} {ps : List Data}
    (live : x.Live core f c k ps []) (event : Event) :
    (x.log (.raised event f)).Live core f c k ps [event] :=
  ⟨live.friend, live.linked, live.alive, live.core_eq, live.self_eq, live.clock_eq,
    by simp [live.packets, Effect.packetTo], by simp [live.events, Effect.eventOf]⟩

variable (passive : E.Passive) (raises : Raises E core f last es)
include passive raises

theorem Raises.events : (last E.userCallback).world.events f = es := by
  cases raises with
  | silent quiet _ same => rw [same, quiet]
  | accepts live up same =>
      rw [same, Frame.raise_passive _ (by exact passive), live.friend]
      exact (live.raised _).events
  | drops live standing dropped burial same =>
      rw [same, Frame.raise_passive _ (by exact passive), live.friend, World.events_visible,
        burial.visible, ← World.events_visible]
      exact (live.raised _).events
  | @outlives x c k ps live _ subnet ipPostfix same =>
      have passed : last E.userCallback = x.outlived E subnet ipPostfix := same _
      have first : (x.log (.raised .connectionClosed f)).world.events f = [.connectionClosed] :=
        (live.raised _).events
      have seen : ((x.log (.raised .connectionClosed f)).buried.addressed subnet
          ipPostfix).world.events f = [.connectionClosed] := by
        rw [World.events_visible, Frame.addressed_visible, Frame.buried_burial.visible,
          ← World.events_visible, first]
      rw [passed, outlived_passive passive live]
      simp only [World.events, Frame.log_trace, List.filterMap_append] at seen ⊢
      simp [seen, Effect.eventOf]

theorem Raises.same_iff (registered : core.callbackFunction = true) (joins : Nat) {n : Nat}
    {event : Event} (raised : es[n]? = some event) (u : UserCall) :
    (∀ note, ((last (E.calling n u note).userCallback).unwound joins).leave.Same
      (((last E.userCallback).unwound joins).leave.perform E f u note)) ↔
      event = .connectionRequested ∨
        event = .connectionAccepted ∧ (joins = 0 ∨ u.keeps = true ∨ n = 1) := by
  cases raises with
  | silent quiet _ same => simp at raised
  | @accepts x c k ps live up same =>
      obtain ⟨rfl, rfl⟩ : n = 0 ∧ event = .connectionAccepted := by
        cases n <;> simp_all
      have nested (note : UserResult → Data) : last (E.calling 0 u note).userCallback =
          (x.log (.raised .connectionAccepted f)).perform E u note :=
        (same _).trans (raise_calling_first live u rfl _ 0 note)
      have passed : last E.userCallback = x.log (.raised .connectionAccepted f) :=
        (same _).trans (live.friend ▸ x.raise_passive passive _)
      simp only [nested, passed, accepted_same_iff passive registered (live.raised _) u up]
      simp
  | @drops x c k ps live standing event' dropped tail burial same =>
      obtain ⟨rfl, rfl⟩ : n = 0 ∧ event = event' := by
        cases n <;> simp_all
      have nested (note : UserResult → Data) : last (E.calling 0 u note).userCallback =
          tail ((x.log (.raised event f)).perform E u note) :=
        (same _).trans (congrArg tail (raise_calling_first live u rfl _ 0 note))
      have passed : last E.userCallback = tail (x.log (.raised event f)) :=
        (same _).trans (congrArg tail (live.friend ▸ x.raise_passive passive _))
      simp only [nested, passed]
      exact iff_of_false (dropped_differs passive registered (live.raised event) u standing burial joins)
        (by rcases dropped with rfl | rfl <;> simp)
  | @outlives x c k ps live _ subnet ipPostfix same =>
      have passed : last E.userCallback = x.outlived E subnet ipPostfix := same _
      have nested (note : UserResult → Data) : last (E.calling n u note).userCallback =
          x.outlived (E.calling n u note) subnet ipPostfix := same _
      simp only [nested, passed]
      match n with
      | 0 =>
          cases raised
          exact iff_of_false (fun same => outlived_first_differs passive live u rfl subnet ipPostfix
            joins _ (same fun _ => Data.fromPacketId .connectionRequest)) (by simp)
      | 1 =>
          cases raised
          exact iff_of_true (outlived_second_same passive live u rfl subnet ipPostfix joins) (by simp)
      | n + 2 => simp at raised

end

/-! ## Every operation -/

section
variable {E : Env} {core : ToxTunCore} (registered : core.callbackFunction = true) {f : UInt32}
  {c : Connection} (found : core.connections f = some c)
include registered found

theorem erase_outcome : ToxTunCore.erase E f ⟨core, 0, []⟩ =
    .returned 1 ((Frame.enter f c ⟨core, 0, []⟩).erased E).leave := by
  have erased := eraseSelf_eq E (show (Frame.enter f c ⟨core, 0, []⟩).alive = true from rfl)
    fun _ => registered
  simp [ToxTunCore.erase, ToxTunCore.connection, found, onConnection, erased]

end

section
variable {E : Env} (passive : E.Passive) {core : ToxTunCore}
  (registered : core.callbackFunction = true) {f : UInt32} (call : Call) {n : Nat} {event : Event}
  (raised : ((step core (E, call.op f)).outcome.state.events f)[n]? = some event) (u : UserCall)
include passive registered raised

end

section
variable {E : Env} (passive : E.Passive) {core : ToxTunCore}
  (registered : core.callbackFunction = true) {f : UInt32}
  (standing : core.StandingAt f) {n : Nat} {event : Event}
  (u : UserCall)
include passive registered

include standing

end

end LibToxTun
