import LibToxTun.Core.Mute

/-! # Calls from inside an event

The callback function may call the library for the friend of its event. The call
works on the table as the event finds it: while the object whose handler raises the
event is an entry of the table, the call meets this object, and may destroy it below
the handler. What the callback does with the result is shown by a packet that it
hands to tox.
-/

namespace LibToxTun

open Foundation

/-- The calls that the callback function can make for a friend. -/
inductive UserCall where
  | getConnectionState
  | sendConnectionRequest
  | acceptConnection
  | rejectConnection
  | closeConnection
deriving DecidableEq, Repr

/-- What the caller gets: a state, nothing, or an exception. -/
inductive UserResult where
  | state (connectionState : ConnectionState)
  | returned
  | thrown (error : Exn)
  | ended
deriving DecidableEq, Repr

def UserResult.ofOutcome : Outcome Exn World Unit → UserResult
  | .returned _ _ => .returned
  | .thrown e _ => .thrown e
  | .terminated _ => .ended
  | .outOfFuel _ => .ended

namespace UserCall

variable (E : Env) (f : UInt32)

def run : UserCall → Code World Unit
  | getConnectionState => pure ()
  | sendConnectionRequest => ToxTunCore.sendConnectionRequest E f
  | acceptConnection => ToxTunCore.acceptConnection E f
  | rejectConnection => ToxTunCore.rejectConnection E f
  | closeConnection => ToxTunCore.closeConnection E f

def result (u : UserCall) (w : World) : UserResult :=
  match u with
  | getConnectionState => .state (w.core.getConnectionState f)
  | u => .ofOutcome (u.run E f w)

/-- The calls that leave a connection that is up in place. -/
def keeps : UserCall → Bool
  | getConnectionState => true
  | sendConnectionRequest => true
  | _ => false

end UserCall

/-- A call of the user, and the note the user makes of its result. -/
def World.perform (E : Env) (f : UInt32) (u : UserCall) (note : UserResult → Data) (w : World) :
    World :=
  (u.run E f w).state.log (.sent f (note (u.result E f w)) true)

/-- The call is made by the callback function, in an event of the connection. -/
def Frame.perform (E : Env) (u : UserCall) (note : UserResult → Data) (fr : Frame) : Frame :=
  let w := fr.leave.perform E fr.connectedFriend u note
  if fr.linked then
    match w.core.connections fr.connectedFriend with
    | some c => { fr with self := c, world := w }
    | none => { fr with linked := false, alive := false, world := w }
  else { fr with world := w }

/-- The events of a friend that have been raised. -/
def World.events (f : UInt32) (w : World) : List Event := w.trace.filterMap (Effect.eventOf f)

/-- The callback function makes a call in the event with a number, and only there. -/
def Env.calling (E : Env) (n : Nat) (u : UserCall) (note : UserResult → Data) : Env :=
  { E with userCallback := fun _ fr =>
      if (fr.world.events fr.connectedFriend).length = n + 1 then fr.perform E u note else fr }

/-- Packets handed to tox and events. -/
def Effect.visible : Effect → Bool
  | .sent _ _ _ => true
  | .raised _ _ => true
  | _ => false

/-- Accesses to a destroyed object, after which nothing is certain. -/
def Effect.isDangling : Effect → Bool
  | .dangling _ _ => true
  | _ => false

/-- The tables are the same, and so are packets and events and the accesses to destroyed
objects. -/
structure World.Same (w w' : World) : Prop where
  core : w.core = w'.core
  visible : w.trace.filter Effect.visible = w'.trace.filter Effect.visible
  dangling : w.trace.filter Effect.isDangling = w'.trace.filter Effect.isDangling

section
variable {E : Env} {f : UInt32} {w : World} {c : Connection}

theorem World.setConnection_self (h : w.core.connections f = some c) :
    w.setConnection f (some c) = w := by
  rw [World.setConnection, ← h, Function.update_eq_self]

section
variable {u : UserCall} {note : UserResult → Data} {fr : Frame}

theorem Frame.perform_unlinked (unlinked : fr.linked = false) :
    fr.perform E u note = { fr with world := fr.world.perform E fr.connectedFriend u note } := by
  simp [perform, Frame.leave, unlinked]

theorem Frame.perform_kept (linked : fr.linked = true)
    (entry : (fr.leave.perform E fr.connectedFriend u note).core.connections fr.connectedFriend =
      some c) :
    fr.perform E u note =
      { fr with self := c, world := fr.leave.perform E fr.connectedFriend u note } := by
  simp [perform, linked, entry]

theorem Frame.perform_destroyed (linked : fr.linked = true)
    (entry : (fr.leave.perform E fr.connectedFriend u note).core.connections fr.connectedFriend =
      none) :
    fr.perform E u note = { fr with
      linked := false, alive := false, world := fr.leave.perform E fr.connectedFriend u note } := by
  simp [perform, linked, entry]

end

/-- A call made in an event is a call made on the table that the event finds. -/
theorem Frame.perform_leave (E : Env) (u : UserCall) (note : UserResult → Data) (fr : Frame) :
    (fr.perform E u note).leave = fr.leave.perform E fr.connectedFriend u note := by
  cases linked : fr.linked with
  | true =>
      cases entry : (fr.leave.perform E fr.connectedFriend u note).core.connections
          fr.connectedFriend with
      | none =>
          rw [perform_destroyed linked entry]
          rfl
      | some c =>
          rw [perform_kept linked entry]
          exact (if_pos linked).trans (World.setConnection_self entry)
  | false =>
      rw [perform_unlinked linked]
      simp [Frame.leave, linked]

theorem UserCall.run_respects {Q : World → World → Prop} [IsPreorder World Q]
    (h : E.PreservesErasure Q) (u : UserCall) : Q w (u.run E f w).state := by
  have same (op : Op) (receives : ∀ f dataRaw, op ≠ .receive f dataRaw)
      (sets : ∀ callback, op ≠ .setCallback callback) : Q w (exec E op w).state :=
    exec_state h (fun f dataRaw _ is _ => (receives f dataRaw is).elim)
      fun callback is => (sets callback is).elim
  cases u with
  | getConnectionState => exact Std.Refl.refl w
  | sendConnectionRequest => exact same (.sendConnectionRequest f) (by simp) (by simp)
  | acceptConnection => exact same (.acceptConnection f) (by simp) (by simp)
  | rejectConnection => exact same (.rejectConnection f) (by simp) (by simp)
  | closeConnection => exact same (.closeConnection f) (by simp) (by simp)

theorem UserCall.run_extends (passive : E.Passive) (u : UserCall) (w : World) :
    ∃ l, (u.run E f w).state.trace = w.trace ++ l := by
  have emits : Emits (fun _ => True) w (u.run E f w).state :=
    u.run_respects (preservesErasure_emits (fun _ _ => trivial) fun event fr => by
      rw [passive event fr]
      exact Std.Refl.refl _)
  obtain ⟨l, same, -⟩ := emits
  exact ⟨l, same⟩

theorem ToxTunCore.sendConnectionRequest_absent (absent : w.core.connections f = none) :
    ToxTunCore.sendConnectionRequest E f w =
      let requested (status : Bool) :=
        (w.tick.log (.sent f (Data.fromPacketId .connectionRequest) status)).tick
      if E.tunOpens w.clock then
        if E.sends (w.clock + 1) then
          .returned () ((requested true).setConnection f (some (Connection.initial true)))
        else .thrown (.toxTunError ("Can't send lossless packet to " ++ toString f)) (requested false)
      else .thrown (.toxTunError "Error while opening \"/dev/net/tun\": ") w.tick := by
  let fr := Frame.enter f (Connection.initial true) w.tick
  have sent := sendToTox_control E (d := Data.fromPacketId .connectionRequest)
    ⟨Nat.le_add_left 1 3, rfl⟩ (show fr.alive = true from rfl)
  have emplaced : ToxTunCore.sendConnectionRequest E f w = ToxTunCore.emplace E f true w := by
    simp [ToxTunCore.sendConnectionRequest, ToxTunCore.connection, absent]
  rw [emplaced]
  simp only [ToxTunCore.emplace, Action.bind_apply, Action.read_apply, Outcome.andThen_returned,
    Action.modify_apply, LibToxTun.sendConnectionRequest, if_true]
  cases opens : E.tunOpens w.clock with
  | false => rfl
  | true =>
      simp only [Bool.not_true, Bool.false_eq_true, if_false, if_true]
      rw [sent]
      cases sends : E.sends (w.clock + 1) with
      | false =>
          rw [if_neg (by simp [fr, Frame.enter, World.tick, sends])]
          rfl
      | true =>
          rw [if_pos (show E.sends fr.world.clock = true from sends)]
          rfl

/-- Without a connection a call does not depend on what has been recorded. -/
theorem UserCall.run_absent (u : UserCall) {core : ToxTunCore} (absent : core.connections f = none)
    (clock : Nat) : ∃ r core' clock' l, l.filter Effect.isDangling = [] ∧ ∀ trace,
      u.result E f ⟨core, clock, trace⟩ = r ∧
        (u.run E f ⟨core, clock, trace⟩).state = ⟨core', clock', trace ++ l⟩ := by
  cases u with
  | getConnectionState =>
      exact ⟨.state (core.getConnectionState f), core, clock, [], rfl, fun trace => ⟨rfl, by simp [run]⟩⟩
  | sendConnectionRequest =>
      have asked (trace : List Effect) :=
        ToxTunCore.sendConnectionRequest_absent (E := E) (w := ⟨core, clock, trace⟩) absent
      simp only [result, run, asked]
      split
      · split
        · exact ⟨.returned, core.put f (some (Connection.initial true)), clock + 2, [_], rfl,
            fun trace => ⟨rfl, rfl⟩⟩
        · exact ⟨.thrown _, core, clock + 2, [_], rfl, fun trace => ⟨rfl, rfl⟩⟩
      · exact ⟨.thrown _, core, clock + 1, [], rfl,
          fun trace => ⟨rfl, (congrArg _ (List.append_nil _)).symm⟩⟩
  | acceptConnection =>
      refine ⟨.thrown (.toxTunError "No connection to accept from this friend"), core, clock, [], rfl,
        fun trace => ?_⟩
      simp [result, run, ToxTunCore.acceptConnection, ToxTunCore.connection, absent,
        UserResult.ofOutcome]
  | rejectConnection =>
      refine ⟨.returned, core, clock, [], rfl, fun trace => ?_⟩
      have erased := ToxTunCore.erase_absent E (w := ⟨core, clock, trace⟩) absent
      simp [result, run, ToxTunCore.rejectConnection, erased, UserResult.ofOutcome]
  | closeConnection =>
      refine ⟨.returned, core, clock, [], rfl, fun trace => ?_⟩
      have erased := ToxTunCore.erase_absent E (w := ⟨core, clock, trace⟩) absent
      simp [result, run, ToxTunCore.closeConnection, ToxTunCore.deleteConnection, erased,
        UserResult.ofOutcome]

/-! ## What an event can tell of the connection -/

/-- The packet and the event of a destructor. -/
def State.goodbyes (s : State) (f : UInt32) (status : Bool) : List Effect :=
  match s with
  | .friendsRequestPending => [.sent f (Data.fromPacketId .connectionReject) status]
  | .ownRequestPending | .expectingIpPacket | .expectingIpConfirmation =>
      [.sent f (Data.fromPacketId .connectionReset) status, .raised .connectionClosed f]
  | .connected => [.sent f (Data.fromPacketId .connectionClose) status]
  | .deleting => []

theorem State.goodbyes_visible {s : State} (standing : s ≠ .deleting) (f : UInt32) (status : Bool) :
    (s.goodbyes f status).filter Effect.visible ≠ [] := by
  cases s <;> simp_all [goodbyes, Effect.visible]

section
variable (passive : E.Passive) (registered : w.core.callbackFunction = true)
  (found : w.core.connections f = some c)
include passive registered found

theorem ToxTunCore.erase_goodbyes : ∃ w', ToxTunCore.erase E f w = .returned 1 w' ∧
    w'.trace = w.trace ++ (c.state.goodbyes f (E.sends w.clock) ++ [.destroyed f]) ∧
    w'.core = w.core.put f none := by
  let fr := Frame.enter f c w
  have erased : eraseSelf E fr = .returned () (fr.unlinked.farewell E).expired :=
    (eraseSelf_eq E (show fr.alive = true from rfl) fun _ => registered).trans
      (congrArg (Outcome.returned ()) (fr.erased_eq E fun _ => passive))
  refine ⟨(fr.unlinked.farewell E).expired.leave, ?_, ?_, ?_⟩
  · simp only [fr] at erased
    simp [ToxTunCore.erase, ToxTunCore.connection, found, onConnection, erased, fr]
  · rw [Frame.leave_trace]
    cases state : c.state <;>
      simp [fr, Frame.expired, Frame.unlinked, Frame.farewell, Frame.enter, Frame.raise, state,
        State.goodbyes, passive _ _, World.setConnection]
  · cases state : c.state <;>
      simp [fr, Frame.expired, Frame.unlinked, Frame.farewell, Frame.enter, Frame.raise, Frame.leave,
        Frame.log, World.log, Frame.sent, World.tick, state, passive _ _, World.setConnection,
        ToxTunCore.put]

/-- What a call on a standing connection returns, or what it shows, differs from the
same call where there is no connection. -/
theorem UserCall.tells_apart (standing : c.state ≠ .deleting) (u : UserCall) {w' : World}
    (absent : w'.core.connections f = none) :
    u.result E f w ≠ u.result E f w' ∨
      (∃ l, (u.run E f w).state.trace = w.trace ++ l ∧ l.filter Effect.visible ≠ []) ∧
        (u.run E f w').state.trace = w'.trace := by
  have goodbye := State.goodbyes_visible standing f (E.sends w.clock)
  obtain ⟨w₁, erased, trace, -⟩ := ToxTunCore.erase_goodbyes passive registered found
  have missing := ToxTunCore.erase_absent E absent
  cases u with
  | getConnectionState =>
      refine .inl ?_
      simp only [result, ToxTunCore.getConnectionState, found, absent, Connection.getConnectionState]
      cases state : c.state <;> simp_all
  | sendConnectionRequest =>
      refine .inl ?_
      have refused : ToxTunCore.sendConnectionRequest E f w = .thrown (.toxTunError
          "You have allready an open connection to this friend") w := by
        simp [ToxTunCore.sendConnectionRequest, ToxTunCore.connection, found]
      have unsent : "You have allready an open connection to this friend" ≠
          "Can't send lossless packet to " ++ toString f := (unsent_text (by decide) f).symm
      simp only [result, run, refused, ToxTunCore.sendConnectionRequest_absent absent]
      split
      · split
        · simp [UserResult.ofOutcome]
        · simp [UserResult.ofOutcome, unsent]
      · simp [UserResult.ofOutcome]
  | acceptConnection =>
      refine .inl ?_
      have none_there : ToxTunCore.acceptConnection E f w' =
          .thrown (.toxTunError "No connection to accept from this friend") w' := by
        simp [ToxTunCore.acceptConnection, ToxTunCore.connection, absent]
      let fr := Frame.enter f c w
      have alive : fr.alive = true := rfl
      by_cases ringing : c.state = .friendsRequestPending
      · have accepted := acceptConnection_found found (acceptConnection_eq E alive registered ringing)
        simp [result, run, accepted, none_there, UserResult.ofOutcome]
      · have left : fr.leave = w := World.setConnection_self found
        have refused := acceptConnection_caught found (acceptConnection_refused E alive ringing)
          (left.symm ▸ erased)
        simp [result, run, refused, none_there, UserResult.ofOutcome]
  | rejectConnection =>
      refine .inr ⟨⟨c.state.goodbyes f (E.sends w.clock) ++ [.destroyed f], ?_, ?_⟩, ?_⟩
      · simp [run, ToxTunCore.rejectConnection, erased, trace]
      · simp [List.filter_append, goodbye]
      · simp [run, ToxTunCore.rejectConnection, missing]
  | closeConnection =>
      refine .inr ⟨⟨c.state.goodbyes f (E.sends w.clock) ++ [.destroyed f], ?_, ?_⟩, ?_⟩
      · simp [run, ToxTunCore.closeConnection, ToxTunCore.deleteConnection, erased, trace]
      · simp [List.filter_append, goodbye]
      · simp [run, ToxTunCore.closeConnection, ToxTunCore.deleteConnection, missing]

/-- A connection that is up stays where the call keeps it, and is gone otherwise. -/
theorem UserCall.run_connected (up : c.state = .connected) (u : UserCall) :
    if u.keeps then u.run E f w = .returned () w ∨ ∃ e, u.run E f w = .thrown e w
    else (u.run E f w).state.core.connections f = none := by
  obtain ⟨w₁, erased, -, core⟩ := ToxTunCore.erase_goodbyes passive registered found
  have gone : w₁.core.connections f = none := by rw [core, ToxTunCore.put_self]
  cases u with
  | getConnectionState => exact .inl rfl
  | sendConnectionRequest =>
      refine .inr ⟨.toxTunError "You have allready an open connection to this friend", ?_⟩
      simp [run, ToxTunCore.sendConnectionRequest, ToxTunCore.connection, found]
  | acceptConnection =>
      let fr := Frame.enter f c w
      have left : fr.leave = w := World.setConnection_self found
      have silent : c.state ≠ .friendsRequestPending := by rw [up]; decide
      have refused := acceptConnection_caught found
        (acceptConnection_refused E (show fr.alive = true from rfl) silent) (left.symm ▸ erased)
      simpa [keeps, run, refused] using gone
  | rejectConnection => simpa [keeps, run, ToxTunCore.rejectConnection, erased] using gone
  | closeConnection =>
      simpa [keeps, run, ToxTunCore.closeConnection, ToxTunCore.deleteConnection, erased] using gone

end

end

end LibToxTun
