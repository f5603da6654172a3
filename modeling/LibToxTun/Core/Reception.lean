import LibToxTun.Connection.Arrival
import LibToxTun.Core.Preservation

/-! # Received packets

How an operation that receives a packet for an existing connection ends: the
packet travels through the store of the connection, and the packet it arrives as
is dispatched on the frame of that connection.
-/

namespace LibToxTun

open Foundation

namespace Transition

/-- The connection a received packet is for, and what becomes of the packet there. -/
def reception (t : Transition) : Option (UInt32 × Connection × Arrival) :=
  match t.op with
  | .receive f dataRaw =>
      (t.before.connections f).map fun c => (f, c, c.fragments.arrival (Data.fromToxData dataRaw))
  | _ => none

/-- The frame in which the connection of a friend meets a packet. -/
def frame (t : Transition) (f : UInt32) (c : Connection) : Frame :=
  Frame.enter f c ⟨t.before, 0, []⟩

end Transition

theorem handleData_guarded (E : Env) (d : Data) (fr : Frame) :
    (handleData E d fr).guarded = handleData E d fr :=
  handleDataFuel_guarded E _ d fr

theorem step_receive {core : ToxTunCore} {E : Env} {f : UInt32} {c : Connection}
    (found : core.connections f = some c) (dataRaw : List UInt8) :
    (step core (E, .receive f dataRaw)).outcome =
      (handleData E (Data.fromToxData dataRaw) (Frame.enter f c ⟨core, 0, []⟩)).mapState
        Frame.leave := by
  simp only [step, exec, ToxTunCore.toxPacketCallback, ToxTunCore.handleData,
    Action.noexcept_apply, Action.bind_apply, ToxTunCore.connection, Action.read_apply,
    Outcome.andThen_returned, found, onConnection, Outcome.guarded_mapState, handleData_guarded]

theorem effects_of_outcome {t : Transition} {o : Outcome Exn Frame Unit}
    (outcome : t.outcome = o.mapState Frame.leave) : t.effects = o.state.world.trace := by
  rw [Transition.effects, outcome, Outcome.mapState_state]
  exact Frame.leave_trace _

/-- A received packet does what its arrival does to the frame of its connection. -/
theorem step_reception {core : ToxTunCore} {input : Env × Op} {f : UInt32} {c : Connection}
    {a : Arrival} (h : (step core input).reception = some (f, c, a)) :
    core.connections f = some c ∧ a ≠ .unfinished ∧
      ∃ o, a.outcome input.1 ((step core input).frame f c) o ∧
        (step core input).outcome = o.mapState Frame.leave := by
  obtain ⟨E, op⟩ := input
  cases op with
  | receive f' dataRaw =>
      simp only [Transition.reception, step, Option.map_eq_some_iff, Prod.mk.injEq] at h
      obtain ⟨c', found, rfl, rfl, rfl⟩ := h
      exact ⟨found, Fragments.arrival_finishes _ _, _,
        handleData_arrival E (show (Frame.enter f' c' ⟨core, 0, []⟩).alive = true from rfl)
          (Data.fromToxData_toxHeaderSet dataRaw), step_receive found dataRaw⟩
  | _ => simp [Transition.reception, step] at h

theorem reception_packet {t : Transition} {f : UInt32} {c : Connection} {d : Data} {joins : Nat}
    {fs : Fragments} (h : t.reception = some (f, c, .packet d joins fs)) :
    d.toxHeaderSet = true ∧ PacketId.ofByte d.header ≠ .fragment := by
  unfold Transition.reception at h
  split at h
  · simp only [Option.map_eq_some_iff, Prod.mk.injEq] at h
    obtain ⟨c', _, rfl, rfl, arrival⟩ := h
    exact Fragments.arrive_packet (Data.fromToxData_toxHeaderSet _) arrival
  · cases h

theorem unwound_emits {P : Effect → Prop} (dangling : ∀ f field, P (.dangling f field))
    (fr : Frame) (joins : Nat) : Emits P fr.world (fr.unwound joins).world := by
  induction joins with
  | zero => exact Std.Refl.refl _
  | succ joins ih =>
      rw [Frame.unwound, Function.iterate_succ_apply']
      exact (ih.touch .connectedFriend (dangling _ _)).touch .fragments (dangling _ _)

/-! ## Friends without a connection -/

namespace ToxTunCore

variable (E : Env) {w : World}

theorem erase_absent {f : UInt32} (absent : w.core.connections f = none) :
    erase E f w = .returned 0 w := by
  simp [erase, connection, absent]

theorem handleConnectionRequest_opened (registered : w.core.callbackFunction = true)
    (opens : E.tunOpens w.clock = true) (f : UInt32) :
    handleConnectionRequest E f w = .returned ()
      ((Frame.enter f (Connection.initial false)
        (w.tick.setConnection f (some (Connection.initial false)))).raise E
          .connectionRequested).leave := by
  let c := Connection.initial false
  let w' := w.tick.setConnection f (some c)
  have found : w'.core.connections f = some c := Function.update_self ..
  have emplaced : emplace E f false w = .returned () w' := by
    simp [emplace, opens, w', c, Frame.leave, Frame.enter]
  have raised : raiseRequested E f w' = .returned ()
      ((Frame.enter f c w').raise E .connectionRequested).leave := by
    simp only [raiseRequested, connection, Action.bind_apply, Action.read_apply,
      Outcome.andThen_returned, found, onConnection]
    rw [callback_eq E (show (Frame.enter f c w').world.core.callbackFunction = true from registered)]
    simp [Frame.touch_of_alive, Frame.enter]
  simp only [handleConnectionRequest, Action.noexcept_apply, Action.bind_apply,
    Action.read_apply, Outcome.andThen_returned, registered, Bool.not_true, catchToxTunError,
    Action.tryCatch_apply, emplaced, raised, Bool.false_eq_true, if_false, Action.pure_apply,
    Outcome.rescued_returned, if_true, Outcome.guarded_returned, c, w']

theorem handleConnectionRequest_unopened (registered : w.core.callbackFunction = true)
    (closed : E.tunOpens w.clock = false) {f : UInt32} (absent : w.core.connections f = none) :
    handleConnectionRequest E f w = .returned ()
      (w.tick.log (.sent f (Data.fromPacketId .connectionReset) (E.sends w.tick.clock))).tick := by
  have missing : w.tick.core.connections f = none := absent
  have thrown : (do emplace E f false; pure true : Code World Bool) w =
      .thrown (.toxTunError "Error while opening \"/dev/net/tun\": ") w.tick := by
    simp [emplace, closed]
  simp only [handleConnectionRequest, Action.noexcept_apply, Action.bind_apply, Action.read_apply,
    Outcome.andThen_returned, registered, Bool.not_true, Bool.false_eq_true, if_false]
  rw [catchToxTunError_thrown thrown]
  simp [erase_absent E missing, resetFriend_eq]

/-- A packet from a friend without a connection is processed to its end. -/
theorem handleData_absent (registered : w.core.callbackFunction = true) {d : Data}
    (set : d.toxHeaderSet = true) {f : UInt32} (absent : w.core.connections f = none) :
    ∃ w', handleData E d f w = .returned () w' := by
  simp only [handleData, Action.noexcept_apply, Action.bind_apply, connection, Action.read_apply,
    Outcome.andThen_returned, absent, Data.getToxHeader_of_set set, Action.ofExcept_ok]
  cases PacketId.ofByte d.header with
  | connectionRequest =>
      cases opens : E.tunOpens w.clock with
      | true =>
          exact ⟨_, congrArg Outcome.guarded (handleConnectionRequest_opened E registered opens f)⟩
      | false =>
          exact ⟨_, congrArg Outcome.guarded
            (handleConnectionRequest_unopened E registered opens absent)⟩
  | connectionReset => exact ⟨w, rfl⟩
  | _ => exact ⟨_, congrArg Outcome.guarded (resetFriend_eq E f w)⟩

end ToxTunCore

end LibToxTun
