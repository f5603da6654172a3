import LibToxTun.Connection.Machine

/-! # The table of connections

`ToxTunCore` receives the packets of all friends and carries the calls of the
user. A handler of a connection runs on a frame made from its table entry; when
it is done, the object goes back to the table unless it was erased. A run is a
list of operations, each with the answers of the environment it meets.
-/

namespace LibToxTun

open Foundation

/-- The frame in which a member function of the connection of a friend starts. -/
def Frame.enter (friendNumber : UInt32) (c : Connection) (w : World) : Frame :=
  ⟨friendNumber, c, true, true, w⟩

def Frame.leave (fr : Frame) : World :=
  if fr.linked then fr.world.setConnection fr.connectedFriend (some fr.self) else fr.world

@[simp] theorem Frame.leave_trace (fr : Frame) : fr.leave.trace = fr.world.trace := by
  unfold Frame.leave
  split <;> rfl

def onConnection {α : Type} (friendNumber : UInt32) (c : Connection) (a : Code Frame α) :
    Code World α :=
  fun w => (a (Frame.enter friendNumber c w)).mapState Frame.leave

def Connection.initial (initiateConnection : Bool) : Connection where
  tun := ⟨none⟩
  state := if initiateConnection then .ownRequestPending else .friendsRequestPending
  fragments := fun _ => []
  nextFragmentIndex := 0
  subnet := -1

namespace ToxTunCore

def connection (friendNumber : UInt32) : Code World (Option Connection) :=
  Action.read fun w => w.core.connections friendNumber

section
variable (E : Env)

/-- `connections.erase(friendNumber)`; the result is the number of entries erased. -/
def erase (friendNumber : UInt32) : Code World Nat := do
  match ← connection friendNumber with
  | none => pure 0
  | some c => do
      onConnection friendNumber c (eraseSelf E)
      pure 1

/-- `connections.emplace`: the TAP device is opened, and an object that initiates
the connection sends its request. When either throws, no entry is made and the
destructor of the connection does not run. -/
def emplace (friendNumber : UInt32) (initiateConnection : Bool) : Code World Unit := do
  let opened ← Action.read fun w => E.tunOpens w.clock
  Action.modify World.tick
  if !opened then
    Action.throw (.toxTunError "Error while opening \"/dev/net/tun\": ")
  else fun w =>
    let fr := Frame.enter friendNumber (Connection.initial initiateConnection) w
    match (if initiateConnection then LibToxTun.sendConnectionRequest E else pure ()) fr with
    | .returned () fr' => .returned () fr'.leave
    | .thrown e fr' => .thrown e fr'.world
    | .terminated fr' => .terminated fr'.world
    | .outOfFuel fr' => .outOfFuel fr'.world

/-- The event of a new request, raised with the connection in the table. -/
def raiseRequested (friendNumber : UInt32) : Code World Unit := do
  match ← connection friendNumber with
  | none => pure ()
  | some c => onConnection friendNumber c (LibToxTun.callback E .connectionRequested)

def handleConnectionRequest (friendNumber : UInt32) : Code World Unit := Action.noexcept do
  if ← Action.read fun w => !w.core.callbackFunction then pure ()
  else
    let created ← catchToxTunError (do emplace E friendNumber false; pure true) do
      let _ ← erase E friendNumber
      resetFriend E friendNumber
      pure false
    if created then raiseRequested E friendNumber

def handleData (data : Data) (friendNumber : UInt32) : Code World Unit := Action.noexcept do
  match ← connection friendNumber with
  | some c => onConnection friendNumber c (LibToxTun.handleData E data)
  | none =>
      match ← Action.ofExcept data.getToxHeader with
      | .connectionRequest => handleConnectionRequest E friendNumber
      | .connectionReset => pure ()
      | _ => resetFriend E friendNumber

def toxPacketCallback (friendNumber : UInt32) (dataRaw : List UInt8) : Code World Unit :=
  Action.noexcept (handleData E (Data.fromToxData dataRaw) friendNumber)

def setCallback (callback : Bool) : Code World Unit :=
  Action.modify fun w => { w with core := { w.core with callbackFunction := callback } }

def sendConnectionRequest (friendNumber : UInt32) : Code World Unit := do
  if (← connection friendNumber).isSome then
    Action.throw (.toxTunError "You have allready an open connection to this friend")
  else emplace E friendNumber true

def acceptConnection (friendNumber : UInt32) : Code World Unit := do
  match ← connection friendNumber with
  | some c => fun w =>
      match onConnection friendNumber c (LibToxTun.acceptConnection E) w with
      | .thrown (.toxTunError what) w' =>
          (do let _ ← erase E friendNumber
              Action.throw (.toxTunError what)) w'
      | o => o
  | none => Action.throw (.toxTunError "No connection to accept from this friend")

def rejectConnection (friendNumber : UInt32) : Code World Unit := Action.noexcept do
  let _ ← erase E friendNumber

def deleteConnection (friendNumber : UInt32) : Code World Unit := Action.noexcept do
  let _ ← erase E friendNumber

def closeConnection (friendNumber : UInt32) : Code World Unit := Action.noexcept do
  deleteConnection E friendNumber

/-- The share of one connection in a call of `iterate`. -/
def iterate (friendNumber : UInt32) (reads : List (Except Exn Data)) : Code World Unit :=
  Action.noexcept do
    match ← connection friendNumber with
    | some c => onConnection friendNumber c (LibToxTun.iterate E reads)
    | none => pure ()

end

/-- The entries of the table are destroyed one after the other. -/
def destroyAll (E : Env) : List UInt32 → Code World Unit
  | [] => pure ()
  | f :: rest => do
      let _ ← erase E f
      destroyAll E rest

/-- The destructor of the core, with the friends in the order of the table. -/
def destructor (E : Env) (friends : List UInt32) : Code World Unit :=
  Action.noexcept (destroyAll E friends)

def getConnectionState (core : ToxTunCore) (friendNumber : UInt32) : ConnectionState :=
  match core.connections friendNumber with
  | none => .disconnected
  | some c => c.getConnectionState

def empty (callbackFunction : Bool) : ToxTunCore := ⟨fun _ => none, callbackFunction⟩

end ToxTunCore

/-! ## Runs -/

/-- What can happen to a core: a packet from a friend, or a call of the user. -/
inductive Op where
  | receive (friendNumber : UInt32) (dataRaw : List UInt8)
  | setCallback (callback : Bool)
  | iterate (friendNumber : UInt32) (reads : List (Except Exn Data))
  | sendConnectionRequest (friendNumber : UInt32)
  | acceptConnection (friendNumber : UInt32)
  | rejectConnection (friendNumber : UInt32)
  | closeConnection (friendNumber : UInt32)

def exec (E : Env) : Op → Code World Unit
  | .receive f dataRaw => ToxTunCore.toxPacketCallback E f dataRaw
  | .setCallback callback => ToxTunCore.setCallback callback
  | .iterate f reads => ToxTunCore.iterate E f reads
  | .sendConnectionRequest f => ToxTunCore.sendConnectionRequest E f
  | .acceptConnection f => ToxTunCore.acceptConnection E f
  | .rejectConnection f => ToxTunCore.rejectConnection E f
  | .closeConnection f => ToxTunCore.closeConnection E f

/-- One operation, with the table it started from and how it ended. -/
structure Transition where
  env : Env
  op : Op
  before : ToxTunCore
  outcome : Outcome Exn World Unit

namespace Transition

def effects (t : Transition) : List Effect := t.outcome.state.trace

/-- The table the next operation meets. An exception of an API call goes to the
user; a terminated process meets no operation. -/
def after (t : Transition) : Option ToxTunCore :=
  match t.outcome with
  | .returned _ w => some w.core
  | .thrown _ w => some w.core
  | .terminated _ => none
  | .outOfFuel _ => none

end Transition

def step (core : ToxTunCore) (input : Env × Op) : Transition :=
  ⟨input.1, input.2, core, exec input.1 input.2 ⟨core, 0, []⟩⟩

/-- The operations of a run, up to the first one that ends the process. -/
def transitions (core : ToxTunCore) : List (Env × Op) → List Transition
  | [] => []
  | input :: inputs =>
      let t := step core input
      t :: match t.after with
        | some next => transitions next inputs
        | none => []

theorem transitions_of_after {core next : ToxTunCore} {input : Env × Op}
    (after : (step core input).after = some next) (inputs : List (Env × Op)) :
    transitions core (input :: inputs) = step core input :: transitions next inputs := by
  rw [transitions, after]

theorem transitions_of_end {core : ToxTunCore} {input : Env × Op}
    (ended : (step core input).after = none) (inputs : List (Env × Op)) :
    transitions core (input :: inputs) = [step core input] := by
  rw [transitions, ended]

theorem transitions_before {core : ToxTunCore} {inputs : List (Env × Op)} {t : Transition}
    {ts : List Transition} (split : transitions core inputs = t :: ts) : t.before = core := by
  cases inputs with
  | nil => cases split
  | cons input inputs =>
      rw [transitions, List.cons.injEq] at split
      rw [← split.1]
      rfl

/-- An invariant of the table holds before every operation of a run. -/
theorem mem_transitions {I : ToxTunCore → Prop} {core : ToxTunCore} {inputs : List (Env × Op)}
    (start : I core)
    (preserved : ∀ before, I before → ∀ input ∈ inputs, ∀ next,
      (step before input).after = some next → I next)
    {t : Transition} (h : t ∈ transitions core inputs) :
    ∃ before, I before ∧ ∃ input ∈ inputs, t = step before input := by
  induction inputs generalizing core with
  | nil => simp [transitions] at h
  | cons input inputs ih =>
      simp only [transitions, List.mem_cons] at h
      rcases h with rfl | h
      · exact ⟨core, start, input, List.mem_cons_self, rfl⟩
      · split at h
        · next next after =>
            obtain ⟨before, inv, later, hmem, rfl⟩ :=
              ih (preserved core start input List.mem_cons_self next after)
                (fun before inv later hmem =>
                  preserved before inv later (List.mem_cons_of_mem _ hmem)) h
            exact ⟨before, inv, later, List.mem_cons_of_mem _ hmem, rfl⟩
        · simp at h

end LibToxTun
