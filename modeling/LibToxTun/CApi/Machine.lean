import LibToxTun.Core.Machine

/-! # The C interface

The wrapper keeps the callback function and the error strings once for the whole
process, the strings under the handles of the objects; the user data is kept in each
object. Calls come one after the other: the functions of the user take note of their
events and call nothing.
-/

namespace LibToxTun

open Foundation

/-- `void *` and the pointers to functions of the user. -/
abbrev Pointer := Nat

inductive ToxtunEvent where
  | connectionRequested
  | connectionAccepted
  | connectionRejected
  | connectionClosed
deriving DecidableEq, Repr

inductive ToxtunConnectionState where
  | connected
  | disconnected
  | ringingAtFriend
  | friendIsRinging
deriving DecidableEq, Repr

/-- What the user of an object gets to know: a call of a function, the result of a
call, the state of a connection, an error string. -/
inductive Observation where
  | called (cb : Pointer) (event : ToxtunEvent) (friendNumber : UInt32) (userData : Pointer)
  | success (result : Bool)
  | connectionState (state : ToxtunConnectionState)
  | lastError (cString : String)
deriving DecidableEq, Repr

/-- An object of the library with its user data. The callback function of its core,
once set, is `intermediateCallback`. -/
structure ToxTun where
  core : ToxTunCore
  callbackUserData : Pointer

/-- The statics of the wrapper, the objects alive under their handles, and what the
users have observed. -/
structure Process where
  errorStrings : Pointer → Option String
  cCallback : Option Pointer
  errorCStrings : Pointer → Option String
  toxTuns : Pointer → Option ToxTun
  running : Bool
  observed : List (Pointer × Observation)

def cEvent : Event → ToxtunEvent
  | .connectionRequested => .connectionRequested
  | .connectionAccepted => .connectionAccepted
  | .connectionRejected => .connectionRejected
  | .connectionClosed => .connectionClosed

def intermediateCallback (cCallback : Option Pointer) (event : Event) (friendNumber : UInt32)
    (userData : Pointer) : Option Observation :=
  cCallback.map fun cb => .called cb (cEvent event) friendNumber userData

/-- The environment with functions of the user that only take note. -/
def Env.noting (E : Env) : Env := { E with userCallback := fun _ fr => fr }

def ToxTun.enter (t : ToxTun) : World := ⟨t.core, 0, []⟩

/-- The wrapper catches `ToxTunError`; its callers catch nothing. -/
def survives : Outcome Exn World Unit → Bool
  | .returned _ _ => true
  | .thrown (.toxTunError _) _ => true
  | _ => false

namespace Process

def initial : Process := ⟨fun _ => none, none, fun _ => none, fun _ => none, true, []⟩

def observe (p : Process) (toxtun : Pointer) (o : Observation) : Process :=
  { p with observed := p.observed ++ [(toxtun, o)] }

def setToxTun (p : Process) (toxtun : Pointer) (t : Option ToxTun) : Process :=
  { p with toxTuns := Function.update p.toxTuns toxtun t }

/-- The events among the effects of a member function, as the user gets them. -/
def delivered (p : Process) (t : ToxTun) (effects : List Effect) : List Observation :=
  effects.filterMap fun e =>
    match e with
    | .raised event friendNumber =>
        intermediateCallback p.cCallback event friendNumber t.callbackUserData
    | _ => none

/-- A member function of an object has run. -/
def leave (p : Process) (toxtun : Pointer) (t : ToxTun) (o : Outcome Exn World Unit) : Process :=
  { p with
    toxTuns := Function.update p.toxTuns toxtun (some { t with core := o.state.core })
    running := survives o
    observed := p.observed ++ (p.delivered t o.state.trace).map fun seen => (toxtun, seen) }

/-- The `try` block of the two calls that report their success. -/
def attempt (p : Process) (toxtun : Pointer) (t : ToxTun) (o : Outcome Exn World Unit) : Process :=
  match o with
  | .returned _ _ => (p.leave toxtun t o).observe toxtun (.success true)
  | .thrown (.toxTunError what) _ =>
      { (p.leave toxtun t o).observe toxtun (.success false) with
        errorStrings := Function.update p.errorStrings toxtun (some what) }
  | _ => p.leave toxtun t o

def toxtunNew (p : Process) (toxtun : Pointer) : Process :=
  p.setToxTun toxtun (some ⟨ToxTunCore.empty false, 0⟩)

/-- `delete t`; neither static is cleared. -/
def toxtunKill (p : Process) (toxtun : Pointer) (t : ToxTun) (E : Env) (friends : List UInt32) :
    Process :=
  (p.leave toxtun t (ToxTunCore.destructor E.noting friends t.enter)).setToxTun toxtun none

def toxtunSetCallback (p : Process) (toxtun : Pointer) (t : ToxTun) (cb : Option Pointer)
    (userData : Pointer) : Process :=
  { p.setToxTun toxtun (some ⟨{ t.core with callbackFunction := true }, userData⟩) with
    cCallback := cb }

/-- The share of one connection. -/
def toxtunIterate (p : Process) (toxtun : Pointer) (t : ToxTun) (E : Env) (friendNumber : UInt32)
    (reads : List (Except Exn Data)) : Process :=
  p.leave toxtun t (ToxTunCore.iterate E.noting friendNumber reads t.enter)

def toxtunSendConnectionRequest (p : Process) (toxtun : Pointer) (t : ToxTun) (E : Env)
    (friendNumber : UInt32) : Process :=
  p.attempt toxtun t (ToxTunCore.sendConnectionRequest E.noting friendNumber t.enter)

def toxtunAcceptConnection (p : Process) (toxtun : Pointer) (t : ToxTun) (E : Env)
    (friendNumber : UInt32) : Process :=
  p.attempt toxtun t (ToxTunCore.acceptConnection E.noting friendNumber t.enter)

def toxtunRejectConnection (p : Process) (toxtun : Pointer) (t : ToxTun) (E : Env)
    (friendNumber : UInt32) : Process :=
  p.leave toxtun t (ToxTunCore.rejectConnection E.noting friendNumber t.enter)

def toxtunCloseConnection (p : Process) (toxtun : Pointer) (t : ToxTun) (E : Env)
    (friendNumber : UInt32) : Process :=
  p.leave toxtun t (ToxTunCore.closeConnection E.noting friendNumber t.enter)

def toxtunGetConnectionState (p : Process) (toxtun : Pointer) (t : ToxTun)
    (friendNumber : UInt32) : Process :=
  p.observe toxtun <| .connectionState <|
    match t.core.getConnectionState friendNumber with
    | .connected => .connected
    | .disconnected => .disconnected
    | .ringingAtFriend => .ringingAtFriend
    | .friendIsRinging => .friendIsRinging

def toxtunGetLastError (p : Process) (toxtun : Pointer) : Process :=
  match p.errorStrings toxtun with
  | some what =>
      { p.observe toxtun (.lastError what) with
        errorStrings := Function.update p.errorStrings toxtun none
        errorCStrings := Function.update p.errorCStrings toxtun (some what) }
  | none =>
      { p.observe toxtun (.lastError "No error") with
        errorCStrings := Function.update p.errorCStrings toxtun (some "No error") }

/-- Tox has a packet for an object. -/
def toxPacketCallback (p : Process) (toxtun : Pointer) (t : ToxTun) (E : Env)
    (friendNumber : UInt32) (dataRaw : List UInt8) : Process :=
  p.leave toxtun t (ToxTunCore.toxPacketCallback E.noting friendNumber dataRaw t.enter)

end Process

/-- A call of the C interface on a handle, or a packet for the object. -/
inductive ToxtunCall where
  | new
  | kill (E : Env) (friends : List UInt32)
  | setCallback (cb : Option Pointer) (userData : Pointer)
  | iterate (E : Env) (friendNumber : UInt32) (reads : List (Except Exn Data))
  | sendConnectionRequest (E : Env) (friendNumber : UInt32)
  | acceptConnection (E : Env) (friendNumber : UInt32)
  | rejectConnection (E : Env) (friendNumber : UInt32)
  | closeConnection (E : Env) (friendNumber : UInt32)
  | getConnectionState (friendNumber : UInt32)
  | getLastError
  | receive (E : Env) (friendNumber : UInt32) (dataRaw : List UInt8)

namespace Process

/-- What a call does to the process, where the handle is the one of an object. -/
def perform (p : Process) (toxtun : Pointer) (t : ToxTun) : ToxtunCall → Process
  | .new => p
  | .kill E friends => p.toxtunKill toxtun t E friends
  | .setCallback cb userData => p.toxtunSetCallback toxtun t cb userData
  | .iterate E f reads => p.toxtunIterate toxtun t E f reads
  | .sendConnectionRequest E f => p.toxtunSendConnectionRequest toxtun t E f
  | .acceptConnection E f => p.toxtunAcceptConnection toxtun t E f
  | .rejectConnection E f => p.toxtunRejectConnection toxtun t E f
  | .closeConnection E f => p.toxtunCloseConnection toxtun t E f
  | .getConnectionState f => p.toxtunGetConnectionState toxtun t f
  | .getLastError => p.toxtunGetLastError toxtun
  | .receive E f dataRaw => p.toxPacketCallback toxtun t E f dataRaw

/-- A process that runs takes a call on the handle of an object, and a new object under
a handle that is free. -/
def next (p : Process) (input : Pointer × ToxtunCall) : Option Process :=
  if p.running then
    match input.2, p.toxTuns input.1 with
    | .new, some _ => none
    | .new, none => if input.1 = 0 then none else some (p.toxtunNew input.1)
    | c, some t => some (p.perform input.1 t c)
    | _, none => none
  else none

/-- What the user of the objects under a handle has observed. -/
def observedBy (toxtun : Pointer) (p : Process) : List Observation :=
  p.observed.filterMap fun o => if o.1 = toxtun then some o.2 else none

end Process

end LibToxTun
