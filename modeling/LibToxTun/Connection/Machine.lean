import Mathlib.Logic.Function.Basic
import LibToxTun.Foundation.Action
import LibToxTun.Data.Fragments

/-! # The connection object

The handlers of `Connection` as actions on a frame: the object `this` points to,
whether it is still in the table of connections, whether its memory is still
valid, and the world around it. What the environment answers (the status of a
send, the addresses in use, a write to the TAP device) is read from an oracle at
the current clock, and everything observable is appended to a trace. An access to
a member of a destroyed object finds the last contents and leaves a `dangling`
record; in the source it is undefined.

Log output is left out. The arguments of a log call that read members are kept.
-/

namespace LibToxTun

open Foundation

/-- The events of the callback function. -/
inductive Event where
  | connectionRequested
  | connectionAccepted
  | connectionRejected
  | connectionClosed
deriving DecidableEq, Repr

inductive State where
  | ownRequestPending
  | friendsRequestPending
  | expectingIpPacket
  | expectingIpConfirmation
  | connected
  | deleting
deriving DecidableEq, Repr

/-- The states of a connection that the user sees. -/
inductive ConnectionState where
  | connected
  | ringingAtFriend
  | friendIsRinging
  | disconnected
deriving DecidableEq, Repr

abbrev Ip4 := UInt8 × UInt8 × UInt8 × UInt8

/-- The loop of `isAddrspaceUnused` over the addresses in use. -/
def addrspaceUnused (usedIps : List Ip4) (addrSpace : UInt8) : Bool :=
  !usedIps.any fun addr => addr.1 == 192 && addr.2.1 == 168 && addr.2.2.1 == addrSpace

/-- The TAP device of a connection: the subnet and the last byte of the address
`192.168.subnet.ipPostfix` set on it. -/
structure Tun where
  ip : Option (UInt8 × UInt8)
deriving DecidableEq, Repr

/-- `std::map<uint8_t, std::list<Data>>`; no entry of the map is an empty list,
so the empty list stands for a missing entry. -/
abbrev Fragments := UInt8 → List Fragment

/-- The members of a connection. The constant `connectedFriend` is the key under
which the table holds the object and stands in the frame. -/
structure Connection where
  tun : Tun
  state : State
  fragments : Fragments
  nextFragmentIndex : UInt8
  subnet : Int

inductive Field where
  | tun
  | state
  | fragments
  | connectedFriend
  | nextFragmentIndex
  | subnet
deriving DecidableEq, Repr

inductive Effect where
  | sent (friendNumber : UInt32) (data : Data) (status : Bool)
  | raised (event : Event) (friendNumber : UInt32)
  | entered (friendNumber : UInt32) (state : State)
  | ipSet (friendNumber : UInt32) (subnet ipPostfix : UInt8)
  /-- Bytes handed to `tun.sendData`, with the state of the connection then. -/
  | tunWrite (friendNumber : UInt32) (state : State) (data : Data)
  | destroyed (friendNumber : UInt32)
  | dangling (friendNumber : UInt32) (field : Field)
deriving DecidableEq, Repr

structure ToxTunCore where
  connections : UInt32 → Option Connection
  /-- Whether `callbackFunction` is set. -/
  callbackFunction : Bool

structure World where
  core : ToxTunCore
  clock : Nat
  trace : List Effect

structure Frame where
  connectedFriend : UInt32
  self : Connection
  linked : Bool
  alive : Bool
  world : World

/-- Answers of tox, the operating system and the user, by the clock at which they
are asked for. The fragment size of toxcore leaves room for a payload. -/
structure Env where
  maxPacketSize : Nat
  room : 4 < maxPacketSize
  sends : Nat → Bool
  usedIp4 : Nat → Option (List Ip4)
  tunOpens : Nat → Bool
  tunWrites : Nat → Bool
  userCallback : Event → Frame → Frame
  /-- Whether `std::map::erase` takes an entry out of the map before it destroys the object.
  The map of libstdc++ does, unless the entry is the only one. -/
  unlinksFirst : Nat → Bool := fun _ => true

/-- Library code: it may throw one of the exceptions above. -/
abbrev Code (σ : Type) := Action Exn σ

def World.log (w : World) (e : Effect) : World := { w with trace := w.trace ++ [e] }

def World.tick (w : World) : World := { w with clock := w.clock + 1 }

/-- A new entry of the table, or none. -/
def World.setConnection (w : World) (friendNumber : UInt32) (c : Option Connection) : World :=
  { w with core := { w.core with
      connections := Function.update w.core.connections friendNumber c } }

def Frame.log (fr : Frame) (e : Effect) : Frame := { fr with world := fr.world.log e }

/-- A member is accessed. -/
def Frame.touch (fr : Frame) (field : Field) : Frame :=
  if fr.alive then fr else fr.log (.dangling fr.connectedFriend field)

/-- `catch (ToxTunError &error)`. -/
def catchToxTunError {σ α : Type} (a : Code σ α) (handler : Code σ α) : Code σ α :=
  a.tryCatch fun
    | .toxTunError _ => some handler
    | .outOfRange => none

def onWorld {α : Type} (a : Code World α) : Code Frame α :=
  a.zoom Frame.world fun w fr => { fr with world := w }

/-! ## Members -/

def getMember {α : Type} (field : Field) (f : Connection → α) : Code Frame α := do
  Action.modify fun fr => fr.touch field
  Action.read fun fr => f fr.self

def getFriend : Code Frame UInt32 := do
  Action.modify fun fr => fr.touch .connectedFriend
  Action.read Frame.connectedFriend

def setMember (field : Field) (f : Connection → Connection) : Code Frame Unit :=
  Action.modify fun fr => { fr.touch field with self := f fr.self }

/-- `state = s`, an assignment an observer can see. -/
def setState (s : State) : Code Frame Unit := do
  setMember .state fun c => { c with state := s }
  Action.modify fun fr => fr.log (.entered fr.connectedFriend s)

section
variable (E : Env)

/-! ## Sending -/

/-- `tox_friend_send_lossless_packet` and `tox_friend_send_lossy_packet`. -/
def toxFriendSend (friendNumber : UInt32) (d : Data) : Code World Bool := fun w =>
  .returned (E.sends w.clock) (w.log (.sent friendNumber d (E.sends w.clock))).tick

/-- The loop over the packets to send. -/
def sendAll (friendNumber : UInt32) : List Data → Code World Unit
  | [] => pure ()
  | d :: rest => do
      let kind ← Action.ofExcept d.getSendTox
      let status ← toxFriendSend E friendNumber d
      if status then sendAll friendNumber rest
      else match kind with
        | .lossless => Action.throw (.toxTunError ("Can't send lossless packet to " ++ toString friendNumber))
        | .lossy => Action.throw (.toxTunError ("Can't send lossy packet to " ++ toString friendNumber))

def toxPackets (data : Data) (index : UInt8) : List Data :=
  if data.getToxDataLen ≤ E.maxPacketSize then [data] else data.getSplitted E.maxPacketSize index

/-- The static `sendToTox`, with the index that `nextFragmentIndex` points to or
zero when it is null. -/
def sendToToxIndexed (data : Data) (friendNumber : UInt32) (index : UInt8) : Code World Unit :=
  sendAll E friendNumber (toxPackets E data index)

def sendToTox (data : Data) : Code Frame Unit := do
  let friendNumber ← getFriend
  let index ← getMember .nextFragmentIndex Connection.nextFragmentIndex
  if ¬ data.getToxDataLen ≤ E.maxPacketSize then
    setMember .nextFragmentIndex fun c =>
      { c with nextFragmentIndex := if index = 255 then 0 else index + 1 }
  onWorld (sendToToxIndexed E data friendNumber index)

/-! ## Events, reset and deletion -/

/-- `toxTunCore.callback(event, connectedFriend)`. -/
def callback (event : Event) : Code Frame Unit := do
  let friendNumber ← getFriend
  if ← Action.read fun fr => fr.world.core.callbackFunction then
    Action.modify fun fr => E.userCallback event (fr.log (.raised event friendNumber))
  else Action.throw (.toxTunError "Callback function not set")

def rejectConnection : Code Frame Unit := Action.noexcept do
  catchToxTunError (sendToTox E (Data.fromPacketId .connectionReject)) (pure ())

def closeConnection : Code Frame Unit := Action.noexcept do
  catchToxTunError (sendToTox E (Data.fromPacketId .connectionClose)) (pure ())

/-- The static `resetConnection`. -/
def resetFriend (friendNumber : UInt32) : Code World Unit := Action.noexcept do
  catchToxTunError (sendToToxIndexed E (Data.fromPacketId .connectionReset) friendNumber 0) (pure ())

def resetConnection : Code Frame Unit := Action.noexcept do
  let friendNumber ← getFriend
  onWorld (resetFriend E friendNumber)
  callback E .connectionClosed

/-- The destructor of `Connection`. -/
def destructor : Code Frame Unit := Action.noexcept do
  match ← getMember .state Connection.state with
  | .friendsRequestPending => rejectConnection E
  | .ownRequestPending => resetConnection E
  | .expectingIpPacket => resetConnection E
  | .expectingIpConfirmation => resetConnection E
  | .connected => closeConnection E
  | .deleting => pure ()

/-- The entry goes. -/
def unlink : Code Frame Unit := Action.modify fun fr =>
  { fr with linked := false, world := fr.world.setConnection fr.connectedFriend none }

/-- The entry goes and the destructor runs, in the order of the map. -/
def removeEntry : Code Frame Unit := do
  if ← Action.read fun fr => E.unlinksFirst fr.world.clock then
    unlink
    destructor E
  else
    destructor E
    unlink

/-- `connections.erase`: the object leaves the map, and its memory is freed. -/
def eraseSelf : Code Frame Unit := do
  removeEntry E
  Action.modify fun fr => { fr.log (.destroyed fr.connectedFriend) with alive := false }

def deleteConnection : Code Frame Unit := Action.noexcept do
  setState .deleting
  Action.modify fun fr => fr.touch .connectedFriend
  if ← Action.read Frame.linked then eraseSelf E

def resetAndDeleteConnection : Code Frame Unit := Action.noexcept do
  resetConnection E
  deleteConnection E

/-! ## The TAP device -/

/-- `tun.isAddrspaceUnused`, with the addresses of `getUsedIp4Addresses`. -/
def isAddrspaceUnused (addrSpace : UInt8) : Code Frame Bool := do
  Action.modify fun fr => fr.touch .tun
  let answer ← Action.read fun fr => E.usedIp4 fr.world.clock
  Action.modify fun fr => { fr with world := fr.world.tick }
  match answer with
  | some usedIps => pure (addrspaceUnused usedIps addrSpace)
  | none => Action.throw (.toxTunError "Can't get used IP addresses: ")

/-- `tun.setIp`, `noexcept` in both backends. -/
def tunSetIp (subnet ipPostfix : UInt8) : Code Frame Unit := do
  setMember .tun fun c => { c with tun := { c.tun with ip := some (subnet, ipPostfix) } }
  Action.modify fun fr => fr.log (.ipSet fr.connectedFriend subnet ipPostfix)

/-- `tun.sendData`. -/
def tunSendData (data : Data) : Code Frame Unit := do
  Action.modify fun fr => fr.touch .tun
  Action.modify fun fr => fr.log (.tunWrite fr.connectedFriend fr.self.state data)
  let _ ← Action.ofExcept data.getIpData
  let written ← Action.read fun fr => E.tunWrites fr.world.clock
  Action.modify fun fr => { fr with world := fr.world.tick }
  if !written then Action.throw (.toxTunError "Writing to tun failed: ")

/-! ## Handlers -/

/-- `tun.setIp` throws nothing, so the handler around it has no counterpart. -/
def setIp (subnet ipPostfix : UInt8) : Code Frame Unit := Action.noexcept do
  tunSetIp subnet ipPostfix
  setState .connected
  callback E .connectionAccepted

/-- A query that fails counts as unused. -/
def assumeUnused (addrSpace : UInt8) : Code Frame Bool :=
  catchToxTunError (isAddrspaceUnused E addrSpace) (pure true)

/-- `++subnet` on an `int16_t`. -/
def incSubnet (subnet : Int) : Int := (subnet + 1).bmod (2 ^ 16)

/-- The search loop of `sendIp`; the result is whether an unused subnet was
found. Counting on from any 16 bit value, the loop meets 256 within 2^16 rounds. -/
def sendIpLoop : Nat → Code Frame Bool
  | 0 => Action.exhausted
  | fuel + 1 => do
      setMember .subnet fun c => { c with subnet := incSubnet c.subnet }
      let subnet ← getMember .subnet Connection.subnet
      let unused ← assumeUnused E (UInt8.ofInt subnet)
      if subnet = 256 then do
        resetAndDeleteConnection E
        pure false
      else if unused then pure true
      else sendIpLoop fuel

def sendIp : Code Frame Unit := Action.noexcept do
  if ← sendIpLoop E (2 ^ 16) then
    let subnet ← getMember .subnet Connection.subnet
    catchToxTunError (sendToTox E (Data.fromIpPostfix (UInt8.ofInt subnet) 2))
      (resetAndDeleteConnection E)

def handleConnectionAccepted : Code Frame Unit := Action.noexcept do
  if (← getMember .state Connection.state) ≠ .ownRequestPending then
    resetAndDeleteConnection E
  else
    setState .expectingIpConfirmation
    sendIp E

def handleConnectionRejected : Code Frame Unit := Action.noexcept do
  if (← getMember .state Connection.state) ≠ .ownRequestPending then
    resetAndDeleteConnection E
  else
    callback E .connectionRejected
    deleteConnection E

def handleConnectionClosed : Code Frame Unit := Action.noexcept do
  if (← getMember .state Connection.state) ≠ .connected then
    resetAndDeleteConnection E
  else
    callback E .connectionClosed
    Action.modify fun fr => fr.touch .connectedFriend
    deleteConnection E

def handleConnectionReset : Code Frame Unit := Action.noexcept do
  callback E .connectionClosed
  deleteConnection E

/-- The two bytes of a proposal, read inside one `try` block. -/
def proposalBytes (data : Data) : Except Exn (UInt8 × UInt8) := do
  let ipPostfix ← data.getIpPostfix
  let subnet ← data.getIpSubnet
  .ok (subnet, ipPostfix)

def handleIpProposal (data : Data) : Code Frame Unit := Action.noexcept do
  if (← getMember .state Connection.state) ≠ .expectingIpPacket then
    resetAndDeleteConnection E
  else
    match ← catchToxTunError (some <$> Action.ofExcept (proposalBytes data)) (pure none) with
    | none => pure ()
    | some (subnet, ipPostfix) => do
        if ← assumeUnused E subnet then
          catchToxTunError (sendToTox E (Data.fromPacketId .ipAccept)) (resetAndDeleteConnection E)
          -- The handler does not leave the function when the answer could not be sent.
          setIp E subnet ipPostfix
        else
          catchToxTunError (sendToTox E (Data.fromPacketId .ipReject)) (resetAndDeleteConnection E)

def handleIpAccepted : Code Frame Unit := Action.noexcept do
  if (← getMember .state Connection.state) ≠ .expectingIpConfirmation then
    resetAndDeleteConnection E
  else
    let subnet ← getMember .subnet Connection.subnet
    setIp E (UInt8.ofInt subnet) 1

def handleIpRejected : Code Frame Unit := Action.noexcept do
  if (← getMember .state Connection.state) ≠ .expectingIpConfirmation then
    resetAndDeleteConnection E
  else sendIp E

def sendToTun (data : Data) : Code Frame Unit := Action.noexcept do
  if (← getMember .state Connection.state) ≠ .connected then
    resetAndDeleteConnection E
  -- No return here: the packet is written in every state.
  catchToxTunError (tunSendData E data) (pure ())

end

/-! ## Fragments -/

namespace Fragments

/-- `fragments.erase(key)`. -/
def erase (fs : Fragments) (key : UInt8) : Fragments := Function.update fs key []

/-- A fragment is added in front of its set, which is made if it is missing. -/
def push (fs : Fragments) (f : Fragment) : Fragments :=
  Function.update fs f.setIndex (f :: fs f.setIndex)

/-- The loop that erases the three sets half a cycle away. -/
def purge (fs : Fragments) (sdi : UInt8) : Fragments :=
  (List.range' (sdi.toNat + 128) 3).foldl (fun fs i => fs.erase (UInt8.ofNat (i % 256))) fs

/-- The bytes of all fragments stored. -/
def storedBytes (fs : Fragments) : Nat :=
  ((List.range 256).map fun k => ((fs (UInt8.ofNat k)).map fun f => f.data.size).sum).sum

/-- Rounds enough for the nested reassembly that a packet can cause. -/
def fuel (fs : Fragments) (data : Data) : Nat := (fs.storedBytes + data.size) / 4 + 1

end Fragments

section
variable (E : Env)

/-- `handleNested` is the call of `handleData` on the joined packet. -/
def handleFragment (handleNested : Data → Code Frame Unit) (data : Data) : Code Frame Unit :=
  Action.noexcept do
    if valid : data.isValidFragment = true then
      let f : Fragment := ⟨data, valid⟩
      let sdi := f.setIndex
      setMember .fragments fun c => { c with fragments := c.fragments.push f }
      let stored ← getMember .fragments fun c => c.fragments sdi
      if stored.length = f.count.toNat then
        setMember .fragments fun c => { c with fragments := (c.fragments.erase sdi).purge sdi }
        handleNested (← Action.ofExcept (Data.fromFragments (stored.map Fragment.data)))
        -- The arguments of the log call after the nested call.
        Action.modify fun fr => fr.touch .connectedFriend
        Action.modify fun fr => fr.touch .fragments

def handleDataFuel : Nat → Data → Code Frame Unit
  | 0, _ => Action.exhausted
  | fuel + 1, data => Action.noexcept do
      match ← Action.ofExcept data.getToxHeader with
      | .connectionRequest => pure ()
      | .connectionAccept => handleConnectionAccepted E
      | .connectionReject => handleConnectionRejected E
      | .connectionClose => handleConnectionClosed E
      | .connectionReset => handleConnectionReset E
      | .ipProposal => handleIpProposal E data
      | .ipAccept => handleIpAccepted E
      | .ipReject => handleIpRejected E
      | .data => sendToTun E data
      | .fragment => handleFragment (handleDataFuel fuel) data
      | .unnamed _ => pure ()

def handleData (data : Data) : Code Frame Unit := fun fr =>
  handleDataFuel E (fr.self.fragments.fuel data) data fr

/-! ## Frames and calls from outside -/

/-- One round of `iterate`, with the result of `tun.getData`. -/
def forwardRead (read : Except Exn Data) : Code Frame Unit :=
  Action.noexcept (catchToxTunError (do
    let data ← Action.ofExcept read
    sendToTox E data) (pure ()))

/-- One call of `iterate`. `reads` are the results of the calls of `tun.getData`
made before no data is pending or the time is over. -/
def iterate : List (Except Exn Data) → Code Frame Unit
  | [] => pure ()
  | read :: reads => do
      if (← getMember .state Connection.state) = .connected then
        Action.modify fun fr => fr.touch .tun
        forwardRead E read
        iterate reads

def acceptConnection : Code Frame Unit := do
  if (← getMember .state Connection.state) ≠ .friendsRequestPending then
    Action.throw (.toxTunError "Connection not on right state to accept connection request")
  else
    setState .expectingIpPacket
    catchToxTunError (sendToTox E (Data.fromPacketId .connectionAccept))
      (resetAndDeleteConnection E)

def sendConnectionRequest : Code Frame Unit :=
  sendToTox E (Data.fromPacketId .connectionRequest)

end

def Connection.getConnectionState (c : Connection) : ConnectionState :=
  match c.state with
  | .connected => .connected
  | .deleting => .disconnected
  | .friendsRequestPending => .friendIsRinging
  | .expectingIpPacket => .friendIsRinging
  | .ownRequestPending => .ringingAtFriend
  | .expectingIpConfirmation => .ringingAtFriend

end LibToxTun
