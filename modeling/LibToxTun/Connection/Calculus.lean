import LibToxTun.Connection.Machine

/-! # What the handlers do

Every handler, started on a live frame with a registered callback, is given as
an equation between the action and a frame built from a few named changes. The
equations hold for every answer of the environment and for every callback that
leaves itself registered, whatever else it does to the frame.
-/

namespace LibToxTun

open Foundation

/-- A callback function does not throw (it is a function here) and stays registered. -/
def Env.KeepsCallback (E : Env) : Prop :=
  ∀ event fr, (E.userCallback event fr).world.core.callbackFunction =
    fr.world.core.callbackFunction

/-- A callback that does not re-enter the library. -/
def Env.Passive (E : Env) : Prop := ∀ event fr, E.userCallback event fr = fr

theorem Env.Passive.keepsCallback {E : Env} (h : E.Passive) : E.KeepsCallback :=
  fun event fr => by rw [h event fr]

/-- An environment in which every send, every device and every user call of the
library succeeds; the user does nothing on an event. -/
def Env.obliging (usedIp4 : Nat → Option (List Ip4)) : Env where
  maxPacketSize := 1373
  room := by decide
  sends _ := true
  usedIp4 := usedIp4
  tunOpens _ := true
  tunWrites _ := true
  userCallback _ fr := fr

theorem Env.obliging_passive (usedIp4 : Nat → Option (List Ip4)) : (obliging usedIp4).Passive :=
  fun _ _ => rfl

/-- The states in which the destructor sends a reset and raises an event. -/
def State.resets : State → Bool
  | .friendsRequestPending => false
  | .ownRequestPending => true
  | .expectingIpPacket => true
  | .expectingIpConfirmation => true
  | .connected => false
  | .deleting => false

/-! ## Changes of a frame -/

namespace Frame

/-- A packet was handed to tox. -/
def sent (fr : Frame) (d : Data) (status : Bool) : Frame :=
  { fr with world := (fr.world.log (.sent fr.connectedFriend d status)).tick }

/-- An event was raised and the callback has returned. -/
def raise (E : Env) (event : Event) (fr : Frame) : Frame :=
  E.userCallback event (fr.log (.raised event fr.connectedFriend))

def enterState (fr : Frame) (s : State) : Frame :=
  { fr.touch .state with self := { fr.self with state := s } }.log (.entered fr.connectedFriend s)

/-- The object left the table and its memory was freed. -/
def freed (fr : Frame) : Frame :=
  { ({ fr with linked := false, world := fr.world.setConnection fr.connectedFriend none }.touch
      .state).log (.destroyed fr.connectedFriend) with alive := false }

/-- The destructor took leave of the friend. -/
def farewell (E : Env) (fr : Frame) : Frame :=
  let said (packetId : PacketId) := fr.sent (Data.fromPacketId packetId) (E.sends fr.world.clock)
  match fr.self.state with
  | .friendsRequestPending => said .connectionReject
  | .ownRequestPending => (said .connectionReset).raise E .connectionClosed
  | .expectingIpPacket => (said .connectionReset).raise E .connectionClosed
  | .expectingIpConfirmation => (said .connectionReset).raise E .connectionClosed
  | .connected => said .connectionClose
  | .deleting => fr

/-- The entry of the object left the table. -/
def unlinked (fr : Frame) : Frame :=
  { fr with linked := false, world := fr.world.setConnection fr.connectedFriend none }

/-- The entry left the table and the destructor ran, in the order of the map. -/
def removed (E : Env) (fr : Frame) : Frame :=
  if E.unlinksFirst fr.world.clock then fr.unlinked.farewell E else (fr.farewell E).unlinked

/-- The memory of the object is freed. -/
def expired (fr : Frame) : Frame := { fr.log (.destroyed fr.connectedFriend) with alive := false }

/-- `connections.erase` was called. -/
def erased (E : Env) (fr : Frame) : Frame := (fr.removed E).expired

/-- `deleteConnection` was called. -/
def buried (fr : Frame) : Frame :=
  let fr' := (fr.enterState .deleting).touch .connectedFriend
  if fr'.linked then fr'.freed else fr'

/-- `resetAndDeleteConnection` was called. -/
def killed (E : Env) (fr : Frame) : Frame :=
  ((fr.sent (Data.fromPacketId .connectionReset) (E.sends fr.world.clock)).raise E
    .connectionClosed).buried

/-- `setIp` was called. -/
def ipSet (E : Env) (subnet ipPostfix : UInt8) (fr : Frame) : Frame :=
  ((({ fr.touch .tun with self := { fr.self with tun := ⟨some (subnet, ipPostfix)⟩ } }.log
    (.ipSet fr.connectedFriend subnet ipPostfix)).enterState .connected).touch
      .connectedFriend).raise E .connectionAccepted

/-- The environment was asked once. -/
def ticked (fr : Frame) : Frame := { fr with world := fr.world.tick }

section
variable {fr : Frame}

theorem touch_of_alive (h : fr.alive = true) (field : Field) : fr.touch field = fr := by
  simp [touch, h]

variable (fr : Frame)

@[simp] theorem touch_linked (field : Field) : (fr.touch field).linked = fr.linked := by
  unfold touch; split <;> rfl
@[simp] theorem touch_self (field : Field) : (fr.touch field).self = fr.self := by
  unfold touch; split <;> rfl
@[simp] theorem touch_alive (field : Field) : (fr.touch field).alive = fr.alive := by
  unfold touch; split <;> rfl
@[simp] theorem touch_connectedFriend (field : Field) :
    (fr.touch field).connectedFriend = fr.connectedFriend := by
  unfold touch; split <;> rfl
@[simp] theorem touch_core (field : Field) : (fr.touch field).world.core = fr.world.core := by
  unfold touch; split <;> rfl
@[simp] theorem touch_clock (field : Field) : (fr.touch field).world.clock = fr.world.clock := by
  unfold touch; split <;> rfl

@[simp] theorem log_linked (e : Effect) : (fr.log e).linked = fr.linked := rfl
@[simp] theorem log_self (e : Effect) : (fr.log e).self = fr.self := rfl
@[simp] theorem log_alive (e : Effect) : (fr.log e).alive = fr.alive := rfl
@[simp] theorem log_connectedFriend (e : Effect) :
    (fr.log e).connectedFriend = fr.connectedFriend := rfl
@[simp] theorem log_core (e : Effect) : (fr.log e).world.core = fr.world.core := rfl
@[simp] theorem log_clock (e : Effect) : (fr.log e).world.clock = fr.world.clock := rfl
@[simp] theorem log_trace (e : Effect) : (fr.log e).world.trace = fr.world.trace ++ [e] := rfl

@[simp] theorem sent_linked (d : Data) (b : Bool) : (fr.sent d b).linked = fr.linked := rfl
@[simp] theorem sent_self (d : Data) (b : Bool) : (fr.sent d b).self = fr.self := rfl
@[simp] theorem sent_alive (d : Data) (b : Bool) : (fr.sent d b).alive = fr.alive := rfl
@[simp] theorem sent_connectedFriend (d : Data) (b : Bool) :
    (fr.sent d b).connectedFriend = fr.connectedFriend := rfl
@[simp] theorem sent_core (d : Data) (b : Bool) : (fr.sent d b).world.core = fr.world.core := rfl
@[simp] theorem sent_clock (d : Data) (b : Bool) :
    (fr.sent d b).world.clock = fr.world.clock + 1 := rfl
@[simp] theorem sent_trace (d : Data) (b : Bool) :
    (fr.sent d b).world.trace = fr.world.trace ++ [.sent fr.connectedFriend d b] := rfl

@[simp] theorem enterState_linked (s : State) : (fr.enterState s).linked = fr.linked := by
  simp [enterState]
@[simp] theorem enterState_self (s : State) :
    (fr.enterState s).self = { fr.self with state := s } := rfl
@[simp] theorem enterState_alive (s : State) : (fr.enterState s).alive = fr.alive := by
  simp [enterState]
@[simp] theorem enterState_connectedFriend (s : State) :
    (fr.enterState s).connectedFriend = fr.connectedFriend := by simp [enterState]
@[simp] theorem enterState_core (s : State) :
    (fr.enterState s).world.core = fr.world.core := touch_core fr .state
@[simp] theorem enterState_clock (s : State) :
    (fr.enterState s).world.clock = fr.world.clock := touch_clock fr .state

@[simp] theorem ticked_linked : fr.ticked.linked = fr.linked := rfl
@[simp] theorem ticked_self : fr.ticked.self = fr.self := rfl
@[simp] theorem ticked_alive : fr.ticked.alive = fr.alive := rfl
@[simp] theorem ticked_core : fr.ticked.world.core = fr.world.core := rfl

theorem raise_callbackFunction {E : Env} (h : E.KeepsCallback) (event : Event) :
    (fr.raise E event).world.core.callbackFunction = fr.world.core.callbackFunction :=
  h event _

@[simp] theorem buried_callbackFunction :
    fr.buried.world.core.callbackFunction = fr.world.core.callbackFunction := by
  simp only [buried]
  split <;> simp [freed, World.setConnection]

@[simp] theorem buried_state : fr.buried.self.state = .deleting := by
  simp only [buried]
  split <;> simp [freed]

@[simp] theorem buried_subnet : fr.buried.self.subnet = fr.self.subnet := by
  simp only [buried]
  split <;> simp [freed]

theorem killed_callbackFunction {E : Env} (h : E.KeepsCallback) :
    (fr.killed E).world.core.callbackFunction = fr.world.core.callbackFunction := by
  simp [killed, raise_callbackFunction _ h]

end

end Frame

/-! ## Members and packets -/

/-- No other text starts like the one of a packet that was not sent. -/
theorem unsent_text {text : String} (other : text.toList.head? ≠ some 'C') (friendNumber : UInt32) :
    "Can't send lossless packet to " ++ toString friendNumber ≠ text := by
  rintro rfl
  rw [String.toList_append] at other
  simp at other

section
variable {α : Type} (fr : Frame)

@[simp] theorem getMember_apply (field : Field) (f : Connection → α) :
    getMember field f fr = .returned (f fr.self) (fr.touch field) := by
  simp [getMember]

@[simp] theorem getFriend_apply :
    getFriend fr = .returned fr.connectedFriend (fr.touch .connectedFriend) := by
  simp [getFriend]

@[simp] theorem setMember_apply (field : Field) (f : Connection → Connection) :
    setMember field f fr = .returned () { fr.touch field with self := f fr.self } := rfl

@[simp] theorem setState_apply (s : State) :
    setState s fr = .returned () (fr.enterState s) := by
  simp [setState, Frame.enterState]

end

section
variable {σ α : Type} {a handler : Code σ α} {s s' : σ}

theorem catchToxTunError_returned {v : α} (h : a s = .returned v s') :
    catchToxTunError a handler s = .returned v s' := by
  simp [catchToxTunError, h]

theorem catchToxTunError_thrown {what : String} (h : a s = .thrown (.toxTunError what) s') :
    catchToxTunError a handler s = handler s' := by
  simp only [catchToxTunError, Action.tryCatch_apply, h]
  rfl

end

/-- A packet of at most four bytes with a lossless header: all that the handlers
send themselves. -/
structure Data.Control (d : Data) : Prop where
  short : d.size ≤ 4
  lossless : d.getSendTox = .ok .lossless

theorem Data.control_fromIpPostfix (subnet ipPostfix : UInt8) :
    (Data.fromIpPostfix subnet ipPostfix).Control := ⟨Nat.le_succ 3, rfl⟩

section
variable (E : Env) {d : Data} (control : d.Control)
include control

theorem toxPackets_control (index : UInt8) : toxPackets E d index = [d] :=
  if_pos (Nat.le_of_lt (Nat.lt_of_le_of_lt control.short E.room))

theorem sendToToxIndexed_control (friendNumber : UInt32) (index : UInt8) (w : World) :
    sendToToxIndexed E d friendNumber index w =
      if E.sends w.clock then .returned () (w.log (.sent friendNumber d true)).tick
      else .thrown (.toxTunError ("Can't send lossless packet to " ++ toString friendNumber))
        (w.log (.sent friendNumber d false)).tick := by
  simp only [sendToToxIndexed, toxPackets_control E control, sendAll, control.lossless,
    Action.bind_apply, Action.ofExcept_ok, Outcome.andThen_returned, toxFriendSend]
  cases E.sends w.clock <;> rfl

theorem sendToTox_control {fr : Frame} (alive : fr.alive = true) :
    sendToTox E d fr =
      if E.sends fr.world.clock then .returned () (fr.sent d true)
      else .thrown (.toxTunError ("Can't send lossless packet to " ++ toString fr.connectedFriend))
        (fr.sent d false) := by
  have short : d.getToxDataLen ≤ E.maxPacketSize :=
    Nat.le_of_lt (Nat.lt_of_le_of_lt control.short E.room)
  simp only [sendToTox, Action.bind_apply, getFriend_apply, getMember_apply,
    Frame.touch_of_alive alive, Outcome.andThen_returned, short, not_true_eq_false, if_false,
    onWorld, Action.zoom_apply, sendToToxIndexed_control E control]
  cases E.sends fr.world.clock <;> rfl

/-- A control packet is sent, and only a failed send reaches the handler. -/
theorem catch_sendToTox (handler : Code Frame Unit) {fr : Frame} (alive : fr.alive = true) :
    catchToxTunError (sendToTox E d) handler fr =
      if E.sends fr.world.clock then .returned () (fr.sent d true)
      else handler (fr.sent d false) := by
  have send := sendToTox_control E control alive
  split
  · next ok => exact catchToxTunError_returned (by rw [send, if_pos ok])
  · next failed => exact catchToxTunError_thrown (by rw [send, if_neg failed])

end

/-! ## Events, reset and deletion -/

section
variable (E : Env) {fr : Frame}

theorem callback_eq (registered : fr.world.core.callbackFunction = true) (event : Event) :
    callback E event fr = .returned () ((fr.touch .connectedFriend).raise E event) := by
  simp [callback, registered, Frame.raise]

theorem resetFriend_eq (friendNumber : UInt32) (w : World) :
    resetFriend E friendNumber w = .returned ()
      (w.log (.sent friendNumber (Data.fromPacketId .connectionReset) (E.sends w.clock))).tick := by
  simp only [resetFriend, catchToxTunError, Action.noexcept_apply, Action.tryCatch_apply,
    sendToToxIndexed_control E (d := Data.fromPacketId .connectionReset) ⟨Nat.le_add_left 1 3, rfl⟩]
  cases E.sends w.clock <;> rfl

/-- The reset is sent, whatever becomes of the event. -/
theorem resetConnection_apply (alive : fr.alive = true) : resetConnection E fr =
    (callback E .connectionClosed
      (fr.sent (Data.fromPacketId .connectionReset) (E.sends fr.world.clock))).guarded := by
  simp only [resetConnection, Action.noexcept_apply, Action.bind_apply, getFriend_apply,
    Frame.touch_of_alive alive, Outcome.andThen_returned, onWorld, Action.zoom_apply,
    resetFriend_eq, Outcome.mapState_returned]
  rfl

theorem resetConnection_eq (alive : fr.alive = true)
    (registered : fr.world.core.callbackFunction = true) :
    resetConnection E fr = .returned ()
      ((fr.sent (Data.fromPacketId .connectionReset) (E.sends fr.world.clock)).raise E
        .connectionClosed) := by
  let fr' := fr.sent (Data.fromPacketId .connectionReset) (E.sends fr.world.clock)
  have live : fr'.alive = true := alive
  have still : fr'.world.core.callbackFunction = true := registered
  rw [resetConnection_apply E alive, callback_eq E still, Frame.touch_of_alive live]
  rfl

theorem callback_unregistered (unset : fr.world.core.callbackFunction = false) (event : Event) :
    callback E event fr =
      .thrown (.toxTunError "Callback function not set") (fr.touch .connectedFriend) := by
  simp [callback, unset]

/-- Without a callback a reset is sent and the process ends. -/
theorem resetConnection_unregistered (alive : fr.alive = true)
    (unset : fr.world.core.callbackFunction = false) :
    resetConnection E fr = .terminated
      (fr.sent (Data.fromPacketId .connectionReset) (E.sends fr.world.clock)) := by
  let fr' := fr.sent (Data.fromPacketId .connectionReset) (E.sends fr.world.clock)
  have live : fr'.alive = true := alive
  have still : fr'.world.core.callbackFunction = false := unset
  rw [resetConnection_apply E alive, callback_unregistered E still, Frame.touch_of_alive live]
  rfl

theorem resetAndDeleteConnection_unregistered (alive : fr.alive = true)
    (unset : fr.world.core.callbackFunction = false) :
    resetAndDeleteConnection E fr = .terminated
      (fr.sent (Data.fromPacketId .connectionReset) (E.sends fr.world.clock)) := by
  simp [resetAndDeleteConnection, resetConnection_unregistered E alive unset]

/-- A packet of the destructor is sent; a refusal of tox is caught. -/
theorem catch_goodbye {d : Data} (control : d.Control) (alive : fr.alive = true) :
    catchToxTunError (sendToTox E d) (pure ()) fr =
      .returned () (fr.sent d (E.sends fr.world.clock)) := by
  rw [catch_sendToTox E control _ alive]
  cases E.sends fr.world.clock <;> rfl

theorem rejectConnection_eq (alive : fr.alive = true) :
    rejectConnection E fr = .returned ()
      (fr.sent (Data.fromPacketId .connectionReject) (E.sends fr.world.clock)) := by
  have control : (Data.fromPacketId .connectionReject).Control := ⟨Nat.le_add_left 1 3, rfl⟩
  rw [rejectConnection, Action.noexcept_apply, catch_goodbye E control alive]
  rfl

theorem closeConnection_eq (alive : fr.alive = true) :
    closeConnection E fr = .returned ()
      (fr.sent (Data.fromPacketId .connectionClose) (E.sends fr.world.clock)) := by
  have control : (Data.fromPacketId .connectionClose).Control := ⟨Nat.le_add_left 1 3, rfl⟩
  rw [closeConnection, Action.noexcept_apply, catch_goodbye E control alive]
  rfl

/-- The destructor returns, unless it has to raise an event that nobody takes. -/
theorem destructor_eq (alive : fr.alive = true)
    (heard : fr.self.state.resets = true → fr.world.core.callbackFunction = true) :
    destructor E fr = .returned () (fr.farewell E) := by
  simp only [destructor, Action.noexcept_apply, Action.bind_apply, getMember_apply,
    Frame.touch_of_alive alive, Outcome.andThen_returned, Frame.farewell]
  cases state : fr.self.state with
  | friendsRequestPending => exact congrArg Outcome.guarded (rejectConnection_eq E alive)
  | ownRequestPending =>
      exact congrArg Outcome.guarded (resetConnection_eq E alive (heard (by rw [state]; rfl)))
  | expectingIpPacket =>
      exact congrArg Outcome.guarded (resetConnection_eq E alive (heard (by rw [state]; rfl)))
  | expectingIpConfirmation =>
      exact congrArg Outcome.guarded (resetConnection_eq E alive (heard (by rw [state]; rfl)))
  | connected => exact congrArg Outcome.guarded (closeConnection_eq E alive)
  | deleting => rfl

theorem destructor_unregistered (alive : fr.alive = true) (resets : fr.self.state.resets = true)
    (unset : fr.world.core.callbackFunction = false) :
    destructor E fr = .terminated
      (fr.sent (Data.fromPacketId .connectionReset) (E.sends fr.world.clock)) := by
  have ends := congrArg Outcome.guarded (resetConnection_unregistered E alive unset)
  simp only [destructor, Action.noexcept_apply, Action.bind_apply, getMember_apply,
    Frame.touch_of_alive alive, Outcome.andThen_returned]
  cases state : fr.self.state with
  | ownRequestPending => exact ends
  | expectingIpPacket => exact ends
  | expectingIpConfirmation => exact ends
  | friendsRequestPending => simp [state, State.resets] at resets
  | connected => simp [state, State.resets] at resets
  | deleting => simp [state, State.resets] at resets

theorem Frame.touch_unlinked (fr : Frame) (field : Field) :
    (fr.touch field).unlinked = fr.unlinked.touch field := by
  cases alive : fr.alive with
  | true => simp [touch, unlinked, alive]
  | false =>
      simp [touch, unlinked, alive]
      rfl

theorem removeEntry_apply (fr : Frame) : removeEntry E fr =
    if E.unlinksFirst fr.world.clock then destructor E fr.unlinked
    else (destructor E fr).andThen fun _ fr' => .returned () fr'.unlinked := by
  simp only [removeEntry, Action.bind_apply, Action.read_apply, Outcome.andThen_returned]
  split <;> rfl

theorem eraseSelf_eq (alive : fr.alive = true)
    (heard : fr.self.state.resets = true → fr.world.core.callbackFunction = true) :
    eraseSelf E fr = .returned () (fr.erased E) := by
  have removes : removeEntry E fr = .returned () (fr.removed E) := by
    rw [removeEntry_apply, Frame.removed]
    split
    · exact destructor_eq E (show fr.unlinked.alive = true from alive) heard
    · rw [destructor_eq E alive heard, Outcome.andThen_returned]
  rw [eraseSelf, Action.bind_apply, removes]
  rfl

theorem eraseSelf_unregistered (alive : fr.alive = true) (resets : fr.self.state.resets = true)
    (unset : fr.world.core.callbackFunction = false) :
    eraseSelf E fr = .terminated
      ((if E.unlinksFirst fr.world.clock then fr.unlinked else fr).sent
        (Data.fromPacketId .connectionReset) (E.sends fr.world.clock)) := by
  rw [eraseSelf, Action.bind_apply, removeEntry_apply]
  split
  · rw [destructor_unregistered E (show fr.unlinked.alive = true from alive) resets unset]
    rfl
  · rw [destructor_unregistered E alive resets unset]
    rfl

theorem eraseSelf_deleting (deleting : fr.self.state = .deleting) :
    eraseSelf E fr = .returned () fr.freed := by
  have silent {fr : Frame} (deleting : fr.self.state = .deleting) :
      destructor E fr = .returned () (fr.touch .state) := by
    simp [destructor, deleting]
  have removes : removeEntry E fr = .returned () (fr.unlinked.touch .state) := by
    rw [removeEntry_apply]
    split
    · exact silent deleting
    · rw [silent deleting, Outcome.andThen_returned, Frame.touch_unlinked]
  rw [eraseSelf, Action.bind_apply, removes, Frame.freed]
  simp only [Outcome.andThen_returned, Action.modify_apply, Frame.touch_connectedFriend]
  rfl

theorem Frame.farewell_resets (resets : fr.self.state.resets = true) : fr.farewell E =
    (fr.sent (Data.fromPacketId .connectionReset) (E.sends fr.world.clock)).raise E
      .connectionClosed := by
  rw [farewell]
  cases state : fr.self.state with
  | ownRequestPending => rfl
  | expectingIpPacket => rfl
  | expectingIpConfirmation => rfl
  | friendsRequestPending => simp [state, State.resets] at resets
  | connected => simp [state, State.resets] at resets
  | deleting => simp [state, State.resets] at resets

/-- The order of the map shows only where the callback function does something. -/
theorem Frame.erased_eq (quiet : fr.self.state.resets = true → E.Passive) :
    fr.erased E = (fr.unlinked.farewell E).expired := by
  unfold erased removed
  split
  · rfl
  · cases resets : fr.self.state.resets with
    | true =>
        have told (fr' : Frame) : fr'.raise E .connectionClosed =
            fr'.log (.raised .connectionClosed fr'.connectedFriend) := quiet resets _ _
        have unlinked : fr.unlinked.self.state.resets = true := resets
        rw [farewell_resets E resets, farewell_resets E unlinked, told, told]
        rfl
    | false =>
        unfold farewell
        cases state : fr.self.state <;> simp [state, State.resets] at resets <;>
          simp only [unlinked, state] <;> rfl

/-- Deletion never fails, whatever state the object is in: its destructor meets
the state that says that it is being deleted. -/
theorem deleteConnection_eq (fr : Frame) : deleteConnection E fr = .returned () fr.buried := by
  have deleting : ((fr.enterState .deleting).touch .connectedFriend).self.state = .deleting := by
    simp
  simp only [deleteConnection, Action.noexcept_apply, Action.bind_apply, setState_apply,
    Outcome.andThen_returned, Action.modify_apply, Action.read_apply, Frame.buried]
  split
  · rw [eraseSelf_deleting E deleting]
    rfl
  · rfl

theorem resetAndDeleteConnection_eq (alive : fr.alive = true)
    (registered : fr.world.core.callbackFunction = true) :
    resetAndDeleteConnection E fr = .returned () (fr.killed E) := by
  simp only [resetAndDeleteConnection, Action.noexcept_apply, Action.bind_apply,
    resetConnection_eq E alive registered, Outcome.andThen_returned, deleteConnection_eq]
  rfl

theorem setIp_eq (registered : fr.world.core.callbackFunction = true) (subnet ipPostfix : UInt8) :
    setIp E subnet ipPostfix fr = .returned () (fr.ipSet E subnet ipPostfix) := by
  simp only [setIp, tunSetIp, Action.noexcept_apply, Action.bind_apply, setMember_apply,
    Action.modify_apply, Outcome.andThen_returned, setState_apply]
  rw [callback_eq E (by simpa using registered)]
  simp [Frame.ipSet]

end

/-! ## The search for a subnet -/

/-- Whether the query at the given clock lets the subnet pass. -/
def Env.unusedAt (E : Env) (clock : Nat) (addrSpace : UInt8) : Bool :=
  match E.usedIp4 clock with
  | some usedIps => addrspaceUnused usedIps addrSpace
  | none => true

/-- The counter, the clock and the verdict with which the loop of `sendIp` ends. -/
def Env.search (E : Env) : Nat → Int → Nat → Option (Int × Nat × Bool)
  | 0, _, _ => none
  | fuel + 1, subnet, clock =>
      if incSubnet subnet = 256 then some (256, clock + 1, false)
      else if E.unusedAt clock (UInt8.ofInt (incSubnet subnet)) then
        some (incSubnet subnet, clock + 1, true)
      else E.search fuel (incSubnet subnet) (clock + 1)

theorem toNat_ofInt {n : Int} (low : 0 ≤ n) (high : n ≤ 255) : ((UInt8.ofInt n).toNat : Int) = n := by
  rw [UInt8.ofInt, UInt8.toNat_ofNat_of_lt' (by change _ < 256; omega)]
  omega

/-- The loop of `sendIp` was run. -/
def Frame.searched (fr : Frame) (subnet : Int) (clock : Nat) : Frame :=
  { fr with self := { fr.self with subnet := subnet }, world := { fr.world with clock := clock } }

section
variable (E : Env)

theorem assumeUnused_apply (fr : Frame) (addrSpace : UInt8) :
    assumeUnused E addrSpace fr =
      .returned (E.unusedAt fr.world.clock addrSpace) (fr.touch .tun).ticked := by
  simp only [assumeUnused, catchToxTunError, isAddrspaceUnused, Action.tryCatch_apply,
    Action.bind_apply, Action.modify_apply, Outcome.andThen_returned, Action.read_apply,
    Frame.touch_clock, Env.unusedAt]
  cases E.usedIp4 fr.world.clock <;> rfl

theorem assumeUnused_eq {fr : Frame} (alive : fr.alive = true) (addrSpace : UInt8) :
    assumeUnused E addrSpace fr = .returned (E.unusedAt fr.world.clock addrSpace) fr.ticked := by
  rw [assumeUnused_apply, Frame.touch_of_alive alive]

theorem incSubnet_closer {subnet : Int} (other : incSubnet subnet ≠ 256) :
    (255 - incSubnet subnet) % 2 ^ 16 < (255 - subnet) % 2 ^ 16 := by
  simp only [incSubnet, Int.bmod_def] at other ⊢
  omega

theorem search_isSome (fuel : Nat) (subnet : Int) (clock : Nat)
    (enough : (255 - subnet) % 2 ^ 16 < fuel) : (E.search fuel subnet clock).isSome = true := by
  induction fuel generalizing subnet clock with
  | zero => omega
  | succ fuel ih =>
      simp only [Env.search]
      split
      · rfl
      · split
        · rfl
        · next h256 _ =>
            apply ih
            have closer := incSubnet_closer h256
            omega

/-- The counter meets 256 before the fuel of `sendIp` is used up. -/
theorem search_total (subnet : Int) (clock : Nat) :
    ∃ result, E.search (2 ^ 16) subnet clock = some result :=
  Option.isSome_iff_exists.mp (search_isSome E _ subnet clock (by omega))

/-- Whatever the counter is, only a subnet that a query lets pass is found. -/
theorem search_unused {fuel : Nat} {start subnet : Int} {clock clock' : Nat}
    (h : E.search fuel start clock = some (subnet, clock', true)) :
    ∃ k, E.unusedAt k (UInt8.ofInt subnet) = true := by
  induction fuel generalizing start clock with
  | zero => cases h
  | succ fuel ih =>
      simp only [Env.search] at h
      split at h
      · cases h
      · split at h
        · next unused =>
            cases h
            exact ⟨clock, unused⟩
        · exact ih h

/-- How a search ends from a counter in range: on the first subnet after it that a
query lets pass, or on 256 when there is none. -/
structure Env.Searched (E : Env) (start subnet : Int) (clock : Nat) (found : Bool) : Prop where
  above : start < subnet
  passed : found = true → subnet ≤ 255 ∧ E.unusedAt (clock - 1) (UInt8.ofInt subnet) = true
  exhausted : found = false → subnet = 256
  skipped : ∀ s, start < s → s < subnet → ∃ k, E.unusedAt k (UInt8.ofInt s) = false

theorem search_searched {fuel : Nat} {start subnet : Int} {clock clock' : Nat} {found : Bool}
    (low : -1 ≤ start) (high : start ≤ 255)
    (h : E.search fuel start clock = some (subnet, clock', found)) :
    E.Searched start subnet clock' found := by
  induction fuel generalizing start clock with
  | zero => cases h
  | succ fuel ih =>
      have next : incSubnet start = start + 1 := by
        simp only [incSubnet, Int.bmod_def]
        omega
      simp only [Env.search, next] at h
      split at h
      · next last =>
          cases h
          refine ⟨by omega, nofun, fun _ => rfl, fun s above below => by omega⟩
      · next inside =>
          split at h
          · next unused =>
              cases h
              exact ⟨by omega, fun _ => ⟨by omega, unused⟩, nofun, fun s above below => by omega⟩
          · next used =>
              have rest := ih (by omega) (by omega) h
              refine ⟨by have := rest.above; omega, rest.passed, rest.exhausted, fun s above below => ?_⟩
              by_cases adjacent : s = start + 1
              · exact ⟨clock, by rw [adjacent]; simpa using used⟩
              · exact rest.skipped s (by omega) below

theorem sendIpLoop_succ {fr : Frame} (alive : fr.alive = true) (fuel : Nat) :
    sendIpLoop E (fuel + 1) fr =
      (if incSubnet fr.self.subnet = 256 then
        (do resetAndDeleteConnection E; pure false : Code Frame Bool)
      else if E.unusedAt fr.world.clock (UInt8.ofInt (incSubnet fr.self.subnet)) then pure true
      else sendIpLoop E fuel)
        (fr.searched (incSubnet fr.self.subnet) (fr.world.clock + 1)) := by
  let fr' : Frame := { fr with self := { fr.self with subnet := incSubnet fr.self.subnet } }
  have alive' : fr'.alive = true := alive
  simp only [sendIpLoop, Action.bind_apply, setMember_apply, Frame.touch_of_alive alive,
    Outcome.andThen_returned, getMember_apply]
  rw [Frame.touch_of_alive alive', assumeUnused_eq E alive']
  rfl

/-- The loop ends as its search does: with the subnet, or with a reset. -/
theorem sendIpLoop_ends {fr : Frame} (alive : fr.alive = true) (fuel : Nat) :
    ∀ {subnet : Int} {clock : Nat} {found : Bool},
      E.search fuel fr.self.subnet fr.world.clock = some (subnet, clock, found) →
      sendIpLoop E fuel fr = (if found then pure true
        else (do resetAndDeleteConnection E; pure false) : Code Frame Bool) (fr.searched subnet clock) := by
  induction fuel generalizing fr with
  | zero => intro _ _ _ h; simp [Env.search] at h
  | succ fuel ih =>
      intro subnet clock found h
      let fr' := fr.searched (incSubnet fr.self.subnet) (fr.world.clock + 1)
      have live : fr'.alive = true := alive
      rw [sendIpLoop_succ E alive]
      simp only [Env.search] at h
      split at h
      · next is256 =>
          cases h
          rw [if_pos is256, is256]
          rfl
      · next not256 =>
          rw [if_neg not256]
          split at h
          · next unused =>
              cases h
              rw [if_pos unused]
              rfl
          · next used =>
              rw [if_neg used]
              exact ih live h

section
variable {fr : Frame} (alive : fr.alive = true) (fuel : Nat) {subnet : Int} {clock : Nat} {found : Bool}
include alive

theorem sendIpLoop_eq (registered : fr.world.core.callbackFunction = true)
    (search : E.search fuel fr.self.subnet fr.world.clock = some (subnet, clock, found)) :
    sendIpLoop E fuel fr = .returned found
      (if found then fr.searched subnet clock else (fr.searched subnet clock).killed E) := by
  have killed := @resetAndDeleteConnection_eq E (fr.searched subnet clock) alive registered
  rw [sendIpLoop_ends E alive fuel search]
  cases found with
  | true => rfl
  | false => simp [killed]

theorem sendIpLoop_unregistered (unset : fr.world.core.callbackFunction = false)
    (search : E.search fuel fr.self.subnet fr.world.clock = some (subnet, clock, found)) :
    sendIpLoop E fuel fr =
      if found then .returned true (fr.searched subnet clock)
      else .terminated ((fr.searched subnet clock).sent (Data.fromPacketId .connectionReset)
        (E.sends clock)) := by
  have ends := @resetAndDeleteConnection_unregistered E (fr.searched subnet clock) alive unset
  rw [sendIpLoop_ends E alive fuel search]
  cases found with
  | true => rfl
  | false =>
      simp [ends]
      rfl

end

end

/-- `sendIp` was called. -/
def Frame.proposed (E : Env) (fr : Frame) : Frame :=
  match E.search (2 ^ 16) fr.self.subnet fr.world.clock with
  | some (subnet, clock, true) =>
      let proposal := Data.fromIpPostfix (UInt8.ofInt subnet) 2
      if E.sends clock then (fr.searched subnet clock).sent proposal true
      else ((fr.searched subnet clock).sent proposal false).killed E
  | some (subnet, clock, false) => (fr.searched subnet clock).killed E
  | none => fr

theorem sendIp_eq (E : Env) {fr : Frame} (alive : fr.alive = true)
    (registered : fr.world.core.callbackFunction = true) :
    sendIp E fr = .returned () (fr.proposed E) := by
  obtain ⟨⟨subnet, clock, found⟩, h⟩ := search_total E fr.self.subnet fr.world.clock
  have loop := sendIpLoop_eq E alive _ registered h
  simp only [sendIp, Action.noexcept_apply, Action.bind_apply, loop, Outcome.andThen_returned,
    Frame.proposed, h]
  cases found with
  | false => rfl
  | true =>
      have live : (fr.searched subnet clock).alive = true := alive
      simp only [if_true, Action.bind_apply, getMember_apply, Frame.touch_of_alive live,
        Outcome.andThen_returned]
      rw [catch_sendToTox E (Data.control_fromIpPostfix _ _) _ live]
      split
      · next ok =>
          rw [if_pos (show E.sends clock = true from ok)]
          rfl
      · next failed =>
          let fr' := (fr.searched subnet clock).sent (Data.fromIpPostfix (UInt8.ofInt subnet) 2) false
          have lost : fr'.alive = true := alive
          have still : fr'.world.core.callbackFunction = true := registered
          rw [if_neg (show ¬ E.sends clock = true from failed)]
          exact congrArg Outcome.guarded (resetAndDeleteConnection_eq E lost still)

/-! ## Packets that are not fragments -/

/-- `sendToTun` called `tun.sendData`, whether or not the device took the bytes. -/
def Frame.written (fr : Frame) (d : Data) : Frame :=
  let fr' := (fr.touch .tun).log (.tunWrite fr.connectedFriend fr.self.state d)
  if d.size < 2 then fr' else fr'.ticked

namespace Frame

section
variable (E : Env) (fr : Frame)

def afterAccept : Frame :=
  if fr.self.state = .ownRequestPending then (fr.enterState .expectingIpConfirmation).proposed E
  else fr.killed E

def afterReject : Frame :=
  if fr.self.state = .ownRequestPending then (fr.raise E .connectionRejected).buried
  else fr.killed E

def afterClose : Frame :=
  if fr.self.state = .connected then ((fr.raise E .connectionClosed).touch .connectedFriend).buried
  else fr.killed E

def afterReset : Frame := (fr.raise E .connectionClosed).buried

/-- The answer to a proposal of an acceptable shape; the address is set even when
the acceptance could not be sent and the connection is gone. -/
def answered (subnet ipPostfix : UInt8) : Frame :=
  let status := E.sends fr.ticked.world.clock
  if E.unusedAt fr.world.clock subnet then
    let fr' := fr.ticked.sent (Data.fromPacketId .ipAccept) status
    (if status then fr' else fr'.killed E).ipSet E subnet ipPostfix
  else
    let fr' := fr.ticked.sent (Data.fromPacketId .ipReject) status
    if status then fr' else fr'.killed E

def afterProposal (d : Data) : Frame :=
  if fr.self.state = .expectingIpPacket then
    match proposalBytes d with
    | .ok (subnet, ipPostfix) => fr.answered E subnet ipPostfix
    | .error _ => fr
  else fr.killed E

def afterIpAccept : Frame :=
  if fr.self.state = .expectingIpConfirmation then fr.ipSet E (UInt8.ofInt fr.self.subnet) 1
  else fr.killed E

def afterIpReject : Frame :=
  if fr.self.state = .expectingIpConfirmation then fr.proposed E else fr.killed E

def afterData (d : Data) : Frame :=
  (if fr.self.state = .connected then fr else fr.killed E).written d

def accepted : Frame :=
  let fr' := fr.enterState .expectingIpPacket
  if E.sends fr'.world.clock then fr'.sent (Data.fromPacketId .connectionAccept) true
  else (fr'.sent (Data.fromPacketId .connectionAccept) false).killed E

/-- What `handleData` does with a packet that is not a fragment. -/
def handled (d : Data) : Frame :=
  match PacketId.ofByte d.header with
  | .connectionRequest => fr
  | .connectionAccept => fr.afterAccept E
  | .connectionReject => fr.afterReject E
  | .connectionClose => fr.afterClose E
  | .connectionReset => fr.afterReset E
  | .ipProposal => fr.afterProposal E d
  | .ipAccept => fr.afterIpAccept E
  | .ipReject => fr.afterIpReject E
  | .data => fr.afterData E d
  | .fragment => fr
  | .unnamed _ => fr

end

end Frame

section
variable (E : Env) {fr : Frame} (alive : fr.alive = true)
  (registered : fr.world.core.callbackFunction = true)

theorem sendToTun_written (d : Data) (fr : Frame) :
    catchToxTunError (tunSendData E d) (pure ()) fr = .returned () (fr.written d) := by
  simp only [catchToxTunError, tunSendData, Action.tryCatch_apply, Action.bind_apply,
    Action.modify_apply, Outcome.andThen_returned, Data.getIpData, Frame.written,
    Frame.touch_connectedFriend, Frame.touch_self]
  split
  · rfl
  · simp only [Action.ofExcept_ok, Action.bind_apply, Action.read_apply, Action.modify_apply,
      Outcome.andThen_returned]
    cases E.tunWrites ((fr.touch .tun).log (.tunWrite fr.connectedFriend fr.self.state d)).world.clock <;>
      rfl

theorem proposalBytes_eq (d : Data) :
    proposalBytes d = match d.ipByte 2 with
      | .ok ipPostfix => match d.ipByte 1 with
        | .ok subnet => .ok (subnet, ipPostfix)
        | .error e => .error e
      | .error e => .error e := by
  simp only [proposalBytes, Data.getIpPostfix, Data.getIpSubnet, bind, Except.bind]
  cases d.ipByte 2 with
  | error e => rfl
  | ok p => cases d.ipByte 1 <;> rfl

/-- The getters of a proposal fail with `ToxTunError` only. -/
theorem proposalBytes_error {d : Data} (set : d.toxHeaderSet = true)
    (header : PacketId.ofByte d.header = .ipProposal) {e : Exn} (h : proposalBytes d = .error e) :
    ∃ what, e = .toxTunError what := by
  by_cases size : d.size = 3
  · obtain ⟨subnet, ipPostfix, _, h1, h2⟩ := Data.ipBytes_of_size set header size
    simp [proposalBytes, h1, h2, bind, Except.bind] at h
  · rw [proposalBytes_eq, Data.ipByte_of_size_ne set header size] at h
    cases h
    exact ⟨_, rfl⟩

include registered

theorem setIp_after (keeps : E.KeepsCallback) (killed : Bool) (subnet ipPostfix : UInt8) :
    setIp E subnet ipPostfix (if killed then fr.killed E else fr) =
      .returned () ((if killed then fr.killed E else fr).ipSet E subnet ipPostfix) := by
  apply setIp_eq
  cases killed with
  | false => exact registered
  | true => exact (Frame.killed_callbackFunction fr keeps).trans registered

include alive

theorem handleConnectionAccepted_eq :
    handleConnectionAccepted E fr = .returned () (fr.afterAccept E) := by
  simp only [handleConnectionAccepted, Frame.afterAccept, Action.noexcept_apply,
    Action.bind_apply, getMember_apply, Frame.touch_of_alive alive, Outcome.andThen_returned]
  by_cases h : fr.self.state = .ownRequestPending
  · simp only [h, ne_eq, not_true_eq_false, if_false, if_true, Action.bind_apply, setState_apply,
      Outcome.andThen_returned]
    rw [sendIp_eq E (by simpa using alive) (by simpa using registered)]
    rfl
  · simp only [ne_eq, h, not_false_eq_true, if_true, if_false,
      resetAndDeleteConnection_eq E alive registered, Outcome.guarded_returned]

theorem handleConnectionRejected_eq :
    handleConnectionRejected E fr = .returned () (fr.afterReject E) := by
  simp only [handleConnectionRejected, Frame.afterReject, Action.noexcept_apply,
    Action.bind_apply, getMember_apply, Frame.touch_of_alive alive, Outcome.andThen_returned]
  by_cases h : fr.self.state = .ownRequestPending
  · simp only [h, ne_eq, not_true_eq_false, if_false, if_true, Action.bind_apply,
      callback_eq E registered, Frame.touch_of_alive alive, Outcome.andThen_returned,
      deleteConnection_eq, Outcome.guarded_returned]
  · simp only [ne_eq, h, not_false_eq_true, if_true, if_false,
      resetAndDeleteConnection_eq E alive registered, Outcome.guarded_returned]

theorem handleConnectionClosed_eq :
    handleConnectionClosed E fr = .returned () (fr.afterClose E) := by
  simp only [handleConnectionClosed, Frame.afterClose, Action.noexcept_apply,
    Action.bind_apply, getMember_apply, Frame.touch_of_alive alive, Outcome.andThen_returned]
  by_cases h : fr.self.state = .connected
  · simp only [h, ne_eq, not_true_eq_false, if_false, if_true, Action.bind_apply,
      callback_eq E registered, Frame.touch_of_alive alive, Outcome.andThen_returned,
      Action.modify_apply, deleteConnection_eq, Outcome.guarded_returned]
  · simp only [ne_eq, h, not_false_eq_true, if_true, if_false,
      resetAndDeleteConnection_eq E alive registered, Outcome.guarded_returned]

theorem handleConnectionReset_eq :
    handleConnectionReset E fr = .returned () (fr.afterReset E) := by
  simp only [handleConnectionReset, Frame.afterReset, Action.noexcept_apply, Action.bind_apply,
    callback_eq E registered, Frame.touch_of_alive alive, Outcome.andThen_returned,
    deleteConnection_eq, Outcome.guarded_returned]

/-- A failed send runs the reset; what follows starts from either frame. -/
theorem catch_sendToTox_kill {d : Data} (control : d.Control) :
    catchToxTunError (sendToTox E d) (resetAndDeleteConnection E) fr =
      .returned () (if E.sends fr.world.clock then fr.sent d true
        else (fr.sent d false).killed E) := by
  rw [catch_sendToTox E control _ alive]
  split
  · rfl
  · exact resetAndDeleteConnection_eq E (show (fr.sent d false).alive = true from alive) registered

theorem handleIpAccepted_eq : handleIpAccepted E fr = .returned () (fr.afterIpAccept E) := by
  simp only [handleIpAccepted, Frame.afterIpAccept, Action.noexcept_apply, Action.bind_apply,
    getMember_apply, Frame.touch_of_alive alive, Outcome.andThen_returned]
  by_cases h : fr.self.state = .expectingIpConfirmation
  · simp only [h, ne_eq, not_true_eq_false, if_false, if_true, Action.bind_apply, getMember_apply,
      Frame.touch_of_alive alive, Outcome.andThen_returned, setIp_eq E registered,
      Outcome.guarded_returned]
  · simp only [ne_eq, h, not_false_eq_true, if_true, if_false,
      resetAndDeleteConnection_eq E alive registered, Outcome.guarded_returned]

theorem handleIpRejected_eq : handleIpRejected E fr = .returned () (fr.afterIpReject E) := by
  simp only [handleIpRejected, Frame.afterIpReject, Action.noexcept_apply, Action.bind_apply,
    getMember_apply, Frame.touch_of_alive alive, Outcome.andThen_returned]
  by_cases h : fr.self.state = .expectingIpConfirmation
  · simp only [h, ne_eq, not_true_eq_false, if_false, if_true, sendIp_eq E alive registered,
      Outcome.guarded_returned]
  · simp only [ne_eq, h, not_false_eq_true, if_true, if_false,
      resetAndDeleteConnection_eq E alive registered, Outcome.guarded_returned]

theorem handleIpProposal_eq (keeps : E.KeepsCallback) {d : Data} (set : d.toxHeaderSet = true)
    (header : PacketId.ofByte d.header = .ipProposal) :
    handleIpProposal E d fr = .returned () (fr.afterProposal E d) := by
  simp only [handleIpProposal, Frame.afterProposal, Action.noexcept_apply, Action.bind_apply,
    getMember_apply, Frame.touch_of_alive alive, Outcome.andThen_returned]
  by_cases h : fr.self.state = .expectingIpPacket
  · simp only [h, ne_eq, not_true_eq_false, if_false, if_true, Action.bind_apply]
    cases bytes : proposalBytes d with
    | error e =>
        obtain ⟨what, rfl⟩ := proposalBytes_error set header bytes
        rfl
    | ok pair =>
        obtain ⟨subnet, ipPostfix⟩ := pair
        have live : fr.ticked.alive = true := alive
        have reg : fr.ticked.world.core.callbackFunction = true := registered
        change (((assumeUnused E subnet >>= _) fr).guarded) = _
        simp only [Action.bind_apply, assumeUnused_eq E alive, Outcome.andThen_returned,
          Frame.answered]
        split
        · have sent (b : Bool) := setIp_after E (show (fr.ticked.sent (Data.fromPacketId .ipAccept)
            b).world.core.callbackFunction = true from registered) keeps
          simp only [Action.bind_apply, catch_sendToTox_kill E live reg
            (d := Data.fromPacketId .ipAccept) ⟨Nat.le_add_left 1 3, rfl⟩, Outcome.andThen_returned]
          cases E.sends fr.ticked.world.clock with
          | true => exact congrArg Outcome.guarded (sent true false subnet ipPostfix)
          | false => exact congrArg Outcome.guarded (sent false true subnet ipPostfix)
        · simp only [catch_sendToTox_kill E live reg (d := Data.fromPacketId .ipReject)
            ⟨Nat.le_add_left 1 3, rfl⟩, Outcome.guarded_returned]
          cases E.sends fr.ticked.world.clock <;> rfl
  · simp only [ne_eq, h, not_false_eq_true, if_true, if_false,
      resetAndDeleteConnection_eq E alive registered, Outcome.guarded_returned]

theorem sendToTun_eq (d : Data) : sendToTun E d fr = .returned () (fr.afterData E d) := by
  simp only [sendToTun, Frame.afterData, Action.noexcept_apply, Action.bind_apply,
    getMember_apply, Frame.touch_of_alive alive, Outcome.andThen_returned]
  by_cases h : fr.self.state = .connected
  · simp only [h, ne_eq, not_true_eq_false, if_false, if_true, sendToTun_written,
      Outcome.guarded_returned]
  · simp only [ne_eq, h, not_false_eq_true, if_true, if_false, Action.bind_apply,
      resetAndDeleteConnection_eq E alive registered, Outcome.andThen_returned,
      sendToTun_written, Outcome.guarded_returned]

theorem acceptConnection_eq (ringing : fr.self.state = .friendsRequestPending) :
    acceptConnection E fr = .returned () (fr.accepted E) := by
  let fr' := fr.enterState .expectingIpPacket
  have live : fr'.alive = true := by simpa [fr'] using alive
  have reg : fr'.world.core.callbackFunction = true := by simpa [fr'] using registered
  simp only [acceptConnection, Action.bind_apply, getMember_apply, Frame.touch_of_alive alive,
    Outcome.andThen_returned, ringing, ne_eq, not_true_eq_false, if_false, setState_apply]
  rw [catch_sendToTox_kill E live reg (d := Data.fromPacketId .connectionAccept)
    ⟨Nat.le_add_left 1 3, rfl⟩]
  rfl

omit registered in
theorem acceptConnection_refused (silent : fr.self.state ≠ .friendsRequestPending) :
    acceptConnection E fr = .thrown (.toxTunError
      "Connection not on right state to accept connection request") fr := by
  simp [acceptConnection, Frame.touch_of_alive alive, silent]

omit registered in
theorem acceptConnection_unregistered (ringing : fr.self.state = .friendsRequestPending)
    (unset : fr.world.core.callbackFunction = false) :
    acceptConnection E fr =
      let fr' := fr.enterState .expectingIpPacket
      if E.sends fr'.world.clock then .returned () (fr'.sent (Data.fromPacketId .connectionAccept) true)
      else .terminated ((fr'.sent (Data.fromPacketId .connectionAccept) false).sent
        (Data.fromPacketId .connectionReset) (E.sends (fr'.world.clock + 1))) := by
  let fr' := fr.enterState .expectingIpPacket
  have live : fr'.alive = true := by simpa [fr'] using alive
  have still : fr'.world.core.callbackFunction = false := by simpa [fr'] using unset
  simp only [acceptConnection, Action.bind_apply, getMember_apply, Frame.touch_of_alive alive,
    Outcome.andThen_returned, ringing, ne_eq, not_true_eq_false, if_false, setState_apply]
  rw [catch_sendToTox E (d := Data.fromPacketId .connectionAccept) ⟨Nat.le_add_left 1 3, rfl⟩ _ live]
  split
  · rfl
  · exact resetAndDeleteConnection_unregistered E (show (fr'.sent _ false).alive = true from live) still

theorem handleDataFuel_eq (keeps : E.KeepsCallback) {d : Data} (set : d.toxHeaderSet = true)
    (whole : PacketId.ofByte d.header ≠ .fragment) (fuel : Nat) :
    handleDataFuel E (fuel + 1) d fr = .returned () (fr.handled E d) := by
  simp only [handleDataFuel, Action.noexcept_apply, Action.bind_apply,
    Data.getToxHeader_of_set set, Action.ofExcept_ok, Outcome.andThen_returned, Frame.handled]
  cases header : PacketId.ofByte d.header with
  | connectionRequest => rfl
  | connectionAccept => exact congrArg Outcome.guarded (handleConnectionAccepted_eq E alive registered)
  | connectionReject => exact congrArg Outcome.guarded (handleConnectionRejected_eq E alive registered)
  | connectionClose => exact congrArg Outcome.guarded (handleConnectionClosed_eq E alive registered)
  | connectionReset => exact congrArg Outcome.guarded (handleConnectionReset_eq E alive registered)
  | ipProposal =>
      exact congrArg Outcome.guarded (handleIpProposal_eq E alive registered keeps set header)
  | ipAccept => exact congrArg Outcome.guarded (handleIpAccepted_eq E alive registered)
  | ipReject => exact congrArg Outcome.guarded (handleIpRejected_eq E alive registered)
  | data => exact congrArg Outcome.guarded (sendToTun_eq E alive registered d)
  | fragment => exact (whole header).elim
  | unnamed b => rfl

end

end LibToxTun
