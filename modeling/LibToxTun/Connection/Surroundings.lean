import LibToxTun.Foundation.Refinement
import LibToxTun.Connection.Calculus

/-! # A connection among others

The handlers of a connection look at no other entry of the table and change none:
with other connections around it, a connection does the same.
-/

namespace LibToxTun

open Foundation Foundation.Action

/-- The table with other entries than that of a friend. -/
def ToxTunCore.amid (f : UInt32) (others : UInt32 → Option Connection) (core : ToxTunCore) :
    ToxTunCore :=
  { core with connections := Function.update others f (core.connections f) }

def World.amid (f : UInt32) (others : UInt32 → Option Connection) (w : World) : World :=
  { w with core := w.core.amid f others }

def Frame.amid (f : UInt32) (others : UInt32 → Option Connection) (fr : Frame) : Frame :=
  { fr with world := fr.world.amid f others }

/-- A handler of the connection to a friend does the same whatever the others are. -/
abbrev Regardless (f : UInt32) (others : UInt32 → Option Connection) {α : Type} (a : Code Frame α) :
    Prop :=
  Refines (fun fr : Frame => fr.connectedFriend = f) (Frame.amid f others) a a

section
variable {f : UInt32} {others : UInt32 → Option Connection}

@[simp] theorem ToxTunCore.amid_self (core : ToxTunCore) :
    (core.amid f others).connections f = core.connections f := Function.update_self ..

@[simp] theorem World.amid_trace (w : World) : (w.amid f others).trace = w.trace := rfl

@[simp] theorem World.amid_clock (w : World) : (w.amid f others).clock = w.clock := rfl

@[simp] theorem World.amid_callbackFunction (w : World) :
    (w.amid f others).core.callbackFunction = w.core.callbackFunction := rfl

theorem World.amid_setConnection (w : World) (c : Option Connection) :
    (w.amid f others).setConnection f c = (w.setConnection f c).amid f others := by
  simp [World.amid, ToxTunCore.amid, World.setConnection]

theorem Frame.touch_amid (fr : Frame) (field : Field) :
    (fr.amid f others).touch field = (fr.touch field).amid f others := by
  cases alive : fr.alive <;> simp [Frame.touch, Frame.amid, alive, Frame.log, World.log, World.amid]

/-! ## Members and sending -/

theorem regardless_touch (field : Field) :
    Regardless f others (modify fun fr => fr.touch field : Code Frame Unit) :=
  refines_modify (fun fr of => (fr.touch_connectedFriend field).trans of)
    fun fr _ => fr.touch_amid field

theorem regardless_getMember {α : Type} (field : Field) (m : Connection → α) :
    Regardless f others (getMember field m) :=
  (regardless_touch field).bind fun _ => refines_read fun _ _ => rfl

theorem regardless_getFriend : Regardless f others getFriend :=
  (regardless_touch .connectedFriend).bind fun _ => refines_read fun _ _ => rfl

theorem regardless_setMember (field : Field) (m : Connection → Connection) :
    Regardless f others (setMember field m) := by
  refine refines_modify (fun fr of => (fr.touch_connectedFriend field).trans of) fun fr _ => ?_
  rw [Frame.touch_amid]
  rfl

theorem regardless_read {α : Type} (g : Frame → α) (same : ∀ fr : Frame, g (fr.amid f others) = g fr) :
    Regardless f others (read g : Code Frame α) :=
  refines_read fun fr _ => same fr

theorem regardless_tick :
    Regardless f others (modify fun fr => { fr with world := fr.world.tick } : Code Frame Unit) :=
  refines_modify (fun _ of => of) fun _ _ => rfl

theorem regardless_log (e : Frame → Effect) (same : ∀ fr : Frame, e (fr.amid f others) = e fr) :
    Regardless f others (modify fun fr => fr.log (e fr) : Code Frame Unit) := by
  refine refines_modify (fun fr of => of) fun fr _ => ?_
  rw [same]
  rfl

theorem regardless_setState (s : State) : Regardless f others (setState s) :=
  (regardless_setMember .state _).bind fun _ => regardless_log _ fun _ => rfl

theorem regardless_catch {α : Type} {a handler : Code Frame α} (h : Regardless f others a)
    (hh : Regardless f others handler) : Regardless f others (catchToxTunError a handler) := by
  refine h.tryCatch fun e => ?_
  cases e with
  | toxTunError what => exact .some hh
  | outOfRange => exact .none

section
variable {E : Env}

theorem refines_sendAll (friendNumber : UInt32) (l : List Data) :
    Refines (fun _ => True) (World.amid f others) (sendAll E friendNumber l)
      (sendAll E friendNumber l) := by
  induction l with
  | nil => exact refines_pure ()
  | cons d rest ih =>
      have asks : Refines (fun _ => True) (World.amid f others) (toxFriendSend E friendNumber d)
          (toxFriendSend E friendNumber d) := fun w _ => ⟨trivial, rfl⟩
      refine (refines_ofExcept _).bind fun kind => asks.bind fun status => ?_
      cases status with
      | true => exact ih
      | false => cases kind <;> exact refines_throw _

theorem regardless_onWorld {α : Type} {a : Code World α}
    (h : Refines (fun _ => True) (World.amid f others) a a) : Regardless f others (onWorld a) :=
  h.zoom (fun _ _ => ⟨trivial, rfl⟩) fun _ _ of _ => ⟨of, rfl⟩

theorem regardless_sendToTox (d : Data) : Regardless f others (sendToTox E d) := by
  have sends (friendNumber : UInt32) (index : UInt8) :
      Regardless f others (onWorld (sendToToxIndexed E d friendNumber index)) :=
    regardless_onWorld (refines_sendAll _ _)
  refine regardless_getFriend.bind fun friendNumber => (regardless_getMember _ _).bind fun index => ?_
  split
  · exact (regardless_setMember _ _).bind fun _ => sends friendNumber index
  · exact sends friendNumber index

theorem regardless_forwardRead (read : Except Exn Data) : Regardless f others (forwardRead E read) := by
  have sends : Regardless f others (do let data ← Action.ofExcept read; sendToTox E data) :=
    (refines_ofExcept read).bind regardless_sendToTox
  exact (regardless_catch sends (refines_pure ())).noexcept

theorem regardless_iterate (reads : List (Except Exn Data)) : Regardless f others (iterate E reads) := by
  induction reads with
  | nil => exact refines_pure ()
  | cons read reads ih =>
      refine (regardless_getMember _ _).bind fun state => ?_
      split
      · refine (regardless_touch .tun).bind fun _ => ?_
        exact (regardless_forwardRead read).bind fun _ => ih
      · exact refines_pure ()

end

/-! ## Events and deletion -/

section
variable {E : Env} (passive : E.Passive)
include passive

theorem regardless_callback (event : Event) : Regardless f others (callback E event) := by
  refine regardless_getFriend.bind fun friendNumber =>
    (regardless_read (fun fr => fr.world.core.callbackFunction) fun _ => rfl).bind fun set => ?_
  split
  · refine refines_modify (fun fr of => ?_) fun fr _ => ?_
    · rw [passive]
      exact of
    · rw [passive, passive]
      rfl
  · exact refines_throw _

theorem regardless_resetConnection : Regardless f others (resetConnection E) := by
  have reset (friendNumber : UInt32) : Regardless f others (onWorld (resetFriend E friendNumber)) := by
    refine regardless_onWorld fun w _ => ⟨trivial, ?_⟩
    rw [resetFriend_eq, resetFriend_eq]
    rfl
  exact (regardless_getFriend.bind fun friendNumber => (reset friendNumber).bind fun _ =>
    regardless_callback passive _).noexcept

omit passive in
theorem regardless_said (d : Data) :
    Regardless f others (noexcept (catchToxTunError (sendToTox E d) (pure ()))) :=
  (regardless_catch (regardless_sendToTox d) (refines_pure ())).noexcept

theorem regardless_destructor : Regardless f others (destructor E) := by
  refine ((regardless_getMember _ _).bind fun state => ?_).noexcept
  cases state with
  | friendsRequestPending => exact regardless_said _
  | ownRequestPending => exact regardless_resetConnection passive
  | expectingIpPacket => exact regardless_resetConnection passive
  | expectingIpConfirmation => exact regardless_resetConnection passive
  | connected => exact regardless_said _
  | deleting => exact refines_pure ()

omit passive in
theorem regardless_unlink : Regardless f others unlink := by
  refine refines_modify (fun fr of => of) fun fr of => ?_
  subst of
  simp only [Frame.amid, World.amid_setConnection]

theorem regardless_removeEntry : Regardless f others (removeEntry E) := by
  refine (regardless_read (fun fr => E.unlinksFirst fr.world.clock) fun _ => rfl).bind fun first => ?_
  cases first with
  | true => exact regardless_unlink.bind fun _ => regardless_destructor passive
  | false => exact (regardless_destructor passive).bind fun _ => regardless_unlink

theorem regardless_eraseSelf : Regardless f others (eraseSelf E) := by
  have frees : Regardless f others (modify fun fr : Frame =>
      { fr.log (.destroyed fr.connectedFriend) with alive := false } : Code Frame Unit) :=
    refines_modify (fun fr of => of) fun fr _ => rfl
  exact (regardless_removeEntry passive).bind fun _ => frees

theorem regardless_deleteConnection : Regardless f others (deleteConnection E) := by
  refine ((regardless_setState _).bind fun _ => (regardless_touch _).bind fun _ =>
    (regardless_read Frame.linked fun _ => rfl).bind fun linked => ?_).noexcept
  split
  · exact regardless_eraseSelf passive
  · exact refines_pure ()

theorem regardless_resetAndDeleteConnection : Regardless f others (resetAndDeleteConnection E) :=
  ((regardless_resetConnection passive).bind fun _ => regardless_deleteConnection passive).noexcept

/-! ## Handlers -/

theorem regardless_answered (d : Data) :
    Regardless f others (catchToxTunError (sendToTox E d) (resetAndDeleteConnection E)) :=
  regardless_catch (regardless_sendToTox d) (regardless_resetAndDeleteConnection passive)

omit passive in
theorem regardless_assumeUnused (addrSpace : UInt8) :
    Regardless f others (assumeUnused E addrSpace) := by
  refine regardless_catch ?_ (refines_pure true)
  refine (regardless_touch .tun).bind fun _ =>
    (regardless_read (fun fr => E.usedIp4 fr.world.clock) fun _ => rfl).bind fun answer =>
      regardless_tick.bind fun _ => ?_
  cases answer with
  | some usedIps => exact refines_pure _
  | none => exact refines_throw _

theorem regardless_setIp (subnet ipPostfix : UInt8) : Regardless f others (setIp E subnet ipPostfix) := by
  have device : Regardless f others (tunSetIp subnet ipPostfix) :=
    (regardless_setMember .tun _).bind fun _ => regardless_log _ fun _ => rfl
  exact (device.bind fun _ => (regardless_setState .connected).bind fun _ =>
    regardless_callback passive _).noexcept

theorem regardless_sendIpLoop (fuel : Nat) : Regardless f others (sendIpLoop E fuel) := by
  induction fuel with
  | zero => exact refines_exhausted
  | succ fuel ih =>
      refine (regardless_setMember _ _).bind fun _ => (regardless_getMember _ _).bind fun subnet =>
        (regardless_assumeUnused _).bind fun unused => ?_
      split
      · exact (regardless_resetAndDeleteConnection passive).bind fun _ => refines_pure false
      · split
        · exact refines_pure true
        · exact ih

theorem regardless_sendIp : Regardless f others (sendIp E) := by
  refine ((regardless_sendIpLoop passive _).bind fun found => ?_).noexcept
  split
  · exact (regardless_getMember _ _).bind fun subnet => regardless_answered passive _
  · exact refines_pure ()

/-- A handler that resets the connection in every state but one. -/
theorem regardless_expecting (s : State) {a : Code Frame Unit} (h : Regardless f others a) :
    Regardless f others (noexcept do
      if (← getMember .state Connection.state) ≠ s then resetAndDeleteConnection E else a) := by
  refine ((regardless_getMember _ _).bind fun state => ?_).noexcept
  split
  · exact regardless_resetAndDeleteConnection passive
  · exact h

theorem regardless_handleConnectionReset : Regardless f others (handleConnectionReset E) :=
  ((regardless_callback passive _).bind fun _ => regardless_deleteConnection passive).noexcept

theorem regardless_handleIpProposal (data : Data) : Regardless f others (handleIpProposal E data) := by
  refine regardless_expecting passive .expectingIpPacket ?_
  refine (regardless_catch ((refines_ofExcept _).map some) (refines_pure none)).bind fun bytes => ?_
  cases bytes with
  | none => exact refines_pure ()
  | some pair =>
      refine (regardless_assumeUnused _).bind fun unused => ?_
      split
      · exact (regardless_answered passive _).bind fun _ => regardless_setIp passive _ _
      · exact regardless_answered passive _

theorem regardless_handleIpAccepted : Regardless f others (handleIpAccepted E) :=
  regardless_expecting passive .expectingIpConfirmation <|
    (regardless_getMember _ _).bind fun _ => regardless_setIp passive _ _

theorem regardless_sendToTun (data : Data) : Regardless f others (sendToTun E data) := by
  have device : Regardless f others (tunSendData E data) := by
    refine (regardless_touch .tun).bind fun _ => (regardless_log _ fun _ => rfl).bind fun _ =>
      (refines_ofExcept _).bind fun _ =>
        (regardless_read (fun fr => E.tunWrites fr.world.clock) fun _ => rfl).bind fun written =>
          regardless_tick.bind fun _ => ?_
    split
    · exact refines_throw _
    · exact refines_pure ()
  have write := regardless_catch device (refines_pure ())
  refine ((regardless_getMember _ _).bind fun state => ?_).noexcept
  split
  · exact (regardless_resetAndDeleteConnection passive).bind fun _ => write
  · exact write

omit passive in
theorem regardless_handleFragment {nested : Data → Code Frame Unit}
    (hn : ∀ d, Regardless f others (nested d)) (data : Data) :
    Regardless f others (handleFragment nested data) := by
  refine Refines.noexcept ?_
  split
  · refine (regardless_setMember _ _).bind fun _ => (regardless_getMember _ _).bind fun stored => ?_
    split
    · exact (regardless_setMember _ _).bind fun _ => (refines_ofExcept _).bind fun d =>
        (hn d).bind fun _ => (regardless_touch _).bind fun _ => regardless_touch _
    · exact refines_pure ()
  · exact refines_pure ()

theorem regardless_handleDataFuel (fuel : Nat) (data : Data) :
    Regardless f others (handleDataFuel E fuel data) := by
  induction fuel generalizing data with
  | zero => exact refines_exhausted
  | succ fuel ih =>
      refine ((refines_ofExcept _).bind fun id => ?_).noexcept
      have deletes : Regardless f others (deleteConnection E) := regardless_deleteConnection passive
      cases id with
      | connectionRequest => exact refines_pure ()
      | connectionAccept =>
          exact regardless_expecting passive .ownRequestPending <|
            (regardless_setState _).bind fun _ => regardless_sendIp passive
      | connectionReject =>
          exact regardless_expecting passive .ownRequestPending <|
            (regardless_callback passive _).bind fun _ => deletes
      | connectionClose =>
          exact regardless_expecting passive .connected <|
            (regardless_callback passive _).bind fun _ => (regardless_touch _).bind fun _ => deletes
      | connectionReset => exact regardless_handleConnectionReset passive
      | ipProposal => exact regardless_handleIpProposal passive data
      | ipAccept => exact regardless_handleIpAccepted passive
      | ipReject =>
          exact regardless_expecting passive .expectingIpConfirmation (regardless_sendIp passive)
      | data => exact regardless_sendToTun passive data
      | fragment => exact regardless_handleFragment ih data
      | unnamed b => exact refines_pure ()

theorem regardless_handleData (data : Data) : Regardless f others (handleData E data) :=
  fun fr of => regardless_handleDataFuel passive (fr.self.fragments.fuel data) data fr of

theorem regardless_acceptConnection : Regardless f others (acceptConnection E) := by
  refine (regardless_getMember _ _).bind fun state => ?_
  split
  · exact refines_throw _
  · exact (regardless_setState _).bind fun _ => regardless_answered passive _

end

end

end LibToxTun
