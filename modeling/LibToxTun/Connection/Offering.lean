import LibToxTun.Data.Splitting
import LibToxTun.Connection.Nesting
import LibToxTun.Connection.Preservation

/-! # Proposals

What a connection hands to tox as a proposal, whether or not tox takes it. Only
`sendIp` proposes anything, and at most the subnet with which its search ends.
-/

namespace LibToxTun

open Foundation Foundation.Action

/-- The proposal handed to tox for a friend. -/
def Effect.offerTo (f : UInt32) : Effect → Option Data
  | .sent g d _ => if g = f ∧ PacketId.ofByte d.header = .ipProposal then some d else none
  | _ => none

def World.offers (f : UInt32) (w : World) : List Data := w.trace.filterMap (Effect.offerTo f)

/-- Nothing was proposed in between. -/
def SameOffers (f : UInt32) (w w' : World) : Prop := w'.offers f = w.offers f

instance (f : UInt32) : IsPreorder World (SameOffers f) where
  refl _ := rfl
  trans _ _ _ h h' := h'.trans h

/-- An action of a connection that proposes nothing. -/
abbrev Silent {α : Type} (f : UInt32) (a : Code Frame α) : Prop :=
  Respects (OverWorld (SameOffers f)) a

section
variable {f : UInt32}

theorem sameOffers_of_trace {w w' : World} (same : w'.trace = w.trace) : SameOffers f w w' :=
  congrArg (List.filterMap (Effect.offerTo f)) same

theorem sameOffers_log (w : World) {e : Effect} (other : e.offerTo f = none) :
    SameOffers f w (w.log e) := by
  simp [SameOffers, World.offers, World.log, other]

theorem offerTo_sent {d : Data} (other : PacketId.ofByte d.header ≠ .ipProposal) (g : UInt32)
    (status : Bool) : (Effect.sent g d status).offerTo f = none := by
  simp [Effect.offerTo, other]

/-! ## Members and packets -/

theorem silent_touch (field : Field) :
    Silent f (modify fun fr => fr.touch field : Code Frame Unit) := by
  apply respects_modify
  intro fr
  change SameOffers f fr.world (fr.touch field).world
  unfold Frame.touch
  split
  · rfl
  · exact sameOffers_log _ rfl

theorem silent_getMember {α : Type} (field : Field) (g : Connection → α) :
    Silent f (getMember field g) := (silent_touch field).bind fun _ => respects_read _

theorem silent_getFriend : Silent f getFriend :=
  (silent_touch .connectedFriend).bind fun _ => respects_read _

theorem silent_setMember (field : Field) (g : Connection → Connection) :
    Silent f (setMember field g) := silent_touch field

theorem silent_setState (s : State) : Silent f (setState s) :=
  (silent_setMember _ _).bind fun _ fr => sameOffers_log fr.world rfl

variable (E : Env)

theorem sameOffers_sendAll (g : UInt32) {l : List Data}
    (others : ∀ d ∈ l, PacketId.ofByte d.header ≠ .ipProposal) :
    Respects (SameOffers f) (sendAll E g l) := by
  induction l with
  | nil => exact respects_pure ()
  | cons d rest ih =>
      rw [List.forall_mem_cons] at others
      refine (respects_ofExcept _).bind fun kind => Respects.bind (fun w => ?_) fun status => ?_
      · exact sameOffers_log w (offerTo_sent others.1 g _)
      · cases status with
        | true => exact ih others.2
        | false => cases kind <;> exact respects_throw _

/-- Neither a packet nor its fragments are proposals, unless the packet is one. -/
theorem toxPackets_others {d : Data} (other : PacketId.ofByte d.header ≠ .ipProposal)
    (index : UInt8) : ∀ p ∈ toxPackets E d index, PacketId.ofByte p.header ≠ .ipProposal := by
  intro p mem
  unfold toxPackets at mem
  split at mem
  · rwa [List.mem_singleton.mp mem]
  · rw [Data.getSplitted_eq, List.mem_reverse, List.mem_map] at mem
    obtain ⟨fragment, -, rfl⟩ := mem
    rw [fragment.eq_mk]
    show PacketId.ofByte 201 ≠ .ipProposal
    decide

theorem silent_sendToTox {d : Data} (other : PacketId.ofByte d.header ≠ .ipProposal) :
    Silent f (sendToTox E d) := by
  refine silent_getFriend.bind fun g => (silent_getMember _ _).bind fun index => ?_
  have sends : Silent f (onWorld (sendToToxIndexed E d g index)) :=
    (sameOffers_sendAll E g (toxPackets_others E other index)).zoom fun _ _ h => h
  split
  · exact (silent_setMember _ _).bind fun _ => sends
  · exact (respects_pure ()).bind fun _ => sends

theorem silent_catch_control (id : PacketId) (other : PacketId.ofByte id.toByte ≠ .ipProposal)
    {handler : Code Frame Unit} (hh : Silent f handler) :
    Silent f (catchToxTunError (sendToTox E (Data.fromPacketId id)) handler) :=
  respects_catchToxTunError (silent_sendToTox E other) hh

/-! ## Events and deletion -/

section
variable {E} (passive : E.Passive)
include passive

theorem silent_callback (event : Event) : Silent f (callback E event) := by
  refine silent_getFriend.bind fun g => (respects_read _).bind fun registered => ?_
  cases registered with
  | true =>
      intro fr
      change SameOffers f fr.world (E.userCallback event (fr.log (.raised event g))).world
      rw [passive]
      exact sameOffers_log _ rfl
  | false => exact respects_throw _

omit passive in
theorem sameOffers_resetFriend (g : UInt32) : Respects (SameOffers f) (resetFriend E g) := by
  have control : ∀ d ∈ toxPackets E (Data.fromPacketId .connectionReset) 0,
      PacketId.ofByte d.header ≠ .ipProposal := toxPackets_others E (by decide) 0
  exact (respects_catchToxTunError (sameOffers_sendAll E g control) (respects_pure ())).noexcept

theorem silent_resetConnection : Silent f (resetConnection E) := by
  refine (silent_getFriend.bind fun g => Respects.bind ?_ fun _ => silent_callback passive _).noexcept
  exact (sameOffers_resetFriend g).zoom fun _ _ h => h

theorem silent_destructor : Silent f (destructor E) := by
  refine ((silent_getMember _ _).bind fun state => ?_).noexcept
  cases state with
  | friendsRequestPending =>
      exact (silent_catch_control E .connectionReject (by decide) (respects_pure ())).noexcept
  | ownRequestPending => exact silent_resetConnection passive
  | expectingIpPacket => exact silent_resetConnection passive
  | expectingIpConfirmation => exact silent_resetConnection passive
  | connected => exact (silent_catch_control E .connectionClose (by decide) (respects_pure ())).noexcept
  | deleting => exact respects_pure ()

theorem silent_eraseSelf : Silent f (eraseSelf E) := by
  have unlinks : Silent f unlink := fun fr => sameOffers_of_trace rfl
  refine Respects.bind ((respects_read _).bind fun first => ?_) fun _ fr => sameOffers_log fr.world rfl
  cases first with
  | true => exact unlinks.bind fun _ => silent_destructor passive
  | false => exact (silent_destructor passive).bind fun _ => unlinks

theorem silent_deleteConnection : Silent f (deleteConnection E) := by
  refine ((silent_setState _).bind fun _ => (silent_touch _).bind fun _ =>
    (respects_read _).bind fun linked => ?_).noexcept
  cases linked with
  | true => exact silent_eraseSelf passive
  | false => exact respects_pure ()

theorem silent_resetAndDeleteConnection : Silent f (resetAndDeleteConnection E) :=
  ((silent_resetConnection passive).bind fun _ => silent_deleteConnection passive).noexcept

/-! ## Handlers -/

omit passive in
theorem silent_assumeUnused (addrSpace : UInt8) : Silent f (assumeUnused E addrSpace) := by
  intro fr
  rw [assumeUnused_apply]
  exact silent_touch .tun fr

theorem silent_setIp (subnet ipPostfix : UInt8) : Silent f (setIp E subnet ipPostfix) := by
  have device : Silent f (tunSetIp subnet ipPostfix) :=
    (silent_setMember _ _).bind fun _ fr => sameOffers_log fr.world rfl
  exact (device.bind fun _ => (silent_setState _).bind fun _ => silent_callback passive _).noexcept

theorem silent_sendIpLoop (fuel : Nat) : Silent f (sendIpLoop E fuel) := by
  induction fuel with
  | zero => exact respects_exhausted
  | succ fuel ih =>
      refine (silent_setMember _ _).bind fun _ => (silent_getMember _ _).bind fun subnet =>
        (silent_assumeUnused _).bind fun unused => ?_
      split
      · exact (silent_resetAndDeleteConnection passive).bind fun _ => respects_pure false
      · split
        · exact respects_pure true
        · exact ih

/-- A handler that looks at the state, and resets the connection in any other one. -/
theorem silent_inState (s : State) {a : Code Frame Unit} (ha : Silent f a) :
    Silent f (Action.noexcept do
      if (← getMember .state Connection.state) ≠ s then resetAndDeleteConnection E else a) := by
  refine ((silent_getMember _ _).bind fun state => ?_).noexcept
  split
  · exact silent_resetAndDeleteConnection passive
  · exact ha

theorem silent_handleConnectionRejected : Silent f (handleConnectionRejected E) :=
  silent_inState passive _ ((silent_callback passive _).bind fun _ => silent_deleteConnection passive)

theorem silent_handleConnectionClosed : Silent f (handleConnectionClosed E) :=
  silent_inState passive _ ((silent_callback passive _).bind fun _ =>
    (silent_touch _).bind fun _ => silent_deleteConnection passive)

theorem silent_handleConnectionReset : Silent f (handleConnectionReset E) :=
  ((silent_callback passive _).bind fun _ => silent_deleteConnection passive).noexcept

theorem silent_handleIpProposal (data : Data) : Silent f (handleIpProposal E data) := by
  have killed := silent_resetAndDeleteConnection (f := f) passive
  refine silent_inState passive _ ((respects_catchToxTunError (respects_ofExcept _).map
    (respects_pure none)).bind fun bytes => ?_)
  cases bytes with
  | none => exact respects_pure ()
  | some pair =>
      refine (silent_assumeUnused _).bind fun unused => ?_
      cases unused with
      | true =>
          exact (silent_catch_control E .ipAccept (by decide) killed).bind fun _ =>
            silent_setIp passive _ _
      | false => exact silent_catch_control E .ipReject (by decide) killed

theorem silent_handleIpAccepted : Silent f (handleIpAccepted E) :=
  silent_inState passive _ ((silent_getMember _ _).bind fun _ => silent_setIp passive _ _)

theorem silent_sendToTun (data : Data) : Silent f (sendToTun E data) := by
  have write : Silent f (catchToxTunError (tunSendData E data) (pure ())) := by
    refine respects_catchToxTunError ((silent_touch _).bind fun _ => Respects.bind (fun fr => ?_)
      fun _ => (respects_ofExcept _).bind fun _ => (respects_read _).bind fun written =>
        Respects.bind (fun fr => ?_) fun _ => ?_) (respects_pure ())
    · exact sameOffers_log fr.world rfl
    · exact sameOffers_of_trace rfl
    · split
      · exact respects_throw _
      · exact respects_pure ()
  refine ((silent_getMember _ _).bind fun state => ?_).noexcept
  split
  · exact (silent_resetAndDeleteConnection passive).bind fun _ => write
  · exact (respects_pure ()).bind fun _ => write

theorem silent_acceptConnection : Silent f (acceptConnection E) := by
  refine (silent_getMember _ _).bind fun state => ?_
  split
  · exact respects_throw _
  · exact (silent_setState _).bind fun _ =>
      silent_catch_control E .connectionAccept (by decide) (silent_resetAndDeleteConnection passive)

end

/-- Forwarding what was read from the device, which is no proposal. -/
theorem silent_iterate {reads : List (Except Exn Data)}
    (frames : ∀ d, .ok d ∈ reads → PacketId.ofByte d.header ≠ .ipProposal) :
    Silent f (iterate E reads) := by
  induction reads with
  | nil => exact respects_pure ()
  | cons read reads ih =>
      have rest := ih fun d mem => frames d (List.mem_cons_of_mem _ mem)
      refine (silent_getMember _ _).bind fun state => ?_
      split
      · refine (silent_touch _).bind fun _ => ?_
        refine Respects.bind ?_ fun _ => rest
        refine (respects_catchToxTunError ?_ (respects_pure ())).noexcept
        cases read with
        | ok d => exact silent_sendToTox E (frames d List.mem_cons_self)
        | error e => exact respects_throw e
      · exact respects_pure ()

end

/-! ## The search -/

/-- The verdict on a subnet in a search from a counter, which asks for one subnet after
the other from the start of the operation on. -/
def Env.verdict (E : Env) (counter subnet : Int) : Bool :=
  E.unusedAt (subnet - counter - 1).toNat (UInt8.ofInt subnet)

/-- The search from a counter ends on the first subnet that a query lets pass. -/
structure Env.Finds (E : Env) (counter subnet : Int) : Prop where
  above : counter < subnet
  below : subnet ≤ 255
  passed : E.verdict counter subnet = true
  skipped : ∀ s, counter < s → s < subnet → E.verdict counter s = false

/-- No subnet after the counter passes. -/
def Env.Exhausts (E : Env) (counter : Int) : Prop :=
  ∀ s, counter < s → s ≤ 255 → E.verdict counter s = false

theorem Env.Finds.not_exhausts {E : Env} {counter subnet : Int} (h : E.Finds counter subnet) :
    ¬E.Exhausts counter := by
  intro exhausts
  have refused := exhausts subnet h.above h.below
  rw [h.passed] at refused
  cases refused

theorem incSubnet_of_range {counter : Int} (low : -1 ≤ counter) (high : counter ≤ 255) :
    incSubnet counter = counter + 1 := by
  simp only [incSubnet, Int.bmod_def]
  omega

/-- Every round of a search takes one subnet and one query. -/
theorem search_rounds (E : Env) {fuel : Nat} {start subnet : Int} {clock clock' : Nat} {found : Bool}
    (low : -1 ≤ start) (high : start ≤ 255)
    (h : E.search fuel start clock = some (subnet, clock', found)) :
    (clock' : Int) = clock + (subnet - start) ∧ ∀ s, start < s → s < subnet →
      E.unusedAt (clock + (s - start - 1).toNat) (UInt8.ofInt s) = false := by
  induction fuel generalizing start clock with
  | zero => cases h
  | succ fuel ih =>
      have next := incSubnet_of_range low high
      simp only [Env.search, next] at h
      split at h
      · next last =>
          cases h
          exact ⟨by omega, fun s above below => by omega⟩
      · next inside =>
          split at h
          · next unused =>
              cases h
              exact ⟨by omega, fun s above below => by omega⟩
          · next used =>
              obtain ⟨rounds, skipped⟩ := ih (by omega) (by omega) h
              refine ⟨by omega, fun s above below => ?_⟩
              by_cases adjacent : s = start + 1
              · rw [adjacent, show clock + (start + 1 - start - 1).toNat = clock by omega]
                simpa using used
              · have later := skipped s (by omega) below
                rwa [show clock + 1 + (s - (start + 1) - 1).toNat =
                  clock + (s - start - 1).toNat by omega] at later

section
variable {E : Env} {counter subnet : Int} {clock : Nat}
  (low : -1 ≤ counter) (high : counter ≤ 255)
include low high

theorem search_finds (h : E.search (2 ^ 16) counter 0 = some (subnet, clock, true)) :
    E.Finds counter subnet := by
  have ends := search_searched E low high h
  obtain ⟨rounds, skipped⟩ := search_rounds E low high h
  obtain ⟨below, passed⟩ := ends.passed rfl
  refine ⟨ends.above, below, ?_, fun s above before => ?_⟩
  · rwa [show clock - 1 = (subnet - counter - 1).toNat by omega] at passed
  · have refused := skipped s above before
    rwa [Nat.zero_add] at refused

theorem search_exhausts (h : E.search (2 ^ 16) counter 0 = some (subnet, clock, false)) :
    E.Exhausts counter := by
  have last := (search_searched E low high h).exhausted rfl
  obtain ⟨-, skipped⟩ := search_rounds E low high h
  intro s above below
  have refused := skipped s above (by omega)
  rwa [Nat.zero_add] at refused

end

/-! ## The counter -/

section
variable {E : Env} (passive : E.Passive)
include passive

theorem reset_counter {fr : Frame} (alive : fr.alive = true) :
    (resetAndDeleteConnection E fr).state.self.subnet = fr.self.subnet := by
  cases registered : fr.world.core.callbackFunction with
  | true =>
      rw [resetAndDeleteConnection_eq E alive registered]
      show (fr.killed E).self.subnet = fr.self.subnet
      rw [Frame.killed, Frame.raise, passive]
      simp
  | false =>
      rw [resetAndDeleteConnection_unregistered E alive registered]
      rfl

/-- However many rounds the loop has made from a counter in range, the counter has not
passed 256. -/
theorem sendIpLoop_counter {fr : Frame} (alive : fr.alive = true) (rounds : Nat)
    (low : -1 ≤ fr.self.subnet) (high : fr.self.subnet ≤ 255) :
    (sendIpLoop E rounds fr).state.self.subnet ≤ 256 := by
  induction rounds generalizing fr with
  | zero => exact high.trans (by omega)
  | succ rounds ih =>
      let fr' := fr.searched (incSubnet fr.self.subnet) (fr.world.clock + 1)
      have live : fr'.alive = true := alive
      have counter : fr'.self.subnet = fr.self.subnet + 1 := incSubnet_of_range low high
      rw [sendIpLoop_succ E alive]
      change ((if fr'.self.subnet = 256 then
          (do resetAndDeleteConnection E; pure false : Code Frame Bool)
        else if E.unusedAt fr.world.clock (UInt8.ofInt fr'.self.subnet) then pure true
        else sendIpLoop E rounds) fr').state.self.subnet ≤ 256
      split
      · next last =>
          rw [bind_apply, Outcome.andThen_state _ fun _ _ => rfl]
          exact ((reset_counter passive live).trans last).le
      · next inside =>
          split
          · show fr'.self.subnet ≤ 256
            omega
          · exact ih live (by omega) (by omega)

end

/-! ## The subnet proposed -/

/-- The proposal with which a search from a counter ends. -/
def Env.proposalFrom (E : Env) (subnet : Int) (clock : Nat) : List Data :=
  match E.search (2 ^ 16) subnet clock with
  | some (s, _, true) => [Data.fromIpPostfix (UInt8.ofInt s) 2]
  | _ => []

/-- A search from a counter in range ends in one of two ways. -/
theorem proposalFrom_cases (E : Env) {counter : Int} (low : -1 ≤ counter) (high : counter ≤ 255) :
    (∃ subnet clock, E.search (2 ^ 16) counter 0 = some (subnet, clock, true) ∧
      E.Finds counter subnet ∧
      E.proposalFrom counter 0 = [Data.fromIpPostfix (UInt8.ofInt subnet) 2]) ∨
    ∃ clock, E.search (2 ^ 16) counter 0 = some (256, clock, false) ∧ E.Exhausts counter ∧
      E.proposalFrom counter 0 = [] := by
  obtain ⟨⟨subnet, clock, found⟩, search⟩ := search_total E counter 0
  cases found with
  | true =>
      exact .inl ⟨subnet, clock, search, search_finds low high search, by rw [Env.proposalFrom, search]⟩
  | false =>
      have last : subnet = 256 := (search_searched E low high search).exhausted rfl
      subst last
      exact .inr ⟨clock, search, search_exhausts low high search, by rw [Env.proposalFrom, search]⟩

section
variable {E : Env} {fr : Frame} (alive : fr.alive = true) {subnet : Int} {clock : Nat}
include alive

theorem sendIpLoop_found
    (search : E.search (2 ^ 16) fr.self.subnet fr.world.clock = some (subnet, clock, true)) :
    sendIpLoop E (2 ^ 16) fr = .returned true (fr.searched subnet clock) := by
  cases registered : fr.world.core.callbackFunction with
  | true => exact sendIpLoop_eq E alive _ registered search
  | false => exact sendIpLoop_unregistered E alive _ registered search

theorem sendIpLoop_exhausted
    (search : E.search (2 ^ 16) fr.self.subnet fr.world.clock = some (subnet, clock, false))
    (fr' : Frame) : sendIpLoop E (2 ^ 16) fr ≠ .returned true fr' := by
  cases registered : fr.world.core.callbackFunction with
  | true =>
      rw [sendIpLoop_eq E alive _ registered search]
      simp
  | false =>
      rw [sendIpLoop_unregistered E alive _ registered search]
      simp

omit alive in
theorem offers_sent (fr : Frame) (subnet ipPostfix : UInt8) (status : Bool) :
    (fr.sent (Data.fromIpPostfix subnet ipPostfix) status).world.offers fr.connectedFriend =
      fr.world.offers fr.connectedFriend ++ [Data.fromIpPostfix subnet ipPostfix] := by
  have header : PacketId.ofByte (Data.fromIpPostfix subnet ipPostfix).header = .ipProposal := rfl
  simp [World.offers, Effect.offerTo, header]

theorem sendIp_offers (passive : E.Passive) :
    (sendIp E fr).state.world.offers fr.connectedFriend =
      fr.world.offers fr.connectedFriend ++ E.proposalFrom fr.self.subnet fr.world.clock := by
  obtain ⟨⟨subnet, clock, found⟩, search⟩ := search_total E fr.self.subnet fr.world.clock
  simp only [sendIp, noexcept_apply, bind_apply, Env.proposalFrom, search]
  cases found with
  | false =>
      have exhausted := sendIpLoop_exhausted alive search
      have silent := silent_sendIpLoop (f := fr.connectedFriend) passive (2 ^ 16) fr
      rw [List.append_nil]
      cases ho : sendIpLoop E (2 ^ 16) fr with
      | returned v fr' =>
          rw [ho] at silent
          cases v with
          | true => exact (exhausted fr' ho).elim
          | false => exact silent
      | thrown e fr' => rw [ho] at silent; exact silent
      | terminated fr' => rw [ho] at silent; exact silent
      | outOfFuel fr' => rw [ho] at silent; exact silent
  | true =>
      let fr' := fr.searched subnet clock
      have live : fr'.alive = true := alive
      have control := Data.control_fromIpPostfix (UInt8.ofInt subnet) 2
      have sends := catch_sendToTox E control (resetAndDeleteConnection E) live
      have offered (status : Bool) := offers_sent fr' (UInt8.ofInt subnet) 2 status
      simp only [sendIpLoop_found alive search, Outcome.andThen_returned, if_true, bind_apply,
        getMember_apply]
      rw [show (fr.searched subnet clock).touch .subnet = fr' from Frame.touch_of_alive live _]
      change (Outcome.guarded (catchToxTunError (sendToTox E (Data.fromIpPostfix (UInt8.ofInt subnet) 2))
        (resetAndDeleteConnection E) fr')).state.world.offers fr.connectedFriend = _
      rw [sends]
      split
      · exact offered true
      · have killed := (silent_resetAndDeleteConnection (f := fr.connectedFriend) passive).noexcept
          (fr'.sent (Data.fromIpPostfix (UInt8.ofInt subnet) 2) false)
        exact Eq.trans killed (offered false)

/-- An exhausted search hands a reset to tox, whether or not the reset gets to its end. -/
theorem sendIp_resets (passive : E.Passive)
    (search : E.search (2 ^ 16) fr.self.subnet fr.world.clock = some (subnet, clock, false)) :
    Effect.sent fr.connectedFriend (Data.fromPacketId .connectionReset) (E.sends clock) ∈
      (sendIp E fr).state.world.trace := by
  let reset := (fr.searched subnet clock).sent (Data.fromPacketId .connectionReset) (E.sends clock)
  have sent : Effect.sent fr.connectedFriend (Data.fromPacketId .connectionReset) (E.sends clock) ∈
      reset.world.trace := List.mem_append_right _ List.mem_cons_self
  cases registered : fr.world.core.callbackFunction with
  | true =>
      have raised : reset.raise E .connectionClosed =
          reset.log (.raised .connectionClosed reset.connectedFriend) := passive _ _
      have buried : Emits (fun _ => True) (reset.raise E .connectionClosed).world
          (reset.raise E .connectionClosed).buried.world :=
        buried_emits _ (fun _ _ => trivial) (fun _ => trivial) fun _ => trivial
      rw [sendIp_eq E alive registered]
      simp only [Frame.proposed, search]
      apply buried.mem
      rw [raised, Frame.log_trace]
      exact List.mem_append_left _ sent
  | false =>
      have ended := sendIpLoop_unregistered E alive _ registered search
      simp only [sendIp, noexcept_apply, bind_apply, ended]
      exact sent

/-! ## Packets -/

/-- The packet makes the connection propose the next subnet. -/
def Connection.Seeks (c : Connection) (d : Data) : Prop :=
  PacketId.ofByte d.header = .connectionAccept ∧ c.state = .ownRequestPending ∨
    PacketId.ofByte d.header = .ipReject ∧ c.state = .expectingIpConfirmation

instance (c : Connection) (d : Data) : Decidable (c.Seeks d) := inferInstanceAs (Decidable (_ ∨ _))

/-- Such a packet calls `sendIp`, at most after the connection has changed its state. -/
theorem handleDataFuel_seeks {d : Data} (set : d.toxHeaderSet = true) (seeks : fr.self.Seeks d) :
    handleDataFuel E 1 d fr = sendIp E (fr.enterState .expectingIpConfirmation) ∨
      handleDataFuel E 1 d fr = sendIp E fr := by
  rcases seeks with ⟨header, own⟩ | ⟨header, expecting⟩
  · left
    simp only [handleDataFuel, noexcept_apply, bind_apply, Data.getToxHeader_of_set set,
      ofExcept_ok, Outcome.andThen_returned, header, handleConnectionAccepted, getMember_apply,
      Frame.touch_of_alive alive, own, ne_eq, not_true_eq_false, if_false, setState_apply, sendIp,
      Outcome.guarded_guarded]
  · right
    simp only [handleDataFuel, noexcept_apply, bind_apply, Data.getToxHeader_of_set set,
      ofExcept_ok, Outcome.andThen_returned, header, handleIpRejected, getMember_apply,
      Frame.touch_of_alive alive, expecting, ne_eq, not_true_eq_false, if_false, sendIp,
      Outcome.guarded_guarded]

theorem handleDataFuel_idle (passive : E.Passive) {d : Data} (set : d.toxHeaderSet = true)
    (whole : PacketId.ofByte d.header ≠ .fragment) (idle : ¬fr.self.Seeks d) (f : UInt32) :
    SameOffers f fr.world (handleDataFuel E 1 d fr).state.world := by
  have reset : SameOffers f fr.world (resetAndDeleteConnection E fr).state.world :=
    silent_resetAndDeleteConnection passive fr
  simp only [handleDataFuel, noexcept_apply, bind_apply, Data.getToxHeader_of_set set, ofExcept_ok,
    Outcome.andThen_returned, Outcome.guarded_state]
  cases header : PacketId.ofByte d.header with
  | connectionRequest => rfl
  | connectionAccept =>
      have other : fr.self.state ≠ .ownRequestPending := fun own => idle (.inl ⟨header, own⟩)
      simpa [handleConnectionAccepted, Frame.touch_of_alive alive, other] using reset
  | connectionReject => exact silent_handleConnectionRejected passive fr
  | connectionClose => exact silent_handleConnectionClosed passive fr
  | connectionReset => exact silent_handleConnectionReset passive fr
  | ipProposal => exact silent_handleIpProposal passive d fr
  | ipAccept => exact silent_handleIpAccepted passive fr
  | ipReject =>
      have other : fr.self.state ≠ .expectingIpConfirmation := fun own => idle (.inr ⟨header, own⟩)
      simpa [handleIpRejected, Frame.touch_of_alive alive, other] using reset
  | data => exact silent_sendToTun passive d fr
  | fragment => exact (whole header).elim
  | unnamed b => rfl

theorem handleDataFuel_offers (passive : E.Passive) {d : Data} (set : d.toxHeaderSet = true)
    (whole : PacketId.ofByte d.header ≠ .fragment) :
    (handleDataFuel E 1 d fr).state.world.offers fr.connectedFriend =
      fr.world.offers fr.connectedFriend ++
        if fr.self.Seeks d then E.proposalFrom fr.self.subnet fr.world.clock else [] := by
  by_cases seeks : fr.self.Seeks d
  · rw [if_pos seeks]
    rcases handleDataFuel_seeks (E := E) alive set seeks with accepted | rejected
    · let entered := fr.enterState .expectingIpConfirmation
      have silent := silent_setState (f := fr.connectedFriend) .expectingIpConfirmation fr
      have live : entered.alive = true := by simpa [entered] using alive
      have sought := sendIp_offers live passive
      rw [setState_apply] at silent
      simp only [entered, Frame.enterState_connectedFriend, Frame.enterState_self,
        Frame.enterState_clock] at sought
      rw [accepted]
      exact sought.trans (congrArg (· ++ _) silent)
    · rw [rejected]
      exact sendIp_offers alive passive
  · rw [if_neg seeks, List.append_nil]
    exact handleDataFuel_idle alive passive set whole seeks _

/-- A packet with which the search comes to its end makes the connection hand a reset to tox. -/
theorem handleDataFuel_resets (passive : E.Passive) {d : Data} (set : d.toxHeaderSet = true)
    (seeks : fr.self.Seeks d)
    (search : E.search (2 ^ 16) fr.self.subnet fr.world.clock = some (subnet, clock, false)) :
    Effect.sent fr.connectedFriend (Data.fromPacketId .connectionReset) (E.sends clock) ∈
      (handleDataFuel E 1 d fr).state.world.trace := by
  rcases handleDataFuel_seeks (E := E) alive set seeks with accepted | rejected
  · let entered := fr.enterState .expectingIpConfirmation
    have live : entered.alive = true := by simpa [entered] using alive
    have ends : E.search (2 ^ 16) entered.self.subnet entered.world.clock =
        some (subnet, clock, false) := by simpa [entered] using search
    have resets := sendIp_resets live passive ends
    rw [accepted]
    simpa [entered] using resets
  · rw [rejected]
    exact sendIp_resets alive passive search

end

end LibToxTun
