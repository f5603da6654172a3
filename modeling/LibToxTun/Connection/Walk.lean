import LibToxTun.Foundation.Preservation
import LibToxTun.Connection.Calculus

/-! # A walk over the handlers

One walk over the handlers serves every relation between frames that their
primitive steps respect, whichever way a handler ends. Deleting the connection,
setting up its address and writing to its device are kept apart from the other
steps: a relation may hold without them.
-/

namespace LibToxTun

open Foundation Foundation.Action

/-- A relation that holds along sending packets of a connection. -/
structure Env.CarriesSending (E : Env) (R : Frame → Frame → Prop) : Prop where
  touch : ∀ fr field, R fr (fr.touch field)
  counts : ∀ fr index, R fr { fr with self := { fr.self with nextFragmentIndex := index } }
  sent : ∀ fr d status, R fr (fr.sent d status)

/-- A relation that holds along the primitive steps of the handlers. -/
structure Env.Carries (E : Env) (R : Frame → Frame → Prop) : Prop where
  touch : ∀ fr field, R fr (fr.touch field)
  member : ∀ fr c, R fr { fr with self := c }
  sent : ∀ fr d status, R fr (fr.sent d status)
  ticked : ∀ fr, R fr fr.ticked
  entered : ∀ fr s, s ≠ .connected → s ≠ .deleting →
    R fr (fr.log (.entered fr.connectedFriend s))
  raised : ∀ event fr, R fr (fr.raise E event)

/-- It holds along deletions, too. A connection is deleted only after a callback
that has returned. -/
structure Env.CarriesDeletion (E : Env) (R : Frame → Frame → Prop) : Prop extends
    E.Carries R where
  deletes : ∀ event fr fr' fr'', callback E event fr = .returned () fr' → R fr' fr'' →
    R fr'' (deleteConnection E fr'').state

theorem respects_catchToxTunError {σ α : Type} {R : σ → σ → Prop} [IsPreorder σ R]
    {a handler : Code σ α} (h : Respects R a) (hh : Respects R handler) :
    Respects R (catchToxTunError a handler) := by
  refine h.tryCatch fun e next caught => ?_
  cases e with
  | toxTunError what => cases caught; exact hh
  | outOfRange => cases caught

variable {R : Frame → Frame → Prop} [IsPreorder Frame R] {E : Env}

section
variable (touch : ∀ fr field, R fr (fr.touch field))
include touch

omit [IsPreorder Frame R] in
theorem touch_walk (field : Field) :
    Respects R (modify fun fr => fr.touch field : Code Frame Unit) :=
  fun fr => touch fr field

theorem getMember_walk {α : Type} (field : Field) (f : Connection → α) :
    Respects R (getMember field f) :=
  (touch_walk touch field).bind fun _ => respects_read _

end

/-! ## Sending -/

namespace Env.CarriesSending

variable (h : E.CarriesSending R)
include h

theorem sendAll (fr : Frame) (l : List Data) :
    R fr (onWorld (sendAll E fr.connectedFriend l) fr).state := by
  induction l generalizing fr with
  | nil => exact Std.Refl.refl fr
  | cons d rest ih =>
      have sent := h.sent fr d (E.sends fr.world.clock)
      simp only [onWorld, zoom_apply, LibToxTun.sendAll, bind_apply]
      cases hk : d.getSendTox with
      | error e => exact Std.Refl.refl fr
      | ok kind =>
          simp only [ofExcept_ok, Outcome.andThen_returned, bind_apply, toxFriendSend]
          cases status : E.sends fr.world.clock with
          | true =>
              rw [status] at sent
              exact IsTrans.trans (r := R) _ _ _ sent (ih (fr.sent d true))
          | false =>
              rw [status] at sent
              cases kind <;> exact sent

theorem sendToTox (d : Data) : Respects R (sendToTox E d) := by
  intro fr
  let fr1 := (fr.touch .connectedFriend).touch .nextFragmentIndex
  let index := (fr.touch .connectedFriend).self.nextFragmentIndex
  have touched : R fr fr1 := IsTrans.trans (r := R) _ _ _ (h.touch fr .connectedFriend)
    (h.touch _ .nextFragmentIndex)
  have friend : fr1.connectedFriend = fr.connectedFriend := by simp [fr1]
  simp only [LibToxTun.sendToTox, bind_apply, getFriend_apply, getMember_apply,
    Outcome.andThen_returned, sendToToxIndexed]
  rw [← friend]
  split
  · let counted : Frame := { fr1.touch .nextFragmentIndex with self := { fr1.self with
      nextFragmentIndex := if index = 255 then 0 else index + 1 } }
    have counts : R fr1 counted := IsTrans.trans (r := R) _ _ _ (h.touch fr1 .nextFragmentIndex)
      (by simpa [counted] using
        h.counts (fr1.touch .nextFragmentIndex) (if index = 255 then 0 else index + 1))
    have same : counted.connectedFriend = fr1.connectedFriend := by simp [counted]
    have sends := h.sendAll counted (toxPackets E d index)
    rw [same] at sends
    exact IsTrans.trans (r := R) _ _ _ touched (IsTrans.trans (r := R) _ _ _ counts sends)
  · exact IsTrans.trans (r := R) _ _ _ touched (h.sendAll fr1 _)

theorem forwardRead (read : Except Exn Data) : Respects R (forwardRead E read) := by
  have sends : Respects R (do let data ← ofExcept read; LibToxTun.sendToTox E data) :=
    (respects_ofExcept read).bind fun data => h.sendToTox data
  exact (respects_catchToxTunError sends (respects_pure ())).noexcept

theorem iterate (reads : List (Except Exn Data)) : Respects R (iterate E reads) := by
  induction reads with
  | nil => exact respects_pure ()
  | cons read reads ih =>
      refine (getMember_walk h.touch _ _).bind fun state => ?_
      split
      · refine (touch_walk h.touch .tun).bind fun _ => ?_
        exact (h.forwardRead read).bind fun _ => ih
      · exact respects_pure ()

end Env.CarriesSending

namespace Env.Carries

variable (h : E.Carries R)
include h

omit [IsPreorder Frame R] in
theorem sending : E.CarriesSending R := ⟨h.touch, fun _ _ => h.member _ _, h.sent⟩

/-! ## Members, packets and events -/

omit [IsPreorder Frame R] in
theorem touches (field : Field) :
    Respects R (modify fun fr => fr.touch field : Code Frame Unit) :=
  touch_walk h.touch field

theorem getMember {α : Type} (field : Field) (f : Connection → α) :
    Respects R (getMember field f) :=
  getMember_walk h.touch field f

theorem setMember (field : Field) (f : Connection → Connection) :
    Respects R (setMember field f) := by
  intro fr
  have changed := h.member (fr.touch field) (f fr.self)
  exact IsTrans.trans (r := R) _ _ _ (h.touch fr field) changed

theorem setState {s : State} (up : s ≠ .connected) (kept : s ≠ .deleting) :
    Respects R (setState s) :=
  (h.setMember .state _).bind fun _ fr => h.entered fr s up kept

theorem catch_sendToTox (d : Data) {handler : Code Frame Unit} (hh : Respects R handler) :
    Respects R (catchToxTunError (LibToxTun.sendToTox E d) handler) :=
  respects_catchToxTunError (h.sending.sendToTox d) hh

theorem callback (event : Event) : Respects R (callback E event) := by
  intro fr
  have touched := h.touch fr .connectedFriend
  cases registered : fr.world.core.callbackFunction with
  | true =>
      rw [callback_eq E registered]
      exact IsTrans.trans (r := R) _ _ _ touched (h.raised event _)
  | false =>
      rw [callback_unregistered E registered]
      exact touched

theorem rejectConnection : Respects R (rejectConnection E) :=
  (h.catch_sendToTox _ (respects_pure ())).noexcept

theorem closeConnection : Respects R (closeConnection E) :=
  (h.catch_sendToTox _ (respects_pure ())).noexcept

theorem resetConnection : Respects R (resetConnection E) := by
  intro fr
  let fr1 := fr.touch .connectedFriend
  have friend : fr1.connectedFriend = fr.connectedFriend := by simp [fr1]
  let fr2 := fr1.sent (Data.fromPacketId .connectionReset) (E.sends fr1.world.clock)
  have run : LibToxTun.resetConnection E fr =
      (LibToxTun.callback E .connectionClosed fr2).guarded := by
    simp only [LibToxTun.resetConnection, noexcept_apply, bind_apply, getFriend_apply,
      Outcome.andThen_returned, onWorld, zoom_apply, resetFriend_eq, Outcome.mapState_returned]
    rw [← friend]
    rfl
  have told : R fr fr2 := IsTrans.trans (r := R) _ _ _ (h.touch fr .connectedFriend)
    (h.sent fr1 _ _)
  rw [run]
  exact IsTrans.trans (r := R) _ _ _ told ((h.callback .connectionClosed).noexcept fr2)

theorem assumeUnused (addrSpace : UInt8) : Respects R (assumeUnused E addrSpace) := by
  refine respects_catchToxTunError ?_ (respects_pure true)
  refine (h.touches .tun).bind fun _ => (respects_read _).bind fun answer =>
    Respects.bind (fun fr => h.ticked fr) fun _ => ?_
  split
  · exact respects_pure _
  · exact respects_throw _

theorem destructor : Respects R (destructor E) := by
  refine ((h.getMember _ _).bind fun state => ?_).noexcept
  cases state with
  | friendsRequestPending => exact h.rejectConnection
  | ownRequestPending => exact h.resetConnection
  | expectingIpPacket => exact h.resetConnection
  | expectingIpConfirmation => exact h.resetConnection
  | connected => exact h.closeConnection
  | deleting => exact respects_pure ()

theorem eraseSelf (unlinks : ∀ fr : Frame, R fr fr.unlinked)
    (frees : ∀ fr : Frame, R fr { fr.log (.destroyed fr.connectedFriend) with alive := false }) :
    Respects R (eraseSelf E) := by
  refine Respects.bind ((respects_read _).bind fun first => ?_) fun _ => frees
  cases first with
  | true => exact Respects.bind unlinks fun _ => h.destructor
  | false => exact h.destructor.bind fun _ => unlinks

end Env.Carries

/-! ## Deletion -/

namespace Env.CarriesDeletion

variable (h : E.CarriesDeletion R)
include h

/-- After a callback, whatever was done since, the connection may be deleted. -/
theorem callback_delete (event : Event) {before : Code Frame Unit} (hbefore : Respects R before) :
    Respects R (callback E event >>= fun _ => before >>= fun _ => deleteConnection E) := by
  refine (h.callback event).bind_of fun fr _ fr' returned => ?_
  have between := hbefore fr'
  rw [bind_apply]
  cases hfr : before fr' with
  | returned v fr'' =>
      rw [hfr] at between
      exact IsTrans.trans (r := R) _ _ _ between (h.deletes event fr fr' fr'' returned between)
  | thrown e fr'' => rw [hfr] at between; exact between
  | terminated fr'' => rw [hfr] at between; exact between
  | outOfFuel fr'' => rw [hfr] at between; exact between

theorem resetAndDeleteConnection : Respects R (resetAndDeleteConnection E) := by
  refine (h.resetConnection.bind_of fun fr _ fr' returned => ?_).noexcept
  simp only [LibToxTun.resetConnection, noexcept_apply, bind_apply, getFriend_apply,
    Outcome.andThen_returned, onWorld, zoom_apply, resetFriend_eq,
    Outcome.mapState_returned] at returned
  generalize hc : LibToxTun.callback E .connectionClosed _ = o at returned
  cases o with
  | returned v fr'' =>
      cases returned
      exact h.deletes _ _ _ _ hc (Std.Refl.refl _)
  | thrown e fr'' => cases returned
  | terminated fr'' => cases returned
  | outOfFuel fr'' => cases returned

theorem handleConnectionRejected : Respects R (handleConnectionRejected E) := by
  refine ((h.getMember _ _).bind fun state => ?_).noexcept
  split
  · exact h.resetAndDeleteConnection
  · exact h.callback_delete .connectionRejected (respects_pure ())

theorem handleConnectionClosed : Respects R (handleConnectionClosed E) := by
  refine ((h.getMember _ _).bind fun state => ?_).noexcept
  split
  · exact h.resetAndDeleteConnection
  · exact h.callback_delete .connectionClosed (h.touches .connectedFriend)

theorem handleConnectionReset : Respects R (handleConnectionReset E) :=
  (h.callback_delete .connectionClosed (respects_pure ())).noexcept

theorem sendIpLoop (fuel : Nat) : Respects R (sendIpLoop E fuel) := by
  induction fuel with
  | zero => exact respects_exhausted
  | succ fuel ih =>
      refine (h.setMember _ _).bind fun _ => (h.getMember _ _).bind fun subnet =>
        (h.assumeUnused _).bind fun unused => ?_
      split
      · exact h.resetAndDeleteConnection.bind fun _ => respects_pure false
      · split
        · exact respects_pure true
        · exact ih

theorem sendIp : Respects R (sendIp E) := by
  refine ((h.sendIpLoop _).bind fun found => ?_).noexcept
  split
  · exact (h.getMember _ _).bind fun subnet => h.catch_sendToTox _ h.resetAndDeleteConnection
  · exact respects_pure ()

theorem handleConnectionAccepted : Respects R (handleConnectionAccepted E) := by
  refine ((h.getMember _ _).bind fun state => ?_).noexcept
  split
  · exact h.resetAndDeleteConnection
  · exact (h.setState (by decide) (by decide)).bind fun _ => h.sendIp

theorem handleIpProposal {data : Data} (fr : Frame)
    (sets : fr.self.state = .expectingIpPacket → ∀ subnet ipPostfix,
      proposalBytes data = .ok (subnet, ipPostfix) →
      E.unusedAt fr.world.clock subnet = true → Respects R (setIp E subnet ipPostfix)) :
    R fr (handleIpProposal E data fr).state := by
  have touched := h.touch fr .state
  let fr1 := fr.touch .state
  suffices step : R fr1 (LibToxTun.handleIpProposal E data fr).state from
    IsTrans.trans (r := R) _ _ _ touched step
  simp only [LibToxTun.handleIpProposal, noexcept_apply, bind_apply, getMember_apply,
    Outcome.andThen_returned]
  by_cases expecting : fr.self.state = .expectingIpPacket
  · rw [if_neg (not_not.mpr expecting)]
    cases bytes : proposalBytes data with
    | error e => cases e <;> exact Std.Refl.refl fr1
    | ok pair =>
        obtain ⟨subnet, ipPostfix⟩ := pair
        let fr2 := (fr1.touch .tun).ticked
        have asked : R fr1 fr2 := IsTrans.trans (r := R) _ _ _ (h.touch fr1 .tun) (h.ticked _)
        have clock : fr1.world.clock = fr.world.clock := Frame.touch_clock fr .state
        change R fr1 (((LibToxTun.assumeUnused E subnet >>= _) fr1).guarded).state
        rw [bind_apply, assumeUnused_apply, Outcome.andThen_returned, clock]
        refine IsTrans.trans (r := R) _ _ _ asked ?_
        cases unused : E.unusedAt fr.world.clock subnet with
        | true =>
            exact ((h.catch_sendToTox _ h.resetAndDeleteConnection).bind fun _ =>
              sets expecting subnet ipPostfix bytes unused).noexcept fr2
        | false => exact (h.catch_sendToTox _ h.resetAndDeleteConnection).noexcept fr2
  · rw [if_pos expecting]
    exact h.resetAndDeleteConnection.noexcept fr1

theorem handleIpAccepted (fr : Frame) (sets : fr.self.state = .expectingIpConfirmation →
      Respects R (setIp E (UInt8.ofInt fr.self.subnet) 1)) :
    R fr (handleIpAccepted E fr).state := by
  have touched := h.touch fr .state
  simp only [LibToxTun.handleIpAccepted, noexcept_apply, bind_apply, getMember_apply,
    Outcome.andThen_returned]
  by_cases expecting : fr.self.state = .expectingIpConfirmation
  · rw [if_neg (not_not.mpr expecting)]
    simp only [bind_apply, getMember_apply, Outcome.andThen_returned, Frame.touch_self]
    have read := IsTrans.trans (r := R) _ _ _ touched (h.touch (fr.touch .state) .subnet)
    exact IsTrans.trans (r := R) _ _ _ read ((sets expecting).noexcept _)
  · rw [if_pos expecting]
    exact IsTrans.trans (r := R) _ _ _ touched (h.resetAndDeleteConnection.noexcept _)

theorem handleIpRejected : Respects R (handleIpRejected E) := by
  refine ((h.getMember _ _).bind fun state => ?_).noexcept
  split
  · exact h.resetAndDeleteConnection
  · exact h.sendIp

theorem acceptConnection : Respects R (acceptConnection E) := by
  refine (h.getMember _ _).bind fun state => ?_
  split
  · exact respects_throw _
  · exact (h.setState (by decide) (by decide)).bind fun _ =>
      h.catch_sendToTox _ h.resetAndDeleteConnection

/-! ## Packets -/

theorem sendToTun (writes : ∀ fr d, R fr (fr.log (.tunWrite fr.connectedFriend fr.self.state d)))
    (data : Data) : Respects R (sendToTun E data) := by
  have device : Respects R (tunSendData E data) := by
    refine (h.touches .tun).bind fun _ => Respects.bind (fun fr => writes fr data) fun _ =>
      (respects_ofExcept _).bind fun _ => (respects_read _).bind fun written =>
        Respects.bind (fun fr => h.ticked fr) fun _ => ?_
    split
    · exact respects_throw _
    · exact respects_pure ()
  refine ((h.getMember _ _).bind fun state => ?_).noexcept
  have write := respects_catchToxTunError device (respects_pure ())
  split
  · exact h.resetAndDeleteConnection.bind fun _ => write
  · exact write

theorem handleFragment {nested : Data → Code Frame Unit} (hn : ∀ d, Respects R (nested d))
    (data : Data) : Respects R (handleFragment nested data) := by
  refine Respects.noexcept ?_
  split
  · refine (h.setMember _ _).bind fun _ => (h.getMember _ _).bind fun stored => ?_
    split
    · exact (h.setMember _ _).bind fun _ => (respects_ofExcept _).bind fun d =>
        (hn d).bind fun _ => (h.touches _).bind fun _ => h.touches _
    · exact respects_pure ()
  · exact respects_pure ()

/-- What the walk asks of a packet: its proposal may be set up, its confirmation may
be, its bytes may be written, and so on below the fragment it may be. -/
structure Admits (E : Env) (R : Frame → Frame → Prop) (fuel : Nat) (data : Data) (fr : Frame) :
    Prop where
  proposal : data.getToxHeader = .ok .ipProposal → fr.self.state = .expectingIpPacket →
    ∀ subnet ipPostfix, proposalBytes data = .ok (subnet, ipPostfix) →
      E.unusedAt fr.world.clock subnet = true → Respects R (setIp E subnet ipPostfix)
  confirmation : data.getToxHeader = .ok .ipAccept →
    fr.self.state = .expectingIpConfirmation → Respects R (setIp E (UInt8.ofInt fr.self.subnet) 1)
  writes : data.getToxHeader = .ok .data → Respects R (LibToxTun.sendToTun E data)
  nested : data.getToxHeader = .ok .fragment → ∀ d, Respects R (handleDataFuel E fuel d)

omit [IsPreorder Frame R] h in
theorem handleIpProposal_guarded (E : Env) (data : Data) (fr : Frame) :
    (LibToxTun.handleIpProposal E data fr).guarded = LibToxTun.handleIpProposal E data fr :=
  Outcome.guarded_guarded _

omit [IsPreorder Frame R] h in
theorem handleIpAccepted_guarded (E : Env) (fr : Frame) :
    (LibToxTun.handleIpAccepted E fr).guarded = LibToxTun.handleIpAccepted E fr :=
  Outcome.guarded_guarded _

theorem handleDataFuel_succ {fuel : Nat} {data : Data} {fr : Frame} (ok : Admits E R fuel data fr) :
    R fr (handleDataFuel E (fuel + 1) data fr).state := by
  simp only [handleDataFuel, noexcept_apply, bind_apply]
  cases header : data.getToxHeader with
  | error e => exact Std.Refl.refl fr
  | ok id =>
      cases id with
      | connectionRequest => exact Std.Refl.refl fr
      | connectionAccept => exact h.handleConnectionAccepted.noexcept fr
      | connectionReject => exact h.handleConnectionRejected.noexcept fr
      | connectionClose => exact h.handleConnectionClosed.noexcept fr
      | connectionReset => exact h.handleConnectionReset.noexcept fr
      | ipProposal =>
          have handled := h.handleIpProposal fr (ok.proposal header)
          rwa [← handleIpProposal_guarded] at handled
      | ipAccept =>
          have handled := h.handleIpAccepted fr (ok.confirmation header)
          rwa [← handleIpAccepted_guarded] at handled
      | ipReject => exact h.handleIpRejected.noexcept fr
      | data => exact (ok.writes header).noexcept fr
      | fragment => exact (h.handleFragment (ok.nested header) data).noexcept fr
      | unnamed b => exact Std.Refl.refl fr

end Env.CarriesDeletion

end LibToxTun
