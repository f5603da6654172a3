import LibToxTun.Connection.Preservation
import LibToxTun.Core.Machine

/-! # What the operations preserve

The walk over the handlers, continued to the table of connections.
-/

namespace LibToxTun

open Foundation Foundation.Action

/-- A relation that holds along changes of the table. -/
structure Env.PreservesTable (E : Env) (Q : World → World → Prop) : Prop extends
    E.Preserves Q where
  links : ∀ w f c, Q w (w.setConnection f c)

/-- It holds when a connection is erased or deleted, too. -/
structure Env.PreservesErasure (E : Env) (Q : World → World → Prop) : Prop extends
    E.PreservesTable Q, E.PreservesDeletion Q where
  frees : ∀ w f, Q w (w.log (.destroyed f))

/-! ## The walk over the table -/

/-- The friend an operation is about. -/
def Op.friend : Op → Option UInt32
  | .receive f _ => some f
  | .setCallback _ => none
  | .iterate f _ => some f
  | .sendConnectionRequest f => some f
  | .acceptConnection f => some f
  | .rejectConnection f => some f
  | .closeConnection f => some f

/-- A relation between frames, and one between the worlds around the operations on
a friend. An object whose construction fails is abandoned. -/
structure Env.WalksTable (E : Env) (R : Frame → Frame → Prop)
    (Q : UInt32 → World → World → Prop) : Prop where
  leave : ∀ f c w fr, R (Frame.enter f c w) fr → Q f w fr.leave
  abandoned : ∀ f c w fr, R (Frame.enter f c w) fr → Q f w fr.world
  asked : ∀ f w, Q f w w.tick
  resetFriend : ∀ f, Respects (Q f) (resetFriend E f)
  requests : Respects R (sendConnectionRequest E)
  requested : Respects R (callback E .connectionRequested)

structure Env.WalksErasure (E : Env) (R : Frame → Frame → Prop)
    (Q : UInt32 → World → World → Prop) : Prop extends E.WalksTable R Q where
  eraseSelf : Respects R (eraseSelf E)
  accepts : Respects R (acceptConnection E)

section
variable {R : Frame → Frame → Prop} {Q : UInt32 → World → World → Prop} {E : Env}

namespace Env.WalksTable

variable (h : E.WalksTable R Q) (f : UInt32)
include h

theorem onConnection {α : Type} {a : Code Frame α} (c : Connection) {w : World}
    (ha : R (Frame.enter f c w) (a (Frame.enter f c w)).state) :
    Q f w (onConnection f c a w).state := by
  rw [LibToxTun.onConnection, Outcome.mapState_state]
  exact h.leave f c w _ ha

variable [∀ f, IsPreorder World (Q f)]

theorem iterate {reads : List (Except Exn Data)} (forwards : Respects R (LibToxTun.iterate E reads)) :
    Respects (Q f) (ToxTunCore.iterate E f reads) := by
  refine ((respects_read _).bind fun found => ?_).noexcept
  cases found with
  | none => exact respects_pure ()
  | some c => exact fun w => h.onConnection f c (forwards _)

theorem raiseRequested : Respects (Q f) (ToxTunCore.raiseRequested E f) := by
  refine (respects_read _).bind fun found => ?_
  cases found with
  | none => exact respects_pure ()
  | some c => exact fun w => h.onConnection f c (h.requested _)

variable [IsPreorder Frame R]

theorem emplace (initiateConnection : Bool) :
    Respects (Q f) (ToxTunCore.emplace E f initiateConnection) := by
  refine (respects_read _).bind fun opened => Respects.bind (fun w => h.asked f w) fun _ => ?_
  split
  · exact respects_throw _
  · intro w
    let a : Code Frame Unit := if initiateConnection then LibToxTun.sendConnectionRequest E else pure ()
    have ha : Respects R a := by
      simp only [a]
      split
      · exact h.requests
      · exact respects_pure ()
    let fr := Frame.enter f (Connection.initial initiateConnection) w
    have inner : R fr (a fr).state := ha fr
    simp only [fr, a] at inner
    dsimp only
    split
    · next fr' ho =>
        rw [ho] at inner
        exact h.leave f _ w fr' inner
    all_goals
      next ho =>
        rw [ho] at inner
        exact h.abandoned f _ w _ inner

theorem sendConnectionRequest : Respects (Q f) (ToxTunCore.sendConnectionRequest E f) := by
  refine (respects_read _).bind fun found => ?_
  split
  · exact respects_throw _
  · exact h.emplace f true

end Env.WalksTable

namespace Env.WalksErasure

variable (h : E.WalksErasure R Q) (f : UInt32) [∀ f, IsPreorder World (Q f)]
include h

theorem erase : Respects (Q f) (ToxTunCore.erase E f) := by
  refine (respects_read _).bind fun found => ?_
  cases found with
  | none => exact respects_pure 0
  | some c =>
      have erased : Respects (Q f) (LibToxTun.onConnection f c (LibToxTun.eraseSelf E)) :=
        fun w => h.onConnection f c (h.eraseSelf _)
      exact erased.bind fun _ => respects_pure 1

theorem acceptConnection : Respects (Q f) (ToxTunCore.acceptConnection E f) := by
  refine (respects_read _).bind fun found => ?_
  cases found with
  | none => exact respects_throw _
  | some c =>
      intro w
      have accept := h.onConnection f c (h.accepts (Frame.enter f c w))
      have thrown (what : String) := (h.erase f).bind fun _ =>
        respects_throw (R := Q f) (α := Unit) (Exn.toxTunError what)
      dsimp only
      split
      · next what w' ho =>
          rw [ho] at accept
          exact IsTrans.trans (r := Q f) _ _ _ accept (thrown what w')
      · exact accept

variable [IsPreorder Frame R]

theorem handleConnectionRequest : Respects (Q f) (ToxTunCore.handleConnectionRequest E f) := by
  refine ((respects_read _).bind fun unset => ?_).noexcept
  split
  · exact respects_pure ()
  · refine (respects_catchToxTunError ((h.emplace f false).bind fun _ => respects_pure true)
      ((h.erase f).bind fun _ => (h.resetFriend f).bind fun _ => respects_pure false)).bind
        fun created => ?_
    split
    · exact h.raiseRequested f
    · exact respects_pure ()

theorem handleData {d : Data} {w : World}
    (packet : ∀ c, w.core.connections f = some c →
      R (Frame.enter f c w) (LibToxTun.handleData E d (Frame.enter f c w)).state) :
    Q f w (ToxTunCore.handleData E d f w).state := by
  rw [ToxTunCore.handleData, noexcept_apply, bind_apply, ToxTunCore.connection, read_apply,
    Outcome.andThen_returned]
  cases found : w.core.connections f with
  | some c =>
      rw [Outcome.guarded_state]
      exact h.onConnection f c (packet c found)
  | none =>
      refine Respects.noexcept (R := Q f) ((respects_ofExcept _).bind fun id => ?_) w
      split
      · exact h.handleConnectionRequest f
      · exact respects_pure ()
      · exact h.resetFriend f

/-- Every operation on a friend respects the relation, given what the frames of the device and
a received packet do to it. -/
theorem exec {op : Op} {f : UInt32} (friend : op.friend = some f) {w : World}
    (device : ∀ reads, op = .iterate f reads → Respects R (LibToxTun.iterate E reads))
    (packet : ∀ dataRaw c, op = .receive f dataRaw → w.core.connections f = some c →
      R (Frame.enter f c w)
        (LibToxTun.handleData E (Data.fromToxData dataRaw) (Frame.enter f c w)).state) :
    Q f w (exec E op w).state := by
  cases op with
  | receive g dataRaw =>
      cases friend
      have inner := h.handleData f fun c => packet dataRaw c rfl
      rw [LibToxTun.exec, ToxTunCore.toxPacketCallback, noexcept_apply, Outcome.guarded_state]
      exact inner
  | setCallback callback => cases friend
  | iterate g reads => cases friend; exact h.toWalksTable.iterate f (device reads rfl) w
  | sendConnectionRequest g => cases friend; exact h.sendConnectionRequest f w
  | acceptConnection g => cases friend; exact h.acceptConnection f w
  | rejectConnection g =>
      cases friend
      exact ((h.erase f).bind fun _ => respects_pure ()).noexcept w
  | closeConnection g =>
      cases friend
      exact (((h.erase f).bind fun _ => respects_pure ()).noexcept).noexcept w

end Env.WalksErasure

end

/-! ## Relations that every handler respects -/

structure Env.CarriesTable (E : Env) (R : Frame → Frame → Prop)
    (Q : UInt32 → World → World → Prop) : Prop extends E.Carries R where
  leave : ∀ f c w fr, R (Frame.enter f c w) fr → Q f w fr.leave
  abandoned : ∀ f c w fr, R (Frame.enter f c w) fr → Q f w fr.world
  asked : ∀ f w, Q f w w.tick
  told : ∀ f w d status, Q f w (w.log (.sent f d status)).tick

structure Env.CarriesErasure (E : Env) (R : Frame → Frame → Prop)
    (Q : UInt32 → World → World → Prop) : Prop extends
    E.CarriesTable R Q, E.CarriesDeletion R where
  unlinks : ∀ fr : Frame, R fr fr.unlinked
  frees : ∀ fr : Frame, R fr { fr.log (.destroyed fr.connectedFriend) with alive := false }

section
variable {R : Frame → Frame → Prop} [IsPreorder Frame R] {Q : UInt32 → World → World → Prop}
  {E : Env}

theorem Env.CarriesTable.walks (h : E.CarriesTable R Q) : E.WalksTable R Q where
  leave := h.leave
  abandoned := h.abandoned
  asked := h.asked
  resetFriend f w := by
    rw [resetFriend_eq]
    exact h.told f w _ _
  requests := h.sending.sendToTox _
  requested := h.callback .connectionRequested

theorem Env.CarriesErasure.walks (h : E.CarriesErasure R Q) : E.WalksErasure R Q where
  toWalksTable := h.toCarriesTable.walks
  eraseSelf := h.toCarries.eraseSelf h.unlinks h.frees
  accepts := h.toCarriesDeletion.acceptConnection

theorem Env.CarriesErasure.exec [∀ f, IsPreorder World (Q f)] (h : E.CarriesErasure R Q) {op : Op}
    {f : UInt32} (friend : op.friend = some f) {w : World}
    (packet : ∀ dataRaw c, op = .receive f dataRaw → w.core.connections f = some c →
      R (Frame.enter f c w)
        (LibToxTun.handleData E (Data.fromToxData dataRaw) (Frame.enter f c w)).state) :
    Q f w (exec E op w).state :=
  h.walks.exec friend (fun reads _ => h.sending.iterate reads) packet

end

/-! ## Relations between worlds -/

variable {Q : World → World → Prop} [IsPreorder World Q] {E : Env}

theorem leave_respects (links : ∀ w f c, Q w (w.setConnection f c)) (fr : Frame) :
    Q fr.world fr.leave := by
  unfold Frame.leave
  split
  · exact links _ _ _
  · exact Std.Refl.refl _

theorem Env.PreservesTable.carries (h : E.PreservesTable Q) :
    E.CarriesTable (OverWorld Q) fun _ => Q where
  toCarries := h.toPreserves.carries
  leave _ _ _ fr inner := IsTrans.trans (r := Q) _ _ _ inner (leave_respects h.links fr)
  abandoned _ _ _ _ inner := inner
  asked _ := h.tick
  told f w d status := IsTrans.trans (r := Q) _ (w.log (.sent f d status)) _
    (h.log w _ trivial) (h.tick _)

theorem Env.PreservesErasure.carries (h : E.PreservesErasure Q) :
    E.CarriesErasure (OverWorld Q) fun _ => Q where
  toCarriesTable := h.toPreservesTable.carries
  deletes := h.deletes
  unlinks fr := h.links fr.world _ none
  frees fr := h.frees fr.world _

/-- Every operation respects the relation, given what received packets and the
registration of a callback do to it. -/
theorem exec_state (h : E.PreservesErasure Q) {op : Op} {w : World}
    (packet : ∀ f dataRaw c, op = .receive f dataRaw → w.core.connections f = some c →
      Q w (handleData E (Data.fromToxData dataRaw) (Frame.enter f c w)).state.world)
    (setCallback : ∀ callback, op = .setCallback callback →
      Q w { w with core := { w.core with callbackFunction := callback } }) :
    Q w (exec E op w).state := by
  cases friend : op.friend with
  | some f => exact h.carries.exec friend fun dataRaw c received => packet f dataRaw c received
  | none =>
      cases op with
      | setCallback callback => exact setCallback callback rfl
      | _ => cases friend

/-! ## Instances -/

theorem preservesErasure_emits {P : Effect → Prop} (others : ∀ e : Effect,
      (∀ f s d, e ≠ .tunWrite f s d) → P e)
    (quiet : ∀ event fr, Emits P fr.world (E.userCallback event fr).world) :
    E.PreservesErasure (Emits P) where
  log w e harmless := (Std.Refl.refl w : Emits P w w).log (others e fun f s d he => by
    rw [he] at harmless
    exact harmless)
  tick w := .of_trace_eq rfl
  userCallback := quiet
  deletes _ _ _ fr _ _ := by
    rw [deleteConnection_eq]
    exact buried_emits fr (fun f field => others _ (by simp)) (fun f => others _ (by simp))
      fun f => others _ (by simp)
  links w f c := .of_trace_eq rfl
  frees w f := (Std.Refl.refl w : Emits P w w).log (others _ (by simp))

theorem preservesErasure_keepsRegistration (keeps : E.KeepsCallback) :
    E.PreservesErasure KeepsRegistration where
  log _ _ _ := rfl
  tick _ := rfl
  userCallback := keeps
  deletes _ _ _ fr _ _ := by
    rw [deleteConnection_eq]
    exact fr.buried_callbackFunction
  links _ _ _ := rfl
  frees _ _ := rfl

theorem step_registered {core : ToxTunCore} {input : Env × Op}
    (registered : core.callbackFunction = true) (keeps : input.1.KeepsCallback)
    (stays : input.2 ≠ .setCallback false) {next : ToxTunCore}
    (after : (step core input).after = some next) : next.callbackFunction = true := by
  have table := preservesErasure_keepsRegistration keeps
  have kept : KeepsRegistration ⟨core, 0, []⟩ (step core input).outcome.state := by
    refine exec_state table (fun f dataRaw c _ _ => ?_) fun callback set => ?_
    · exact handleDataFuel_respects table.toPreservesDeletion (fun _ _ _ _ => rfl) _ _
        (Frame.enter f c ⟨core, 0, []⟩)
    · cases callback with
      | true => exact registered.symm
      | false => exact (stays set).elim
  unfold Transition.after at after
  split at after
  all_goals first
    | cases after; next h => rw [h] at kept; exact Eq.trans kept registered
    | cases after

end LibToxTun
