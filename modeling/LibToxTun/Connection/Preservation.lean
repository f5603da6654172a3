import LibToxTun.Connection.Walk

/-! # What the handlers preserve

The walk over the handlers, for relations between the worlds of two frames: the
traces, the clocks and the tables around a connection, whatever the connection is.
-/

namespace LibToxTun

open Foundation Foundation.Action

/-- Effects that neither give a connection up nor write to its device. -/
def Effect.harmless : Effect → Prop
  | .tunWrite _ _ _ => False
  | .destroyed _ => False
  | .entered _ s => s ≠ .deleting
  | _ => True

/-- A relation that holds along the harmless effects and the callback. -/
structure Env.Preserves (E : Env) (Q : World → World → Prop) : Prop where
  log : ∀ w (e : Effect), e.harmless → Q w (w.log e)
  tick : ∀ w, Q w w.tick
  userCallback : ∀ event fr, Q fr.world (E.userCallback event fr).world

/-- It holds along deletions, too. A connection is deleted only after a callback
that has returned. -/
structure Env.PreservesDeletion (E : Env) (Q : World → World → Prop) : Prop extends
    E.Preserves Q where
  deletes : ∀ event fr fr' fr'', callback E event fr = .returned () fr' →
    Q fr'.world fr''.world → Q fr''.world (deleteConnection E fr'').state.world

/-- The relation holds along writes to the device, too. -/
def Writes (Q : World → World → Prop) : Prop :=
  ∀ w f s d, Q w (w.log (.tunWrite f s d))

/-- A relation between worlds as one between frames. -/
def OverWorld (Q : World → World → Prop) (fr fr' : Frame) : Prop := Q fr.world fr'.world

variable {Q : World → World → Prop} [IsPreorder World Q] {E : Env}

instance : IsPreorder Frame (OverWorld Q) where
  refl fr := Std.Refl.refl fr.world
  trans _ _ _ := IsTrans.trans (r := Q) _ _ _

theorem Env.Preserves.carries (h : E.Preserves Q) : E.Carries (OverWorld Q) where
  touch fr field := by
    change Q fr.world (fr.touch field).world
    unfold Frame.touch
    split
    · exact Std.Refl.refl fr.world
    · exact h.log fr.world _ trivial
  member fr _ := Std.Refl.refl fr.world
  sent fr d status := IsTrans.trans (r := Q) _ (fr.world.log (.sent fr.connectedFriend d status)) _
    (h.log fr.world _ trivial) (h.tick _)
  ticked fr := h.tick fr.world
  entered fr _ _ kept := h.log fr.world _ kept
  raised event fr := IsTrans.trans (r := Q) _ (fr.log (.raised event fr.connectedFriend)).world _
    (h.log fr.world _ trivial) (h.userCallback event _)

theorem Env.PreservesDeletion.carries (h : E.PreservesDeletion Q) :
    E.CarriesDeletion (OverWorld Q) where
  toCarries := h.toPreserves.carries
  deletes := h.deletes

theorem setIp_respects (h : E.Preserves Q) (subnet ipPostfix : UInt8) :
    Respects (OverWorld Q) (setIp E subnet ipPostfix) := by
  have device : Respects (OverWorld Q) (tunSetIp subnet ipPostfix) :=
    (h.carries.setMember .tun _).bind fun _ fr => h.log fr.world _ trivial
  have kept : State.connected ≠ .deleting := by decide
  have connected : Respects (OverWorld Q) (setState .connected) :=
    (h.carries.setMember .state _).bind fun _ fr => h.log fr.world _ kept
  exact (device.bind fun _ => connected.bind fun _ => h.carries.callback _).noexcept

section
variable (h : E.PreservesDeletion Q)
include h

/-- One round of `handleData`; only a data packet writes to the device. -/
theorem handleDataFuel_succ_respects {fuel : Nat}
    (hn : ∀ d, Respects (OverWorld Q) (handleDataFuel E fuel d)) {data : Data}
    (writes : data.getToxHeader = .ok .data → Writes Q) :
    Respects (OverWorld Q) (handleDataFuel E (fuel + 1) data) := by
  intro fr
  refine h.carries.handleDataFuel_succ ⟨?_, ?_, ?_, ?_⟩
  · exact fun _ _ subnet ipPostfix _ _ => setIp_respects h.toPreserves subnet ipPostfix
  · exact fun _ _ => setIp_respects h.toPreserves _ 1
  · exact fun header => h.carries.sendToTun (fun fr d => writes header fr.world _ _ d) data
  · exact fun _ => hn

theorem handleDataFuel_respects (writes : Writes Q) (fuel : Nat) (data : Data) :
    Respects (OverWorld Q) (handleDataFuel E fuel data) := by
  induction fuel generalizing data with
  | zero => exact respects_exhausted
  | succ fuel ih => exact handleDataFuel_succ_respects h ih fun _ => writes

end

/-! ## Effects of a kind, and the registration of the callback -/

/-- The trace was extended by effects of a kind. -/
def Emits (P : Effect → Prop) (w w' : World) : Prop :=
  ∃ es, w'.trace = w.trace ++ es ∧ ∀ e ∈ es, P e

section
variable {P : Effect → Prop}

theorem Emits.of_trace_eq {w w' : World} (same : w'.trace = w.trace) : Emits P w w' :=
  ⟨[], by simp [same], by simp⟩

theorem Emits.log {w w' : World} (h : Emits P w w') {e : Effect} (he : P e) :
    Emits P w (w'.log e) := by
  obtain ⟨es, htrace, hes⟩ := h
  refine ⟨es ++ [e], by simp [World.log, htrace], fun e' he' => ?_⟩
  rcases List.mem_append.mp he' with old | new
  · exact hes e' old
  · rw [List.mem_singleton.mp new]
    exact he

instance : IsPreorder World (Emits P) where
  refl _ := .of_trace_eq rfl
  trans w w' w'' := by
    rintro ⟨es, htrace, hes⟩ ⟨es', htrace', hes'⟩
    refine ⟨es ++ es', by rw [htrace', htrace, List.append_assoc], fun e he => ?_⟩
    rcases List.mem_append.mp he with old | new
    · exact hes e old
    · exact hes' e new

theorem Emits.mem {w w' : World} (h : Emits P w w') {e : Effect} (he : e ∈ w.trace) :
    e ∈ w'.trace := by
  obtain ⟨es, htrace, -⟩ := h
  rw [htrace]
  exact List.mem_append_left es he

theorem Emits.forall_mem {w w' : World} (h : Emits P w w') (start : w.trace = []) :
    ∀ e ∈ w'.trace, P e := by
  obtain ⟨es, htrace, hes⟩ := h
  rw [htrace, start, List.nil_append]
  exact hes

theorem Emits.touch {w : World} {fr : Frame} (h : Emits P w fr.world) (field : Field)
    (he : P (.dangling fr.connectedFriend field)) : Emits P w (fr.touch field).world := by
  unfold Frame.touch
  split
  · exact h
  · exact h.log he

section
variable (fr : Frame) (dangling : ∀ f field, P (.dangling f field)) (destroyed : ∀ f, P (.destroyed f))
include dangling destroyed

theorem freed_emits : Emits P fr.world fr.freed.world := by
  let fr' : Frame := { fr with
    linked := false, world := fr.world.setConnection fr.connectedFriend none }
  have unlinked : Emits P fr.world fr'.world := .of_trace_eq rfl
  have touched : Emits P fr.world (fr'.touch .state).world := unlinked.touch .state (dangling _ _)
  exact touched.log (destroyed fr.connectedFriend)

theorem buried_emits (entered : ∀ f, P (.entered f .deleting)) :
    Emits P fr.world fr.buried.world := by
  have start : Emits P fr.world fr.world := Std.Refl.refl _
  have left : Emits P fr.world (fr.enterState .deleting).world :=
    (start.touch .state (dangling _ _)).log (entered fr.connectedFriend)
  have deleting : Emits P fr.world ((fr.enterState .deleting).touch .connectedFriend).world :=
    left.touch .connectedFriend (dangling _ _)
  unfold Frame.buried
  dsimp only
  split
  · exact IsTrans.trans (r := Emits P) _ _ _ deleting (freed_emits _ dangling destroyed)
  · exact deleting

end

end

/-- Whether a callback is registered does not change. -/
def KeepsRegistration (w w' : World) : Prop :=
  w'.core.callbackFunction = w.core.callbackFunction

instance : IsPreorder World KeepsRegistration where
  refl _ := rfl
  trans _ _ _ h h' := h'.trans h

end LibToxTun
