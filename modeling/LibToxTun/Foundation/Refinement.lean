import LibToxTun.Foundation.Action

/-! # Refinement along an abstraction function

One action refines another when it ends as the other does and the abstraction of its
last state is the last state of the other, from every state that meets an invariant.
The rules follow the combinators, so a program refines another when its primitive
actions do.
-/

namespace LibToxTun.Foundation.Action

variable {ε σ τ α β : Type}

/-- From states with the invariant `I`, which is kept, `a` is `b` seen through `φ`. -/
def Refines (I : σ → Prop) (φ : σ → τ) (a : Action ε σ α) (b : Action ε τ α) : Prop :=
  ∀ s, I s → I (a s).state ∧ b (φ s) = (a s).mapState φ

section
variable {I : σ → Prop} {φ : σ → τ}

theorem refines_pure (v : α) : Refines I φ (pure v : Action ε σ α) (pure v) :=
  fun _ inv => ⟨inv, rfl⟩

theorem refines_throw (e : ε) : Refines I φ (throw e : Action ε σ α) (throw e) :=
  fun _ inv => ⟨inv, rfl⟩

theorem refines_exhausted : Refines I φ (exhausted : Action ε σ α) exhausted :=
  fun _ inv => ⟨inv, rfl⟩

theorem refines_ofExcept (r : Except ε α) :
    Refines I φ (ofExcept r : Action ε σ α) (ofExcept r) := by
  cases r with
  | ok v => exact refines_pure v
  | error e => exact refines_throw e

theorem refines_read {f : σ → α} {g : τ → α} (same : ∀ s, I s → g (φ s) = f s) :
    Refines I φ (read f : Action ε σ α) (read g) := by
  intro s inv
  refine ⟨inv, ?_⟩
  rw [read_apply, read_apply, same s inv]
  rfl

theorem refines_modify {f : σ → σ} {g : τ → τ} (keeps : ∀ s, I s → I (f s))
    (same : ∀ s, I s → g (φ s) = φ (f s)) :
    Refines I φ (modify f : Action ε σ Unit) (modify g) := by
  intro s inv
  refine ⟨keeps s inv, ?_⟩
  rw [modify_apply, modify_apply, same s inv]
  rfl

theorem Refines.bind {a : Action ε σ α} {b : Action ε τ α} {next : α → Action ε σ β}
    {next' : α → Action ε τ β} (h : Refines I φ a b) (hnext : ∀ v, Refines I φ (next v) (next' v)) :
    Refines I φ (a >>= next) (b >>= next') := by
  intro s inv
  obtain ⟨kept, same⟩ := h s inv
  rw [bind_apply, bind_apply, same]
  cases ha : a s with
  | returned v s' =>
      rw [ha] at kept
      exact hnext v s' kept
  | thrown e s' => rw [ha] at kept; exact ⟨kept, rfl⟩
  | terminated s' => rw [ha] at kept; exact ⟨kept, rfl⟩
  | outOfFuel s' => rw [ha] at kept; exact ⟨kept, rfl⟩

theorem Refines.map {a : Action ε σ α} {b : Action ε τ α} (h : Refines I φ a b) (f : α → β) :
    Refines I φ (f <$> a) (f <$> b) :=
  h.bind fun v => refines_pure (f v)

theorem Refines.noexcept {a : Action ε σ α} {b : Action ε τ α} (h : Refines I φ a b) :
    Refines I φ a.noexcept b.noexcept := by
  intro s inv
  obtain ⟨kept, same⟩ := h s inv
  rw [noexcept_apply, noexcept_apply, same, Outcome.guarded_state, Outcome.guarded_mapState]
  exact ⟨kept, rfl⟩

theorem Refines.tryCatch {a : Action ε σ α} {b : Action ε τ α} {handler : ε → Option (Action ε σ α)}
    {handler' : ε → Option (Action ε τ α)} (h : Refines I φ a b)
    (caught : ∀ e, Option.Rel (Refines I φ) (handler e) (handler' e)) :
    Refines I φ (a.tryCatch handler) (b.tryCatch handler') := by
  intro s inv
  obtain ⟨kept, same⟩ := h s inv
  rw [tryCatch_apply, tryCatch_apply, same]
  cases ha : a s with
  | thrown e s' =>
      rw [ha] at kept
      have both := caught e
      simp only [Outcome.mapState_thrown, Outcome.rescued]
      cases first : handler e with
      | none =>
          rw [first] at both
          cases second : handler' e with
          | none => exact ⟨kept, rfl⟩
          | some next' => rw [second] at both; cases both
      | some next =>
          rw [first] at both
          cases second : handler' e with
          | none => rw [second] at both; cases both
          | some next' =>
              rw [second] at both
              cases both with
              | some refines => exact refines s' kept
  | returned v s' => rw [ha] at kept; exact ⟨kept, rfl⟩
  | terminated s' => rw [ha] at kept; exact ⟨kept, rfl⟩
  | outOfFuel s' => rw [ha] at kept; exact ⟨kept, rfl⟩

/-- An action on a component of the state refines one on a component of the other. -/
theorem Refines.zoom {σ' τ' : Type} {J : σ' → Prop} {ψ : σ' → τ'} {get : σ' → σ}
    {put : σ → σ' → σ'} {get' : τ' → τ} {put' : τ → τ' → τ'} {a : Action ε σ α} {b : Action ε τ α}
    (h : Refines I φ a b) (enter : ∀ s, J s → I (get s) ∧ get' (ψ s) = φ (get s))
    (leave : ∀ s t, J s → I t → J (put t s) ∧ put' (φ t) (ψ s) = ψ (put t s)) :
    Refines J ψ (a.zoom get put) (b.zoom get' put') := by
  intro s inv
  obtain ⟨inside, entered⟩ := enter s inv
  obtain ⟨kept, same⟩ := h (get s) inside
  rw [zoom_apply, zoom_apply, Outcome.mapState_state, entered, same]
  refine ⟨(leave s _ inv kept).1, ?_⟩
  cases ha : a (get s) with
  | returned v t => rw [ha] at kept; exact congrArg (Outcome.returned v) (leave s t inv kept).2
  | thrown e t => rw [ha] at kept; exact congrArg (Outcome.thrown e) (leave s t inv kept).2
  | terminated t => rw [ha] at kept; exact congrArg Outcome.terminated (leave s t inv kept).2
  | outOfFuel t => rw [ha] at kept; exact congrArg Outcome.outOfFuel (leave s t inv kept).2

end

end LibToxTun.Foundation.Action
