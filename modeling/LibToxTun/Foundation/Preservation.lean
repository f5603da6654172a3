import Mathlib.Order.Defs.Unbundled
import LibToxTun.Foundation.Action

/-! # Relations that actions respect

An action respects a preorder when its last state is related to its first one,
whichever way it ends. The rules follow the combinators, so a relation that the
primitive actions respect is respected by all that is built from them.
-/

namespace LibToxTun.Foundation.Action

variable {ε σ τ α β : Type}

def Respects (R : σ → σ → Prop) (a : Action ε σ α) : Prop := ∀ s, R s (a s).state

section
variable {R : σ → σ → Prop}

theorem respects_modify {f : σ → σ} (h : ∀ s, R s (f s)) :
    Respects R (modify f : Action ε σ Unit) := h

theorem Respects.noexcept {a : Action ε σ α} (h : Respects R a) : Respects R a.noexcept := by
  intro s
  rw [noexcept_apply, Outcome.guarded_state]
  exact h s

theorem Respects.zoom {Q : τ → τ → Prop} {get : τ → σ} {put : σ → τ → τ} {a : Action ε σ α}
    (h : Respects R a) (lift : ∀ t s, R (get t) s → Q t (put s t)) :
    Respects Q (zoom get put a) := by
  intro t
  rw [zoom_apply, Outcome.mapState_state]
  exact lift t _ (h (get t))

variable [IsPreorder σ R]

theorem respects_pure (v : α) : Respects R (pure v : Action ε σ α) := fun s => Std.Refl.refl s

theorem respects_read (f : σ → α) : Respects R (read f : Action ε σ α) := fun s => Std.Refl.refl s

theorem respects_throw (e : ε) : Respects R (throw e : Action ε σ α) := fun s => Std.Refl.refl s

theorem respects_exhausted : Respects R (exhausted : Action ε σ α) := fun s => Std.Refl.refl s

theorem respects_ofExcept (r : Except ε α) : Respects R (ofExcept r) := by
  cases r with
  | ok v => exact respects_pure v
  | error e => exact respects_throw e

/-- The continuation need respect the relation only from states it is entered in. -/
theorem Respects.bind_of {a : Action ε σ α} {next : α → Action ε σ β} (h : Respects R a)
    (entered : ∀ s v s', a s = .returned v s' → R s' (next v s').state) :
    Respects R (a >>= next) := by
  intro s
  have start := h s
  rw [bind_apply]
  cases ha : a s with
  | returned v s' =>
      rw [ha] at start
      exact IsTrans.trans _ _ _ start (entered s v s' ha)
  | thrown e s' => rw [ha] at start; exact start
  | terminated s' => rw [ha] at start; exact start
  | outOfFuel s' => rw [ha] at start; exact start

theorem Respects.bind {a : Action ε σ α} {next : α → Action ε σ β} (h : Respects R a)
    (hnext : ∀ v, Respects R (next v)) : Respects R (a >>= next) :=
  h.bind_of fun _ v s' _ => hnext v s'

theorem Respects.andThen {next : Action ε σ β} (h : Respects R next) (o : Outcome ε σ α) :
    R o.state (o.andThen fun _ => next).state := by
  cases o with
  | returned v s => exact h s
  | thrown e s => exact Std.Refl.refl s
  | terminated s => exact Std.Refl.refl s
  | outOfFuel s => exact Std.Refl.refl s

theorem Respects.map {a : Action ε σ α} {f : α → β} (h : Respects R a) : Respects R (f <$> a) :=
  h.bind fun v => respects_pure (f v)

theorem Respects.tryCatch {a : Action ε σ α} {handler : ε → Option (Action ε σ α)}
    (h : Respects R a) (caught : ∀ e next, handler e = some next → Respects R next) :
    Respects R (a.tryCatch handler) := by
  intro s
  have start := h s
  rw [tryCatch_apply]
  cases ha : a s with
  | thrown e s' =>
      rw [ha] at start
      simp only [Outcome.rescued]
      cases hc : handler e with
      | none => exact start
      | some next => exact IsTrans.trans _ _ _ start (caught e next hc s')
  | returned v s' => rw [ha] at start; exact start
  | terminated s' => rw [ha] at start; exact start
  | outOfFuel s' => rw [ha] at start; exact start

end

end LibToxTun.Foundation.Action
