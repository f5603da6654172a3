import LibToxTun.Foundation.Action

/-! # Actions that halt

An action halts on a state when it does not run out of fuel there. The rules follow
the combinators; only a recursion with fuel needs a bound of its own.
-/

namespace LibToxTun.Foundation.Action

variable {ε σ τ α β : Type}

def HaltsOn (a : Action ε σ α) (s : σ) : Prop := ∀ s', a s ≠ .outOfFuel s'

def Halts (a : Action ε σ α) : Prop := ∀ s, a.HaltsOn s

theorem haltsOn_of_returned {a : Action ε σ α} {s s' : σ} {v : α} (h : a s = .returned v s') :
    a.HaltsOn s := by
  intro t
  simp [h]

theorem halts_pure (v : α) : Halts (pure v : Action ε σ α) := fun _ => haltsOn_of_returned rfl

theorem halts_read (f : σ → α) : Halts (read f : Action ε σ α) := fun _ => haltsOn_of_returned rfl

theorem halts_modify (f : σ → σ) : Halts (modify f : Action ε σ Unit) :=
  fun _ => haltsOn_of_returned rfl

theorem halts_throw (e : ε) : Halts (throw e : Action ε σ α) := by
  intro s s'
  simp

theorem halts_ofExcept (r : Except ε α) : Halts (ofExcept r : Action ε σ α) := by
  cases r with
  | ok v => exact halts_pure v
  | error e => exact halts_throw e

/-- The continuation need halt only on the states it is entered in. -/
theorem HaltsOn.bind {a : Action ε σ α} {next : α → Action ε σ β} {s : σ} (h : a.HaltsOn s)
    (entered : ∀ v s', a s = .returned v s' → (next v).HaltsOn s') : (a >>= next).HaltsOn s := by
  intro t
  rw [bind_apply]
  cases ha : a s with
  | returned v s' => exact entered v s' ha t
  | thrown e s' => simp
  | terminated s' => simp
  | outOfFuel s' => exact (h s' ha).elim

theorem Halts.bind {a : Action ε σ α} {next : α → Action ε σ β} (h : Halts a)
    (hnext : ∀ v, Halts (next v)) : Halts (a >>= next) :=
  fun s => (h s).bind fun v s' _ => hnext v s'

theorem Halts.map {a : Action ε σ α} {f : α → β} (h : Halts a) : Halts (f <$> a) :=
  h.bind fun v => halts_pure (f v)

theorem HaltsOn.noexcept {a : Action ε σ α} {s : σ} (h : a.HaltsOn s) : a.noexcept.HaltsOn s := by
  intro t
  rw [noexcept_apply]
  cases ha : a s with
  | returned v s' => simp
  | thrown e s' => simp
  | terminated s' => simp
  | outOfFuel s' => exact (h s' ha).elim

theorem Halts.noexcept {a : Action ε σ α} (h : Halts a) : Halts a.noexcept :=
  fun s => (h s).noexcept

theorem Halts.tryCatch {a : Action ε σ α} {handler : ε → Option (Action ε σ α)} (h : Halts a)
    (caught : ∀ e next, handler e = some next → Halts next) : Halts (a.tryCatch handler) := by
  intro s t
  rw [tryCatch_apply]
  cases ha : a s with
  | returned v s' => simp
  | thrown e s' =>
      cases hc : handler e with
      | none => simp [Outcome.rescued, hc]
      | some next =>
          rw [Outcome.rescued_of_some _ _ hc]
          exact caught e next hc s' t
  | terminated s' => simp
  | outOfFuel s' => exact (h s s' ha).elim

theorem Halts.zoom {a : Action ε σ α} (h : Halts a) (get : τ → σ) (put : σ → τ → τ) :
    Halts (zoom get put a) := by
  intro t t'
  rw [zoom_apply]
  cases ha : a (get t) with
  | returned v s' => simp
  | thrown e s' => simp
  | terminated s' => simp
  | outOfFuel s' => exact (h _ s' ha).elim

end LibToxTun.Foundation.Action
