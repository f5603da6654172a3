import Mathlib.Logic.Basic

/-! # State actions with exceptions and termination

An action reads and writes a state and ends in one of four ways: it returns,
an exception leaves it, the process is terminated, or the fuel of a recursive
definition runs out. The state is kept in every case, as effects made before an
exception was thrown are not undone by it. A `noexcept` boundary turns an
exception into termination; a handler sees only the exceptions it names.
-/

namespace LibToxTun.Foundation

/-- How an action ended, with the state it left behind. -/
inductive Outcome (ε σ α : Type) where
  | returned (value : α) (state : σ)
  | thrown (error : ε) (state : σ)
  | terminated (state : σ)
  | outOfFuel (state : σ)
deriving DecidableEq, Repr

abbrev Action (ε σ α : Type) : Type := σ → Outcome ε σ α

variable {ε σ τ α β : Type}

namespace Outcome

def state : Outcome ε σ α → σ
  | .returned _ s => s
  | .thrown _ s => s
  | .terminated s => s
  | .outOfFuel s => s

def andThen : Outcome ε σ α → (α → Action ε σ β) → Outcome ε σ β
  | .returned v s, next => next v s
  | .thrown e s, _ => .thrown e s
  | .terminated s, _ => .terminated s
  | .outOfFuel s, _ => .outOfFuel s

def mapState (f : σ → τ) : Outcome ε σ α → Outcome ε τ α
  | .returned v s => .returned v (f s)
  | .thrown e s => .thrown e (f s)
  | .terminated s => .terminated (f s)
  | .outOfFuel s => .outOfFuel (f s)

/-- The outcome of a function declared `noexcept`. -/
def guarded : Outcome ε σ α → Outcome ε σ α
  | .thrown _ s => .terminated s
  | o => o

def terminates : Outcome ε σ α → Bool
  | .terminated _ => true
  | _ => false

/-- The outcome of a `try` block with a handler for some of the exceptions. -/
def rescued : Outcome ε σ α → (ε → Option (Action ε σ α)) → Outcome ε σ α
  | .thrown e s, handler =>
      match handler e with
      | some action => action s
      | none => .thrown e s
  | o, _ => o

section
variable (v : α) (e : ε) (s : σ)

@[simp] theorem state_returned : (returned v s : Outcome ε σ α).state = s := rfl
@[simp] theorem state_thrown : (thrown e s : Outcome ε σ α).state = s := rfl
@[simp] theorem state_terminated : (terminated s : Outcome ε σ α).state = s := rfl
@[simp] theorem state_outOfFuel : (outOfFuel s : Outcome ε σ α).state = s := rfl

@[simp] theorem andThen_returned (next : α → Action ε σ β) :
    (returned v s : Outcome ε σ α).andThen next = next v s := rfl
@[simp] theorem andThen_thrown (next : α → Action ε σ β) :
    (thrown e s : Outcome ε σ α).andThen next = .thrown e s := rfl
@[simp] theorem andThen_terminated (next : α → Action ε σ β) :
    (terminated s : Outcome ε σ α).andThen next = .terminated s := rfl
@[simp] theorem andThen_outOfFuel (next : α → Action ε σ β) :
    (outOfFuel s : Outcome ε σ α).andThen next = .outOfFuel s := rfl

@[simp] theorem mapState_returned (f : σ → τ) :
    (returned v s : Outcome ε σ α).mapState f = .returned v (f s) := rfl
@[simp] theorem mapState_thrown (f : σ → τ) :
    (thrown e s : Outcome ε σ α).mapState f = .thrown e (f s) := rfl
@[simp] theorem mapState_terminated (f : σ → τ) :
    (terminated s : Outcome ε σ α).mapState f = .terminated (f s) := rfl
@[simp] theorem mapState_outOfFuel (f : σ → τ) :
    (outOfFuel s : Outcome ε σ α).mapState f = .outOfFuel (f s) := rfl

@[simp] theorem guarded_returned : (returned v s : Outcome ε σ α).guarded = .returned v s := rfl
@[simp] theorem guarded_thrown : (thrown e s : Outcome ε σ α).guarded = .terminated s := rfl
@[simp] theorem guarded_terminated : (terminated s : Outcome ε σ α).guarded = .terminated s := rfl
@[simp] theorem guarded_outOfFuel : (outOfFuel s : Outcome ε σ α).guarded = .outOfFuel s := rfl

theorem terminates_iff {o : Outcome ε σ α} : o.terminates = true ↔ ∃ s, o = .terminated s := by
  cases o <;> simp [terminates]

@[simp] theorem guarded_guarded (o : Outcome ε σ α) : o.guarded.guarded = o.guarded := by
  cases o <;> rfl

@[simp] theorem guarded_state (o : Outcome ε σ α) : o.guarded.state = o.state := by
  cases o <;> rfl

@[simp] theorem mapState_state (o : Outcome ε σ α) (f : σ → τ) :
    (o.mapState f).state = f o.state := by
  cases o <;> rfl

/-- What comes after an action changes nothing when it leaves the state. -/
theorem andThen_state (o : Outcome ε σ α) {next : α → σ → Outcome ε σ β}
    (leaves : ∀ v s, (next v s).state = s) : (o.andThen next).state = o.state := by
  cases o with
  | returned v s => exact leaves v s
  | thrown e s => rfl
  | terminated s => rfl
  | outOfFuel s => rfl

theorem guarded_mapState (o : Outcome ε σ α) (f : σ → τ) :
    (o.mapState f).guarded = o.guarded.mapState f := by
  cases o <;> rfl

@[simp] theorem rescued_returned (handler : ε → Option (Action ε σ α)) :
    (returned v s : Outcome ε σ α).rescued handler = .returned v s := rfl
@[simp] theorem rescued_terminated (handler : ε → Option (Action ε σ α)) :
    (terminated s : Outcome ε σ α).rescued handler = .terminated s := rfl
@[simp] theorem rescued_outOfFuel (handler : ε → Option (Action ε σ α)) :
    (outOfFuel s : Outcome ε σ α).rescued handler = .outOfFuel s := rfl

theorem rescued_of_some {handler : ε → Option (Action ε σ α)} {action : Action ε σ α}
    (caught : handler e = some action) :
    (thrown e s : Outcome ε σ α).rescued handler = action s := by
  simp [rescued, caught]

end

end Outcome

namespace Action

protected def bind (a : Action ε σ α) (next : α → Action ε σ β) : Action ε σ β :=
  fun s => (a s).andThen next

instance : Monad (Action ε σ) where
  pure v := fun s => .returned v s
  bind := Action.bind

def read (f : σ → α) : Action ε σ α := fun s => .returned (f s) s

def modify (f : σ → σ) : Action ε σ Unit := fun s => .returned () (f s)

def throw (e : ε) : Action ε σ α := fun s => .thrown e s

def exhausted : Action ε σ α := fun s => .outOfFuel s

def tryCatch (a : Action ε σ α) (handler : ε → Option (Action ε σ α)) : Action ε σ α :=
  fun s => (a s).rescued handler

def noexcept (a : Action ε σ α) : Action ε σ α := fun s => (a s).guarded

def ofExcept : Except ε α → Action ε σ α
  | .ok v => pure v
  | .error e => throw e

/-- Run an action on a component of a larger state. -/
def zoom (get : τ → σ) (put : σ → τ → τ) (a : Action ε σ α) : Action ε τ α :=
  fun t => (a (get t)).mapState (fun s => put s t)

section
variable (s : σ)

@[simp] theorem pure_apply (v : α) : (pure v : Action ε σ α) s = .returned v s := rfl
@[simp] theorem bind_apply (a : Action ε σ α) (next : α → Action ε σ β) :
    (a >>= next) s = (a s).andThen next := rfl
@[simp] theorem map_apply (f : α → β) (a : Action ε σ α) :
    (f <$> a) s = (a s).andThen fun v => pure (f v) := rfl
@[simp] theorem read_apply (f : σ → α) : (read f : Action ε σ α) s = .returned (f s) s := rfl
@[simp] theorem modify_apply (f : σ → σ) : (modify f : Action ε σ Unit) s = .returned () (f s) := rfl
@[simp] theorem throw_apply (e : ε) : (throw e : Action ε σ α) s = .thrown e s := rfl
@[simp] theorem exhausted_apply : (exhausted : Action ε σ α) s = .outOfFuel s := rfl
@[simp] theorem noexcept_apply (a : Action ε σ α) : noexcept a s = (a s).guarded := rfl
@[simp] theorem tryCatch_apply (a : Action ε σ α) (handler : ε → Option (Action ε σ α)) :
    tryCatch a handler s = (a s).rescued handler := rfl
@[simp] theorem ofExcept_ok (v : α) : (ofExcept (.ok v) : Action ε σ α) s = .returned v s := rfl
@[simp] theorem ofExcept_error (e : ε) : (ofExcept (.error e) : Action ε σ α) s = .thrown e s := rfl
theorem ofExcept_state (r : Except ε α) : (ofExcept r s : Outcome ε σ α).state = s := by
  cases r <;> rfl

@[simp] theorem zoom_apply (get : τ → σ) (put : σ → τ → τ) (a : Action ε σ α) (t : τ) :
    zoom get put a t = (a (get t)).mapState (fun s => put s t) := rfl

end

theorem andThen_modify_modify (o : Outcome ε σ α) (f g : σ → σ) :
    ((o.andThen fun _ => modify f).andThen fun _ => modify g) =
      o.andThen fun _ => modify (g ∘ f) := by
  cases o <;> rfl

theorem guarded_andThen_modify (o : Outcome ε σ α) (f : σ → σ) :
    (o.andThen fun _ => modify f).guarded = o.guarded.andThen fun _ => modify f := by
  cases o <;> rfl

end Action

end LibToxTun.Foundation
