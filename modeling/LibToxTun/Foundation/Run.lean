import Mathlib.Data.List.Basic

/-! # Runs of a system with inputs

A system takes one input in a state and may refuse it. `Reach` collects the states
it comes to on inputs of a kind; `run` follows one list of inputs.
-/

namespace LibToxTun.Foundation

variable {σ ι : Type}

/-- The states reached from a start by inputs allowed where they are taken. -/
inductive Reach (next : σ → ι → Option σ) (allowed : σ → ι → Prop) (s : σ) : σ → Prop where
  | start : Reach next allowed s s
  | step {t u : σ} {i : ι} (before : Reach next allowed s t) (ok : allowed t i)
      (taken : next t i = some u) : Reach next allowed s u

/-- A run with its inputs, each allowed where it is taken. -/
inductive Runs (next : σ → ι → Option σ) (allowed : σ → ι → Prop) (s : σ) : List ι → σ → Prop where
  | start : Runs next allowed s [] s
  | step {inputs : List ι} {t u : σ} {i : ι} (before : Runs next allowed s inputs t)
      (ok : allowed t i) (taken : next t i = some u) : Runs next allowed s (inputs ++ [i]) u

def run (next : σ → ι → Option σ) : σ → List ι → Option σ
  | s, [] => some s
  | s, i :: inputs => (next s i).bind fun t => run next t inputs

variable {next : σ → ι → Option σ} {allowed : σ → ι → Prop}

theorem run_append (s : σ) (l m : List ι) :
    run next s (l ++ m) = (run next s l).bind fun t => run next t m := by
  induction l generalizing s with
  | nil => rfl
  | cons i l ih =>
      simp only [List.cons_append, run, ih]
      cases next s i <;> rfl

theorem run_singleton (s : σ) (i : ι) : run next s [i] = next s i := by
  cases taken : next s i <;> simp [run, taken]

/-- What holds at every place of a longer list holds at the earlier places and at the last. -/
theorem forall_places_concat {P : List ι → ι → Prop} {l : List ι} {a : ι} :
    (∀ before i after, l ++ [a] = before ++ i :: after → P before i) ↔
      (∀ before i after, l = before ++ i :: after → P before i) ∧ P l a := by
  constructor
  · intro all
    refine ⟨fun before i after parts => all before i (after ++ [a]) ?_, all l a [] rfl⟩
    rw [parts, List.append_assoc, List.cons_append]
  · rintro ⟨earlier, last⟩ before i after parts
    rcases List.eq_nil_or_concat after with rfl | ⟨after, b, rfl⟩
    · obtain ⟨rfl, same⟩ := List.append_inj' parts rfl
      cases same
      exact last
    · refine earlier before i after ?_
      rw [List.concat_eq_append, ← List.cons_append, ← List.append_assoc] at parts
      exact (List.append_inj' parts rfl).1

/-- A run is tested by evaluating it. -/
theorem exists_run (next : σ → ι → Option σ) (s : σ) (inputs : List ι) {P : σ → Prop}
    [DecidablePred P]
    (h : (run next s inputs).any (fun t => decide (P t)) = true) :
    ∃ t, run next s inputs = some t ∧ P t := by
  cases taken : run next s inputs with
  | none => simp [taken] at h
  | some t => exact ⟨t, rfl, by simpa [taken] using h⟩

/-- What holds at the start and along every step holds wherever the system gets. -/
theorem Reach.invariant {I : σ → Prop} {s t : σ} (h : Reach next allowed s t) (start : I s)
    (preserved : ∀ t i u, I t → allowed t i → next t i = some u → I u) : I t := by
  induction h with
  | start => exact start
  | step _ ok taken ih => exact preserved _ _ _ ih ok taken

theorem Reach.mono {allowed' : σ → ι → Prop} {s t : σ} (h : Reach next allowed s t)
    (weaker : ∀ t i, allowed t i → allowed' t i) : Reach next allowed' s t := by
  induction h with
  | start => exact .start
  | step _ ok taken ih => exact ih.step (weaker _ _ ok) taken

/-- A run that comes closer to its end with every input of a kind takes few of them. -/
theorem Runs.bounded {I : ℕ → σ → Prop} {s t : σ} {k : ℕ} {inputs : List ι}
    (h : Runs next allowed s inputs t) (kind : ι → Bool) (start : I k s)
    (closer : ∀ k t i u, I k t → allowed t i → next t i = some u →
      ∃ k', I k' u ∧ k' + (if kind i then 1 else 0) ≤ k) :
    ∃ k', I k' t ∧ k' + inputs.countP kind ≤ k := by
  induction h with
  | start => exact ⟨k, start, Nat.le_refl k⟩
  | step _ ok taken ih =>
      obtain ⟨j, holds, bound⟩ := ih
      obtain ⟨j', holds', less⟩ := closer j _ _ _ holds ok taken
      refine ⟨j', holds', ?_⟩
      rw [List.countP_append, List.countP_singleton]
      omega

/-- The inputs are taken only where a test lets them pass. -/
def guarded (test : σ → ι → Bool) (next : σ → ι → Option σ) (s : σ) (i : ι) : Option σ :=
  if test s i then next s i else none

theorem Runs.cons {s t u : σ} {i : ι} {inputs : List ι} (ok : allowed s i) (taken : next s i = some t)
    (rest : Runs next allowed t inputs u) : Runs next allowed s (i :: inputs) u := by
  induction rest with
  | start => exact Runs.start.step ok taken
  | step _ ok' taken' ih => exact ih.step ok' taken'

/-- A run that passes a test in every state, on inputs that are allowed everywhere. -/
theorem Runs.of_guarded_run {P : ι → Prop} {test : σ → ι → Bool} {s t : σ} {inputs : List ι}
    (taken : run (guarded test next) s inputs = some t) (ok : ∀ i ∈ inputs, P i) :
    Runs next (fun s i => P i ∧ test s i = true) s inputs t := by
  induction inputs generalizing s with
  | nil =>
      cases taken
      exact .start
  | cons i inputs ih =>
      simp only [run, guarded, Option.bind_eq_some_iff, Option.ite_none_right_eq_some] at taken
      obtain ⟨u, ⟨passed, taken⟩, rest⟩ := taken
      exact .cons ⟨ok i List.mem_cons_self, passed⟩ taken
        (ih rest fun j hj => ok j (List.mem_cons_of_mem _ hj))

theorem Runs.mono {allowed' : σ → ι → Prop} {s t : σ} {inputs : List ι}
    (h : Runs next allowed s inputs t) (weaker : ∀ t i, allowed t i → allowed' t i) :
    Runs next allowed' s inputs t := by
  induction h with
  | start => exact .start
  | step _ ok taken ih => exact ih.step (weaker _ _ ok) taken

theorem Runs.reach {s t : σ} {inputs : List ι} (h : Runs next allowed s inputs t) :
    Reach next allowed s t := by
  induction h with
  | start => exact .start
  | step _ ok taken ih => exact ih.step ok taken

theorem Reach.of_guarded_run {P : ι → Prop} {test : σ → ι → Bool} {s t : σ} {inputs : List ι}
    (taken : run (guarded test next) s inputs = some t) (ok : ∀ i ∈ inputs, P i) :
    Reach next (fun s i => P i ∧ test s i = true) s t :=
  (Runs.of_guarded_run taken ok).reach

theorem Reach.of_run {P : ι → Prop} {s t : σ} {inputs : List ι}
    (taken : run next s inputs = some t) (ok : ∀ i ∈ inputs, P i) :
    Reach next (fun _ i => P i) s t := by
  have unguarded : run (guarded (fun _ _ => true) next) s inputs = run next s inputs := rfl
  exact (Reach.of_guarded_run (unguarded.trans taken) ok).mono fun _ _ => And.left

end LibToxTun.Foundation
