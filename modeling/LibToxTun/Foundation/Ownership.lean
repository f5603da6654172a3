import Mathlib.Logic.Function.Basic

/-! # Handles and their owners

Owners hold at most one handle each. Whatever is open in a table of handles was open
before there were owners, or is held by one of them.
-/

namespace LibToxTun.Foundation

variable {κ η ρ : Type}

section
variable [DecidableEq κ] {held : κ → Option η} {k l : κ} {g h : η}

theorem held_given (holds : Function.update held k (some h) l = some g) :
    (l = k ∧ g = h) ∨ (l ≠ k ∧ held l = some g) := by
  by_cases own : l = k
  · subst own
    rw [Function.update_self] at holds
    exact .inl ⟨rfl, (Option.some.inj holds).symm⟩
  · rw [Function.update_of_ne own] at holds
    exact .inr ⟨own, holds⟩

theorem held_taken (holds : Function.update held k none l = some g) : l ≠ k ∧ held l = some g := by
  by_cases own : l = k
  · subst own
    rw [Function.update_self] at holds
    cases holds
  · rw [Function.update_of_ne own] at holds
    exact ⟨own, holds⟩

end

/-- `base` is what is open without the owners, `table` what is open. -/
structure Owned (base : η → Option ρ) (held : κ → Option η) (table : η → Option ρ) : Prop where
  isOpen : ∀ k h, held k = some h → table h ≠ none
  foreign : ∀ k h, held k = some h → base h = none
  apart : ∀ k l h, held k = some h → held l = some h → k = l
  rest : ∀ h, (∀ k, held k ≠ some h) → table h = base h

namespace Owned

variable {base : η → Option ρ} {held : κ → Option η} {table : η → Option ρ}

theorem start (base : η → Option ρ) : Owned base (fun _ : κ => none) base where
  isOpen _ _ h := by cases h
  foreign _ _ h := by cases h
  apart _ _ _ h := by cases h
  rest _ _ := rfl

theorem unheld (owned : Owned base held table) {h : η} (free : table h = none) (k : κ) :
    held k ≠ some h :=
  fun holds => owned.isOpen k h holds free

theorem base_none (owned : Owned base held table) {h : η} (free : table h = none) :
    base h = none :=
  (owned.rest h (owned.unheld free)).symm.trans free

/-- What an owner does not hold stays as it is. -/
theorem table_of_base (owned : Owned base held table) {h : η} {r : ρ} (before : base h = some r) :
    table h = some r := by
  rw [owned.rest h fun k holds => ?_, before]
  have none := owned.foreign k h holds
  rw [before] at none
  cases none

section
variable [DecidableEq κ] [DecidableEq η]

/-- An owner without a handle gets one that was not open. -/
theorem acquire (owned : Owned base held table) {k : κ} {h : η} (without : held k = none)
    (free : table h = none) (r : ρ) :
    Owned base (Function.update held k (some h)) (Function.update table h (some r)) where
  isOpen l g holds := by
    rcases held_given holds with ⟨-, rfl⟩ | ⟨-, before⟩
    · simp
    · have other : g ≠ h := fun same => owned.unheld free l (before.trans (congrArg some same))
      rw [Function.update_of_ne other]
      exact owned.isOpen l g before
  foreign l g holds := by
    rcases held_given holds with ⟨-, rfl⟩ | ⟨-, before⟩
    · exact owned.base_none free
    · exact owned.foreign l g before
  apart l m g holds holds' := by
    rcases held_given holds with ⟨rfl, rfl⟩ | ⟨-, before⟩
    · rcases held_given holds' with ⟨rfl, -⟩ | ⟨-, before'⟩
      · rfl
      · exact (owned.unheld free m before').elim
    · rcases held_given holds' with ⟨rfl, rfl⟩ | ⟨-, before'⟩
      · exact (owned.unheld free l before).elim
      · exact owned.apart l m g before before'
  rest g unheld := by
    have other : g ≠ h := by
      rintro rfl
      exact unheld k (Function.update_self ..)
    rw [Function.update_of_ne other]
    refine owned.rest g fun l holds => unheld l ?_
    by_cases own : l = k
    · subst own
      rw [without] at holds
      cases holds
    · rw [Function.update_of_ne own]
      exact holds

theorem release (owned : Owned base held table) {k : κ} {h : η} (holds : held k = some h) :
    Owned base (Function.update held k none) (Function.update table h none) := by
  have others (l : κ) (g : η) (later : Function.update held k none l = some g) :
      l ≠ k ∧ held l = some g ∧ g ≠ h := by
    obtain ⟨other, before⟩ := held_taken later
    exact ⟨other, before, fun same => other (owned.apart l k h (same ▸ before) holds)⟩
  refine ⟨fun l g later => ?_, fun l g later => ?_, fun l m g later later' => ?_, fun g unheld => ?_⟩
  · obtain ⟨-, before, away⟩ := others l g later
    rw [Function.update_of_ne away]
    exact owned.isOpen l g before
  · exact owned.foreign l g (others l g later).2.1
  · exact owned.apart l m g (others l g later).2.1 (others m g later').2.1
  · by_cases own : g = h
    · subst own
      rw [Function.update_self, owned.foreign k g holds]
    · rw [Function.update_of_ne own]
      refine owned.rest g fun l before => unheld l ?_
      have other : l ≠ k := by
        rintro rfl
        rw [before] at holds
        exact own (Option.some.inj holds)
      rw [Function.update_of_ne other]
      exact before

/-- An owner gets a handle that was not open before the one that it has is closed. -/
theorem exchange (owned : Owned base held table) {k : κ} {h g : η} (holds : held k = some h)
    (free : table g = none) (r : ρ) :
    Owned base (Function.update held k (some g))
      (Function.update (Function.update table g (some r)) h none) := by
  have other : g ≠ h := fun same => owned.isOpen k h holds (same ▸ free)
  have free' : Function.update table h none g = none := by rwa [Function.update_of_ne other]
  have given := (owned.release holds).acquire (Function.update_self ..) free' r
  rwa [Function.update_idem, Function.update_comm other.symm] at given

omit [DecidableEq κ] in
theorem rewrite (owned : Owned base held table) {k : κ} {h : η} (holds : held k = some h) (r : ρ) :
    Owned base held (Function.update table h (some r)) where
  isOpen l g holds' := by
    by_cases same : g = h
    · subst same
      simp
    · rw [Function.update_of_ne same]
      exact owned.isOpen l g holds'
  foreign := owned.foreign
  apart := owned.apart
  rest g unheld := by
    have other : g ≠ h := by
      rintro rfl
      exact unheld k holds
    rw [Function.update_of_ne other]
    exact owned.rest g unheld

end

end Owned

end LibToxTun.Foundation
