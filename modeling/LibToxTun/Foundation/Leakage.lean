import Mathlib.Data.List.MinMax
import Mathlib.Data.Sum.Basic
import LibToxTun.Foundation.Ownership

/-! # Leaks

A handle leaks when its owner gives it up without closing it, or when it is opened for
nobody. The leaks are counted: beside those from before and those of the owners, as many
handles are open as have leaked, and no others.
-/

namespace LibToxTun.Foundation

variable {κ η ρ : Type}

/-! ## Tables of handles -/

/-- What is open, by its handle. -/
structure Handles (η ρ : Type) where
  entries : List (η × ρ)
  apart : (entries.map Prod.fst).Nodup

namespace Handles

def empty : Handles η ρ := ⟨[], List.nodup_nil⟩

theorem eq_of_entries {t u : Handles η ρ} (same : t.entries = u.entries) : t = u := by
  cases t
  cases u
  cases same
  rfl

variable [DecidableEq η]

def get (t : Handles η ρ) (h : η) : Option ρ := t.entries.lookup h

def erase (t : Handles η ρ) (h : η) : Handles η ρ where
  entries := t.entries.filter fun e => e.1 ≠ h
  apart := t.apart.sublist (List.filter_sublist.map _)

/-- What was behind the handle before is gone. -/
def insert (t : Handles η ρ) (h : η) (r : ρ) : Handles η ρ where
  entries := (t.erase h).entries ++ [(h, r)]
  apart := by
    rw [List.map_append, List.map_singleton, List.nodup_append]
    refine ⟨(t.erase h).apart, List.nodup_cons.mpr ⟨List.not_mem_nil, List.nodup_nil⟩, fun g mem k last => ?_⟩
    obtain ⟨e, kept, rfl⟩ := List.mem_map.mp mem
    rw [List.mem_singleton.mp last]
    simpa using (List.mem_filter.mp kept).2

theorem lookup_cons_if (k : η) (r : ρ) (l : List (η × ρ)) (g : η) :
    List.lookup g ((k, r) :: l) = if g = k then some r else List.lookup g l := by
  rw [List.lookup_cons]
  by_cases own : g = k
  · simp [own]
  · rw [beq_false_of_ne own, if_neg own]

theorem get_eq_none {t : Handles η ρ} {h : η} : t.get h = none ↔ ∀ e ∈ t.entries, e.1 ≠ h := by
  simp only [get, List.lookup_eq_none_iff, bne_iff_ne, ne_comm]

theorem mem_entries {t : Handles η ρ} {h : η} {r : ρ} : (h, r) ∈ t.entries ↔ t.get h = some r := by
  obtain ⟨l, apart⟩ := t
  simp only [get]
  induction l with
  | nil => simp
  | cons e l ih =>
      obtain ⟨k, q⟩ := e
      rw [List.map_cons, List.nodup_cons] at apart
      rw [lookup_cons_if, List.mem_cons, Prod.mk.injEq, ih apart.2]
      by_cases own : h = k
      · subst own
        have others : List.lookup h l ≠ some r := fun listed =>
          apart.1 (List.mem_map.mpr ⟨(h, r), (ih apart.2).mpr listed, rfl⟩)
        simp [others, eq_comm]
      · simp [own]

theorem get_erase (t : Handles η ρ) (h : η) : (t.erase h).get = Function.update t.get h none := by
  funext g
  refine Option.ext fun r => ?_
  rw [← mem_entries, erase, List.mem_filter, mem_entries]
  by_cases own : g = h <;> simp [own]

theorem get_insert (t : Handles η ρ) (h : η) (r : ρ) :
    (t.insert h r).get = Function.update t.get h (some r) := by
  funext g
  have last : (t.insert h r).get g = ((t.erase h).get g).or (List.lookup g [(h, r)]) :=
    List.lookup_append
  rw [last, get_erase, lookup_cons_if]
  by_cases own : g = h <;> simp [own]

theorem get_insert_self (t : Handles η ρ) (h : η) (r : ρ) : (t.insert h r).get h = some r := by
  rw [get_insert, Function.update_self]

theorem erase_insert {t : Handles η ρ} {h : η} (free : t.get h = none) (r : ρ) :
    (t.insert h r).erase h = t := by
  have others : t.entries.filter (fun e => e.1 ≠ h) = t.entries :=
    List.filter_eq_self.mpr fun e mem => by simpa using get_eq_none.mp free e mem
  refine eq_of_entries ?_
  simp only [erase, insert, others, List.filter_append]
  simp

/-- A handle that is not in use. -/
def fresh (t : Handles Nat ρ) : Nat := (t.entries.map Prod.fst).foldr max 0 + 1

theorem get_fresh (t : Handles Nat ρ) : t.get t.fresh = none := by
  rw [get_eq_none]
  intro e mem same
  have bound : e.1 ≤ (t.entries.map Prod.fst).foldr max 0 :=
    List.le_max_of_le' 0 (List.mem_map_of_mem mem) (le_refl _)
  rw [same, fresh] at bound
  omega

/-- A handle that is wished for, or another one when it is in use. -/
def offer (t : Handles Nat ρ) (wish : Nat) : Nat := if t.get wish = none then wish else t.fresh

theorem get_offer (t : Handles Nat ρ) (wish : Nat) : t.get (t.offer wish) = none := by
  unfold offer
  split
  · next free => exact free
  · exact t.get_fresh

end Handles

/-! ## Owners and leaks -/

namespace Owned

variable {base : η → Option ρ} {held : κ → Option η} {table : η → Option ρ}
variable [DecidableEq κ] [DecidableEq η]

theorem transfer (owned : Owned base held table) {k l : κ} {h : η} (holds : held k = some h)
    (without : held l = none) :
    Owned base (Function.update (Function.update held k none) l (some h)) table := by
  obtain ⟨r, isOpen⟩ := Option.ne_none_iff_exists'.mp (owned.isOpen k h holds)
  have other : l ≠ k := by
    rintro rfl
    rw [without] at holds
    cases holds
  have given := (owned.release holds).acquire (k := l) (by rwa [Function.update_of_ne other])
    (Function.update_self ..) r
  rwa [Function.update_idem, ← isOpen, Function.update_eq_self] at given

end Owned

/-- Beside the handles of the owners, `n` are open that have leaked. -/
def Accounted (base : η → Option ρ) (held : κ → Option η) (n : Nat) (table : η → Option ρ) : Prop :=
  ∃ lost : Nat → Option η, (∀ i, lost i ≠ none ↔ i < n) ∧ Owned base (Sum.elim held lost) table

namespace Accounted

variable {base : η → Option ρ} {held : κ → Option η} {n : Nat} {table : η → Option ρ}

theorem start (base : η → Option ρ) : Accounted base (fun _ : κ => none) 0 base := by
  refine ⟨fun _ => none, by simp, ?_⟩
  have nobody : Sum.elim (fun _ : κ => none) (fun _ : Nat => (none : Option η)) = fun _ => none := by
    funext o
    cases o <;> rfl
  rw [nobody]
  exact Owned.start base

/-- Nothing has leaked exactly when all that is open is owned. -/
theorem balanced_iff (accounted : Accounted base held n table) : n = 0 ↔ Owned base held table := by
  obtain ⟨lost, counted, owned⟩ := accounted
  constructor
  · rintro rfl
    have none (i : Nat) : lost i = none := by
      by_contra leaked
      exact Nat.not_lt_zero i ((counted i).mp leaked)
    refine ⟨fun k => owned.isOpen (.inl k), fun k => owned.foreign (.inl k), fun k l h holds holds' =>
      Sum.inl.inj (owned.apart (.inl k) (.inl l) h holds holds'), fun h unheld => owned.rest h ?_⟩
    rintro (k | i)
    · exact unheld k
    · simp [none i]
  · intro balanced
    by_contra leaks
    obtain ⟨h, leaked⟩ := Option.ne_none_iff_exists'.mp ((counted 0).mpr (Nat.pos_of_ne_zero leaks))
    have unheld (k : κ) : held k ≠ some h := fun holds => by
      cases owned.apart (.inl k) (.inr 0) h holds leaked
    exact owned.isOpen (.inr 0) h leaked
      ((balanced.rest h unheld).trans (owned.foreign (.inr 0) h leaked))

theorem isOpen (accounted : Accounted base held n table) {k : κ} {h : η} (holds : held k = some h) :
    table h ≠ none := by
  obtain ⟨lost, -, owned⟩ := accounted
  exact owned.isOpen (.inl k) h holds

theorem apart (accounted : Accounted base held n table) {k l : κ} {h : η} (holds : held k = some h)
    (holds' : held l = some h) : k = l := by
  obtain ⟨lost, -, owned⟩ := accounted
  exact Sum.inl.inj (owned.apart (.inl k) (.inl l) h holds holds')

variable [DecidableEq κ] [DecidableEq η]

theorem acquire (accounted : Accounted base held n table) {k : κ} {h : η} (without : held k = none)
    (free : table h = none) (r : ρ) :
    Accounted base (Function.update held k (some h)) n (Function.update table h (some r)) := by
  obtain ⟨lost, counted, owned⟩ := accounted
  refine ⟨lost, counted, ?_⟩
  rw [← Sum.update_elim_inl]
  exact owned.acquire (k := .inl k) without free r

theorem release (accounted : Accounted base held n table) {k : κ} {h : η} (holds : held k = some h) :
    Accounted base (Function.update held k none) n (Function.update table h none) := by
  obtain ⟨lost, counted, owned⟩ := accounted
  refine ⟨lost, counted, ?_⟩
  rw [← Sum.update_elim_inl]
  exact owned.release (k := .inl k) holds

omit [DecidableEq κ] [DecidableEq η] in
theorem counted_succ {lost : Nat → Option η} (counted : ∀ i, lost i ≠ none ↔ i < n) (h : η) (i : Nat) :
    Function.update lost n (some h) i ≠ none ↔ i < n + 1 := by
  by_cases last : i = n
  · simp [last]
  · rw [Function.update_of_ne last, counted]
    omega

omit [DecidableEq κ] [DecidableEq η] in
theorem lost_last {lost : Nat → Option η} (counted : ∀ i, lost i ≠ none ↔ i < n) : lost n = none := by
  by_contra leaked
  exact Nat.lt_irrefl n ((counted n).mp leaked)

theorem lose (accounted : Accounted base held n table) {k : κ} {h : η} (holds : held k = some h) :
    Accounted base (Function.update held k none) (n + 1) table := by
  obtain ⟨lost, counted, owned⟩ := accounted
  refine ⟨Function.update lost n (some h), counted_succ counted h, ?_⟩
  rw [← Sum.update_elim_inr, ← Sum.update_elim_inl]
  exact owned.transfer (k := .inl k) (l := .inr n) holds (lost_last counted)

omit [DecidableEq κ] in
theorem waste (accounted : Accounted base held n table) {h : η} (free : table h = none) (r : ρ) :
    Accounted base held (n + 1) (Function.update table h (some r)) := by
  obtain ⟨lost, counted, owned⟩ := accounted
  classical
  refine ⟨Function.update lost n (some h), counted_succ counted h, ?_⟩
  rw [← Sum.update_elim_inr]
  exact owned.acquire (k := .inr n) (lost_last counted) free r

end Accounted

end LibToxTun.Foundation
