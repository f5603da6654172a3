import Mathlib.Data.List.Basic
import Mathlib.Logic.Function.Basic

/-! # Parts that arrive in any order

Items belong to groups, and the items of a group arrive one by one among those of
other groups. A store keeps what has arrived of a group under the key of the group
until the group is complete. Groups may share a key as long as they are not under way
together.
-/

namespace LibToxTun.Foundation

variable {ι ν κ β : Type}

/-- Some items of the group have arrived and some have not. -/
def UnderWay (group : ι → ν) (before after : List ι) (n : ν) : Prop :=
  (∃ i ∈ before, group i = n) ∧ ∃ i ∈ after, group i = n

/-- What has arrived of a group, the newest item first. -/
def arrivedOf [DecidableEq ν] (group : ι → ν) (item : ι → β) (before : List ι) (n : ν) : List β :=
  ((before.filter fun i => decide (group i = n)).map item).reverse

/-- The store holds what has arrived of the groups under way. It may hold that of some other
groups, and nothing else. -/
structure Holds [DecidableEq ν] (group : ι → ν) (key : ν → κ) (item : ι → β) (may : ν → Prop)
    (before after : List ι) (store : κ → List β) : Prop where
  held : ∀ n, UnderWay group before after n → store (key n) = arrivedOf group item before n
  only : ∀ k, store k ≠ [] → ∃ n, key n = k ∧ store k = arrivedOf group item before n ∧ may n

/-- The store holds the groups under way, and nothing else. -/
def Tracks [DecidableEq ν] (group : ι → ν) (key : ν → κ) (item : ι → β) (before after : List ι)
    (store : κ → List β) : Prop :=
  Holds group key item (UnderWay group before after) before after store

/-- No other group under way has the key of the group. -/
def Apart (group : ι → ν) (key : ν → κ) (before after : List ι) (n : ν) : Prop :=
  ∀ m, UnderWay group before after m → key m = key n → m = n

section
variable {group : ι → ν} {key : ν → κ} {item : ι → β} {before after : List ι} {x : ι}
  {store store' : κ → List β}

/-- The groups under way after an arrival were under way before it, or are its own. -/
theorem UnderWay.of_arrival {n : ν} (h : UnderWay group (before ++ [x]) after n)
    (other : n ≠ group x) : UnderWay group before (x :: after) n := by
  obtain ⟨⟨i, hi, hin⟩, j, hj, hjn⟩ := h
  refine ⟨⟨i, ?_, hin⟩, j, List.mem_cons_of_mem x hj, hjn⟩
  rcases List.mem_append.mp hi with old | new
  · exact old
  · rw [List.mem_singleton.mp new] at hin
    exact (other hin.symm).elim

theorem UnderWay.arrives {n : ν} (h : UnderWay group before (x :: after) n) (other : n ≠ group x) :
    UnderWay group (before ++ [x]) after n := by
  obtain ⟨⟨i, hi, hin⟩, j, hj, hjn⟩ := h
  refine ⟨⟨i, List.mem_append_left _ hi, hin⟩, j, ?_, hjn⟩
  rcases List.mem_cons.mp hj with rfl | later
  · exact (other hjn.symm).elim
  · exact later

variable [DecidableEq ν]

theorem arrivedOf_append (n : ν) : arrivedOf group item (before ++ [x]) n =
    if group x = n then item x :: arrivedOf group item before n else arrivedOf group item before n := by
  unfold arrivedOf
  split
  · next own => simp [own]
  · next other => simp [other]

variable {may may' : ν → Prop}

theorem Holds.start (may : ν → Prop) (after : List ι) :
    Holds group key item may [] after fun _ => [] where
  held n h := by
    obtain ⟨⟨i, hi, -⟩, -⟩ := h
    cases hi
  only k h := (h rfl).elim

section
variable (h : Holds group key item may before (x :: after) store)
include h

/-- An item finds under the key of its group what has arrived of the group. -/
theorem Holds.found (begun : ∀ n, may n → ∃ i ∈ before, group i = n)
    (alone : ∀ n, may n → key n = key (group x) → n = group x) :
    store (key (group x)) = arrivedOf group item before (group x) := by
  by_cases some : ∃ i ∈ before, group i = group x
  · exact h.held (group x) ⟨some, x, List.mem_cons_self, rfl⟩
  · have none : arrivedOf group item before (group x) = [] := by
      unfold arrivedOf
      rw [List.reverse_eq_nil_iff, List.map_eq_nil_iff, List.filter_eq_nil_iff]
      intro i hi own
      exact some ⟨i, hi, by simpa using own⟩
    rw [none]
    by_contra holds
    obtain ⟨m, same, -, left⟩ := h.only _ holds
    exact some (alone m left same ▸ begun m left)

/-- An item joins the others of its group. -/
theorem Holds.push [DecidableEq κ] (apart : Apart group key before (x :: after) (group x))
    (found : store (key (group x)) = arrivedOf group item before (group x)) (own : may' (group x))
    (others : ∀ n, n ≠ group x → may n → may' n) :
    Holds group key item may' (before ++ [x]) after
      (Function.update store (key (group x)) (item x :: store (key (group x)))) where
  held n way := by
    rw [arrivedOf_append]
    by_cases own : group x = n
    · subst own
      rw [if_pos rfl, Function.update_self, found]
    · have earlier := way.of_arrival (Ne.symm own)
      rw [if_neg own, Function.update_of_ne fun same => own (apart n earlier same).symm]
      exact h.held n earlier
  only k holds := by
    by_cases here : k = key (group x)
    · subst here
      refine ⟨group x, rfl, ?_, own⟩
      rw [Function.update_self, arrivedOf_append, if_pos rfl, found]
    · rw [Function.update_of_ne here] at holds ⊢
      obtain ⟨m, rfl, stored, left⟩ := h.only k holds
      have other : m ≠ group x := fun same => here (by rw [same])
      refine ⟨m, rfl, ?_, others m other left⟩
      rw [arrivedOf_append, if_neg (Ne.symm other), stored]

/-- The last item of a group takes the group out of the store. The keys that no group
under way has may be emptied as well. -/
theorem Holds.complete (last : ∀ i ∈ after, group i ≠ group x) (gone : store' (key (group x)) = [])
    (kept : ∀ m, UnderWay group before (x :: after) m → m ≠ group x → store' (key m) = store (key m))
    (fewer : ∀ k, store' k = [] ∨ store' k = store k)
    (others : ∀ n, n ≠ group x → store' (key n) ≠ [] → may n → may' n) :
    Holds group key item may' (before ++ [x]) after store' where
  held n way := by
    have other : n ≠ group x := by
      rintro rfl
      obtain ⟨-, i, hi, same⟩ := way
      exact last i hi same
    have earlier := way.of_arrival other
    rw [kept n earlier other, arrivedOf_append, if_neg (Ne.symm other)]
    exact h.held n earlier
  only k holds := by
    rcases fewer k with empty | same
    · exact (holds empty).elim
    · obtain ⟨m, rfl, stored, left⟩ := h.only k (same ▸ holds)
      have other : m ≠ group x := fun own => holds (own ▸ gone)
      refine ⟨m, rfl, ?_, others m other holds left⟩
      rw [same, arrivedOf_append, if_neg (Ne.symm other), stored]

end

section
variable (h : Tracks group key item before (x :: after) store)
include h

theorem Tracks.found (apart : Apart group key before (x :: after) (group x)) :
    store (key (group x)) = arrivedOf group item before (group x) :=
  Holds.found h (fun _ way => way.1) apart

theorem Tracks.push [DecidableEq κ] (apart : Apart group key before (x :: after) (group x))
    (more : ∃ i ∈ after, group i = group x) : Tracks group key item (before ++ [x]) after
      (Function.update store (key (group x)) (item x :: store (key (group x)))) :=
  Holds.push h apart (h.found apart) ⟨⟨x, by simp, rfl⟩, more⟩ fun _ other way => way.arrives other

theorem Tracks.complete (last : ∀ i ∈ after, group i ≠ group x) (gone : store' (key (group x)) = [])
    (kept : ∀ m, UnderWay group before (x :: after) m → m ≠ group x → store' (key m) = store (key m))
    (fewer : ∀ k, store' k = [] ∨ store' k = store k) :
    Tracks group key item (before ++ [x]) after store' :=
  Holds.complete h last gone kept fewer fun _ other _ way => way.arrives other

end

theorem Tracks.keeps (h : Tracks group key item before after store) {i : ι} (arrived : i ∈ before)
    (more : ∃ j ∈ after, group j = group i) : item i ∈ store (key (group i)) := by
  rw [h.held (group i) ⟨⟨i, arrived, rfl⟩, more⟩, arrivedOf, List.mem_reverse]
  exact List.mem_map_of_mem (List.mem_filter.mpr ⟨arrived, by simp⟩)

theorem Tracks.finish (h : Tracks group key item before [] store) : store = fun _ => [] := by
  funext k
  by_contra holds
  obtain ⟨m, -, -, -, i, hi, -⟩ := h.only k holds
  cases hi

end

end LibToxTun.Foundation
