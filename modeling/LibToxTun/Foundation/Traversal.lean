import Mathlib.Order.RelClasses
import LibToxTun.Foundation.Run

/-! # Loops over an ordered map

A loop visits the entries of a map in the order of their keys, and the body may change the
map. Where it neither adds nor removes an entry the loop visits every key once, as if the
keys had been listed before.
-/

namespace LibToxTun.Foundation

variable {σ κ : Type} {lt : κ → κ → Prop} {has : σ → κ → Prop} {visit : σ → κ → Option σ}

/-- The loop stands in front of the keys `ahead` and visits the first of them that the map
has then. -/
inductive Traverses (lt : κ → κ → Prop) (has : σ → κ → Prop) (visit : σ → κ → Option σ) :
    (κ → Prop) → σ → List κ → σ → Prop where
  | finished {ahead : κ → Prop} {s : σ} (none : ∀ k, ahead k → ¬ has s k) :
      Traverses lt has visit ahead s [] s
  | visited {ahead : κ → Prop} {s t u : σ} {k : κ} {l : List κ} (front : ahead k) (entry : has s k)
      (first : ∀ j, ahead j → has s j → ¬ lt j k) (body : visit s k = some t)
      (rest : Traverses lt has visit (lt k) t l u) : Traverses lt has visit ahead s (k :: l) u

section
variable [IsStrictTotalOrder κ lt] (keeps : ∀ s k t, visit s k = some t → ∀ j, has t j ↔ has s j)

theorem head_first {P : κ → Prop} {k : κ} {l : List κ} (sorted : (k :: l).Pairwise lt)
    (listed : ∀ j, j ∈ k :: l ↔ P j) {j : κ} (holds : P j) : ¬ lt j k := by
  rcases List.mem_cons.mp ((listed j).mpr holds) with rfl | mem
  · exact irrefl j
  · exact asymm (List.rel_of_pairwise_cons sorted mem)

include keeps

theorem listed_after {ahead : κ → Prop} {s t : σ} {k : κ} {l : List κ} (sorted : (k :: l).Pairwise lt)
    (listed : ∀ j, j ∈ k :: l ↔ ahead j ∧ has s j) (upward : ∀ j, lt k j → ahead j)
    (body : visit s k = some t) (j : κ) : j ∈ l ↔ lt k j ∧ has t j := by
  rw [keeps s k t body]
  constructor
  · intro mem
    exact ⟨List.rel_of_pairwise_cons sorted mem, ((listed j).mp (List.mem_cons_of_mem _ mem)).2⟩
  · rintro ⟨behind, entry⟩
    rcases List.mem_cons.mp ((listed j).mpr ⟨upward j behind, entry⟩) with rfl | mem
    · exact (irrefl j behind).elim
    · exact mem

/-- A loop that keeps the keys visits those that the map has, one after the other. -/
theorem Traverses.listed {ahead : κ → Prop} {s u : σ} {l m : List κ}
    (upward : ∀ j k, ahead j → lt j k → ahead k) (sorted : l.Pairwise lt)
    (listed : ∀ k, k ∈ l ↔ ahead k ∧ has s k) (loop : Traverses lt has visit ahead s m u) :
    m = l ∧ run visit s l = some u := by
  induction loop generalizing l with
  | finished none =>
      cases List.eq_nil_iff_forall_not_mem.mpr fun k mem =>
        none k ((listed k).mp mem).1 ((listed k).mp mem).2
      exact ⟨rfl, rfl⟩
  | @visited ahead s t u k m front entry first body rest ih =>
      cases l with
      | nil => cases (listed k).mpr ⟨front, entry⟩
      | cons j l =>
          have head : ¬ lt k j := head_first sorted listed ⟨front, entry⟩
          obtain ⟨front', entry'⟩ := (listed j).mp List.mem_cons_self
          cases (trichotomous_of lt j k).resolve_left (first j front' entry') |>.resolve_right head
          obtain ⟨rfl, after⟩ := ih (fun i j => IsTrans.trans k i j) sorted.of_cons
            (listed_after keeps sorted listed (fun i => upward k i front) body)
          exact ⟨rfl, by rw [run, body, Option.bind_some, after]⟩

end

end LibToxTun.Foundation
