import LibToxTun.Foundation.Delivery

/-! # Parts that may be lost

Of some groups not all items arrive. What has arrived of such a group stays in the store
until a group that is complete clears its key. A store is sound as long as an item never
finds the remains of another group under the key of its own.
-/

namespace LibToxTun.Foundation

variable {ι ν κ β : Type} [DecidableEq ν]

/-- All items of a group have arrived, by their number. -/
def Complete (group : ι → ν) (size : ν → Nat) (before : List ι) (n : ν) : Prop :=
  (∃ i ∈ before, group i = n) ∧ (before.filter fun i => group i = n).length = size n

/-- A part of a group has arrived, and no group that is complete has cleared it. -/
structure Remains (group : ι → ν) (size : ν → Nat) (clears : ν → ν → Prop) (before : List ι) (n : ν) :
    Prop where
  begun : ∃ i ∈ before, group i = n
  incomplete : ¬ Complete group size before n
  uncleared : ∀ w, clears w n → ¬ Complete group size before w

/-- The store holds what has arrived of the groups under way, and nothing but remains. -/
def Retains (group : ι → ν) (key : ν → κ) (item : ι → β) (size : ν → Nat) (clears : ν → ν → Prop)
    (before after : List ι) (store : κ → List β) : Prop :=
  Holds group key item (Remains group size clears before) before after store

section
variable {group : ι → ν} {key : ν → κ} {item : ι → β} {size : ν → Nat} {clears : ν → ν → Prop}
  {before after : List ι} {x : ι} {store store' : κ → List β}

theorem complete_append {n : ν} (other : n ≠ group x) :
    Complete group size (before ++ [x]) n ↔ Complete group size before n := by
  have away : ¬ group x = n := fun same => other same.symm
  simp [Complete, List.filter_append, away]

/-- What remained of another group remains, unless the item completes a group that clears it. -/
theorem Remains.arrives {n : ν} (h : Remains group size clears before n) (other : n ≠ group x)
    (spared : clears (group x) n → ¬ Complete group size (before ++ [x]) (group x)) :
    Remains group size clears (before ++ [x]) n where
  begun := by
    obtain ⟨i, mem, same⟩ := h.begun
    exact ⟨i, List.mem_append_left _ mem, same⟩
  incomplete := by
    rw [complete_append other]
    exact h.incomplete
  uncleared w clears := by
    by_cases own : w = group x
    · subst own
      exact spared clears
    · rw [complete_append own]
      exact h.uncleared w clears

section
variable (h : Retains group key item size clears before (x :: after) store)
include h

section
variable (alone : ∀ n, Remains group size clears before n → key n = key (group x) → n = group x)
include alone

theorem Retains.found : store (key (group x)) = arrivedOf group item before (group x) :=
  Holds.found h (fun _ remains => remains.begun) alone

theorem Retains.push [DecidableEq κ] (apart : Apart group key before (x :: after) (group x))
    (goesOn : ¬ Complete group size (before ++ [x]) (group x))
    (ahead : ∀ w, clears w (group x) → ¬ Complete group size (before ++ [x]) w) :
    Retains group key item size clears (before ++ [x]) after
      (Function.update store (key (group x)) (item x :: store (key (group x)))) :=
  Holds.push h apart (h.found alone) ⟨⟨x, by simp, rfl⟩, goesOn, ahead⟩
    fun _ other remains => remains.arrives other fun _ => goesOn

end

/-- The last item of a complete group clears the remains of others as well. -/
theorem Retains.complete (last : ∀ i ∈ after, group i ≠ group x) (gone : store' (key (group x)) = [])
    (cleared : ∀ n, clears (group x) n → store' (key n) = [])
    (kept : ∀ m, UnderWay group before (x :: after) m → m ≠ group x → store' (key m) = store (key m))
    (fewer : ∀ k, store' k = [] ∨ store' k = store k) :
    Retains group key item size clears (before ++ [x]) after store' :=
  Holds.complete h last gone kept fewer fun n other holds remains =>
    remains.arrives other fun clears => (holds (cleared n clears)).elim

end

end

end LibToxTun.Foundation
