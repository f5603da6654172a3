import Mathlib.Logic.Function.Basic

/-! # Two parties and two ordered channels

A system of two parties that act on their own and receive what the other has
sent, in order. What a party may do is given by two relations on its local state;
an invariant is stated once, from the point of view of a party, and is preserved
when both points of view survive an action and a reception of the party.
-/

namespace LibToxTun.Foundation

inductive Side where
  | a
  | b
deriving DecidableEq, Repr

namespace Side

def other : Side → Side
  | a => b
  | b => a

@[simp] theorem other_other (x : Side) : x.other.other = x := by cases x <;> rfl

@[simp] theorem other_ne (x : Side) : x.other ≠ x := by cases x <;> decide

@[simp] theorem ne_other (x : Side) : x ≠ x.other := by cases x <;> decide

instance {P : Side → Prop} [DecidablePred P] : Decidable (∀ x, P x) :=
  decidable_of_iff (P a ∧ P b) ⟨fun h x => by cases x <;> simp [h], fun h => ⟨h a, h b⟩⟩

theorem eq_or_other (x y : Side) : y = x ∨ y = x.other := by cases x <;> cases y <;> simp [other]

end Side

/-- The local states, and what each party has sent and the other has not received. -/
structure Duplex (σ μ : Type) where
  party : Side → σ
  wire : Side → List μ

variable {σ μ : Type}

namespace Duplex

/-- A party changes its state and sends. -/
def put (d : Duplex σ μ) (x : Side) (s : σ) (out : List μ) : Duplex σ μ where
  party := Function.update d.party x s
  wire := Function.update d.wire x (d.wire x ++ out)

/-- The first message on its way to a party is gone. -/
def taken (d : Duplex σ μ) (x : Side) (rest : List μ) : Duplex σ μ :=
  { d with wire := Function.update d.wire x.other rest }

/-- A party that changes its state twice has sent nothing in between. -/
theorem put_put (d : Duplex σ μ) (x : Side) (s s' : σ) (out : List μ) :
    (d.put x s []).put x s' out = d.put x s' out := by simp [put]

theorem put_same (d : Duplex σ μ) (x : Side) : d.put x (d.party x) [] = d := by
  simp [put]

@[simp] theorem put_party (d : Duplex σ μ) (x : Side) (s : σ) (out : List μ) :
    (d.put x s out).party x = s := by simp [put]

@[simp] theorem put_party_other (d : Duplex σ μ) (x : Side) (s : σ) (out : List μ) :
    (d.put x s out).party x.other = d.party x.other := by simp [put]

inductive Label where
  | act (x : Side)
  | receive (x : Side)

variable (act : σ → σ → List μ → Prop) (receive : μ → σ → σ → List μ → Prop)

inductive Step : Label → Duplex σ μ → Duplex σ μ → Prop where
  | act {d : Duplex σ μ} {x : Side} {s : σ} {out : List μ} (h : act (d.party x) s out) :
      Step (.act x) d (d.put x s out)
  | receive {d : Duplex σ μ} {x : Side} {m : μ} {rest : List μ} {s : σ} {out : List μ}
      (next : d.wire x.other = m :: rest) (h : receive m (d.party x) s out) :
      Step (.receive x) d ((d.taken x rest).put x s out)

variable {act receive}

theorem Step.guard {l : Label} {d d' : Duplex σ μ} (h : Step act receive l d d')
    {ok : μ → σ → Prop}
    (holds : ∀ x m rest, l = .receive x → d.wire x.other = m :: rest → ok m (d.party x)) :
    Step act (fun m s s' out => ok m s ∧ receive m s s' out) l d d' := by
  cases h with
  | act h => exact .act h
  | receive next h => exact .receive next ⟨holds _ _ _ rfl next, h⟩

/-- The invariant holds from both points of view. -/
def Holds (I : σ → σ → List μ → List μ → Prop) (d : Duplex σ μ) : Prop :=
  ∀ x : Side, I (d.party x) (d.party x.other) (d.wire x) (d.wire x.other)

section
variable {I : σ → σ → List μ → List μ → Prop} {d d' : Duplex σ μ}

theorem holds_put {x : Side} {s : σ} {out : List μ}
    (mine : I s (d.party x.other) (d.wire x ++ out) (d.wire x.other))
    (theirs : I (d.party x.other) s (d.wire x.other) (d.wire x ++ out)) :
    Holds I (d.put x s out) := by
  intro y
  rcases Side.eq_or_other x y with rfl | rfl
  · simpa [put] using mine
  · simpa [put] using theirs

/-- An invariant that survives what one party does, seen from either side, is
preserved by every step. -/
theorem Holds.step {l : Label} (h : Holds I d) (step : Step act receive l d d')
    (acts : ∀ s t m o s' out, I s t m o → I t s o m → act s s' out →
      I s' t (m ++ out) o ∧ I t s' o (m ++ out))
    (receives : ∀ s t m o msg s' out, I s t m (msg :: o) → I t s (msg :: o) m →
      receive msg s s' out → I s' t (m ++ out) o ∧ I t s' o (m ++ out)) :
    Holds I d' := by
  cases step with
  | @act _ x s out step =>
      have mine := h x
      have theirs := h x.other
      rw [Side.other_other] at theirs
      obtain ⟨mine', theirs'⟩ := acts _ _ _ _ _ _ mine theirs step
      exact holds_put mine' theirs'
  | @receive _ x m rest s out next step =>
      have mine := h x
      have theirs := h x.other
      rw [Side.other_other] at theirs
      rw [next] at mine theirs
      obtain ⟨mine', theirs'⟩ := receives _ _ _ _ _ _ _ mine theirs step
      exact holds_put (by simpa [taken] using mine') (by simpa [taken] using theirs')

end

end Duplex

end LibToxTun.Foundation
