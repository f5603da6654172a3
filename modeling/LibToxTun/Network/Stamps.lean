import LibToxTun.Network.Simulation

/-! # Requests and stamps

Every request that was sent was received or is on its way, and no letter claims that
more requests had been received than there were.
-/

namespace LibToxTun

open Foundation

def requests (w : List Letter) : Nat := w.countP fun l => l.msg = .request

section
variable (l : Letter) (w v : List Letter)

@[simp] theorem requests_nil : requests [] = 0 := rfl

@[simp] theorem requests_cons :
    requests (l :: w) = requests w + if l.msg = .request then 1 else 0 := by
  simp [requests, List.countP_cons]

@[simp] theorem requests_append : requests (w ++ v) = requests w + requests v :=
  List.countP_append

theorem requests_eq_zero : requests w = 0 ↔ ∀ l ∈ w, l.msg ≠ .request := by
  simp [requests, List.countP_eq_zero]

end

/-- The counters of the parties and the stamps on the letters agree. -/
structure Stamped (me you : Party) (mine theirs : List Letter) : Prop where
  counted : me.heard + requests theirs = you.asked
  past : ∀ l ∈ mine, l.heard ≤ me.heard
  ordered : mine.Pairwise fun l l' => l.heard ≤ l'.heard

section
variable {me you next : Party} {mine theirs out : List Letter}

theorem Party.Act.counters (h : me.Act next out) :
    next.heard = me.heard ∧ next.asked = me.asked + requests out ∧
      ∀ l ∈ out, l.heard = next.heard := by
  cases h <;> simp

theorem Party.Receive.counters {letter : Letter} (h : Party.Receive letter me next out) :
    next.heard = me.heard + requests [letter] ∧ next.asked = me.asked ∧ requests out = 0 ∧
      ∀ l ∈ out, l.heard = next.heard := by
  cases h with
  | stray other noBye => simp [other]
  | _ => simp

theorem stamped_append {w : List Letter} {k k' : Nat} (past : ∀ l ∈ w, l.heard ≤ k)
    (ordered : w.Pairwise fun l l' => l.heard ≤ l'.heard) (later : k ≤ k')
    (stamps : ∀ l ∈ out, l.heard = k') :
    (∀ l ∈ w ++ out, l.heard ≤ k') ∧ (w ++ out).Pairwise fun l l' => l.heard ≤ l'.heard := by
  constructor
  · intro l hl
    rcases List.mem_append.mp hl with old | new
    · exact Nat.le_trans (past l old) later
    · exact (stamps l new).le
  · refine List.pairwise_append.mpr ⟨ordered, ?_, fun l old l' new => ?_⟩
    · exact List.Pairwise.imp_mem.mpr (List.pairwise_of_forall fun l l' hl hl' => by
        rw [stamps l hl, stamps l' hl'])
    · rw [stamps l' new]
      exact Nat.le_trans (past l old) later

theorem Stamped.act (h : Stamped me you mine theirs) (h' : Stamped you me theirs mine)
    (act : me.Act next out) :
    Stamped next you (mine ++ out) theirs ∧ Stamped you next theirs (mine ++ out) := by
  obtain ⟨heard, asked, stamps⟩ := act.counters
  obtain ⟨past, ordered⟩ := stamped_append h.past h.ordered heard.ge stamps
  have mine' := h'.counted
  exact ⟨⟨by rw [heard]; exact h.counted, past, ordered⟩,
    ⟨by rw [requests_append, asked]; omega, h'.past, h'.ordered⟩⟩

theorem Stamped.receive {letter : Letter} (h : Stamped me you mine (letter :: theirs))
    (h' : Stamped you me (letter :: theirs) mine) (receive : Party.Receive letter me next out) :
    Stamped next you (mine ++ out) theirs ∧ Stamped you next theirs (mine ++ out) := by
  obtain ⟨heard, asked, silent, stamps⟩ := receive.counters
  obtain ⟨past, ordered⟩ := stamped_append h.past h.ordered (by omega) stamps
  have theirs' := h.counted
  have mine' := h'.counted
  simp only [requests_cons, requests_nil] at theirs' heard
  exact ⟨⟨by omega, past, ordered⟩, ⟨by rw [requests_append]; omega,
    fun l hl => h'.past l (List.mem_cons_of_mem _ hl), (List.pairwise_cons.mp h'.ordered).2⟩⟩

end

end LibToxTun
