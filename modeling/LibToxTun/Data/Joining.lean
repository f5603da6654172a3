import LibToxTun.Data.Splitting

/-! # How reassembly fails

The loop of `fromFragments` meets a fragment without payload only when all smaller
index bytes have passed its check, and then `at` throws `std::out_of_range`. Every
other set that does not join is rejected with a `ToxTunError`.
-/

namespace LibToxTun

open Data

namespace Data

/-- `copyFragments` with the writes it makes, each as its position and size. -/
def copyFragmentsTraced : List Data → Nat → Nat → List UInt8 → List (Nat × Nat) × Except Exn (List UInt8)
  | [], _, _, buffer => ([], .ok buffer)
  | f :: rest, i, pos, buffer =>
      match f.at? 2 with
      | .error e => ([], .error e)
      | .ok index =>
          if i ≠ index.toNat then ([], .error (.toxTunError "Fragmented package corrupted"))
          else if buffer.length ≤ pos then ([], .error .outOfRange)
          else
            match f.at? 4 with
            | .error e => ([], .error e)
            | .ok _ =>
                let (writes, result) := copyFragmentsTraced rest (i + 1) (pos + (f.size - 4))
                  (overwrite buffer pos (f.bytes.drop 4))
                ((pos, f.size - 4) :: writes, result)

theorem copyFragmentsTraced_result (l : List Data) (i pos : Nat) (buffer : List UInt8) :
    (copyFragmentsTraced l i pos buffer).2 = copyFragments l i pos buffer := by
  induction l generalizing i pos buffer with
  | nil => rfl
  | cons f rest ih =>
      unfold copyFragmentsTraced copyFragments
      cases f.at? 2 with
      | error e => rfl
      | ok index =>
          simp only [bind, Except.bind]
          split
          · rfl
          · split
            · rfl
            · cases f.at? 4 with
              | error e => rfl
              | ok _ => exact ih _ _ _

/-- The size of the packet that `fromFragments` allocates. -/
def allocated (fragments : List Data) : Nat :=
  let len := (fragments.map fun f => f.size - 4).sum
  if len = 0 then 1 else len

def fragmentWrites (fragments : List Data) : List (Nat × Nat) :=
  (copyFragmentsTraced (fragments.insertionSort fun d1 d2 => d1.fragmentIndex ≤ d2.fragmentIndex) 0 0
    (List.replicate (allocated fragments) 0)).1

/-- Without its trace, the loop is the one of `fromFragments`. -/
theorem fromFragments_eq_traced (fragments : List Data) :
    fromFragments fragments =
      (copyFragmentsTraced (fragments.insertionSort fun d1 d2 => d1.fragmentIndex ≤ d2.fragmentIndex) 0 0
        (List.replicate (allocated fragments) 0)).2.map ofBuffer := by
  rw [copyFragmentsTraced_result]
  rfl

theorem copyFragmentsTraced_inside {l : List Data} (i : Nat) {pos : Nat} {buffer : List UInt8}
    (fits : pos + (l.map fun f => f.size - 4).sum ≤ buffer.length) :
    ∀ w ∈ (copyFragmentsTraced l i pos buffer).1, w.1 + w.2 ≤ buffer.length := by
  induction l generalizing i pos buffer with
  | nil => simp [copyFragmentsTraced]
  | cons f rest ih =>
      rw [List.map_cons, List.sum_cons] at fits
      have copied : (f.bytes.drop 4).length = f.size - 4 := List.length_drop
      have length : (overwrite buffer pos (f.bytes.drop 4)).length = buffer.length :=
        overwrite_length (by omega)
      unfold copyFragmentsTraced
      cases f.at? 2 with
      | error e => simp
      | ok index =>
          simp only
          split
          · simp
          · split
            · simp
            · cases f.at? 4 with
              | error e => simp
              | ok _ =>
                  simp only [List.forall_mem_cons]
                  refine ⟨by omega, ?_⟩
                  rw [← length]
                  exact ih (i + 1) (by omega)

/-- Whatever the fragments are, reassembly writes only inside the packet. -/
theorem fragmentWrites_inside (fragments : List Data) :
    ∀ w ∈ fragmentWrites fragments, w.1 + w.2 ≤ allocated fragments := by
  let sorted := fragments.insertionSort fun d1 d2 => d1.fragmentIndex ≤ d2.fragmentIndex
  have sizes : (sorted.map fun f => f.size - 4).sum = (fragments.map fun f => f.size - 4).sum :=
    ((List.perm_insertionSort _ fragments).map _).sum_nat
  have room : (fragments.map fun f => f.size - 4).sum ≤ allocated fragments := by
    simp only [allocated]
    split <;> omega
  have fits : 0 + (sorted.map fun f => f.size - 4).sum ≤
      (List.replicate (allocated fragments) (0 : UInt8)).length := by
    rw [List.length_replicate]
    omega
  have inside := copyFragmentsTraced_inside 0 fits
  rwa [List.length_replicate] at inside

end Data

/-! ## Fragments without payload -/

/-- The loop meets an empty payload under the index that it expects. -/
def Stumbles : Nat → List Fragment → Prop
  | _, [] => False
  | i, f :: rest => f.index.toNat = i ∧ (f.payload = [] ∨ Stumbles (i + 1) rest)

theorem copyFragments_stumbles {l : List Fragment} {i pos : Nat} {buffer : List UInt8}
    (stumbles : Stumbles i l) (fits : pos + payloadSize l ≤ buffer.length) :
    copyFragments (l.map Fragment.data) i pos buffer = .error .outOfRange := by
  induction l generalizing i pos buffer with
  | nil => exact stumbles.elim
  | cons f rest ih =>
      obtain ⟨index, reached⟩ := stumbles
      rw [payloadSize_cons] at fits
      rw [copyFragments_cons, if_neg (by omega)]
      by_cases payload : f.payload = []
      · rw [if_pos (Or.inr payload)]
      · have room : 0 < f.payload.length := List.length_pos_of_ne_nil payload
        have length : (overwrite buffer pos f.payload).length = buffer.length :=
          overwrite_length (by omega)
        rw [if_neg (by rintro (h | h) <;> [omega; exact payload h])]
        exact ih (reached.resolve_left payload) (by omega)

theorem copyFragments_rejects {l : List Fragment} {i pos : Nat} {buffer : List UInt8}
    (broken : ¬ Consecutive i l) (steady : ¬ Stumbles i l)
    (fits : pos + payloadSize l ≤ buffer.length) :
    copyFragments (l.map Fragment.data) i pos buffer =
      .error (.toxTunError "Fragmented package corrupted") := by
  induction l generalizing i pos buffer with
  | nil => exact (broken trivial).elim
  | cons f rest ih =>
      rw [payloadSize_cons] at fits
      rw [copyFragments_cons]
      by_cases index : i = f.index.toNat
      · have payload : f.payload ≠ [] := fun empty => steady ⟨index.symm, Or.inl empty⟩
        have room : 0 < f.payload.length := List.length_pos_of_ne_nil payload
        have length : (overwrite buffer pos f.payload).length = buffer.length :=
          overwrite_length (by omega)
        rw [if_neg (by omega), if_neg (by rintro (h | h) <;> [omega; exact payload h])]
        exact ih (fun tail => broken ⟨index.symm, payload, tail⟩)
          (fun later => steady ⟨index.symm, Or.inr later⟩) (by omega)
      · rw [if_pos index]

/-- Index bytes that count up are consecutive, or the loop stumbles over one of them. -/
theorem consecutive_of_not_stumbles {i : Nat} {l : List Fragment}
    (indices : l.map (fun f => f.index.toNat) = List.range' i l.length) (steady : ¬ Stumbles i l) :
    Consecutive i l := by
  induction l generalizing i with
  | nil => trivial
  | cons f rest ih =>
      rw [List.map_cons, List.length_cons, List.range'_succ, List.cons.injEq] at indices
      refine ⟨indices.1, fun empty => steady ⟨indices.1, Or.inl empty⟩, ?_⟩
      exact ih indices.2 fun later => steady ⟨indices.1, Or.inr later⟩

/-- The fragments of a list under an index, in their order. -/
def withIndex (l : List Fragment) (k : Nat) : List Fragment := l.filter fun f => f.index.toNat = k

section
variable (f : Fragment) (l : List Fragment)

theorem withIndex_cons_self : withIndex (f :: l) f.index.toNat = f :: withIndex l f.index.toNat := by
  simp [withIndex]

theorem withIndex_cons_ne {k : Nat} (other : f.index.toNat ≠ k) :
    withIndex (f :: l) k = withIndex l k := by
  simp [withIndex, other]

theorem withIndex_eq_nil {k : Nat} (absent : ∀ g ∈ l, g.index.toNat ≠ k) : withIndex l k = [] := by
  simpa [withIndex] using absent

theorem mem_withIndex {k : Nat} : f ∈ withIndex l k ↔ f ∈ l ∧ f.index.toNat = k := by
  simp [withIndex]

theorem withIndex_sorted (k : Nat) : withIndex (sortedByIndex l) k = withIndex l k := by
  have same : (withIndex l k).Pairwise fun f g => f.index ≤ g.index := by
    refine List.pairwise_of_forall_mem_list fun f hf g hg => ?_
    rw [UInt8.le_iff_toNat_le, ((mem_withIndex f l).mp hf).2, ((mem_withIndex g l).mp hg).2]
  have kept : (withIndex l k).Sublist (sortedByIndex l) :=
    List.sublist_insertionSort same List.filter_sublist
  have again : withIndex (withIndex l k) k = withIndex l k :=
    List.filter_eq_self.mpr fun f hf => decide_eq_true ((mem_withIndex f l).mp hf).2
  have inside : (withIndex (withIndex l k) k).Sublist (withIndex (sortedByIndex l) k) := kept.filter _
  rw [again] at inside
  exact (inside.eq_of_length ((sortedByIndex_perm l).filter _).length_eq.symm).symm

end

/-- Each smaller index is there once, and the first fragment under an index has no payload. -/
def MeetsEmptyPayload (l : List Fragment) : Prop :=
  ∃ k, (∀ j < k, (withIndex l j).length = 1) ∧ ∃ f ∈ (withIndex l k).head?, f.payload = []

theorem not_stumbles_of_lt {i : Nat} {l : List Fragment}
    (sorted : (l.map fun f => f.index.toNat).Pairwise (· ≤ ·)) {g : Fragment} (mem : g ∈ l)
    (small : g.index.toNat < i) : ¬ Stumbles i l := by
  cases l with
  | nil => exact id
  | cons f rest =>
      rw [List.map_cons, List.pairwise_cons, List.forall_mem_map] at sorted
      rintro ⟨index, -⟩
      rcases List.mem_cons.mp mem with rfl | later
      · omega
      · have := sorted.1 g later
        omega

/-- The same from an index on. -/
def MeetsFrom (i : Nat) (l : List Fragment) : Prop :=
  ∃ k, i ≤ k ∧ (∀ j, i ≤ j → j < k → (withIndex l j).length = 1) ∧
    ∃ f ∈ (withIndex l k).head?, f.payload = []

theorem meetsFrom_iff (i : Nat) (l : List Fragment) : MeetsFrom i l ↔
    (∃ f ∈ (withIndex l i).head?, f.payload = []) ∨
      ((withIndex l i).length = 1 ∧ MeetsFrom (i + 1) l) := by
  constructor
  · rintro ⟨k, le, once, head⟩
    rcases Nat.eq_or_lt_of_le le with rfl | lt
    · exact .inl head
    · exact .inr ⟨once i le_rfl lt, k, lt, fun j low high => once j (by omega) high, head⟩
  · rintro (head | ⟨single, k, le, once, head⟩)
    · exact ⟨i, le_rfl, fun j low high => by omega, head⟩
    · refine ⟨k, by omega, fun j low high => ?_, head⟩
      rcases Nat.eq_or_lt_of_le low with rfl | lt
      · exact single
      · exact once j lt high

/-- A fragment of a smaller index does not matter. -/
theorem meetsFrom_cons {i : Nat} {f : Fragment} (smaller : f.index.toNat < i) (rest : List Fragment) :
    MeetsFrom i (f :: rest) ↔ MeetsFrom i rest := by
  have skip (j : Nat) (le : i ≤ j) : withIndex (f :: rest) j = withIndex rest j :=
    withIndex_cons_ne _ _ (by omega)
  refine exists_congr fun k => and_congr_right fun le => and_congr ?_ (by rw [skip k le])
  exact forall₃_congr fun j low _ => by rw [skip j low]

/-- The loop from the index `i` on, in a list that is sorted and has no smaller one. -/
theorem stumbles_iff {i : Nat} {l : List Fragment}
    (sorted : (l.map fun f => f.index.toNat).Pairwise (· ≤ ·)) (start : ∀ f ∈ l, i ≤ f.index.toNat) :
    Stumbles i l ↔ MeetsFrom i l := by
  induction l generalizing i with
  | nil => simp [Stumbles, MeetsFrom, withIndex]
  | cons f rest ih =>
      rw [List.map_cons, List.pairwise_cons, List.forall_mem_map] at sorted
      obtain ⟨least, ordered⟩ := sorted
      have bound := start f List.mem_cons_self
      by_cases index : f.index.toNat = i
      · subst index
        rw [meetsFrom_iff, withIndex_cons_self, meetsFrom_cons (Nat.lt_succ_self _), Stumbles]
        by_cases again : ∃ g ∈ rest, g.index.toNat = f.index.toNat
        · -- the second fragment under the index is the next one, where the loop expects one more
          obtain ⟨g, mem, same⟩ := again
          have steady := not_stumbles_of_lt ordered mem (Nat.lt_succ_of_le same.le)
          have second := List.ne_nil_of_mem ((mem_withIndex g rest).mpr ⟨mem, same⟩)
          simp [steady, second]
        · have above : ∀ g ∈ rest, f.index.toNat + 1 ≤ g.index.toNat := by
            intro g mem
            have := least g mem
            have : g.index.toNat ≠ f.index.toNat := fun same => again ⟨g, mem, same⟩
            omega
          have single : withIndex rest f.index.toNat = [] :=
            withIndex_eq_nil _ fun g mem same => again ⟨g, mem, same⟩
          simp [ih ordered above, single]
      · -- all indices are greater than the expected one
        have absent : withIndex (f :: rest) i = [] := by
          refine withIndex_eq_nil _ fun g mem => ?_
          rcases List.mem_cons.mp mem with rfl | later
          · exact index
          · have := least g later
            omega
        rw [meetsFrom_iff, absent]
        simp [Stumbles, index]

theorem stumbles_sorted_iff (l : List Fragment) :
    Stumbles 0 (sortedByIndex l) ↔ MeetsEmptyPayload l := by
  rw [stumbles_iff (sorted_indices l) fun f _ => Nat.zero_le _]
  simp only [MeetsFrom, withIndex_sorted, Nat.zero_le, true_and, forall_const]
  rfl

/-! ## All outcomes -/

section
variable (l : List Fragment)

theorem sortedByIndex_fits : 0 + payloadSize (sortedByIndex l) ≤
    (List.replicate (if payloadSize l = 0 then 1 else payloadSize l) (0 : UInt8)).length := by
  have size := payloadSize_perm (sortedByIndex_perm l)
  rw [List.length_replicate]
  split <;> omega

theorem fromFragments_meets (meets : MeetsEmptyPayload l) :
    fromFragments (l.map Fragment.data) = .error .outOfRange := by
  rw [fromFragments_eq,
    copyFragments_stumbles ((stumbles_sorted_iff l).mpr meets) (sortedByIndex_fits l)]
  rfl

theorem fromFragments_rejects (broken : ¬ WellFormedSet l) (passes : ¬ MeetsEmptyPayload l) :
    fromFragments (l.map Fragment.data) = .error (.toxTunError "Fragmented package corrupted") := by
  rw [fromFragments_eq, copyFragments_rejects (mt (consecutive_sortedByIndex l).mp broken)
    (mt (stumbles_sorted_iff l).mp passes) (sortedByIndex_fits l)]
  rfl

/-- The index bytes are the numbers from zero on, each once. -/
def IndicesComplete : Prop := (l.map fun f => f.index.toNat).Perm (List.range l.length)

theorem wellFormedSet_of_complete (complete : IndicesComplete l) (passes : ¬ MeetsEmptyPayload l) :
    WellFormedSet l := by
  rw [← consecutive_sortedByIndex]
  refine consecutive_of_not_stumbles ?_ (mt (stumbles_sorted_iff l).mp passes)
  rw [(sortedByIndex_perm l).length_eq, ← List.range_eq_range']
  exact List.Perm.eq_of_pairwise' (sorted_indices l) List.pairwise_le_range
    (((sortedByIndex_perm l).map _).trans complete)

/-- Reassembly accepts exactly the complete sets, and fails in no other way. -/
structure JoinsExactly : Prop where
  joins : IndicesComplete l → (∃ f ∈ l, f.payload ≠ []) →
    ∃ packet, fromFragments (l.map Fragment.data) = .ok packet ∧ packet.bytes = joinedPayload l
  empty : IndicesComplete l → (∀ f ∈ l, f.payload = []) →
    (∃ packet, fromFragments (l.map Fragment.data) = .ok packet) ∨
      ∃ text, fromFragments (l.map Fragment.data) = .error (.toxTunError text)
  rejects : ¬ IndicesComplete l →
    ∃ text, fromFragments (l.map Fragment.data) = .error (.toxTunError text)
  inside : ∀ w ∈ fragmentWrites (l.map Fragment.data), w.1 + w.2 ≤ allocated (l.map Fragment.data)

theorem joinsExactly_iff : JoinsExactly l ↔ ¬ MeetsEmptyPayload l := by
  constructor
  · intro exact meets
    have thrown := fromFragments_meets l meets
    by_cases complete : IndicesComplete l
    · by_cases bytes : ∃ f ∈ l, f.payload ≠ []
      · obtain ⟨packet, joined, -⟩ := exact.joins complete bytes
        rw [thrown] at joined
        cases joined
      · push Not at bytes
        rcases exact.empty complete bytes with ⟨packet, joined⟩ | ⟨text, error⟩
        · rw [thrown] at joined
          cases joined
        · rw [thrown] at error
          cases error
    · obtain ⟨text, error⟩ := exact.rejects complete
      rw [thrown] at error
      cases error
  · intro passes
    refine ⟨fun complete bytes => ?_, fun complete _ => ?_, fun broken => ?_, fragmentWrites_inside _⟩
    · have wellFormed := wellFormedSet_of_complete l complete passes
      have nonempty : l ≠ [] := by
        obtain ⟨f, mem, -⟩ := bytes
        exact List.ne_nil_of_mem mem
      exact ⟨joined l, fromFragments_ok nonempty wellFormed, joined_bytes nonempty wellFormed⟩
    · by_cases nonempty : l = []
      · subst nonempty
        exact Or.inl ⟨_, rfl⟩
      · exact Or.inl ⟨joined l, fromFragments_ok nonempty (wellFormedSet_of_complete l complete passes)⟩
    · exact ⟨_, fromFragments_rejects l (fun wellFormed => broken wellFormed.1) passes⟩

end

/-- Two fragments of one packet, the first one without payload. -/
def bareFirst : List Fragment := [splitFragment 0 0 2 [], splitFragment 0 1 2 [7]]

theorem bareFirst_not_joined : ¬ ∀ l : List Fragment, l ≠ [] → JoinsExactly l := by
  intro exact
  have complete : IndicesComplete bareFirst := by unfold IndicesComplete; decide +kernel
  have bytes : ∃ f ∈ bareFirst, f.payload ≠ [] := by decide +kernel
  obtain ⟨packet, joined, -⟩ := (exact bareFirst (by decide)).joins complete bytes
  have thrown : fromFragments (bareFirst.map Fragment.data) = .error .outOfRange := rfl
  rw [thrown] at joined
  cases joined

end LibToxTun
