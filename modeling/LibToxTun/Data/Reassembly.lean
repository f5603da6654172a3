import Mathlib.Data.UInt
import LibToxTun.Data.Fragments

/-! # When fragments join

`fromFragments` succeeds exactly on sets whose index bytes are the numbers from
zero on, each once, with a payload in every fragment; the packet then consists
of the payloads in the order of the index bytes. All other sets end in an
exception, whichever check or access notices them first.
-/

namespace LibToxTun

open Data

/-- The index bytes are `0, 1, …` in some order and no payload is empty. -/
def WellFormedSet (l : List Fragment) : Prop :=
  (l.map fun f => f.index.toNat).Perm (List.range l.length) ∧ ∀ f ∈ l, f.payload ≠ []

instance (l : List Fragment) : Decidable (WellFormedSet l) :=
  inferInstanceAs (Decidable (_ ∧ _))

/-- The fragments in the order in which `fromFragments` copies them. -/
def sortedByIndex (l : List Fragment) : List Fragment :=
  l.insertionSort fun f g => f.index ≤ g.index

def joinedPayload (l : List Fragment) : List UInt8 :=
  ((sortedByIndex l).map Fragment.payload).flatten

/-- The packet a well-formed set joins to. -/
def joined (l : List Fragment) : Data := ofBuffer (joinedPayload l)

theorem sortedByIndex_perm (l : List Fragment) : (sortedByIndex l).Perm l :=
  List.perm_insertionSort _ l

/-! ## The copy loop -/

/-- What the loop checks: the index bytes count up from `i` and every payload
holds a byte. -/
def Consecutive : Nat → List Fragment → Prop
  | _, [] => True
  | i, f :: rest => f.index.toNat = i ∧ f.payload ≠ [] ∧ Consecutive (i + 1) rest

def payloadSize (l : List Fragment) : Nat := (l.map fun f => f.payload.length).sum

@[simp] theorem payloadSize_nil : payloadSize [] = 0 := rfl

@[simp] theorem payloadSize_cons (f : Fragment) (l : List Fragment) :
    payloadSize (f :: l) = f.payload.length + payloadSize l := rfl

theorem payloadSize_perm {l m : List Fragment} (h : l.Perm m) : payloadSize l = payloadSize m :=
  (h.map _).sum_nat

theorem overwrite_length {buffer source : List UInt8} {pos : Nat}
    (h : pos + source.length ≤ buffer.length) :
    (overwrite buffer pos source).length = buffer.length := by
  simp only [overwrite, List.length_append, List.length_take, List.length_drop]
  omega

theorem copyFragments_cons (f : Fragment) (rest : List Fragment) (i pos : Nat)
    (buffer : List UInt8) :
    copyFragments ((f :: rest).map Fragment.data) i pos buffer =
      if i ≠ f.index.toNat then .error (.toxTunError "Fragmented package corrupted")
      else if buffer.length ≤ pos ∨ f.payload = [] then .error .outOfRange
      else copyFragments (rest.map Fragment.data) (i + 1) (pos + f.payload.length)
        (overwrite buffer pos f.payload) := by
  have size : f.data.size - 4 = f.payload.length := by rw [f.size_eq]; omega
  simp only [List.map_cons, copyFragments, f.at_two, size, f.bytes_drop, bind, Except.bind]
  split
  · rfl
  · by_cases inside : buffer.length ≤ pos
    · simp [inside]
    · rw [f.at_four]
      cases f.payload <;> simp [inside]

/-- As long as the payloads fit, the loop writes inside the buffer only and
replaces exactly the bytes from `pos` on. -/
theorem copyFragments_ok {l : List Fragment} {i pos : Nat} {buffer : List UInt8}
    (consecutive : Consecutive i l) (fits : pos + payloadSize l ≤ buffer.length) :
    copyFragments (l.map Fragment.data) i pos buffer =
      .ok (buffer.take pos ++ (l.map Fragment.payload).flatten ++
        buffer.drop (pos + payloadSize l)) := by
  induction l generalizing i pos buffer with
  | nil => simp [copyFragments]
  | cons f rest ih =>
      obtain ⟨index, payload, tail⟩ := consecutive
      rw [payloadSize_cons] at fits
      have room : 0 < f.payload.length := List.length_pos_of_ne_nil payload
      have length : (overwrite buffer pos f.payload).length = buffer.length :=
        overwrite_length (by omega)
      rw [copyFragments_cons, if_neg (by omega), if_neg (by rintro (h | h) <;> [omega; exact payload h]),
        ih tail (by omega)]
      have hpos : (buffer.take pos).length = pos := by rw [List.length_take]; omega
      have front : (overwrite buffer pos f.payload).take (pos + f.payload.length) =
          buffer.take pos ++ f.payload := by
        rw [overwrite, List.take_left' (by rw [List.length_append, hpos])]
      have back : (overwrite buffer pos f.payload).drop (pos + f.payload.length + payloadSize rest) =
          buffer.drop (pos + (f.payload.length + payloadSize rest)) := by
        rw [overwrite, ← List.drop_drop, List.drop_left' (by rw [List.length_append, hpos]),
          List.drop_drop, Nat.add_assoc]
      rw [front, back, payloadSize_cons]
      simp

theorem copyFragments_error {l : List Fragment} {i pos : Nat} {buffer : List UInt8}
    (broken : ¬ Consecutive i l) (fits : pos + payloadSize l ≤ buffer.length) :
    ∃ e, copyFragments (l.map Fragment.data) i pos buffer = .error e := by
  induction l generalizing i pos buffer with
  | nil => exact (broken trivial).elim
  | cons f rest ih =>
      rw [copyFragments_cons]
      rw [payloadSize_cons] at fits
      by_cases index : i = f.index.toNat
      · by_cases payload : f.payload = []
        · rw [if_neg (not_not.mpr index), if_pos (Or.inr payload)]
          exact ⟨_, rfl⟩
        · have room : 0 < f.payload.length := List.length_pos_of_ne_nil payload
          have length : (overwrite buffer pos f.payload).length = buffer.length :=
            overwrite_length (by omega)
          rw [if_neg (by omega), if_neg (by rintro (h | h) <;> [omega; exact payload h])]
          exact ih (fun tail => broken ⟨index.symm, payload, tail⟩) (by omega)
      · exact ⟨_, if_pos index⟩

/-! ## Sorting -/

theorem consecutive_iff {i : Nat} {l : List Fragment} :
    Consecutive i l ↔
      l.map (fun f => f.index.toNat) = List.range' i l.length ∧ ∀ f ∈ l, f.payload ≠ [] := by
  induction l generalizing i with
  | nil => simp [Consecutive]
  | cons f rest ih =>
      simp only [Consecutive, ih, List.map_cons, List.length_cons, List.range'_succ,
        List.cons.injEq, List.forall_mem_cons]
      tauto

theorem sorted_indices (l : List Fragment) :
    ((sortedByIndex l).map fun f => f.index.toNat).Pairwise (· ≤ ·) := by
  rw [List.pairwise_map]
  have : Std.Total (fun f g : Fragment => f.index ≤ g.index) := ⟨fun f g => UInt8.le_total _ _⟩
  have : IsTrans Fragment (fun f g : Fragment => f.index ≤ g.index) := ⟨fun _ _ _ => UInt8.le_trans⟩
  exact List.pairwise_insertionSort (fun f g : Fragment => f.index ≤ g.index) l

/-- A permutation of the first numbers is consecutive once it is sorted. -/
theorem consecutive_sortedByIndex (l : List Fragment) :
    Consecutive 0 (sortedByIndex l) ↔ WellFormedSet l := by
  have perm := sortedByIndex_perm l
  rw [consecutive_iff, perm.length_eq, ← List.range_eq_range', WellFormedSet]
  refine and_congr ⟨fun eq => ?_, fun indices => ?_⟩ (forall_congr' fun f => ?_)
  · rw [← eq]
    exact (perm.map _).symm
  · exact List.Perm.eq_of_pairwise' (sorted_indices l) List.pairwise_le_range
      ((perm.map _).trans indices)
  · rw [perm.mem_iff]

theorem sort_map_val (l : List Fragment) :
    (l.map Fragment.data).insertionSort (fun d1 d2 => d1.fragmentIndex ≤ d2.fragmentIndex) =
      (sortedByIndex l).map Fragment.data :=
  (List.map_insertionSort _ _ Fragment.data l (fun _ _ _ _ => Iff.rfl)).symm

/-! ## The result of `fromFragments` -/

section
variable {l : List Fragment}

theorem sum_sizes (l : List Fragment) :
    ((l.map Fragment.data).map fun d => d.size - 4).sum = payloadSize l := by
  rw [List.map_map, payloadSize]
  congr 1
  refine List.map_congr_left fun f _ => ?_
  simp [f.size_eq]

theorem joinedPayload_length (l : List Fragment) : (joinedPayload l).length = payloadSize l := by
  rw [joinedPayload, List.length_flatten, List.map_map]
  exact payloadSize_perm (sortedByIndex_perm l)

theorem payloadSize_pos (nonempty : l ≠ []) (h : WellFormedSet l) : 0 < payloadSize l := by
  cases l with
  | nil => exact (nonempty rfl).elim
  | cons f rest =>
      have := List.length_pos_of_ne_nil (h.2 f List.mem_cons_self)
      rw [payloadSize_cons]
      omega

/-- The copy loop as `fromFragments` enters it: sorted fragments, the first
index and a zeroed buffer with room for all payloads. -/
theorem fromFragments_eq (l : List Fragment) :
    fromFragments (l.map Fragment.data) =
      (copyFragments ((sortedByIndex l).map Fragment.data) 0 0
        (List.replicate (if payloadSize l = 0 then 1 else payloadSize l) 0)).map ofBuffer := by
  simp only [fromFragments, sum_sizes, sort_map_val, bind, Except.bind, Except.map]

theorem fromFragments_ok (nonempty : l ≠ []) (h : WellFormedSet l) :
    fromFragments (l.map Fragment.data) = .ok (joined l) := by
  have size := payloadSize_perm (sortedByIndex_perm l)
  have room := payloadSize_pos nonempty h
  rw [fromFragments_eq, if_neg (by omega),
    copyFragments_ok ((consecutive_sortedByIndex l).mpr h) (by simp [size])]
  simp [Except.map, joined, joinedPayload, size]

theorem fromFragments_error (h : ¬ WellFormedSet l) :
    ∃ e, fromFragments (l.map Fragment.data) = .error e := by
  have size := payloadSize_perm (sortedByIndex_perm l)
  let buffer : List UInt8 := List.replicate (if payloadSize l = 0 then 1 else payloadSize l) 0
  have fits : 0 + payloadSize (sortedByIndex l) ≤ buffer.length := by
    rw [List.length_replicate]
    split <;> omega
  obtain ⟨e, he⟩ := copyFragments_error (mt (consecutive_sortedByIndex l).mp h) fits
  exact ⟨e, by rw [fromFragments_eq, he]; rfl⟩

theorem joined_bytes (nonempty : l ≠ []) (h : WellFormedSet l) :
    (joined l).bytes = joinedPayload l := by
  refine ofBuffer_bytes fun empty => ?_
  have := payloadSize_pos nonempty h
  rw [← joinedPayload_length, empty] at this
  exact absurd this (by simp)

@[simp] theorem joined_toxHeaderSet (l : List Fragment) : (joined l).toxHeaderSet = true :=
  ofBuffer_toxHeaderSet _

theorem joined_size (nonempty : l ≠ []) (h : WellFormedSet l) :
    (joined l).size = payloadSize l := by
  rw [Data.size, joined_bytes nonempty h, joinedPayload_length]

end

end LibToxTun
