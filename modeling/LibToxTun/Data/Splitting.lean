import Mathlib.Algebra.Order.Floor.Div
import LibToxTun.Data.Reassembly

/-! # What `getSplitted` makes of a packet

The fragments of a packet are its consecutive pieces, the last one first. A set
of these fragments in any order joins to the packet again as long as the index
byte does not wrap around.
-/

namespace LibToxTun

namespace Data

/-- The consecutive pieces of a list, as the loop of `getSplitted` cuts them. -/
def pieces (size : Nat) : Nat → List UInt8 → List (List UInt8)
  | 0, _ => []
  | fuel + 1, rest => if rest = [] then [] else rest.take size :: pieces size fuel (rest.drop size)

section
variable {size : Nat} (positive : 0 < size)
include positive

theorem pieces_flatten {fuel : Nat} {rest : List UInt8} (enough : rest.length ≤ fuel) :
    (pieces size fuel rest).flatten = rest := by
  induction fuel generalizing rest with
  | zero => rw [List.eq_nil_of_length_eq_zero (Nat.le_zero.mp enough)]; rfl
  | succ fuel ih =>
      rw [pieces]
      split
      · next empty => simp [empty]
      · next nonempty =>
          have := List.length_pos_of_ne_nil nonempty
          rw [List.flatten_cons, ih (by simp only [List.length_drop]; omega), List.take_append_drop]

theorem pieces_ne_nil {fuel : Nat} {rest : List UInt8} :
    ∀ p ∈ pieces size fuel rest, p ≠ [] := by
  induction fuel generalizing rest with
  | zero => simp [pieces]
  | succ fuel ih =>
      rw [pieces]
      split
      · simp
      · next nonempty =>
          simp only [List.mem_cons, forall_eq_or_imp]
          refine ⟨?_, ih⟩
          simp only [ne_eq, List.take_eq_nil_iff, nonempty, or_false]
          omega

theorem pieces_length {fuel : Nat} {rest : List UInt8} (enough : rest.length ≤ fuel) :
    (pieces size fuel rest).length = rest.length ⌈/⌉ size := by
  induction fuel generalizing rest with
  | zero => simp [List.eq_nil_of_length_eq_zero (Nat.le_zero.mp enough), pieces]
  | succ fuel ih =>
      rw [pieces]
      split
      · next empty => simp [empty]
      · next nonempty =>
          have := List.length_pos_of_ne_nil nonempty
          rw [List.length_cons, ih (by rw [List.length_drop]; omega), List.length_drop]
          simp only [Nat.ceilDiv_eq_add_pred_div]
          by_cases last : rest.length ≤ size
          · have none : (rest.length - size + size - 1) / size = 0 := Nat.div_eq_of_lt (by omega)
            have one : (rest.length + size - 1) / size = 1 :=
              Nat.div_eq_of_lt_le (by omega) (by omega)
            omega
          · have step : rest.length + size - 1 = (rest.length - size + size - 1) + size := by omega
            rw [step, Nat.add_div_right _ positive]

omit positive in
theorem pieces_length_le {fuel : Nat} {rest : List UInt8} :
    ∀ p ∈ pieces size fuel rest, p.length ≤ size := by
  induction fuel generalizing rest with
  | zero => simp [pieces]
  | succ fuel ih =>
      rw [pieces]
      split
      · simp
      · simp only [List.mem_cons, forall_eq_or_imp]
        exact ⟨List.length_take_le _ _, ih⟩

end

/-- A fragment as `getSplitted` leaves it. -/
def splitFragment (splittedDataIndex index count : UInt8) (payload : List UInt8) : Fragment :=
  ⟨⟨201, splittedDataIndex :: index :: count :: payload, true⟩,
    (isValidFragment_iff _).mpr ⟨_, _, _, _, rfl⟩⟩

/-- The pieces of the packet a split makes fragments of. -/
def splitPieces (d : Data) (maxPacketSize : Nat) : List (List UInt8) :=
  pieces (maxPacketSize - 4) d.size d.bytes

/-- The fragments of a packet, in the order of their pieces. -/
def split (d : Data) (maxPacketSize : Nat) (splittedDataIndex : UInt8) : List Fragment :=
  (d.splitPieces maxPacketSize).mapIdx fun k p => splitFragment splittedDataIndex (UInt8.ofNat k)
    (UInt8.ofNat (d.splitPieces maxPacketSize).length) p

theorem splitLoop_eq (maxPacketSize : Nat) (splittedDataIndex : UInt8) (fuel : Nat)
    (rest : List UInt8) (index : Nat) (dataList : List Data) :
    splitLoop maxPacketSize splittedDataIndex fuel rest index dataList =
      (((pieces (maxPacketSize - 4) fuel rest).mapIdx fun k p =>
        (⟨201, splittedDataIndex :: UInt8.ofNat (index + k) :: 0 :: p, true⟩ : Data)).reverse ++
          dataList, index + (pieces (maxPacketSize - 4) fuel rest).length) := by
  induction fuel generalizing rest index dataList with
  | zero => rfl
  | succ fuel ih =>
      rw [splitLoop, pieces]
      split
      · rfl
      · have take : rest.take (if rest.length < maxPacketSize - 4 then rest.length
            else maxPacketSize - 4) = rest.take (maxPacketSize - 4) := by
          split
          · rw [List.take_length, List.take_of_length_le (by omega)]
          · rfl
        have drop : rest.drop (if rest.length < maxPacketSize - 4 then rest.length
            else maxPacketSize - 4) = rest.drop (maxPacketSize - 4) := by
          split
          · rw [List.drop_length, List.drop_of_length_le (by omega)]
          · rfl
        simp only [take, drop, ih, List.mapIdx_cons, List.reverse_cons, List.append_assoc,
          List.singleton_append, Nat.add_zero, List.length_cons]
        refine Prod.ext ?_ (by simp only; omega)
        simp only [PacketId.toByte, Nat.add_assoc, Nat.add_comm 1]

theorem getSplitted_eq (d : Data) (maxPacketSize : Nat) (splittedDataIndex : UInt8) :
    d.getSplitted maxPacketSize splittedDataIndex =
      ((d.split maxPacketSize splittedDataIndex).map Fragment.data).reverse := by
  rw [getSplitted, splitLoop_eq]
  simp only [List.append_nil, List.map_reverse, Nat.zero_add, split, splitPieces]
  congr 1
  refine List.ext_getElem? fun k => ?_
  simp only [List.getElem?_map, List.getElem?_mapIdx, Option.map_map]
  rfl

section
variable (d : Data) (maxPacketSize : Nat) (splittedDataIndex : UInt8)

@[simp] theorem split_length :
    (d.split maxPacketSize splittedDataIndex).length = (d.splitPieces maxPacketSize).length := by
  simp [split]

theorem mem_split {f : Fragment} (h : f ∈ d.split maxPacketSize splittedDataIndex) :
    f.setIndex = splittedDataIndex ∧
      f.count = UInt8.ofNat (d.splitPieces maxPacketSize).length ∧
      ∃ k, f.index = UInt8.ofNat k ∧ (d.splitPieces maxPacketSize)[k]? = some f.payload := by
  obtain ⟨k, lt, rfl⟩ := List.mem_mapIdx.mp h
  exact ⟨rfl, rfl, k, rfl, List.getElem?_eq_getElem lt⟩

variable (room : 4 < maxPacketSize)
include room

theorem splitPieces_flatten : (d.splitPieces maxPacketSize).flatten = d.bytes :=
  pieces_flatten (by omega) (Nat.le_refl _)

theorem splitPieces_ne_nil : ∀ p ∈ d.splitPieces maxPacketSize, p ≠ [] :=
  pieces_ne_nil (by omega)

theorem splitPieces_length : (d.splitPieces maxPacketSize).length = d.size ⌈/⌉ (maxPacketSize - 4) :=
  pieces_length (by omega) (Nat.le_refl _)

theorem splitPieces_length_le (small : d.size ≤ 255 * (maxPacketSize - 4)) :
    (d.splitPieces maxPacketSize).length ≤ 255 := by
  rw [d.splitPieces_length _ room, ceilDiv_le_iff_le_mul (by omega), Nat.mul_comm]
  exact small

theorem splitPieces_length_pos : 0 < (d.splitPieces maxPacketSize).length := by
  rw [List.length_pos_iff_ne_nil]
  intro empty
  have bytes := d.splitPieces_flatten maxPacketSize room
  rw [empty] at bytes
  cases bytes

variable (few : (d.splitPieces maxPacketSize).length ≤ 255)
include few

omit room in
theorem split_indices : (d.split maxPacketSize splittedDataIndex).map (fun f => f.index.toNat) =
    List.range (d.splitPieces maxPacketSize).length := by
  refine List.ext_getElem (by simp) fun k hk _ => ?_
  have lt : k < (d.splitPieces maxPacketSize).length := by simpa using hk
  simp only [List.getElem_map, split, List.getElem_mapIdx, List.getElem_range]
  exact UInt8.toNat_ofNat_of_lt' (by change k < 256; omega)

omit room in
theorem split_pairwise :
    (d.split maxPacketSize splittedDataIndex).Pairwise fun f g => f.index < g.index := by
  have indices := d.split_indices maxPacketSize splittedDataIndex few
  have rising : (d.split maxPacketSize splittedDataIndex).Pairwise
      fun f g => f.index.toNat < g.index.toNat :=
    List.pairwise_map.mp (indices ▸ List.pairwise_lt_range)
  exact rising.imp UInt8.lt_iff_toNat_lt.mpr

omit room in
/-- As many fragments of a packet as their count byte says are all of them. -/
theorem perm_split {l : List Fragment}
    (part : ∀ f ∈ l, f ∈ d.split maxPacketSize splittedDataIndex)
    (ordered : l.Pairwise fun f g => f.index < g.index) {f : Fragment} (mem : f ∈ l)
    (complete : l.length = f.count.toNat) : l.Perm (d.split maxPacketSize splittedDataIndex) := by
  have nodup : l.Nodup := by
    refine ordered.imp ?_
    rintro f g lt rfl
    exact UInt8.lt_irrefl _ lt
  have count : f.count.toNat = (d.splitPieces maxPacketSize).length := by
    rw [(d.mem_split _ _ (part f mem)).2.1]
    exact UInt8.toNat_ofNat_of_lt' (by change _ < 256; omega)
  exact (nodup.subperm part).perm_of_length_le (by rw [split_length]; omega)

/-- Every arrangement of the fragments of a packet joins to the packet. -/
theorem joined_split {l : List Fragment}
    (perm : l.Perm (d.split maxPacketSize splittedDataIndex)) :
    WellFormedSet l ∧ joined l = { d with toxHeaderSet := true } := by
  have indices := d.split_indices maxPacketSize splittedDataIndex few
  have nodup : ((d.split maxPacketSize splittedDataIndex).map fun f => f.index.toNat).Nodup :=
    indices ▸ List.nodup_range
  have sorted : sortedByIndex l = d.split maxPacketSize splittedDataIndex := by
    refine @List.Perm.eq_of_pairwise _ (fun f g => f.index.toNat ≤ g.index.toNat) _ _ ?_
      (List.pairwise_map.mp (sorted_indices l)) ?_ ((sortedByIndex_perm l).trans perm)
    · intro f g hf hg le ge
      refine List.inj_on_of_nodup_map nodup ?_ hg (Nat.le_antisymm le ge)
      exact perm.mem_iff.mp ((sortedByIndex_perm l).mem_iff.mp hf)
    · exact List.pairwise_map.mp (indices ▸ List.pairwise_le_range)
  have payloads : (d.split maxPacketSize splittedDataIndex).map Fragment.payload =
      d.splitPieces maxPacketSize := by
    refine List.ext_getElem (by simp) fun k _ _ => ?_
    simp only [List.getElem_map, split, List.getElem_mapIdx]
    rfl
  refine ⟨⟨?_, ?_⟩, ?_⟩
  · rw [perm.length_eq, split_length, ← indices]
    exact perm.map _
  · intro f hf
    obtain ⟨-, -, k, -, piece⟩ := d.mem_split _ _ (perm.mem_iff.mp hf)
    exact d.splitPieces_ne_nil _ room _ (List.mem_of_getElem? piece)
  · rw [joined, joinedPayload, sorted, payloads, d.splitPieces_flatten _ room]
    rfl

end

/-! ## There and back -/

/-- What the getters report about a fragment of a packet, and its size. -/
structure IsFragmentOf (d : Data) (maxPacketSize : Nat) (splittedDataIndex : UInt8) (f : Data) : Prop where
  valid : f.isValidFragment = true
  size_ge : 5 ≤ f.size
  size_le : f.size ≤ maxPacketSize
  setIndex : f.getSplittedDataIndex = .ok splittedDataIndex
  count : ∃ c, f.getFragmentsCount = .ok c ∧ c.toNat = d.size ⌈/⌉ (maxPacketSize - 4)

section
variable (d : Data) (maxPacketSize : Nat) (splittedDataIndex : UInt8)

theorem isFragmentOf_split (room : 4 < maxPacketSize) (small : d.size ≤ 255 * (maxPacketSize - 4))
    {f : Fragment} (mem : f ∈ d.split maxPacketSize splittedDataIndex) :
    IsFragmentOf d maxPacketSize splittedDataIndex f.data := by
  obtain ⟨set, count, k, -, piece⟩ := d.mem_split _ _ mem
  have few := d.splitPieces_length_le _ room small
  have payload := List.mem_of_getElem? piece
  have nonempty := List.length_pos_of_ne_nil (d.splitPieces_ne_nil _ room _ payload)
  have bounded : f.payload.length ≤ maxPacketSize - 4 := pieces_length_le _ payload
  refine ⟨f.valid, by rw [f.size_eq]; omega, by rw [f.size_eq]; omega, ?_, f.count, f.getFragmentsCount, ?_⟩
  · rw [f.getSplittedDataIndex, set]
  · rw [count, ← d.splitPieces_length _ room]
    exact UInt8.toNat_ofNat_of_lt' (by change _ < 256; omega)

/-- The fragments of a packet, in any order, are valid ones of it, as many as they say, and
join to the packet. -/
theorem fromFragments_getSplitted (room : 4 < maxPacketSize)
    (small : d.size ≤ 255 * (maxPacketSize - 4)) {l : List Data}
    (perm : l.Perm (d.getSplitted maxPacketSize splittedDataIndex)) :
    (∀ f ∈ l, IsFragmentOf d maxPacketSize splittedDataIndex f) ∧
      l.length = d.size ⌈/⌉ (maxPacketSize - 4) ∧
      ∃ packet, fromFragments l = .ok packet ∧ packet.bytes = d.bytes := by
  have few := d.splitPieces_length_le _ room small
  rw [getSplitted_eq] at perm
  have arranged := perm.trans (List.reverse_perm _)
  have lifted : Relation.Comp (· = List.map Fragment.data ·) List.Perm l
      (d.split maxPacketSize splittedDataIndex) := by
    rw [List.eq_map_comp_perm]
    exact arranged
  obtain ⟨fragments, rfl, order⟩ := lifted
  have nonempty : fragments ≠ [] := by
    intro empty
    have length := order.length_eq
    rw [empty, split_length] at length
    exact (d.splitPieces_length_pos _ room).ne length
  obtain ⟨wellFormed, whole⟩ := d.joined_split _ _ room few order
  refine ⟨?_, ?_, joined fragments, fromFragments_ok nonempty wellFormed, ?_⟩
  · intro f mem
    obtain ⟨fragment, member, rfl⟩ := List.mem_map.mp mem
    exact d.isFragmentOf_split _ _ room small (order.mem_iff.mp member)
  · rw [List.length_map, order.length_eq, split_length, d.splitPieces_length _ room]
  · rw [whole]
    rfl

/-- Two bytes of payload in each fragment, and the fragments out of order. -/
theorem fromFragments_getSplitted_three :
    (∀ f ∈ ((tunData [1, 2, 3, 4]).getSplitted 6 9).reverse,
        IsFragmentOf (tunData [1, 2, 3, 4]) 6 9 f) ∧
      (((tunData [1, 2, 3, 4]).getSplitted 6 9).reverse).length = 5 ⌈/⌉ 2 ∧
      ∃ packet, fromFragments (((tunData [1, 2, 3, 4]).getSplitted 6 9).reverse) = .ok packet ∧
        packet.bytes = [200, 1, 2, 3, 4] :=
  fromFragments_getSplitted (tunData [1, 2, 3, 4]) 6 9 (by decide) (by decide)
    (List.reverse_perm _)

end

end Data

end LibToxTun
