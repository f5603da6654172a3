import LibToxTun.Core.Endpoint

/-! # Traffic of honest endpoints

The lossy packets of an endpoint are frames from its device, whole or split into
fragments. Whatever of them arrives, and in whichever order, the peer makes data
packets of it and nothing else: the first fragment of a packet starts with the
header of the packet.
-/

namespace LibToxTun

/-- The first fragment of a packet starts with the header of a data packet. -/
def Fragment.OfData (f : Fragment) : Prop := f.index = 0 → f.payload.head? = some 200

/-- Only fragments of data packets are stored. -/
def Fragments.OfData (fs : Fragments) : Prop := ∀ key, ∀ f ∈ fs key, f.OfData

theorem Fragments.ofData_empty : Fragments.OfData fun _ => [] := fun _ => List.forall_mem_nil _

namespace Data

/-- A data packet or a fragment of one. -/
def IsTraffic (d : Data) : Prop :=
  d.toxHeaderSet = true ∧ (d.header = 200 ∨ ∃ f : Fragment, f.data = d ∧ f.OfData)

/-- A frame of the size the devices read makes few fragments. -/
theorem splitPieces_few {d : Data} {maxPacketSize : Nat} (roomy : 10 ≤ maxPacketSize)
    (small : d.size ≤ 1519) : (d.splitPieces maxPacketSize).length ≤ 255 :=
  d.splitPieces_length_le _ (by omega) (by omega)

/-- A fragment of a data packet keeps the header of the packet in the first piece. -/
theorem split_ofData {d : Data} {maxPacketSize : Nat} (room : 4 < maxPacketSize)
    (header : d.header = 200) (few : (d.splitPieces maxPacketSize).length ≤ 255)
    {splittedDataIndex : UInt8} {f : Fragment} (h : f ∈ d.split maxPacketSize splittedDataIndex) :
    f.OfData := by
  obtain ⟨-, -, k, index, piece⟩ := d.mem_split _ _ h
  intro zero
  have bound : k < (d.splitPieces maxPacketSize).length := by
    by_contra beyond
    rw [List.getElem?_eq_none (by omega)] at piece
    cases piece
  have lowest : k = 0 := by
    have eq := congrArg UInt8.toNat (index.symm.trans zero)
    rwa [UInt8.toNat_ofNat_of_lt' (by change k < 256; omega)] at eq
  subst lowest
  have bytes := d.splitPieces_flatten _ room
  have nonempty := d.splitPieces_ne_nil _ room f.payload (List.mem_of_getElem? piece)
  cases pieces : d.splitPieces maxPacketSize with
  | nil => rw [pieces] at bound; simp at bound
  | cons p rest =>
      rw [pieces] at bytes piece
      cases piece
      cases payload : f.payload with
      | nil => exact (nonempty payload).elim
      | cons b tail =>
          rw [payload] at bytes
          simp only [List.flatten_cons, List.cons_append, Data.bytes, List.cons.injEq] at bytes
          rw [List.head?_cons, bytes.1, header]

end Data

theorem toxPackets_traffic {E : Env} (roomy : 10 ≤ E.maxPacketSize) {buffer : List UInt8}
    (short : buffer.length ≤ 1518) (index : UInt8) :
    ∀ p ∈ toxPackets E (Data.tunData buffer) index, p.IsTraffic := by
  intro p hp
  unfold toxPackets at hp
  split at hp
  · rw [List.mem_singleton.mp hp]
    exact ⟨rfl, .inl rfl⟩
  · rw [Data.getSplitted_eq, List.mem_reverse, List.mem_map] at hp
    obtain ⟨f, hf, rfl⟩ := hp
    have small : (Data.tunData buffer).size ≤ 1519 := by
      simp only [Data.tunData, Data.setToxHeader, Data.size_mk]
      omega
    exact ⟨f.toxHeaderSet, .inr ⟨f, rfl, Data.split_ofData E.room rfl
      (Data.splitPieces_few roomy small) hf⟩⟩

/-- What honest fragments join to is a data packet. -/
theorem joined_ofData {l : List Fragment} (nonempty : l ≠ []) (wellFormed : WellFormedSet l)
    (ofData : ∀ f ∈ l, f.OfData) : (joined l).header = 200 := by
  have consecutive := (consecutive_sortedByIndex l).mpr wellFormed
  have perm := sortedByIndex_perm l
  cases sorted : sortedByIndex l with
  | nil => exact (nonempty (perm.symm.trans (by rw [sorted])).eq_nil).elim
  | cons f rest =>
      rw [sorted] at consecutive
      obtain ⟨index, payload, -⟩ := consecutive
      have leading := ofData f (perm.mem_iff.mp (by rw [sorted]; exact List.mem_cons_self))
        (UInt8.toNat_inj.mp index)
      cases bytes : f.payload with
      | nil => exact (payload bytes).elim
      | cons b tail =>
          rw [bytes] at leading
          cases leading
          simp [joined, joinedPayload, sorted, bytes, Data.ofBuffer]

theorem Data.IsTraffic.ofData {f : Fragment} (h : f.data.IsTraffic) : f.OfData := by
  obtain ⟨-, header | ⟨g, same, ofData⟩⟩ := h
  · rw [f.eq_mk] at header
    cases header
  · obtain ⟨d, valid⟩ := f
    cases same
    exact ofData

namespace Fragments

theorem OfData.push {fs : Fragments} (h : fs.OfData) {f : Fragment} (hf : f.OfData) :
    (fs.push f).OfData := by
  intro k g hg
  by_cases same : k = f.setIndex
  · subst same
    rw [push_self, List.mem_cons] at hg
    rcases hg with rfl | hg
    · exact hf
    · exact h _ g hg
  · rw [Fragments.push, Function.update_of_ne same] at hg
    exact h k g hg

theorem OfData.joinedAt {fs : Fragments} (h : fs.OfData) (f : Fragment) :
    ((fs.push f).joinedAt f.setIndex).OfData := by
  intro key g hg
  rcases joinedAt_push fs f key with empty | same
  · simp [empty] at hg
  · exact h key g (same ▸ hg)

end Fragments

/-- The outcome of the arrival of honest traffic. -/
def Arrival.OfData : Arrival → Prop
  | .packet d _ fs => d.header = 200 ∧ fs.OfData
  | .kept fs => fs.OfData
  | .corrupted => True
  | .unfinished => True

theorem Arrival.OfData.deeper {a : Arrival} (h : a.OfData) : a.deeper.OfData := by
  cases a <;> exact h

theorem Fragments.OfData.arrive {fuel : Nat} {fs : Fragments} (h : fs.OfData) {d : Data}
    (traffic : d.IsTraffic) : (fs.arrive fuel d).OfData := by
  have rounds := fs.arrives fuel d
  generalize fs.arrive fuel d = a at rounds ⊢
  induction rounds with
  | starved => exact trivial
  | whole whole =>
      obtain ⟨-, header | ⟨f, rfl, -⟩⟩ := traffic
      · exact ⟨header, h⟩
      · exact (whole f.ofByte_header).elim
  | invalid => exact h
  | stored => exact h.push traffic.ofData
  | corrupted => exact trivial
  | @joined fuel fs f a complete wellFormed _ ih =>
      have stored : ∀ g ∈ f :: fs f.setIndex, g.OfData :=
        List.forall_mem_cons.mpr ⟨traffic.ofData, h _⟩
      have header := joined_ofData (List.cons_ne_nil _ _) wellFormed stored
      exact (ih (h.joinedAt f) ⟨joined_toxHeaderSet _, .inl header⟩).deeper

end LibToxTun
