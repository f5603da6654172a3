import Mathlib.Algebra.Order.Ring.Nat
import Mathlib.Data.List.Sort
import LibToxTun.Data.Packet

/-! # Splitting and joining packets

A fragment carries the header byte, the index of the split packet, its own
index, the number of fragments and then the payload. `fromFragments` is the
copy loop of the source with its checked accesses; the buffer is overwritten in
place, and `memcpy` itself checks nothing.
-/

namespace LibToxTun

namespace Data

def isValidFragment (d : Data) : Bool :=
  match d.getToxHeader with
  | .error _ => false
  | .ok id => decide (id = .fragment) && !decide (d.size < 4)

def getSplittedDataIndex (d : Data) : Except Exn UInt8 := do
  if (← d.getToxHeader) ≠ .fragment then
    .error (.toxTunError "Trying to get SplittedDataIndex from a non fragment")
  else if d.size < 2 then .error (.toxTunError "Empty Data fragment")
  else d.at? 1

def getFragmentsCount (d : Data) : Except Exn UInt8 := do
  if (← d.getToxHeader) ≠ .fragment then
    .error (.toxTunError "Trying to get fragmentsCount from a non fragment")
  else if d.size < 4 then .error (.toxTunError "Data fragment to short")
  else d.at? 3

/-- The loop of `getSplitted`: `rest` is what lies behind `pos`, and finished
fragments are pushed to the front. Every round copies at least one byte, so the
length of the data is fuel enough. -/
def splitLoop (maxPacketSize : Nat) (splittedDataIndex : UInt8) :
    Nat → List UInt8 → Nat → List Data → List Data × Nat
  | 0, _, fragmentIndex, dataList => (dataList, fragmentIndex)
  | fuel + 1, rest, fragmentIndex, dataList =>
      if rest = [] then (dataList, fragmentIndex)
      else
        let toCpy := if rest.length < maxPacketSize - 4 then rest.length else maxPacketSize - 4
        let tmp : Data := ⟨PacketId.fragment.toByte,
          splittedDataIndex :: UInt8.ofNat fragmentIndex :: 0 :: rest.take toCpy, true⟩
        splitLoop maxPacketSize splittedDataIndex fuel (rest.drop toCpy) (fragmentIndex + 1)
          (tmp :: dataList)

/-- `f.data->at(3) = count` on a fragment made by `splitLoop`. -/
def setFragmentsCount (d : Data) (count : UInt8) : Data := { d with body := d.body.set 2 count }

def getSplitted (d : Data) (maxPacketSize : Nat) (splittedDataIndex : UInt8) : List Data :=
  let (dataList, fragmentIndex) := splitLoop maxPacketSize splittedDataIndex d.size d.bytes 0 []
  dataList.map fun f => f.setFragmentsCount (UInt8.ofNat fragmentIndex)

/-- The byte the fragments of a packet are sorted by. -/
def fragmentIndex (d : Data) : UInt8 := d.body.getD 1 0

/-- `memcpy(&buffer[pos], source, ...)`. -/
def overwrite (buffer : List UInt8) (pos : Nat) (source : List UInt8) : List UInt8 :=
  buffer.take pos ++ source ++ buffer.drop (pos + source.length)

/-- The copy loop of `fromFragments` with its counter `i` and its position. -/
def copyFragments : List Data → Nat → Nat → List UInt8 → Except Exn (List UInt8)
  | [], _, _, buffer => .ok buffer
  | f :: rest, i, pos, buffer => do
      let index ← f.at? 2
      if i ≠ index.toNat then .error (.toxTunError "Fragmented package corrupted")
      else if buffer.length ≤ pos then .error .outOfRange
      else
        let _ ← f.at? 4
        copyFragments rest (i + 1) (pos + (f.size - 4)) (overwrite buffer pos (f.bytes.drop 4))

def fromFragments (fragments : List Data) : Except Exn Data := do
  let len := (fragments.map fun f => f.size - 4).sum
  let sorted := fragments.insertionSort fun d1 d2 => d1.fragmentIndex ≤ d2.fragmentIndex
  let buffer ← copyFragments sorted 0 0 (List.replicate (if len = 0 then 1 else len) 0)
  .ok (ofBuffer buffer)

end Data

/-- A packet accepted by `isValidFragment`: the only packets the library stores. -/
structure Fragment where
  data : Data
  valid : data.isValidFragment = true
deriving DecidableEq

namespace Fragment

def setIndex (f : Fragment) : UInt8 := f.data.body.getD 0 0

def index (f : Fragment) : UInt8 := f.data.body.getD 1 0

def count (f : Fragment) : UInt8 := f.data.body.getD 2 0

def payload (f : Fragment) : List UInt8 := f.data.body.drop 3

end Fragment

namespace Data

/-- The layout of a valid fragment. -/
theorem isValidFragment_iff (d : Data) :
    d.isValidFragment = true ↔
      ∃ setIndex index count payload, d = ⟨201, setIndex :: index :: count :: payload, true⟩ := by
  obtain ⟨h, body, s⟩ := d
  constructor
  · intro valid
    cases s with
    | false => simp [isValidFragment, getToxHeader] at valid
    | true =>
        simp only [isValidFragment, getToxHeader_mk, PacketId.ofByte_eq_fragment_iff,
          Bool.and_eq_true, decide_eq_true_eq, Bool.not_eq_true', decide_eq_false_iff_not,
          size_mk] at valid
        obtain ⟨rfl, long⟩ := valid
        rcases body with _ | ⟨a, _ | ⟨b, _ | ⟨c, rest⟩⟩⟩
        · simp at long
        · simp at long
        · simp at long
        · exact ⟨a, b, c, rest, rfl⟩
  · rintro ⟨a, b, c, rest, eq⟩
    rw [eq]
    simp only [isValidFragment, getToxHeader_mk, size_mk, List.length_cons]
    have header : PacketId.ofByte 201 = .fragment := rfl
    simp [header]

end Data

namespace Fragment

variable (f : Fragment)

theorem eq_mk : f.data = ⟨201, f.setIndex :: f.index :: f.count :: f.payload, true⟩ := by
  obtain ⟨d, valid⟩ := f
  obtain ⟨a, b, c, rest, rfl⟩ := (Data.isValidFragment_iff d).mp valid
  rfl

theorem toxHeaderSet : f.data.toxHeaderSet = true := by rw [f.eq_mk]

theorem ofByte_header : PacketId.ofByte f.data.header = .fragment := by rw [f.eq_mk]; rfl

@[simp] theorem getToxHeader : f.data.getToxHeader = .ok .fragment := by rw [f.eq_mk]; rfl

theorem size_eq : f.data.size = f.payload.length + 4 := by
  rw [f.eq_mk]
  simp

theorem at_two : f.data.at? 2 = .ok f.index := by
  rw [f.eq_mk]
  rfl

theorem bytes_drop : f.data.bytes.drop 4 = f.payload := by
  rw [f.eq_mk]
  rfl

theorem at_four : f.data.at? 4 = match f.payload with
    | [] => .error .outOfRange
    | b :: _ => .ok b := by
  rw [f.eq_mk, Data.at?, Data.bytes]
  cases f.payload <;> rfl

/-- The getters never throw on a packet that `isValidFragment` accepts. -/
theorem getSplittedDataIndex : f.data.getSplittedDataIndex = .ok f.setIndex := by
  rw [f.eq_mk]
  rfl

theorem getFragmentsCount : f.data.getFragmentsCount = .ok f.count := by
  rw [f.eq_mk]
  rfl

end Fragment

end LibToxTun
