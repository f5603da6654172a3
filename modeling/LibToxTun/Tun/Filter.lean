import LibToxTun.Connection.Machine

/-! # The filter for own traffic

`TunInterface::isFromOwnTox` looks into the frames read from the TAP device and drops
those that the own tox instance has sent. All bytes are read through the pointer
that `getIpData` returns; the index of every read is recorded, and a read behind the
frame finds whatever the memory holds there.
-/

namespace LibToxTun

open Foundation

/-- The memory behind the pointer `tmp`, and the indices read from it so far. -/
structure FrameReader where
  memory : Nat → UInt8
  reads : List Nat

namespace TunInterface

/-- The bytes of the frame, and what lies behind them. -/
def reader (data : Data) (beyond : Nat → UInt8) : FrameReader where
  memory i := data.body.getD i (beyond i)
  reads := []

/-- `tmp[i]`. -/
def tmp (i : Nat) : Code FrameReader UInt8 := fun r =>
  .returned (r.memory i) { r with reads := r.reads ++ [i] }

/-- `tmp = data.getIpData()`, and `false` when it throws. -/
def withIpData (data : Data) (body : Code FrameReader Bool) : Code FrameReader Bool := do
  match ← catchToxTunError (some <$> Action.ofExcept data.getIpData) (pure none) with
  | some _ => body
  | none => pure false

/-- The comparison of the source port, big endian at an offset. -/
def isToxUdpPort (toxUdpPort : UInt16) (ipDataOffset : UInt8) : Code FrameReader Bool := do
  let high ← tmp ipDataOffset.toNat
  let low ← tmp (ipDataOffset.toNat + 1)
  let port := high.toUInt16 <<< 8 ||| low.toUInt16
  pure (port == toxUdpPort)

def etherFrameOffset : UInt8 := 14

/-- The check for a fragment that is not the first one. -/
def isLaterFragmentIPv4 : Code FrameReader Bool := do
  if (← tmp (etherFrameOffset.toNat + 6)) &&& 0x20 ≠ 0 then
    let f := ((← tmp (etherFrameOffset.toNat + 6)) &&& 0x2F) |||
      (← tmp (etherFrameOffset.toNat + 7))
    pure (f != 0)
  else pure false

def isFromOwnToxIPv4 (toxUdpPort : UInt16) (data : Data) : Code FrameReader Bool :=
  Action.noexcept do
    if data.getIpDataLen < etherFrameOffset.toNat + 10 then pure false
    else withIpData data do
      if (← tmp (etherFrameOffset.toNat + 9)) ≠ 0x11 then pure false
      else if ← isLaterFragmentIPv4 then pure false
      else
        let ipHeaderLength := ((← tmp etherFrameOffset.toNat) &&& 0x0F) * 4
        let ipDataOffset := etherFrameOffset + ipHeaderLength
        if data.getIpDataLen < ipDataOffset.toNat + 2 then pure false
        else isToxUdpPort toxUdpPort ipDataOffset

def isFromOwnToxIPv6 (toxUdpPort : UInt16) (data : Data) : Code FrameReader Bool :=
  Action.noexcept do
    let ipDataOffset := etherFrameOffset + 40
    if data.getIpDataLen < ipDataOffset.toNat then pure false
    else withIpData data do
      if (← tmp (etherFrameOffset.toNat + 6)) = 44 then
        if data.getIpDataLen < ipDataOffset.toNat + 10 then pure false
        else
          let f := (← tmp (etherFrameOffset.toNat + 42)) |||
            ((← tmp (etherFrameOffset.toNat + 43)) &&& 0xF8)
          if f ≠ 0 then pure false
          else if (← tmp (etherFrameOffset.toNat + 40)) ≠ 0x11 then pure false
          else isToxUdpPort toxUdpPort (ipDataOffset + 8)
      else if (← tmp (etherFrameOffset.toNat + 6)) ≠ 0x11 then pure false
      else isToxUdpPort toxUdpPort ipDataOffset

/-- `tmp[12] == high && tmp[13] == low`. -/
def etherTypeIs (high low : UInt8) : Code FrameReader Bool := do
  if (← tmp 12) = high then return (← tmp 13) == low
  else pure false

def isFromOwnTox (toxUdpPort : UInt16) (data : Data) : Code FrameReader Bool :=
  Action.noexcept do
    if data.getIpDataLen < 14 then pure false
    else withIpData data do
      if ← etherTypeIs 0x08 0x00 then isFromOwnToxIPv4 toxUdpPort data
      else if ← etherTypeIs 0x86 0xDD then isFromOwnToxIPv6 toxUdpPort data
      else pure false

end TunInterface

/-! ## What a frame shows -/

/-- The fields of an IPv4 header that the filter needs. -/
structure IPv4Header where
  headerLength : Nat
  moreFragments : Bool
  fragmentOffset : Nat
  protocol : UInt8

namespace Ether

variable (frame : List UInt8)

def etherType? : Option Nat := do
  let high ← frame[12]?
  let low ← frame[13]?
  some (high.toNat * 256 + low.toNat)

def ipv4Header? : Option IPv4Header := do
  let version ← frame[14]?
  let flags ← frame[20]?
  let offset ← frame[21]?
  let protocol ← frame[23]?
  some ⟨version.toNat % 16 * 4, flags.toNat / 32 % 2 = 1, flags.toNat % 32 * 256 + offset.toNat, protocol⟩

/-- The first field of a UDP header. -/
def sourcePort? (udp : Nat) : Option Nat := do
  let high ← frame[udp]?
  let low ← frame[udp + 1]?
  some (high.toNat * 256 + low.toNat)

/-- The offset field of an IPv6 fragment header. -/
def fragmentOffsetIPv6? : Option Nat := do
  let high ← frame[56]?
  let low ← frame[57]?
  some ((high.toNat * 256 + low.toNat) / 8)

def udpSourcePortIPv4? : Option Nat := do
  let header ← ipv4Header? frame
  if header.protocol = 17 ∧ header.fragmentOffset = 0 then sourcePort? frame (14 + header.headerLength)
  else none

def udpSourcePortIPv6? : Option Nat := do
  let nextHeader ← frame[20]?
  if nextHeader = 17 then sourcePort? frame 54
  else if nextHeader = 44 then do
    if (← frame[54]?) = 17 ∧ (← fragmentOffsetIPv6? frame) = 0 then sourcePort? frame 62 else none
  else none

/-- The UDP source port that a frame shows: only the first fragment of a packet has
the header, and no extension header of IPv6 is looked through but that of a fragment. -/
def udpSourcePort? : Option Nat := do
  let etherType ← etherType? frame
  if etherType = 0x0800 then udpSourcePortIPv4? frame
  else if etherType = 0x86DD then udpSourcePortIPv6? frame
  else none

/-- An IPv6 frame that ends before the source port of its UDP header does. -/
def PortCutOff : Prop :=
  etherType? frame = some 0x86DD ∧ frame[20]? = some 17 ∧ (frame.length = 54 ∨ frame.length = 55)

/-- Where a UDP header would be, an IPv4 packet has the port, and either it is the first of
several fragments or the last of them. -/
def FragmentShowsPort (toxUdpPort : UInt16) : Prop :=
  etherType? frame = some 0x0800 ∧ ∃ header, ipv4Header? frame = some header ∧
    header.protocol = 17 ∧ sourcePort? frame (14 + header.headerLength) = some toxUdpPort.toNat ∧
    (header.moreFragments = true ↔ header.fragmentOffset = 0)

/-- The frames that the filter cannot tell correctly. -/
def Misjudged (toxUdpPort : UInt16) : Prop :=
  FragmentShowsPort frame toxUdpPort ∨
    PortCutOff frame ∧ ∀ high, frame[54]? = some high → high.toNat = toxUdpPort.toNat / 256

end Ether

/-! ## Bits and bytes -/

theorem toNat_port (high low : UInt8) :
    (high.toUInt16 <<< 8 ||| low.toUInt16).toNat = high.toNat * 256 + low.toNat := by
  have h := high.toNat_lt
  have l := low.toNat_lt
  have shifted : (high.toUInt16 <<< 8).toNat = high.toNat <<< 8 := by
    simp only [UInt16.toNat_shiftLeft, UInt8.toNat_toUInt16]
    have fits : high.toNat <<< 8 < 2 ^ 16 := by rw [Nat.shiftLeft_eq]; omega
    exact Nat.mod_eq_of_lt fits
  rw [UInt16.toNat_or, shifted, UInt8.toNat_toUInt16,
    ← Nat.shiftLeft_add_eq_or_of_lt (show low.toNat < 2 ^ 8 from l), Nat.shiftLeft_eq]

theorem forall_byte {P : UInt8 → Prop} (h : ∀ n < 256, P (UInt8.ofNat n)) (b : UInt8) : P b := by
  have byte := h b.toNat b.toNat_lt
  rwa [UInt8.ofNat_toNat] at byte

theorem twoBytes_inj (a b c d : UInt8) :
    a.toNat * 256 + b.toNat = c.toNat * 256 + d.toNat ↔ a = c ∧ b = d := by
  have := b.toNat_lt
  have := d.toNat_lt
  rw [← UInt8.toNat_inj, ← UInt8.toNat_inj]
  omega

theorem mask_flag (b : UInt8) : b &&& 0x20 = 0 ↔ ¬ b.toNat / 32 % 2 = 1 :=
  forall_byte (P := fun b => b &&& 0x20 = 0 ↔ ¬ b.toNat / 32 % 2 = 1) (by decide +kernel) b

/-- The mask for the offset has the bit of the flag in it. -/
theorem mask_offset (b c : UInt8) (flag : b &&& 0x20 ≠ 0) : (b &&& 0x2F) ||| c ≠ 0 := by
  intro zero
  have covers : b &&& 0x2F = 0 → b &&& 0x20 = 0 :=
    forall_byte (P := fun b => b &&& 0x2F = 0 → b &&& 0x20 = 0) (by decide +kernel) b
  exact flag (covers (UInt8.or_eq_zero_iff.mp zero).1)

theorem mask_length (b : UInt8) : (14 + (b &&& 0x0F) * 4 : UInt8).toNat = 14 + b.toNat % 16 * 4 :=
  forall_byte (P := fun b => (14 + (b &&& 0x0F) * 4 : UInt8).toNat = 14 + b.toNat % 16 * 4)
    (by decide +kernel) b

theorem mask_offsetIPv6 (high low : UInt8) :
    high ||| (low &&& 0xF8) = 0 ↔ (high.toNat * 256 + low.toNat) / 8 = 0 := by
  have low_iff : low &&& 0xF8 = 0 ↔ low.toNat < 8 :=
    forall_byte (P := fun b => b &&& 0xF8 = 0 ↔ b.toNat < 8) (by decide +kernel) low
  rw [UInt8.or_eq_zero_iff, low_iff, ← UInt8.toNat_inj]
  have zero : (0 : UInt8).toNat = 0 := rfl
  omega

/-! ## What the filter does -/

namespace TunInterface

/-- The bytes at an offset are those of the port. -/
def PortAt (toxUdpPort : UInt16) (m : Nat → UInt8) (offset : Nat) : Prop :=
  (m offset).toNat * 256 + (m (offset + 1)).toNat = toxUdpPort.toNat

instance (toxUdpPort : UInt16) (m : Nat → UInt8) (offset : Nat) :
    Decidable (PortAt toxUdpPort m offset) := inferInstanceAs (Decidable (_ = _))

/-- Where the filter expects the UDP header of an IPv4 packet. -/
def udpIPv4 (m : Nat → UInt8) : Nat := 14 + (m 14).toNat % 16 * 4

/-- The packets that the filter takes for own ones, by length and content. -/
def OwnIPv4 (toxUdpPort : UInt16) (len : Nat) (m : Nat → UInt8) : Prop :=
  24 ≤ len ∧ m 23 = 0x11 ∧ m 20 &&& 0x20 = 0 ∧ udpIPv4 m + 2 ≤ len ∧ PortAt toxUdpPort m (udpIPv4 m)

def readsIPv4 (len : Nat) (m : Nat → UInt8) : List Nat :=
  if len < 24 then []
  else if m 23 ≠ 0x11 then [23]
  else if m 20 &&& 0x20 ≠ 0 then [23, 20, 20, 21]
  else if len < udpIPv4 m + 2 then [23, 20, 14]
  else [23, 20, 14, udpIPv4 m, udpIPv4 m + 1]

def OwnIPv6 (toxUdpPort : UInt16) (len : Nat) (m : Nat → UInt8) : Prop :=
  54 ≤ len ∧
    (m 20 = 44 ∧ 64 ≤ len ∧ m 56 ||| (m 57 &&& 0xF8) = 0 ∧ m 54 = 0x11 ∧ PortAt toxUdpPort m 62 ∨
      m 20 = 0x11 ∧ PortAt toxUdpPort m 54)

def readsIPv6 (len : Nat) (m : Nat → UInt8) : List Nat :=
  if len < 54 then []
  else if m 20 = 44 then
    if len < 64 then [20]
    else if m 56 ||| (m 57 &&& 0xF8) ≠ 0 then [20, 56, 57]
    else if m 54 ≠ 0x11 then [20, 56, 57, 54]
    else [20, 56, 57, 54, 62, 63]
  else if m 20 ≠ 0x11 then [20, 20]
  else [20, 20, 54, 55]

def OwnFrame (toxUdpPort : UInt16) (len : Nat) (m : Nat → UInt8) : Prop :=
  14 ≤ len ∧ (m 12 = 0x08 ∧ m 13 = 0x00 ∧ OwnIPv4 toxUdpPort len m ∨
    m 12 = 0x86 ∧ m 13 = 0xDD ∧ OwnIPv6 toxUdpPort len m)

def readsFrame (len : Nat) (m : Nat → UInt8) : List Nat :=
  if len < 14 then []
  else if m 12 = 0x08 then
    if m 13 = 0x00 then [12, 13] ++ readsIPv4 len m else [12, 13, 12]
  else if m 12 = 0x86 then
    if m 13 = 0xDD then [12, 12, 13] ++ readsIPv6 len m else [12, 12, 13]
  else [12, 12]

/-- An action returns whether something holds, after some reads. -/
def Tells (a : Code FrameReader Bool) (r : FrameReader) (P : Prop) (reads : List Nat) : Prop :=
  ∃ b, a r = .returned b { r with reads := r.reads ++ reads } ∧ (b = true ↔ P)

section
variable (toxUdpPort : UInt16) {data : Data} (r : FrameReader)

theorem tmp_apply (i : Nat) :
    tmp i r = .returned (r.memory i) { r with reads := r.reads ++ [i] } := rfl

theorem withIpData_apply (long : 2 ≤ data.size) (body : Code FrameReader Bool) :
    withIpData data body r = body r := by
  simp [withIpData, Data.getIpData, show ¬ data.size < 2 by omega, catchToxTunError]

theorem isToxUdpPort_tells (offset : UInt8) :
    Tells (isToxUdpPort toxUdpPort offset) r (PortAt toxUdpPort r.memory offset.toNat)
      [offset.toNat, offset.toNat + 1] := by
  refine ⟨_, by simp [isToxUdpPort, tmp_apply]; rfl, ?_⟩
  rw [beq_iff_eq, ← UInt16.toNat_inj, toNat_port]
  rfl

theorem Tells.after {a : Code FrameReader Bool} {P : Prop} {reads : List Nat} (first : List Nat)
    {b : Code FrameReader Bool} (tells : Tells b { r with reads := r.reads ++ first } P reads)
    (runs : a r = b { r with reads := r.reads ++ first }) : Tells a r P (first ++ reads) := by
  obtain ⟨v, outcome, meaning⟩ := tells
  exact ⟨v, by rw [runs, outcome, List.append_assoc], meaning⟩

theorem tells_no {a : Code FrameReader Bool} {P : Prop} {reads : List Nat} (not : ¬ P)
    (runs : a r = .returned false { r with reads := r.reads ++ reads }) : Tells a r P reads :=
  ⟨false, runs, by simp [not]⟩

theorem Tells.congr {a : Code FrameReader Bool} {P Q : Prop} {reads : List Nat}
    (tells : Tells a r P reads) (same : P ↔ Q) : Tells a r Q reads := by
  obtain ⟨v, outcome, meaning⟩ := tells
  exact ⟨v, outcome, meaning.trans same⟩

theorem Tells.guarded {a : Code FrameReader Bool} {P : Prop} {reads : List Nat}
    (tells : Tells a r P reads) : Tells (Action.noexcept a) r P reads := by
  obtain ⟨v, outcome, meaning⟩ := tells
  exact ⟨v, by rw [Action.noexcept_apply, outcome, Outcome.guarded_returned], meaning⟩

@[simp] theorem etherFrameOffset_toNat : etherFrameOffset.toNat = 14 := rfl

theorem isLaterFragmentIPv4_apply : isLaterFragmentIPv4 r =
    if r.memory 20 &&& 0x20 ≠ 0 then .returned true { r with reads := r.reads ++ [20, 20, 21] }
    else .returned false { r with reads := r.reads ++ [20] } := by
  by_cases flag : r.memory 20 &&& 0x20 = 0
  · simp [isLaterFragmentIPv4, tmp_apply, flag]
  · have masked := mask_offset _ (r.memory 21) flag
    simp [isLaterFragmentIPv4, tmp_apply, flag, masked]

theorem isFromOwnToxIPv4_tells (data : Data) :
    Tells (isFromOwnToxIPv4 toxUdpPort data) r (OwnIPv4 toxUdpPort data.getIpDataLen r.memory)
      (readsIPv4 data.getIpDataLen r.memory) := by
  apply Tells.guarded
  by_cases short : data.getIpDataLen < 24
  · rw [readsIPv4, if_pos short]
    exact tells_no r (fun own => by have := own.1; omega) (by simp [short])
  have two : 2 ≤ data.size := by unfold Data.getIpDataLen at short; omega
  rw [readsIPv4, if_neg short]
  by_cases other : r.memory 23 ≠ 0x11
  · rw [if_pos other]
    exact tells_no r (fun own => other own.2.1) (by simp [short, withIpData_apply _ two, tmp_apply, other])
  have udp : r.memory 23 = 0x11 := not_not.mp other
  rw [if_neg other]
  by_cases flag : r.memory 20 &&& 0x20 ≠ 0
  · rw [if_pos flag]
    refine tells_no r (fun own => flag own.2.2.1) ?_
    simp [short, withIpData_apply _ two, tmp_apply, udp, isLaterFragmentIPv4_apply, flag]
  have unflagged : r.memory 20 &&& 0x20 = 0 := not_not.mp flag
  have offset : (etherFrameOffset + (r.memory 14 &&& 0x0F) * 4).toNat = udpIPv4 r.memory :=
    mask_length _
  rw [if_neg flag]
  by_cases cut : data.getIpDataLen < udpIPv4 r.memory + 2
  · rw [if_pos cut]
    refine tells_no r (fun own => by have := own.2.2.2.1; omega) ?_
    simp [-UInt8.toNat_add, short, withIpData_apply _ two, tmp_apply, udp, isLaterFragmentIPv4_apply,
      unflagged, offset, cut]
  · rw [if_neg cut]
    have port := isToxUdpPort_tells toxUdpPort { r with reads := r.reads ++ [23, 20, 14] }
      (etherFrameOffset + (r.memory 14 &&& 0x0F) * 4)
    rw [offset] at port
    refine (Tells.after r [23, 20, 14] port ?_).congr r ?_
    · simp [-UInt8.toNat_add, short, withIpData_apply _ two, tmp_apply, udp,
        isLaterFragmentIPv4_apply, unflagged, offset, cut]
    · simp [OwnIPv4, udp, unflagged, show 24 ≤ data.getIpDataLen by omega,
        show udpIPv4 r.memory + 2 ≤ data.getIpDataLen by omega]

theorem isFromOwnToxIPv6_tells (data : Data) :
    Tells (isFromOwnToxIPv6 toxUdpPort data) r (OwnIPv6 toxUdpPort data.getIpDataLen r.memory)
      (readsIPv6 data.getIpDataLen r.memory) := by
  apply Tells.guarded
  have start : (etherFrameOffset + 40).toNat = 54 := rfl
  by_cases short : data.getIpDataLen < 54
  · rw [readsIPv6, if_pos short]
    exact tells_no r (fun own => by have := own.1; omega) (by simp [-UInt8.toNat_add, start, short])
  have two : 2 ≤ data.size := by unfold Data.getIpDataLen at short; omega
  rw [readsIPv6, if_neg short]
  by_cases fragment : r.memory 20 = 44
  · rw [if_pos fragment]
    by_cases cut : data.getIpDataLen < 64
    · rw [if_pos cut]
      refine tells_no r (fun own => ?_) ?_
      · rcases own.2 with ⟨-, long, -⟩ | ⟨udp, -⟩
        · omega
        · simp [fragment] at udp
      · simp [-UInt8.toNat_add, start, short, withIpData_apply _ two, tmp_apply, fragment, cut]
    rw [if_neg cut]
    by_cases later : r.memory 56 ||| (r.memory 57 &&& 0xF8) ≠ 0
    · rw [if_pos later]
      refine tells_no r (fun own => ?_) ?_
      · rcases own.2 with ⟨-, -, offset, -⟩ | ⟨udp, -⟩
        · exact later offset
        · simp [fragment] at udp
      · simp [-UInt8.toNat_add, -UInt8.or_eq_zero_iff, start, short, withIpData_apply _ two, tmp_apply,
          fragment, cut, later]
    have first : r.memory 56 ||| (r.memory 57 &&& 0xF8) = 0 := not_not.mp later
    rw [if_neg later]
    by_cases other : r.memory 54 ≠ 0x11
    · rw [if_pos other]
      refine tells_no r (fun own => ?_) ?_
      · rcases own.2 with ⟨-, -, -, udp, -⟩ | ⟨udp, -⟩
        · exact other udp
        · simp [fragment] at udp
      · simp [-UInt8.toNat_add, -UInt8.or_eq_zero_iff, start, short, withIpData_apply _ two, tmp_apply,
          fragment, cut, first, other]
    have udp : r.memory 54 = 0x11 := not_not.mp other
    have port := isToxUdpPort_tells toxUdpPort { r with reads := r.reads ++ [20, 56, 57, 54] }
      (etherFrameOffset + 40 + 8)
    rw [if_neg other]
    refine (Tells.after r [20, 56, 57, 54] port ?_).congr r ?_
    · simp [-UInt8.toNat_add, -UInt8.or_eq_zero_iff, start, short, withIpData_apply _ two, tmp_apply,
        fragment, cut, first, udp]
    · show PortAt toxUdpPort r.memory 62 ↔ _
      simp [-UInt8.or_eq_zero_iff, OwnIPv6, fragment, first, udp,
        show 54 ≤ data.getIpDataLen by omega, show 64 ≤ data.getIpDataLen by omega]
  · rw [if_neg fragment]
    by_cases other : r.memory 20 ≠ 0x11
    · rw [if_pos other]
      refine tells_no r (fun own => ?_) ?_
      · rcases own.2 with ⟨header, -⟩ | ⟨udp, -⟩
        · exact fragment header
        · exact other udp
      · simp [-UInt8.toNat_add, start, short, withIpData_apply _ two, tmp_apply, fragment, other]
    have udp : r.memory 20 = 0x11 := not_not.mp other
    have port := isToxUdpPort_tells toxUdpPort { r with reads := r.reads ++ [20, 20] }
      (etherFrameOffset + 40)
    rw [if_neg other]
    refine (Tells.after r [20, 20] port ?_).congr r ?_
    · simp [-UInt8.toNat_add, start, short, withIpData_apply _ two, tmp_apply, udp]
    · show PortAt toxUdpPort r.memory 54 ↔ _
      simp [OwnIPv6, udp, show 54 ≤ data.getIpDataLen by omega]

theorem isFromOwnTox_tells (data : Data) :
    Tells (isFromOwnTox toxUdpPort data) r (OwnFrame toxUdpPort data.getIpDataLen r.memory)
      (readsFrame data.getIpDataLen r.memory) := by
  apply Tells.guarded
  by_cases short : data.getIpDataLen < 14
  · rw [readsFrame, if_pos short]
    exact tells_no r (fun own => by have := own.1; omega) (by simp [short])
  have two : 2 ≤ data.size := by unfold Data.getIpDataLen at short; omega
  have long : 14 ≤ data.getIpDataLen := by omega
  rw [readsFrame, if_neg short, if_neg short]
  by_cases high4 : r.memory 12 = 0x08
  · rw [if_pos high4]
    by_cases low4 : r.memory 13 = 0x00
    · rw [if_pos low4]
      have inner := isFromOwnToxIPv4_tells toxUdpPort { r with reads := r.reads ++ [12, 13] } data
      refine (Tells.after r [12, 13] inner ?_).congr r ?_
      · simp [withIpData_apply _ two, etherTypeIs, tmp_apply, high4, low4]
      · simp [OwnFrame, long, high4, low4]
    · rw [if_neg low4]
      refine tells_no r (fun own => ?_) ?_
      · rcases own.2 with ⟨-, low, -⟩ | ⟨high, -⟩
        · exact low4 low
        · simp [high4] at high
      · simp [withIpData_apply _ two, etherTypeIs, tmp_apply, high4, low4]
  rw [if_neg high4]
  by_cases high6 : r.memory 12 = 0x86
  · rw [if_pos high6]
    by_cases low6 : r.memory 13 = 0xDD
    · rw [if_pos low6]
      have inner := isFromOwnToxIPv6_tells toxUdpPort { r with reads := r.reads ++ [12, 12, 13] } data
      refine (Tells.after r [12, 12, 13] inner ?_).congr r ?_
      · simp [withIpData_apply _ two, etherTypeIs, tmp_apply, high6, low6]
      · simp [OwnFrame, long, high6, low6]
    · rw [if_neg low6]
      refine tells_no r (fun own => ?_) ?_
      · rcases own.2 with ⟨high, -⟩ | ⟨-, low, -⟩
        · exact high4 high
        · exact low6 low
      · simp [withIpData_apply _ two, etherTypeIs, tmp_apply, high6, low6]
  · rw [if_neg high6]
    refine tells_no r (fun own => ?_) ?_
    · rcases own.2 with ⟨high, -⟩ | ⟨high, -⟩
      · exact high4 high
      · exact high6 high
    · simp [withIpData_apply _ two, etherTypeIs, tmp_apply, high4, high6]

end

/-! ## Reads inside the frame -/

@[simp] theorem getIpDataLen_eq (data : Data) : data.getIpDataLen = data.body.length := by
  simp [Data.getIpDataLen, Data.size, Data.bytes]

theorem readsIPv4_inside (len : Nat) (m : Nat → UInt8) : ∀ i ∈ readsIPv4 len m, i < len := by
  intro i read
  unfold readsIPv4 at read
  split_ifs at read <;> simp at read <;> omega

theorem readsIPv6_inside_iff (len : Nat) (m : Nat → UInt8) :
    (∀ i ∈ readsIPv6 len m, i < len) ↔ ¬ (m 20 = 17 ∧ (len = 54 ∨ len = 55)) := by
  unfold readsIPv6
  split_ifs with short fragment cut later other other
  · simp; omega
  · simp [fragment]; omega
  · simp [fragment]; omega
  · simp [fragment]; omega
  · simp [fragment]; omega
  · simp [other]; omega
  · simp [not_not.mp other]; omega

theorem readsFrame_inside_iff (len : Nat) (m : Nat → UInt8) :
    (∀ i ∈ readsFrame len m, i < len) ↔
      ¬ (m 12 = 0x86 ∧ m 13 = 0xDD ∧ m 20 = 17 ∧ (len = 54 ∨ len = 55)) := by
  unfold readsFrame
  have inside4 := readsIPv4_inside len m
  have inside6 := readsIPv6_inside_iff len m
  split_ifs with short high4 low4 high6 low6
  · simp; omega
  · simp [high4]; grind
  · simp [high4]; omega
  · simp only [List.mem_append, or_imp, forall_and, inside6]
    simp [high6, low6]; omega
  · simp [low6]; omega
  · simp [high6]; omega

section
variable (toxUdpPort : UInt16) (data : Data) (beyond : Nat → UInt8)

theorem reader_memory {i : Nat} (inside : i < data.body.length) :
    data.body[i]? = some ((reader data beyond).memory i) := by
  simp [reader, List.getElem?_eq_getElem inside]

theorem etherType?_eq_some (high low : UInt8) :
    Ether.etherType? data.body = some (high.toNat * 256 + low.toNat) ↔ 14 ≤ data.body.length ∧
      (reader data beyond).memory 12 = high ∧ (reader data beyond).memory 13 = low := by
  by_cases long : 14 ≤ data.body.length
  · have first := reader_memory data beyond (show 12 < data.body.length by omega)
    have second := reader_memory data beyond (show 13 < data.body.length by omega)
    simp [Ether.etherType?, first, second, long, twoBytes_inj]
  · have second : data.body[13]? = none := List.getElem?_eq_none (by omega)
    simp [Ether.etherType?, second, long]

theorem portCutOff_iff : Ether.PortCutOff data.body ↔
    (reader data beyond).memory 12 = 0x86 ∧ (reader data beyond).memory 13 = 0xDD ∧
      (reader data beyond).memory 20 = 17 ∧ (data.body.length = 54 ∨ data.body.length = 55) := by
  unfold Ether.PortCutOff
  by_cases long : data.body.length = 54 ∨ data.body.length = 55
  · have type := etherType?_eq_some data beyond 0x86 0xDD
    have next := reader_memory data beyond (show 20 < data.body.length by omega)
    rw [show (0x86DD : Nat) = (0x86 : UInt8).toNat * 256 + (0xDD : UInt8).toNat from rfl, type, next]
    simp [long, show 14 ≤ data.body.length by omega, and_assoc]
  · simp [long]

/-- The reads leave the frame exactly when it is cut off behind the IPv6 header. -/
theorem isFromOwnTox_reads_inside_iff :
    (∀ i ∈ (isFromOwnTox toxUdpPort data (reader data beyond)).state.reads, i < data.getIpDataLen) ↔
      ¬ Ether.PortCutOff data.body := by
  obtain ⟨own, outcome, -⟩ := isFromOwnTox_tells toxUdpPort (reader data beyond) data
  rw [outcome, portCutOff_iff data beyond, ← readsFrame_inside_iff]
  simp [Outcome.state, reader]

/-- An IPv6 header that announces UDP, and nothing behind it. -/
def bareIPv6 : Data := Data.tunData
  ([2, 0, 0, 0, 0, 1, 2, 0, 0, 0, 0, 2, 0x86, 0xDD, 0x60, 0, 0, 0, 0, 0, 0x11, 64] ++
    List.replicate 32 0)

theorem bareIPv6_reads_outside : ¬ ∀ toxUdpPort data beyond,
    ∀ i ∈ (isFromOwnTox toxUdpPort data (reader data beyond)).state.reads, i < data.getIpDataLen := by
  intro inside
  have bounded := inside 33445 bareIPv6 (fun _ => 0) 54 (by decide +kernel)
  exact absurd bounded (by decide +kernel)

/-! ## Frames with the own port -/

def Drops : Prop :=
  ∃ r, isFromOwnTox toxUdpPort data (reader data beyond) = .returned true r

theorem drops_iff : Drops toxUdpPort data beyond ↔
    OwnFrame toxUdpPort data.body.length (reader data beyond).memory := by
  obtain ⟨own, outcome, meaning⟩ := isFromOwnTox_tells toxUdpPort (reader data beyond) data
  unfold Drops
  rw [outcome, ← getIpDataLen_eq, ← meaning]
  simp

theorem sourcePort?_eq_some (offset : Nat) :
    Ether.sourcePort? data.body offset = some toxUdpPort.toNat ↔
      offset + 2 ≤ data.body.length ∧ PortAt toxUdpPort (reader data beyond).memory offset := by
  by_cases long : offset + 2 ≤ data.body.length
  · have high := reader_memory data beyond (show offset < data.body.length by omega)
    have low := reader_memory data beyond (show offset + 1 < data.body.length by omega)
    simp [Ether.sourcePort?, high, low, long, PortAt]
  · have low : data.body[offset + 1]? = none := List.getElem?_eq_none (by omega)
    simp [Ether.sourcePort?, low, long]

theorem ipv4Header?_short (short : data.body.length < 24) : Ether.ipv4Header? data.body = none := by
  have protocol : data.body[23]? = none := List.getElem?_eq_none (by omega)
  simp [Ether.ipv4Header?, protocol]

/-- The header that the bytes of the reader make up. -/
def headerOf (m : Nat → UInt8) : IPv4Header :=
  ⟨(m 14).toNat % 16 * 4, (m 20).toNat / 32 % 2 = 1, (m 20).toNat % 32 * 256 + (m 21).toNat, m 23⟩

theorem ipv4Header?_long (long : 24 ≤ data.body.length) :
    Ether.ipv4Header? data.body = some (headerOf (reader data beyond).memory) := by
  simp [Ether.ipv4Header?, headerOf,
    reader_memory data beyond (show 14 < data.body.length by omega),
    reader_memory data beyond (show 20 < data.body.length by omega),
    reader_memory data beyond (show 21 < data.body.length by omega),
    reader_memory data beyond (show 23 < data.body.length by omega)]

theorem ownIPv4_iff :
    OwnIPv4 toxUdpPort data.body.length (reader data beyond).memory ↔
      ∃ header, Ether.ipv4Header? data.body = some header ∧ header.protocol = 17 ∧
        header.moreFragments = false ∧
        Ether.sourcePort? data.body (14 + header.headerLength) = some toxUdpPort.toNat := by
  by_cases short : data.body.length < 24
  · simp [ipv4Header?_short data short, OwnIPv4, short]
  have long : 24 ≤ data.body.length := by omega
  rw [ipv4Header?_long data beyond long]
  simp only [Option.some_inj, exists_eq_left', sourcePort?_eq_some _ data beyond]
  simp [OwnIPv4, long, headerOf, mask_flag, udpIPv4]

theorem udpSourcePortIPv4?_iff (port : Nat) (frame : List UInt8) :
    Ether.udpSourcePortIPv4? frame = some port ↔
      ∃ header, Ether.ipv4Header? frame = some header ∧ header.protocol = 17 ∧
        header.fragmentOffset = 0 ∧ Ether.sourcePort? frame (14 + header.headerLength) = some port := by
  unfold Ether.udpSourcePortIPv4?
  cases Ether.ipv4Header? frame with
  | none => simp
  | some header => simp [ite_eq_iff, and_assoc]

theorem udpSourcePortIPv6?_eq_some :
    Ether.udpSourcePortIPv6? data.body = some toxUdpPort.toNat ↔
      (reader data beyond).memory 20 = 17 ∧ 56 ≤ data.body.length ∧
        PortAt toxUdpPort (reader data beyond).memory 54 ∨
      (reader data beyond).memory 20 = 44 ∧ 64 ≤ data.body.length ∧
        (reader data beyond).memory 56 ||| ((reader data beyond).memory 57 &&& 0xF8) = 0 ∧
        (reader data beyond).memory 54 = 17 ∧ PortAt toxUdpPort (reader data beyond).memory 62 := by
  have port := sourcePort?_eq_some toxUdpPort data beyond 54
  have laterPort := sourcePort?_eq_some toxUdpPort data beyond 62
  by_cases short : data.body.length ≤ 20
  · have next : data.body[20]? = none := List.getElem?_eq_none short
    simp [Ether.udpSourcePortIPv6?, next, show ¬ 56 ≤ data.body.length by omega,
      show ¬ 64 ≤ data.body.length by omega]
  have next := reader_memory data beyond (show 20 < data.body.length by omega)
  by_cases udp : (reader data beyond).memory 20 = 17
  · simp [Ether.udpSourcePortIPv6?, next, udp, port]
  by_cases fragment : (reader data beyond).memory 20 = 44
  · by_cases long : 64 ≤ data.body.length
    · have header := reader_memory data beyond (show 54 < data.body.length by omega)
      have high := reader_memory data beyond (show 56 < data.body.length by omega)
      have low := reader_memory data beyond (show 57 < data.body.length by omega)
      rw [mask_offsetIPv6]
      simp only [Ether.udpSourcePortIPv6?, Ether.fragmentOffsetIPv6?, next, fragment, header, high, low,
        Option.bind_eq_bind, Option.bind_some]
      rw [if_neg (by decide), if_pos trivial]
      split_ifs with first
      · simp [laterPort, long, first]
      · refine iff_of_false (by simp) ?_
        rintro (⟨other, -⟩ | ⟨-, -, offset, protocol, -⟩)
        · exact absurd other (by decide)
        · exact first ⟨protocol, offset⟩
    · have absent : Ether.sourcePort? data.body 62 ≠ some toxUdpPort.toNat :=
        fun found => long (laterPort.mp found).1
      simp [Ether.udpSourcePortIPv6?, next, fragment, long, Option.bind_eq_some_iff, ite_eq_iff, absent]
  · simp [Ether.udpSourcePortIPv6?, next, udp, fragment]

/-- Except in a frame that is cut off, the port is found where it is. -/
theorem ownIPv6_iff (ipv6 : Ether.etherType? data.body = some 0x86DD)
    (whole : ¬ Ether.PortCutOff data.body) :
    OwnIPv6 toxUdpPort data.body.length (reader data beyond).memory ↔
      Ether.udpSourcePortIPv6? data.body = some toxUdpPort.toNat := by
  obtain ⟨-, high, low⟩ := (etherType?_eq_some data beyond 0x86 0xDD).mp ipv6
  rw [portCutOff_iff data beyond] at whole
  rw [udpSourcePortIPv6?_eq_some toxUdpPort data beyond]
  unfold OwnIPv6
  constructor
  · rintro ⟨long, fragment | ⟨udp, port⟩⟩
    · exact Or.inr fragment
    · have length : ¬ (data.body.length = 54 ∨ data.body.length = 55) :=
        fun cut => whole ⟨high, low, udp, cut⟩
      exact Or.inl ⟨udp, by omega, port⟩
  · rintro (⟨udp, long, port⟩ | fragment)
    · exact ⟨by omega, Or.inr ⟨udp, port⟩⟩
    · exact ⟨by have := fragment.2.1; omega, Or.inl fragment⟩

/-- In a frame that is cut off, the bytes behind it decide. -/
theorem ownIPv6_cutOff_iff (cut : Ether.PortCutOff data.body) :
    OwnIPv6 toxUdpPort data.body.length (reader data beyond).memory ↔
      PortAt toxUdpPort (reader data beyond).memory 54 := by
  obtain ⟨-, -, udp, length⟩ := (portCutOff_iff data beyond).mp cut
  simp [OwnIPv6, udp, show 54 ≤ data.body.length by omega]

theorem udpSourcePortIPv6?_cutOff (cut : Ether.PortCutOff data.body) :
    Ether.udpSourcePortIPv6? data.body = none := by
  obtain ⟨-, udp, length⟩ := cut
  have low : data.body[55]? = none := List.getElem?_eq_none (by omega)
  simp [Ether.udpSourcePortIPv6?, udp, Ether.sourcePort?, low]

theorem drops_ipv4_iff (ipv4 : Ether.etherType? data.body = some 0x0800) :
    Drops toxUdpPort data beyond ↔
      OwnIPv4 toxUdpPort data.body.length (reader data beyond).memory := by
  obtain ⟨long, high, low⟩ := (etherType?_eq_some data beyond 0x08 0x00).mp ipv4
  rw [drops_iff]
  simp [OwnFrame, long, high, low]

theorem drops_ipv6_iff (ipv6 : Ether.etherType? data.body = some 0x86DD) :
    Drops toxUdpPort data beyond ↔
      OwnIPv6 toxUdpPort data.body.length (reader data beyond).memory := by
  obtain ⟨long, high, low⟩ := (etherType?_eq_some data beyond 0x86 0xDD).mp ipv6
  rw [drops_iff]
  simp [OwnFrame, long, high, low]

theorem not_drops_other (ipv4 : Ether.etherType? data.body ≠ some 0x0800)
    (ipv6 : Ether.etherType? data.body ≠ some 0x86DD) : ¬ Drops toxUdpPort data beyond := by
  rw [drops_iff]
  rintro ⟨long, ⟨high, low, -⟩ | ⟨high, low, -⟩⟩
  · exact ipv4 ((etherType?_eq_some data beyond 0x08 0x00).mpr ⟨long, high, low⟩)
  · exact ipv6 ((etherType?_eq_some data beyond 0x86 0xDD).mpr ⟨long, high, low⟩)

/-- Some memory behind a frame that is cut off completes the port, unless its first
byte is there and differs. -/
theorem exists_portAt_iff (cut : Ether.PortCutOff data.body) :
    (∃ beyond, PortAt toxUdpPort (reader data beyond).memory 54) ↔
      ∀ high, data.body[54]? = some high → high.toNat = toxUdpPort.toNat / 256 := by
  constructor
  · rintro ⟨beyond, port⟩ high first
    have inside := (List.getElem?_eq_some_iff.mp first).1
    rw [reader_memory data beyond inside, Option.some_inj] at first
    have low := ((reader data beyond).memory (54 + 1)).toNat_lt
    unfold PortAt at port
    rw [first] at port
    omega
  · intro agrees
    have small := toxUdpPort.toNat_lt
    have bytes : UInt8.size = 256 := rfl
    let high := UInt8.ofNat (toxUdpPort.toNat / 256)
    let low := UInt8.ofNat (toxUdpPort.toNat % 256)
    let beyond : Nat → UInt8 := fun i => if i = 54 then high else low
    have high_toNat : high.toNat = toxUdpPort.toNat / 256 := UInt8.toNat_ofNat_of_lt' (by omega)
    have low_toNat : low.toNat = toxUdpPort.toNat % 256 := UInt8.toNat_ofNat_of_lt' (by omega)
    have second : (reader data beyond).memory 55 = low := by
      have past : data.body.length ≤ 55 := by have := cut.2.2; omega
      simp [reader, beyond, List.getElem?_eq_none past]
    have first : ((reader data beyond).memory 54).toNat = toxUdpPort.toNat / 256 := by
      cases found : data.body[54]? with
      | none => simp [reader, found, beyond, high_toNat]
      | some byte => simp [reader, found, agrees byte found]
    refine ⟨beyond, ?_⟩
    unfold PortAt
    rw [first, second, low_toNat]
    omega

theorem exact_ipv4_iff (ipv4 : Ether.etherType? data.body = some 0x0800) :
    (Drops toxUdpPort data beyond ↔ Ether.udpSourcePort? data.body = some toxUdpPort.toNat) ↔
      ¬ Ether.FragmentShowsPort data.body toxUdpPort := by
  have spec : Ether.udpSourcePort? data.body = Ether.udpSourcePortIPv4? data.body := by
    simp [Ether.udpSourcePort?, ipv4]
  rw [drops_ipv4_iff _ _ _ ipv4, ownIPv4_iff, spec, udpSourcePortIPv4?_iff]
  unfold Ether.FragmentShowsPort
  cases Ether.ipv4Header? data.body with
  | none => simp
  | some header =>
    simp only [Option.some_inj, exists_eq_left', ipv4, true_and]
    cases header.moreFragments with
    | false => simp
    | true => simp; tauto

theorem exact_ipv6_iff (ipv6 : Ether.etherType? data.body = some 0x86DD) :
    (∀ beyond, Drops toxUdpPort data beyond ↔
      Ether.udpSourcePort? data.body = some toxUdpPort.toNat) ↔
      ¬ (Ether.PortCutOff data.body ∧
        ∀ high, data.body[54]? = some high → high.toNat = toxUdpPort.toNat / 256) := by
  have spec : Ether.udpSourcePort? data.body = Ether.udpSourcePortIPv6? data.body := by
    simp [Ether.udpSourcePort?, ipv6]
  by_cases cut : Ether.PortCutOff data.body
  · simp only [drops_ipv6_iff _ _ _ ipv6, ownIPv6_cutOff_iff _ _ _ cut, spec,
      udpSourcePortIPv6?_cutOff _ cut, ← exists_portAt_iff _ _ cut, cut]
    simp
  · simp only [drops_ipv6_iff _ _ _ ipv6, ownIPv6_iff _ _ _ ipv6 cut, spec, cut]
    simp

/-- The filter drops exactly the frames that show the own port, whatever lies behind
them, if and only if it does not misjudge. -/
theorem isFromOwnTox_exact_iff :
    (∀ beyond, Drops toxUdpPort data beyond ↔
      Ether.udpSourcePort? data.body = some toxUdpPort.toNat) ↔
      ¬ Ether.Misjudged data.body toxUdpPort := by
  unfold Ether.Misjudged
  by_cases ipv4 : Ether.etherType? data.body = some 0x0800
  · have notCut : ¬ Ether.PortCutOff data.body := fun cut =>
      absurd (ipv4.symm.trans cut.1) (by decide)
    simp only [exact_ipv4_iff _ _ _ ipv4, notCut]
    simp
  have notFragment : ¬ Ether.FragmentShowsPort data.body toxUdpPort := fun shows => ipv4 shows.1
  by_cases ipv6 : Ether.etherType? data.body = some 0x86DD
  · simp only [exact_ipv6_iff _ _ ipv6, notFragment, false_or]
  · have spec : Ether.udpSourcePort? data.body = none := by
      unfold Ether.udpSourcePort?
      cases type : Ether.etherType? data.body with
      | none => rfl
      | some etherType =>
        have other4 : etherType ≠ 0x0800 := fun same => ipv4 (same ▸ type)
        have other6 : etherType ≠ 0x86DD := fun same => ipv6 (same ▸ type)
        simp [other4, other6]
    have notCut : ¬ Ether.PortCutOff data.body := fun cut => ipv6 cut.1
    simp [not_drops_other _ _ _ ipv4 ipv6, spec, notFragment, notCut]

/-- A datagram of the tox instance with port 33445, the first of several fragments. -/
def firstFragment : Data := Data.tunData
  [2, 0, 0, 0, 0, 1, 2, 0, 0, 0, 0, 2, 0x08, 0x00,
    0x45, 0, 0, 28, 0, 1, 0x20, 0, 64, 0x11, 0, 0, 192, 168, 0, 1, 192, 168, 0, 2,
    0x82, 0xA5, 0x82, 0xA5, 0x05, 0xDC, 0, 0]

theorem firstFragment_passes : ¬ ∀ toxUdpPort data beyond, Drops toxUdpPort data beyond ↔
    Ether.udpSourcePort? data.body = some toxUdpPort.toNat := by
  intro exact
  have shown : Ether.udpSourcePort? firstFragment.body = some (33445 : UInt16).toNat := by decide +kernel
  obtain ⟨r, dropped⟩ := (exact 33445 firstFragment (fun _ => 0)).mpr shown
  have passed : ∃ r, isFromOwnTox 33445 firstFragment (reader firstFragment fun _ => 0) =
      .returned false r := ⟨_, rfl⟩
  obtain ⟨r', kept⟩ := passed
  rw [kept] at dropped
  injection dropped with verdict
  exact Bool.noConfusion verdict

end

end TunInterface

end LibToxTun
