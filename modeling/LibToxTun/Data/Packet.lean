import Mathlib.Logic.Basic

/-! # Packets of the virtual network

`Data` is a non-empty byte vector whose first byte is the tox header. The
private constructor allocates at least one byte, so the first byte is a field
of its own here and an empty packet cannot be built.
-/

namespace LibToxTun

/-- The exceptions the library can raise. A handler for `ToxTunError` does not
see the `std::out_of_range` of a checked vector access. -/
inductive Exn where
  | toxTunError (what : String)
  | outOfRange
deriving DecidableEq, Repr

/-- The packet identifier of a tox header. A header byte without a name of its
own is still a value of the enumeration after the cast. -/
inductive PacketId where
  | connectionRequest
  | connectionAccept
  | connectionReject
  | connectionClose
  | connectionReset
  | ipProposal
  | ipAccept
  | ipReject
  | data
  | fragment
  | unnamed (byte : UInt8)
deriving DecidableEq, Repr

namespace PacketId

def ofByte (b : UInt8) : PacketId :=
  if b = 160 then .connectionRequest
  else if b = 161 then .connectionAccept
  else if b = 162 then .connectionReject
  else if b = 163 then .connectionClose
  else if b = 164 then .connectionReset
  else if b = 165 then .ipProposal
  else if b = 166 then .ipAccept
  else if b = 167 then .ipReject
  else if b = 200 then .data
  else if b = 201 then .fragment
  else .unnamed b

def toByte : PacketId → UInt8
  | connectionRequest => 160
  | connectionAccept => 161
  | connectionReject => 162
  | connectionClose => 163
  | connectionReset => 164
  | ipProposal => 165
  | ipAccept => 166
  | ipReject => 167
  | data => 200
  | fragment => 201
  | unnamed b => b

@[simp] theorem toByte_ofByte (b : UInt8) : (ofByte b).toByte = b := by
  unfold ofByte
  repeat' split
  all_goals simp_all [toByte]

theorem ofByte_eq_fragment_iff (b : UInt8) : ofByte b = .fragment ↔ b = 201 := by
  constructor
  · intro h
    rw [← toByte_ofByte b, h]
    rfl
  · rintro rfl
    rfl

end PacketId

/-- How a packet is sent via tox. -/
inductive SendTox where
  | lossless
  | lossy
deriving DecidableEq, Repr

/-- A packet: the byte reserved for the tox header, the bytes after it, and
whether the header byte is valid. -/
structure Data where
  header : UInt8
  body : List UInt8
  toxHeaderSet : Bool
deriving DecidableEq, Repr

namespace Data

/-- The vector the packet is stored in. -/
def bytes (d : Data) : List UInt8 := d.header :: d.body

def size (d : Data) : Nat := d.bytes.length

@[simp] theorem size_mk (h : UInt8) (b : List UInt8) (s : Bool) :
    (⟨h, b, s⟩ : Data).size = b.length + 1 := by simp [size, bytes]

/-- `vector::at`. -/
def at? (d : Data) (i : Nat) : Except Exn UInt8 :=
  match d.bytes[i]? with
  | some b => .ok b
  | none => .error .outOfRange

/-- `Data(len)` filled with a buffer: an empty buffer leaves one zero byte. -/
def ofBuffer (buffer : List UInt8) : Data :=
  match buffer with
  | [] => ⟨0, [], true⟩
  | b :: rest => ⟨b, rest, true⟩

def fromToxData (buffer : List UInt8) : Data := ofBuffer buffer

@[simp] theorem ofBuffer_toxHeaderSet (buffer : List UInt8) :
    (ofBuffer buffer).toxHeaderSet = true := by cases buffer <;> rfl

@[simp] theorem fromToxData_toxHeaderSet (buffer : List UInt8) :
    (fromToxData buffer).toxHeaderSet = true := ofBuffer_toxHeaderSet buffer

theorem ofBuffer_bytes {buffer : List UInt8} (h : buffer ≠ []) : (ofBuffer buffer).bytes = buffer := by
  cases buffer with
  | nil => exact (h rfl).elim
  | cons b rest => rfl

/-- A packet that is handed to tox and received is the packet again. -/
theorem fromToxData_bytes {d : Data} (set : d.toxHeaderSet = true) : fromToxData d.bytes = d := by
  cases d
  cases set
  rfl

def setToxHeader (d : Data) (id : PacketId) : Data :=
  { d with header := id.toByte, toxHeaderSet := true }

/-- A frame behind a header byte. -/
def tunData (buffer : List UInt8) : Data :=
  setToxHeader ⟨0, buffer, false⟩ .data

/-- `data->at(1)` throws when the frame is empty. `len + 1 == 0` cannot hold for a length
without an upper bound. -/
def fromTunData (buffer : List UInt8) : Except Exn Data :=
  if buffer = [] then .error .outOfRange else .ok (tunData buffer)

/-- The result of a call of `tun.getData` that has read a frame, or has thrown before. -/
def ofRead : Option (List UInt8) → Except Exn Data
  | some buffer => fromTunData buffer
  | none => .error (.toxTunError "Reading from TUN returns -1")

def fromIpPostfix (subnet ipPostfix : UInt8) : Data :=
  setToxHeader ⟨0, [subnet, ipPostfix], false⟩ .ipProposal

def fromPacketId (id : PacketId) : Data := setToxHeader ⟨0, [], false⟩ id

def getToxHeader (d : Data) : Except Exn PacketId :=
  if d.toxHeaderSet then .ok (PacketId.ofByte d.header)
  else .error (.toxTunError "ToxHeader not set for Data package (1)")

def getIpData (d : Data) : Except Exn (List UInt8) :=
  if d.size < 2 then
    .error (.toxTunError "Trying to access IpData in Data packet of length 1")
  else .ok d.body

def getIpDataLen (d : Data) : Nat := d.size - 1

def getToxDataLen (d : Data) : Nat := d.size

/-- The two checks shared by the address getters, then the byte asked for. -/
def ipByte (d : Data) (i : Nat) : Except Exn UInt8 := do
  let h ← d.getToxHeader
  if h ≠ .ipProposal then
    .error (.toxTunError "Requesting IP from a non IP Packet")
  else if d.size ≠ 3 then
    .error (.toxTunError "Ip Packet has invalid size")
  else d.at? i

def getIpPostfix (d : Data) : Except Exn UInt8 := d.ipByte 2

def getIpSubnet (d : Data) : Except Exn UInt8 := d.ipByte 1

def getSendTox (d : Data) : Except Exn SendTox := do
  let h := (← d.getToxHeader).toByte
  if 200 ≤ h ∧ h ≤ 254 then .ok .lossy
  else if 160 ≤ h ∧ h ≤ 191 then .ok .lossless
  else .error (.toxTunError "Called getSendTox(), but toxHeader not in range")

@[simp] theorem getToxHeader_mk (h : UInt8) (b : List UInt8) :
    (⟨h, b, true⟩ : Data).getToxHeader = .ok (PacketId.ofByte h) := rfl

theorem getToxHeader_of_set {d : Data} (h : d.toxHeaderSet = true) :
    d.getToxHeader = .ok (PacketId.ofByte d.header) := by simp [getToxHeader, h]

@[simp] theorem fromPacketId_getToxHeader (id : PacketId) :
    (fromPacketId id).getToxHeader = .ok (PacketId.ofByte id.toByte) := rfl

theorem fromTunData_of_ne_nil {buffer : List UInt8} (frame : buffer ≠ []) :
    fromTunData buffer = .ok (tunData buffer) := if_neg frame

@[simp] theorem fromIpPostfix_getToxHeader (subnet ipPostfix : UInt8) :
    (fromIpPostfix subnet ipPostfix).getToxHeader = .ok .ipProposal := rfl

@[simp] theorem tunData_getToxHeader (buffer : List UInt8) :
    (tunData buffer).getToxHeader = .ok .data := rfl

@[simp] theorem fromIpPostfix_getIpSubnet (subnet ipPostfix : UInt8) :
    (fromIpPostfix subnet ipPostfix).getIpSubnet = .ok subnet := rfl

@[simp] theorem fromIpPostfix_getIpPostfix (subnet ipPostfix : UInt8) :
    (fromIpPostfix subnet ipPostfix).getIpPostfix = .ok ipPostfix := rfl

/-- The address getters fail on every proposal that is not three bytes long,
always with `ToxTunError`. -/
theorem ipByte_of_size_ne {d : Data} (set : d.toxHeaderSet = true)
    (header : PacketId.ofByte d.header = .ipProposal) (size : d.size ≠ 3) (i : Nat) :
    d.ipByte i = .error (.toxTunError "Ip Packet has invalid size") := by
  simp [ipByte, getToxHeader_of_set set, header, size, bind, Except.bind]

theorem ipBytes_of_size {d : Data} (set : d.toxHeaderSet = true)
    (header : PacketId.ofByte d.header = .ipProposal) (size : d.size = 3) :
    ∃ subnet ipPostfix, d.body = [subnet, ipPostfix] ∧ d.getIpSubnet = .ok subnet ∧
      d.getIpPostfix = .ok ipPostfix := by
  obtain ⟨h, body, s⟩ := d
  simp only at set header
  subst set
  match body, size with
  | [subnet, ipPostfix], _ =>
      refine ⟨subnet, ipPostfix, rfl, ?_, ?_⟩ <;>
        simp [getIpSubnet, getIpPostfix, ipByte, header, at?, bytes, bind, Except.bind]

end Data

end LibToxTun
