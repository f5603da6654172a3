import LibToxTun.Foundation.Run
import LibToxTun.Data.Reassembly
import LibToxTun.Connection.Machine

/-! # Reading from the TAP device on Windows

`TunWin` has one buffer, one length and one `OVERLAPPED` for all its reads. The
driver places the frames of a stream in the buffer, one for each read: at once, or
at a later moment while the read is queued, which may lie within the copy that
`getDataBackend` makes of the buffer.
-/

namespace LibToxTun

open Foundation Foundation.Action

inductive ReadState where
  | idle
  | queued
  | ready
deriving DecidableEq, Repr

/-- `OVERLAPPED` as the driver leaves it; zeroed memory reads as completed. -/
inductive Overlapped where
  | pending
  | completed (length : Nat)
  | failed
deriving DecidableEq, Repr

/-- What `ReadFile` answers. -/
inductive ReadStatus where
  | finished
  | ioPending
  | failed
deriving DecidableEq, Repr

/-- An ethernet frame with its header. -/
structure EtherFrame where
  bytes : List UInt8
  header : 14 ≤ bytes.length
  fits : bytes.length ≤ 1500 + 18

theorem EtherFrame.ne_nil (frame : EtherFrame) : frame.bytes ≠ [] :=
  List.ne_nil_of_length_pos (Nat.zero_lt_of_lt frame.header)

/-- `uint8_t readBuffer[1500 + 18]`. -/
structure ReadBuffer where
  bytes : List UInt8
  size : bytes.length = 1500 + 18

def ReadBuffer.place (buffer : ReadBuffer) (frame : EtherFrame) : ReadBuffer where
  bytes := Data.overwrite buffer.bytes 0 frame.bytes
  size := by
    rw [overwrite_length (by rw [buffer.size]; have := frame.fits; omega), buffer.size]

/-- The members of `TunWin` that reading uses, and the number of frames the driver
has placed. -/
structure TunWin where
  readBuffer : ReadBuffer
  bytesRead : Nat
  readState : ReadState
  overlappedRead : Overlapped
  placed : Nat

namespace TunWin

/-- The constructor leaves the buffer as it finds it. -/
def create (readBuffer : ReadBuffer) : TunWin := ⟨readBuffer, 0, .idle, .completed 0, 0⟩

section
variable (frames : Nat → EtherFrame)

/-- The driver places the next frame. -/
def place (t : TunWin) : TunWin :=
  { t with
    readBuffer := t.readBuffer.place (frames t.placed)
    overlappedRead := .completed (frames t.placed).bytes.length
    placed := t.placed + 1 }

/-- A read that is pending completes. -/
def complete (t : TunWin) : TunWin :=
  if t.overlappedRead = .pending then t.place frames else t

def readFile (status : ReadStatus) : Code TunWin Unit :=
  modify fun t =>
    match status with
    | .finished => t.place frames
    | .ioPending => { t with overlappedRead := .pending }
    | .failed => t

def setBytesRead : Code TunWin Unit := do
  match ← read TunWin.overlappedRead with
  | .completed length => modify fun t => { t with bytesRead := length }
  | .pending => modify fun t => { t with readState := .queued }
  | .failed => throw (.toxTunError "Error while calling GetOverlappedResult")

def queueRead (status : ReadStatus) : Code TunWin Unit := do
  modify fun t => { t with overlappedRead := .completed 0 }
  readFile frames status
  match status with
  | .finished =>
      setBytesRead
      modify fun t => { t with readState := .ready }
  | .ioPending => modify fun t => { t with readState := .queued }
  | .failed => throw (.toxTunError "ReadFile failed")

def hasOverlappedIoCompleted (o : Overlapped) : Bool := o != .pending

def dataPending (status : ReadStatus) : Code TunWin Bool := do
  match ← read TunWin.readState with
  | .queued =>
      if hasOverlappedIoCompleted (← read TunWin.overlappedRead) then
        setBytesRead
        modify fun t => { t with readState := .ready }
        pure true
      else pure false
  | .idle =>
      queueRead frames status
      read fun t => t.readState == .ready
  | .ready => pure true

/-- The bytes of the buffer that count. -/
def content (t : TunWin) : List UInt8 := t.readBuffer.bytes.take t.bytesRead

/-- The copy of `tunData`. A pending read may complete after some bytes have
been copied. -/
def copyBuffer : Option Nat → Code TunWin (List UInt8)
  | none => read content
  | some copied => do
      let front ← read fun t => t.content.take copied
      modify (complete frames)
      let back ← read fun t => t.content.drop copied
      pure (front ++ back)

/-- The next read is queued before the buffer of the last one is copied. -/
def getDataBackend (status : ReadStatus) (torn : Option Nat) : Code TunWin Data := do
  if (← read TunWin.readState) ≠ .ready then
    throw (.toxTunError "Wrong readState in getData")
  else
    modify fun t => { t with readState := .idle }
    queueRead frames status
    let buffer ← copyBuffer frames torn
    ofExcept (Data.fromTunData buffer)

end

end TunWin

/-- What happens to the device: the driver completes a read, or one of the functions
is called and starts a read that is finished at once or not, in `getDataBackend`
possibly after some bytes of the copy. -/
inductive TunCall where
  | complete
  | dataPending (atOnce : Bool)
  | getDataBackend (atOnce : Bool) (torn : Option Nat)
deriving DecidableEq, Repr

def readStatus (atOnce : Bool) : ReadStatus := if atOnce then .finished else .ioPending

/-- The device and the frames that `getDataBackend` has returned. -/
structure Reading where
  tun : TunWin
  returned : List Data

namespace Reading

def start (readBuffer : ReadBuffer) : Reading := ⟨.create readBuffer, []⟩

def collect (r : Reading) : Outcome Exn TunWin Data → Reading
  | .returned data t => ⟨t, r.returned ++ [data]⟩
  | o => ⟨o.state, r.returned⟩

def step (frames : Nat → EtherFrame) (r : Reading) : TunCall → Reading
  | .complete => ⟨r.tun.complete frames, r.returned⟩
  | .dataPending atOnce =>
      ⟨(TunWin.dataPending frames (readStatus atOnce) r.tun).state, r.returned⟩
  | .getDataBackend atOnce torn =>
      r.collect (TunWin.getDataBackend frames (readStatus atOnce) torn r.tun)

def run (frames : Nat → EtherFrame) (readBuffer : ReadBuffer) (calls : List TunCall) : Reading :=
  calls.foldl (step frames) (start readBuffer)

end Reading

namespace TunWin

/-- The length of a frame that is in the buffer and has not been returned. -/
def held (t : TunWin) : Option Nat :=
  match t.readState, t.overlappedRead with
  | .ready, _ => some t.bytesRead
  | .queued, .completed length => some length
  | _, _ => none

def waiting (t : TunWin) : List Data :=
  t.held.toList.map fun length => Data.tunData (t.readBuffer.bytes.take length)

end TunWin

/-- The first frames of the driver's stream, as packets. -/
def stream (frames : Nat → EtherFrame) (n : Nat) : List Data :=
  (List.range n).map fun i => Data.tunData (frames i).bytes

/-- The frames that the driver has placed are the ones returned and one that may
wait in the buffer, each once, unaltered and in order. -/
def Reading.Faithful (frames : Nat → EtherFrame) (r : Reading) : Prop :=
  r.returned ++ r.tun.waiting = stream frames r.tun.placed

/-- A read that `getDataBackend` starts changes nothing that is still to be copied: it
is finished at once by the frame that is in the buffer, or it is pending and what it
places before the end of the copy are the bytes that stand there. -/
def TunCall.Timely (frames : Nat → EtherFrame) (t : TunWin) : TunCall → Prop
  | .getDataBackend true _ => t.readState = .ready → (frames t.placed).bytes = t.content
  | .getDataBackend false torn => t.readState = .ready → ∀ copied ∈ torn,
      ((t.place frames).readBuffer.bytes.take t.bytesRead).drop copied = t.content.drop copied
  | _ => True

section
variable {frames : Nat → EtherFrame}

@[simp] theorem ReadBuffer.take_place (buffer : ReadBuffer) (frame : EtherFrame) :
    (buffer.place frame).bytes.take frame.bytes.length = frame.bytes := by
  simp [ReadBuffer.place, Data.overwrite]

theorem tunData_injective : Function.Injective Data.tunData := by
  intro l m h
  simpa [Data.tunData, Data.setToxHeader] using h

/-- The four ways in which the members of a device go together. -/
inductive TunWin.Sound (frames : Nat → EtherFrame) : TunWin → Prop where
  | idle {buffer : ReadBuffer} {length placed : Nat} :
      Sound frames ⟨buffer, length, .idle, .completed 0, placed⟩
  | pending {buffer : ReadBuffer} {length placed : Nat} :
      Sound frames ⟨buffer, length, .queued, .pending, placed⟩
  | finished {buffer : ReadBuffer} {length placed : Nat} :
      Sound frames ⟨buffer.place (frames placed), length, .queued,
        .completed (frames placed).bytes.length, placed + 1⟩
  | ready {buffer : ReadBuffer} {placed : Nat} :
      Sound frames ⟨buffer.place (frames placed), (frames placed).bytes.length, .ready,
        .completed (frames placed).bytes.length, placed + 1⟩

namespace TunWin

theorem queueRead_finished (t : TunWin) :
    queueRead frames (readStatus true) t =
      .returned () ⟨t.readBuffer.place (frames t.placed), (frames t.placed).bytes.length, .ready,
        .completed (frames t.placed).bytes.length, t.placed + 1⟩ := rfl

theorem queueRead_pending (t : TunWin) :
    queueRead frames (readStatus false) t =
      .returned () ⟨t.readBuffer, t.bytesRead, .queued, .pending, t.placed⟩ := rfl

theorem getDataBackend_unready {t : TunWin} (unready : t.readState ≠ .ready)
    (status : ReadStatus) (torn : Option Nat) :
    getDataBackend frames status torn t =
      .thrown (.toxTunError "Wrong readState in getData") t := by
  simp [getDataBackend, unready]

theorem copyBuffer_finished {t : TunWin} (settled : t.overlappedRead ≠ .pending)
    (torn : Option Nat) : copyBuffer frames torn t = .returned t.content t := by
  cases torn with
  | none => rfl
  | some copied => simp [copyBuffer, complete, settled, List.take_append_drop]

/-- A read that is finished at once stands in the buffer before the copy is made. -/
theorem getDataBackend_finished {t : TunWin} (ready : t.readState = .ready) (torn : Option Nat) :
    getDataBackend frames (readStatus true) torn t =
      .returned (Data.tunData (frames t.placed).bytes)
        ⟨t.readBuffer.place (frames t.placed), (frames t.placed).bytes.length, .ready,
          .completed (frames t.placed).bytes.length, t.placed + 1⟩ := by
  simp only [getDataBackend, bind_apply, read_apply, Outcome.andThen_returned, ready, ne_eq,
    not_true_eq_false, if_false, modify_apply, queueRead_finished]
  rw [copyBuffer_finished (by simp)]
  simp [content, Data.fromTunData_of_ne_nil (EtherFrame.ne_nil _)]

theorem getDataBackend_queued {t : TunWin} (ready : t.readState = .ready) (held : t.content ≠ []) :
    getDataBackend frames (readStatus false) none t =
      .returned (Data.tunData t.content)
        ⟨t.readBuffer, t.bytesRead, .queued, .pending, t.placed⟩ := by
  simp only [getDataBackend, bind_apply, read_apply, Outcome.andThen_returned, ready, ne_eq,
    not_true_eq_false, if_false, modify_apply, queueRead_pending]
  simp only [copyBuffer, read_apply, Outcome.andThen_returned]
  rw [show TunWin.content ⟨t.readBuffer, t.bytesRead, .queued, .pending, t.placed⟩ = t.content from rfl,
    Data.fromTunData_of_ne_nil held, ofExcept_ok]

/-- A copy has as many bytes as count, wherever it is torn. -/
theorem torn_ne_nil {t : TunWin} (held : t.content ≠ []) (frame : EtherFrame) (copied : Nat) :
    t.content.take copied ++ ((t.readBuffer.place frame).bytes.take t.bytesRead).drop copied ≠ [] := by
  have size : 0 < t.content.length := List.length_pos_iff.mpr held
  refine List.ne_nil_of_length_pos ?_
  simp only [content, List.length_take, List.length_append, List.length_drop, ReadBuffer.size] at size ⊢
  omega

/-- A read that completes within the copy: the front is the old frame's, the back is
what the buffer holds then. -/
theorem getDataBackend_torn {t : TunWin} (ready : t.readState = .ready) (held : t.content ≠ [])
    (copied : Nat) :
    getDataBackend frames (readStatus false) (some copied) t =
      .returned (Data.tunData (t.content.take copied ++
          ((t.place frames).readBuffer.bytes.take t.bytesRead).drop copied))
        ⟨t.readBuffer.place (frames t.placed), t.bytesRead, .queued,
          .completed (frames t.placed).bytes.length, t.placed + 1⟩ := by
  simp only [getDataBackend, bind_apply, read_apply, Outcome.andThen_returned, ready, ne_eq,
    not_true_eq_false, if_false, modify_apply, queueRead_pending]
  exact congrArg (fun read => ofExcept read _) (Data.fromTunData_of_ne_nil (torn_ne_nil held _ copied))

end TunWin

theorem TunWin.Sound.content_of_ready {t : TunWin} (sound : t.Sound frames)
    (ready : t.readState = .ready) : ∃ n, t.placed = n + 1 ∧ t.content = (frames n).bytes := by
  cases sound with
  | idle => cases ready
  | pending => cases ready
  | finished => cases ready
  | @ready buffer placed => exact ⟨placed, rfl, buffer.take_place _⟩

theorem TunWin.Sound.content_ne_nil {t : TunWin} (sound : t.Sound frames)
    (ready : t.readState = .ready) : t.content ≠ [] := by
  obtain ⟨n, -, content⟩ := sound.content_of_ready ready
  exact content ▸ (frames n).ne_nil

theorem TunWin.waiting_of_ready {t : TunWin} (ready : t.readState = .ready) :
    t.waiting = [Data.tunData t.content] := by
  simp [waiting, held, ready, content]

namespace Reading

theorem append_stream {l : List Data} {d : Data} {n : Nat} :
    l ++ [d] = stream frames (n + 1) ↔
      l = stream frames n ∧ d = Data.tunData (frames n).bytes := by
  rw [stream, List.range_succ, List.map_append, List.map_singleton]
  constructor
  · intro h
    obtain ⟨front, back⟩ := List.append_inj' h rfl
    exact ⟨front, by simpa using back⟩
  · rintro ⟨rfl, rfl⟩
    rfl

section
variable {buffer : ReadBuffer} {length n : Nat} {o : Overlapped} {returned : List Data}

theorem faithful_ready :
    Faithful frames ⟨⟨buffer.place (frames n), (frames n).bytes.length, .ready, o, n + 1⟩, returned⟩ ↔
      returned = stream frames n := by
  simp [Faithful, TunWin.waiting, TunWin.held, append_stream]

theorem faithful_finished :
    Faithful frames ⟨⟨buffer.place (frames n), length, .queued,
      .completed (frames n).bytes.length, n + 1⟩, returned⟩ ↔ returned = stream frames n := by
  simp [Faithful, TunWin.waiting, TunWin.held, append_stream]

theorem faithful_pending :
    Faithful frames ⟨⟨buffer, length, .queued, .pending, n⟩, returned⟩ ↔
      returned = stream frames n := by
  simp [Faithful, TunWin.waiting, TunWin.held]

theorem faithful_idle :
    Faithful frames ⟨⟨buffer, length, .idle, o, n⟩, returned⟩ ↔ returned = stream frames n := by
  simp [Faithful, TunWin.waiting, TunWin.held]

end

theorem complete_sound {t : TunWin} (sound : t.Sound frames) : (t.complete frames).Sound frames := by
  cases sound with
  | idle => exact .idle
  | pending => exact .finished
  | finished => exact .finished
  | ready => exact .ready

theorem complete_faithful {r : Reading} (sound : r.tun.Sound frames) :
    (r.step frames .complete).Faithful frames ↔ r.Faithful frames := by
  obtain ⟨t, returned⟩ := r
  cases sound with
  | idle => rfl
  | pending => exact faithful_finished.trans faithful_pending.symm
  | finished => rfl
  | ready => rfl

theorem dataPending_sound {t : TunWin} (sound : t.Sound frames) (atOnce : Bool) :
    (TunWin.dataPending frames (readStatus atOnce) t).state.Sound frames := by
  cases sound with
  | idle =>
      cases atOnce with
      | true => exact .ready
      | false => exact .pending
  | pending => exact .pending
  | finished => exact .ready
  | ready => exact .ready

theorem dataPending_faithful {r : Reading} (sound : r.tun.Sound frames) (atOnce : Bool) :
    (r.step frames (.dataPending atOnce)).Faithful frames ↔ r.Faithful frames := by
  obtain ⟨t, returned⟩ := r
  cases sound with
  | idle =>
      cases atOnce with
      | true => exact faithful_ready.trans faithful_idle.symm
      | false => exact faithful_pending.trans faithful_idle.symm
  | pending => rfl
  | finished => exact faithful_ready.trans faithful_finished.symm
  | ready => rfl

theorem getDataBackend_sound {r : Reading} (sound : r.tun.Sound frames) (atOnce : Bool)
    (torn : Option Nat) : (r.step frames (.getDataBackend atOnce torn)).tun.Sound frames := by
  by_cases ready : r.tun.readState = .ready
  · have held : r.tun.content ≠ [] := sound.content_ne_nil ready
    cases atOnce with
    | true =>
        simp only [step, TunWin.getDataBackend_finished ready, collect]
        exact .ready
    | false =>
        cases torn with
        | none =>
            simp only [step, TunWin.getDataBackend_queued ready held, collect]
            exact .pending
        | some copied =>
            simp only [step, TunWin.getDataBackend_torn ready held, collect]
            exact .finished
  · simp only [step, TunWin.getDataBackend_unready ready, collect]
    exact sound

/-- What the calls return and what waits stays right exactly when the read that is
started here comes in time. -/
theorem getDataBackend_faithful {r : Reading} (sound : r.tun.Sound frames) (atOnce : Bool)
    (torn : Option Nat) :
    (r.step frames (.getDataBackend atOnce torn)).Faithful frames ↔
      r.Faithful frames ∧ (TunCall.getDataBackend atOnce torn).Timely frames r.tun := by
  by_cases ready : r.tun.readState = .ready
  · obtain ⟨n, placed, content⟩ := sound.content_of_ready ready
    have held : r.tun.content ≠ [] := sound.content_ne_nil ready
    have before : r.Faithful frames ↔ r.returned = stream frames n := by
      rw [Faithful, TunWin.waiting_of_ready ready, placed, content, append_stream]
      simp
    rw [before]
    cases atOnce with
    | true =>
        rw [step, TunWin.getDataBackend_finished ready, collect, faithful_ready, placed, append_stream,
          tunData_injective.eq_iff, TunCall.Timely, placed, content]
        simp [ready]
    | false =>
        cases torn with
        | none =>
            rw [step, TunWin.getDataBackend_queued ready held, collect, faithful_pending, placed, append_stream,
              content, TunCall.Timely]
            simp
        | some copied =>
            have back (l : List UInt8) : r.tun.content.take copied ++ l = (frames n).bytes ↔
                l = r.tun.content.drop copied := by
              rw [← content]
              conv_lhs => rhs; rw [← List.take_append_drop copied r.tun.content]
              exact List.append_right_inj _
            rw [step, TunWin.getDataBackend_torn ready held, collect, faithful_finished, placed, append_stream,
              tunData_injective.eq_iff, back, TunCall.Timely]
            simp [ready]
  · have silent : r.step frames (.getDataBackend atOnce torn) = r := by
      simp [step, TunWin.getDataBackend_unready ready, collect]
    rw [silent]
    cases atOnce <;> simp [TunCall.Timely, ready]

theorem step_sound {r : Reading} (sound : r.tun.Sound frames) (c : TunCall) :
    (r.step frames c).tun.Sound frames := by
  cases c with
  | complete => exact complete_sound sound
  | dataPending atOnce => exact dataPending_sound sound atOnce
  | getDataBackend atOnce torn => exact getDataBackend_sound sound atOnce torn

theorem step_faithful {r : Reading} (sound : r.tun.Sound frames) (c : TunCall) :
    (r.step frames c).Faithful frames ↔ r.Faithful frames ∧ c.Timely frames r.tun := by
  cases c with
  | complete => simp [complete_faithful sound, TunCall.Timely]
  | dataPending atOnce => simp [dataPending_faithful sound, TunCall.Timely]
  | getDataBackend atOnce torn => exact getDataBackend_faithful sound atOnce torn

theorem run_append_singleton (readBuffer : ReadBuffer) (calls : List TunCall) (c : TunCall) :
    run frames readBuffer (calls ++ [c]) = (run frames readBuffer calls).step frames c :=
  List.foldl_concat _ _ _ _

theorem run_sound (readBuffer : ReadBuffer) (calls : List TunCall) :
    (run frames readBuffer calls).tun.Sound frames := by
  induction calls using List.reverseRecOn with
  | nil => exact .idle
  | append_singleton calls c ih =>
      rw [run_append_singleton]
      exact step_sound ih c

end Reading

/-- Reads lose, repeat or alter a frame exactly in the runs in which a read that
`getDataBackend` started changed what was still to be copied. -/
theorem reads_faithful_iff (frames : Nat → EtherFrame) (readBuffer : ReadBuffer)
    (calls : List TunCall) :
    (Reading.run frames readBuffer calls).Faithful frames ↔
      ∀ before c after, calls = before ++ c :: after →
        c.Timely frames (Reading.run frames readBuffer before).tun := by
  induction calls using List.reverseRecOn with
  | nil =>
      have empty : (Reading.run frames readBuffer []).Faithful frames := rfl
      simp [empty]
  | append_singleton calls c ih =>
      rw [Reading.run_append_singleton, Reading.step_faithful (Reading.run_sound _ _), ih]
      exact forall_places_concat.symm

end

instance (frames : Nat → EtherFrame) (r : Reading) : Decidable (r.Faithful frames) :=
  inferInstanceAs (Decidable (_ = _))

/-- Headers, with the number of the frame as their first byte. -/
def numberedFrames (i : Nat) : EtherFrame where
  bytes := UInt8.ofNat i :: List.replicate 13 0
  header := by simp
  fits := by simp

def zeroedBuffer : ReadBuffer := ⟨List.replicate (1500 + 18) 0, List.length_replicate⟩

/-- The read that `getDataBackend` starts is finished at once: frame 0 is lost, and
frame 1 is returned for it and then once more. -/
theorem frame_lost_and_repeated :
    (Reading.run numberedFrames zeroedBuffer [.dataPending true, .getDataBackend true none,
        .dataPending true, .getDataBackend false none]).returned =
      [Data.tunData (numberedFrames 1).bytes, Data.tunData (numberedFrames 1).bytes] ∧
    ¬ (Reading.run numberedFrames zeroedBuffer
        [.dataPending true, .getDataBackend true none]).Faithful numberedFrames := by
  decide +kernel

/-- Reads that stay pending until the copy is made return the frames in order. -/
example : (Reading.run numberedFrames zeroedBuffer [.dataPending true, .getDataBackend false none,
      .complete, .dataPending false, .getDataBackend false none]).returned =
    [Data.tunData (numberedFrames 0).bytes, Data.tunData (numberedFrames 1).bytes] := by
  decide +kernel

end LibToxTun
