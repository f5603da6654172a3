import LibToxTun.Core.Polling
import LibToxTun.Tun.Windows

/-! # Reading from the device of a connection on Windows

The loop of `Connection::iterate` over a TAP device that has one read outstanding. A read
that fails while the loop looks for data throws out of a function that must not throw; one
that fails after a frame has come drops the frame. Every other frame goes to the filter
once, as long as no read is finished before the frame of the last one has been copied.
-/

namespace LibToxTun

open Foundation Foundation.Action

/-- What has become of a read that is pending. -/
inductive DriverEvent where
  | waits
  | completes
  | fails
deriving DecidableEq, Repr

/-- What the driver does, by the clock: what becomes of a read that is pending, what
`ReadFile` answers to `dataPending` and to `getDataBackend`, and after how many bytes of the
copy the read that the latter starts is finished. -/
structure Driver where
  event : Nat → DriverEvent
  first : Nat → ReadStatus
  next : Nat → ReadStatus
  torn : Nat → Option Nat

/-- The read that `getDataBackend` starts is not finished before the copy has been made. -/
def Driver.Timely (R : Driver) : Prop := ∀ n, R.next n ≠ .finished ∧ R.torn n = none

/-- A device, and how often its functions were called. -/
structure WinReads where
  tun : TunWin
  clock : Nat

/-! ## The device between two calls -/

namespace TunWin

def driven (frames : Nat → EtherFrame) (t : TunWin) : DriverEvent → TunWin
  | .waits => t
  | .completes => t.complete frames
  | .fails => if t.overlappedRead = .pending then { t with overlappedRead := .failed } else t

/-- A device in order, or one whose read has failed. -/
inductive Able (frames : Nat → EtherFrame) : TunWin → Prop where
  | sound {t : TunWin} (sound : t.Sound frames) : Able frames t
  | failed {buffer : ReadBuffer} {length placed : Nat} :
      Able frames ⟨buffer, length, .queued, .failed, placed⟩

/-- Looking for data throws when `ReadFile` fails, or the read that it started before. -/
def Breaks (t : TunWin) (first : ReadStatus) : Prop :=
  (t.readState = .idle ∧ first = .failed) ∨ (t.readState = .queued ∧ t.overlappedRead = .failed)

/-- The frames that the driver has placed and that do not wait in the buffer. -/
def consumed (t : TunWin) : Nat := t.placed - t.held.toList.length

section
variable {frames : Nat → EtherFrame} {t : TunWin}

theorem driven_able (sound : t.Sound frames) (event : DriverEvent) :
    (t.driven frames event).Able frames := by
  cases event with
  | waits => exact .sound sound
  | completes => exact .sound (Reading.complete_sound sound)
  | fails =>
      cases sound with
      | pending => exact .failed
      | idle => exact .sound .idle
      | finished => exact .sound .finished
      | ready => exact .sound .ready

theorem driven_consumed (sound : t.Sound frames) (event : DriverEvent) :
    (t.driven frames event).consumed = t.consumed := by
  cases sound <;> cases event <;> rfl

theorem driven_of_ready (sound : t.Sound frames) (ready : t.readState = .ready) (event : DriverEvent) :
    t.driven frames event = t := by
  cases sound with
  | ready => cases event <;> rfl
  | idle => cases ready
  | pending => cases ready
  | finished => cases ready

theorem queueRead_ends (t : TunWin) (status : ReadStatus) :
    (∃ t', queueRead frames status t = .returned () t') ∨
      ∃ what t', queueRead frames status t = .thrown (.toxTunError what) t' := by
  cases status with
  | finished => exact .inl ⟨_, rfl⟩
  | ioPending => exact .inl ⟨_, rfl⟩
  | failed => exact .inr ⟨_, _, rfl⟩

theorem dataPending_ends (t : TunWin) (first : ReadStatus) :
    (∃ b t', dataPending frames first t = .returned b t') ∨
      ∃ what t', dataPending frames first t = .thrown (.toxTunError what) t' := by
  obtain ⟨buffer, length, readState, overlapped, placed⟩ := t
  cases readState with
  | idle =>
      rcases @queueRead_ends frames ⟨buffer, length, .idle, overlapped, placed⟩ first with
        ⟨t', queued⟩ | ⟨what, t', failed⟩
      · exact .inl ⟨t'.readState == .ready, t', by simp [dataPending, queued]⟩
      · exact .inr ⟨what, t', by simp [dataPending, failed]⟩
  | queued =>
      cases overlapped with
      | pending => exact .inl ⟨_, _, rfl⟩
      | completed => exact .inl ⟨_, _, rfl⟩
      | failed => exact .inr ⟨_, _, rfl⟩
  | ready => exact .inl ⟨_, _, rfl⟩

theorem copyBuffer_ends (t : TunWin) (torn : Option Nat) :
    ∃ buffer t', copyBuffer frames torn t = .returned buffer t' := by
  cases torn <;> exact ⟨_, _, rfl⟩

theorem getDataBackend_ends (t : TunWin) (status : ReadStatus) (torn : Option Nat) :
    (∃ frame t', frame ≠ [] ∧
      getDataBackend frames status torn t = .returned (Data.tunData frame) t') ∨
      ∃ e t', getDataBackend frames status torn t = .thrown e t' := by
  by_cases ready : t.readState = .ready
  · rcases @queueRead_ends frames { t with readState := .idle } status with
      ⟨t', queued⟩ | ⟨what, t', failed⟩
    · obtain ⟨buffer, t'', copied⟩ := @copyBuffer_ends frames t' torn
      have copy : getDataBackend frames status torn t = ofExcept (Data.fromTunData buffer) t'' := by
        simp only [getDataBackend, bind_apply, read_apply, Outcome.andThen_returned, ready, ne_eq,
          not_true_eq_false, if_false, modify_apply, queued, copied]
      by_cases empty : buffer = []
      · subst empty
        exact .inr ⟨.outOfRange, t'', copy⟩
      · rw [Data.fromTunData_of_ne_nil empty, ofExcept_ok] at copy
        exact .inl ⟨buffer, t'', empty, copy⟩
    · exact .inr ⟨.toxTunError what, t', by simp [getDataBackend, ready, failed]⟩
  · exact .inr ⟨_, t, getDataBackend_unready ready status torn⟩

/-- Looking for data takes no frame, and leaves a device in order or throws. -/
theorem dataPending_able (able : t.Able frames) (first : ReadStatus) :
    (∃ t', dataPending frames first t = .returned (t'.readState == .ready) t' ∧ t'.Sound frames ∧
      ¬ t'.Breaks first ∧ t'.consumed = t.consumed) ∨
    ∃ what t', dataPending frames first t = .thrown (.toxTunError what) t' ∧ t'.Breaks first ∧
      t'.consumed = t.consumed := by
  cases able with
  | sound sound =>
      cases sound with
      | idle =>
          cases first with
          | finished => exact .inl ⟨_, rfl, .ready, by simp [Breaks], rfl⟩
          | ioPending => exact .inl ⟨_, rfl, .pending, by simp [Breaks], rfl⟩
          | failed => exact .inr ⟨_, _, rfl, .inl ⟨rfl, rfl⟩, rfl⟩
      | pending => exact .inl ⟨_, rfl, .pending, by simp [Breaks], rfl⟩
      | finished => exact .inl ⟨_, rfl, .ready, by simp [Breaks], rfl⟩
      | ready => exact .inl ⟨_, rfl, .ready, by simp [Breaks], rfl⟩
  | failed => exact .inr ⟨_, _, rfl, .inr ⟨rfl, rfl⟩, rfl⟩

/-- The frame that waits is taken: it is returned, or dropped when the next read fails. -/
theorem getDataBackend_takes (sound : t.Sound frames) (ready : t.readState = .ready)
    {status : ReadStatus} (later : status ≠ .finished) :
    ∃ t', t'.Sound frames ∧ t'.consumed = t.consumed + 1 ∧
      if status = .failed then
        getDataBackend frames status none t = .thrown (.toxTunError "ReadFile failed") t'
      else getDataBackend frames status none t =
        .returned (Data.tunData (frames t.consumed).bytes) t' := by
  have held := sound.content_ne_nil ready
  cases sound with
  | idle => cases ready
  | pending => cases ready
  | finished => cases ready
  | @ready buffer placed =>
      cases status with
      | finished => exact (later rfl).elim
      | ioPending =>
          refine ⟨⟨buffer.place (frames placed), (frames placed).bytes.length, .queued, .pending,
            placed + 1⟩, .pending, rfl, ?_⟩
          refine (getDataBackend_queued rfl held).trans ?_
          rw [content, ReadBuffer.take_place]
          rfl
      | failed =>
          exact ⟨⟨buffer.place (frames placed), (frames placed).bytes.length, .idle, .completed 0,
            placed + 1⟩, .idle, rfl, rfl⟩

end

end TunWin

/-! ## What the device gives -/

namespace Polling

section
variable (frames : Nat → EtherFrame) (R : Driver) (toxUdpPort : UInt16) (beyond : Nat → UInt8)
  (late : Nat → Bool)

/-- What the driver has done shows when a function of the device is called. -/
def onWindows {α : Type} (a : Nat → Code TunWin α) : Code WinReads α := fun d =>
  (a d.clock (d.tun.driven frames (R.event d.clock))).mapState fun t => ⟨t, d.clock + 1⟩

/-- `late` tells by the clock whether the time is over. -/
def windows : Source WinReads where
  dataPending := onWindows frames R fun n => TunWin.dataPending frames (R.first n)
  getData := onWindows frames R fun n =>
    TunInterface.getData toxUdpPort beyond (TunWin.getDataBackend frames (R.next n) (R.torn n))
  late d := late d.clock

/-- The result of the read of frame `n`, which is dropped when the next read could not be
started, or by the filter. -/
def given (n : Nat) (started : Bool) : Option (List UInt8) :=
  if started && TunInterface.passes toxUdpPort beyond (Data.tunData (frames n).bytes) then
    some (frames n).bytes
  else none

/-- The results are those of the frames that were next, each read once. -/
def Took (d : WinReads) (reads : List (Option (List UInt8))) (d' : WinReads) : Prop :=
  ∃ started : List Bool,
    reads = started.mapIdx (fun i ok => given frames toxUdpPort beyond (d.tun.consumed + i) ok) ∧
    d'.tun.consumed = d.tun.consumed + started.length ∧
    (false ∈ started → ∃ n, R.next n = .failed)

theorem windows_sane : (windows frames R toxUdpPort beyond late).Sane where
  pending d := by
    rcases @TunWin.dataPending_ends frames (d.tun.driven frames (R.event d.clock))
        (R.first d.clock) with ⟨b, t, looked⟩ | ⟨what, t, failed⟩
    · exact .inl ⟨b, ⟨t, d.clock + 1⟩, by simp [windows, onWindows, looked]⟩
    · exact .inr ⟨what, ⟨t, d.clock + 1⟩, by simp [windows, onWindows, failed]⟩
  reads d := by
    simp only [windows, onWindows]
    rcases @TunWin.getDataBackend_ends frames (d.tun.driven frames (R.event d.clock))
        (R.next d.clock) (R.torn d.clock) with ⟨frame, t, bytes, read⟩ | ⟨e, t, failed⟩
    · rcases TunInterface.getData_returned toxUdpPort beyond read with ⟨-, passed⟩ | ⟨-, what, dropped⟩
      · exact .inl ⟨frame, ⟨t, d.clock + 1⟩, bytes, by rw [passed]; rfl⟩
      · exact .inr (.inl ⟨.toxTunError what, ⟨t, d.clock + 1⟩, by rw [dropped]; rfl⟩)
    · refine .inr (.inl ⟨e, ⟨t, d.clock + 1⟩, ?_⟩)
      rw [TunInterface.getData_thrown toxUdpPort beyond failed]
      rfl

end

/-- The last call of `dataPending` has thrown. -/
def Broken (R : Driver) (d : WinReads) : Prop :=
  ∃ n, d.clock = n + 1 ∧ d.tun.Breaks (R.first n)

section
variable {frames : Nat → EtherFrame} {R : Driver} (toxUdpPort : UInt16) (beyond : Nat → UInt8)
  (late : Nat → Bool) {d : WinReads}

/-- Looking for data that does not throw takes no frame and leaves a device in order. -/
theorem windows_looked (sound : d.tun.Sound frames) {b : Bool} {d' : WinReads}
    (looked : (windows frames R toxUdpPort beyond late).dataPending d = .returned b d') :
    d'.tun.Sound frames ∧ (b = true → d'.tun.readState = .ready) ∧ ¬ Broken R d' ∧
      d'.tun.consumed = d.tun.consumed := by
  simp only [windows, onWindows] at looked
  rcases TunWin.dataPending_able (TunWin.driven_able sound (R.event d.clock)) (R.first d.clock) with
    ⟨t, ends, sound', whole, kept⟩ | ⟨what, t, ends, -, -⟩
  · rw [ends, Outcome.mapState_returned, Outcome.returned.injEq] at looked
    obtain ⟨rfl, rfl⟩ := looked
    refine ⟨sound', beq_iff_eq.mp, ?_, kept.trans (TunWin.driven_consumed sound _)⟩
    rintro ⟨n, clock, breaks⟩
    cases clock
    exact whole breaks
  · rw [ends] at looked
    cases looked

theorem windows_broken (sound : d.tun.Sound frames) {e : Exn} {d' : WinReads}
    (looked : (windows frames R toxUdpPort beyond late).dataPending d = .thrown e d') :
    Broken R d' ∧ d'.tun.consumed = d.tun.consumed := by
  simp only [windows, onWindows] at looked
  rcases TunWin.dataPending_able (TunWin.driven_able sound (R.event d.clock)) (R.first d.clock) with
    ⟨t, ends, -, -, -⟩ | ⟨what, t, ends, breaks, kept⟩
  · rw [ends] at looked
    cases looked
  · rw [ends, Outcome.mapState_thrown, Outcome.thrown.injEq] at looked
    obtain ⟨rfl, rfl⟩ := looked
    exact ⟨⟨d.clock, rfl, breaks⟩, kept.trans (TunWin.driven_consumed sound _)⟩

/-- A read takes the frame that waits, of which the filter or a failure may leave nothing. -/
theorem windows_getData (timely : R.Timely) (sound : d.tun.Sound frames)
    (ready : d.tun.readState = .ready) : ∃ d' started, d'.tun.Sound frames ∧
      d'.tun.consumed = d.tun.consumed + 1 ∧ (started = false → R.next d.clock = .failed) ∧
      ((∃ frame, given frames toxUdpPort beyond d.tun.consumed started = some frame ∧
        (windows frames R toxUdpPort beyond late).getData d = .returned (Data.tunData frame) d') ∨
      given frames toxUdpPort beyond d.tun.consumed started = none ∧
        ∃ what, (windows frames R toxUdpPort beyond late).getData d = .thrown (.toxTunError what) d') := by
  obtain ⟨later, whole⟩ := timely d.clock
  obtain ⟨t, sound', consumed, takes⟩ := TunWin.getDataBackend_takes sound ready later
  simp only [windows, onWindows, TunWin.driven_of_ready sound ready, whole]
  by_cases failed : R.next d.clock = .failed
  · refine ⟨⟨t, d.clock + 1⟩, false, sound', consumed, fun _ => failed, .inr ⟨rfl, "ReadFile failed", ?_⟩⟩
    rw [if_pos failed] at takes
    rw [TunInterface.getData_thrown toxUdpPort beyond takes]
    rfl
  · refine ⟨⟨t, d.clock + 1⟩, true, sound', consumed, nofun, ?_⟩
    rw [if_neg failed] at takes
    rcases TunInterface.getData_returned toxUdpPort beyond takes with
      ⟨passes, passed⟩ | ⟨stopped, what, dropped⟩
    · exact .inl ⟨_, by rw [given, passes]; rfl, by rw [passed]; rfl⟩
    · exact .inr ⟨by rw [given, stopped]; rfl, what, by rw [dropped]; rfl⟩

theorem given_ne_empty (n : Nat) (started : Bool) : given frames toxUdpPort beyond n started ≠ some [] := by
  unfold given
  split
  · exact fun empty => (frames n).ne_nil (Option.some.inj empty)
  · exact nofun

theorem Took.whole {d' : WinReads} {reads : List (Option (List UInt8))}
    (took : Took frames R toxUdpPort beyond d reads d') : some [] ∉ reads := by
  obtain ⟨started, rfl, -, -⟩ := took
  intro empty
  obtain ⟨i, bound, same⟩ := List.mem_mapIdx.mp empty
  exact given_ne_empty toxUdpPort beyond _ _ same

theorem took_nil {d' : WinReads} (kept : d'.tun.consumed = d.tun.consumed) :
    Took frames R toxUdpPort beyond d [] d' := ⟨[], rfl, kept, nofun⟩

theorem Took.cons {d' d'' : WinReads} {reads : List (Option (List UInt8))} {started : Bool} {n : Nat}
    (consumed : d'.tun.consumed = d.tun.consumed + 1) (lost : started = false → R.next n = .failed)
    (took : Took frames R toxUdpPort beyond d' reads d'') :
    Took frames R toxUdpPort beyond d
      (given frames toxUdpPort beyond d.tun.consumed started :: reads) d'' := by
  obtain ⟨others, rfl, counts, failed⟩ := took
  refine ⟨started :: others, ?_, ?_, ?_⟩
  · simp only [List.mapIdx_cons, Nat.add_zero, consumed, Nat.add_assoc, Nat.add_comm 1]
  · rw [counts, consumed, List.length_cons, Nat.add_assoc, Nat.add_comm 1]
  · intro some
    rcases List.mem_cons.mp some with here | later
    · exact ⟨n, lost here.symm⟩
    · exact failed later

/-- Whatever the driver does, the results are those of the frames in their order. At the end
the device is in order, or looking for data has failed. -/
theorem windows_gives (timely : R.Timely) {reads : List (Option (List UInt8))}
    {o : Outcome Exn WinReads Unit} (gives : (windows frames R toxUdpPort beyond late).Gives d reads o)
    (sound : d.tun.Sound frames) :
    ∃ d', Took frames R toxUdpPort beyond d reads d' ∧
      ((o = .returned () d' ∧ d'.tun.Sound frames ∧ ¬ Broken R d') ∨
        ∃ e, o = .thrown e d' ∧ Broken R d') := by
  induction gives with
  | @quiet d d' pending =>
      obtain ⟨sound', -, whole, kept⟩ := windows_looked toxUdpPort beyond late sound pending
      exact ⟨d', took_nil toxUdpPort beyond kept, .inl ⟨rfl, sound', whole⟩⟩
  | @late d d' pending expired =>
      obtain ⟨sound', -, whole, kept⟩ := windows_looked toxUdpPort beyond late sound pending
      exact ⟨d', took_nil toxUdpPort beyond kept, .inl ⟨rfl, sound', whole⟩⟩
  | @broken d d' e pending =>
      obtain ⟨broken, kept⟩ := windows_broken toxUdpPort beyond late sound pending
      exact ⟨d', took_nil toxUdpPort beyond kept, .inr ⟨e, rfl, broken⟩⟩
  | @blocked d d' d'' pending inTime read =>
      obtain ⟨sound', ready, -, -⟩ := windows_looked toxUdpPort beyond late sound pending
      obtain ⟨d₁, started, -, -, -, ⟨frame, -, passed⟩ | ⟨-, what, dropped⟩⟩ :=
        windows_getData toxUdpPort beyond late timely sound' (ready rfl)
      · cases passed.symm.trans read
      · cases dropped.symm.trans read
  | @empty d d' d'' pending inTime read =>
      obtain ⟨sound', ready, -, -⟩ := windows_looked toxUdpPort beyond late sound pending
      obtain ⟨d₁, started, -, -, -, ⟨frame, -, passed⟩ | ⟨-, what, dropped⟩⟩ :=
        windows_getData toxUdpPort beyond late timely sound' (ready rfl)
      · cases passed.symm.trans read
      · cases dropped.symm.trans read
  | @passed d d' d'' frame reads o bytes pending inTime read rest ih =>
      obtain ⟨sound', ready, -, kept⟩ := windows_looked toxUdpPort beyond late sound pending
      obtain ⟨d₁, started, sound₁, consumed, lost, ⟨frame', left, passed⟩ | ⟨-, what, dropped⟩⟩ :=
        windows_getData toxUdpPort beyond late timely sound' (ready rfl)
      · have same := passed.symm.trans read
        rw [Outcome.returned.injEq] at same
        obtain ⟨packet, rfl⟩ := same
        obtain ⟨d₂, took, ends⟩ := ih sound₁
        rw [kept] at left consumed
        rw [← tunData_injective packet, ← left]
        exact ⟨d₂, took.cons toxUdpPort beyond consumed lost, ends⟩
      · cases dropped.symm.trans read
  | @dropped d d' d'' what reads o pending inTime read rest ih =>
      obtain ⟨sound', ready, -, kept⟩ := windows_looked toxUdpPort beyond late sound pending
      obtain ⟨d₁, started, sound₁, consumed, lost, ⟨frame, -, passed⟩ | ⟨left, what', dropped⟩⟩ :=
        windows_getData toxUdpPort beyond late timely sound' (ready rfl)
      · cases passed.symm.trans read
      · cases dropped.symm.trans read
        obtain ⟨d₂, took, ends⟩ := ih sound₁
        rw [kept] at left consumed
        rw [← left]
        exact ⟨d₂, took.cons toxUdpPort beyond consumed lost, ends⟩

theorem windows_goesOn (timely : R.Timely) {n : Nat} {d' : WinReads}
    (goesOn : (windows frames R toxUdpPort beyond late).GoesOn d n d') (sound : d.tun.Sound frames) :
    d'.tun.consumed = d.tun.consumed + n := by
  induction goesOn with
  | none => rfl
  | @round d d' d'' d₃ n pending inTime read rest ih =>
      obtain ⟨sound', ready, -, kept⟩ := windows_looked toxUdpPort beyond late sound pending
      obtain ⟨d₁, started, sound₁, consumed, -, ends⟩ :=
        windows_getData toxUdpPort beyond late timely sound' (ready rfl)
      have took : ((windows frames R toxUdpPort beyond late).getData d').state = d₁ := by
        rcases ends with ⟨frame, -, passed⟩ | ⟨-, what, dropped⟩
        · rw [passed, Outcome.state_returned]
        · rw [dropped, Outcome.state_thrown]
      have left : ((windows frames R toxUdpPort beyond late).getData d').state = d'' := by
        rcases read with ⟨frame, passed⟩ | ⟨what, dropped⟩
        · rw [passed, Outcome.state_returned]
        · rw [dropped, Outcome.state_thrown]
      obtain rfl : d₁ = d'' := took.symm.trans left
      rw [ih sound₁, consumed, kept, Nat.add_assoc, Nat.add_comm 1]

end

/-! ## The operation of the core -/

section
variable (frames : Nat → EtherFrame) (R : Driver) (toxUdpPort : UInt16) (beyond : Nat → UInt8)

/-- A device after calls of `Connection::iterate` that have come to their end. -/
inductive Polled : WinReads → Prop where
  | start (readBuffer : ReadBuffer) : Polled ⟨.create readBuffer, 0⟩
  | poll {d d' : WinReads} {E : Env} {core : ToxTunCore} {f : UInt32} {c : Connection}
      {late : Nat → Bool} {fuel : Nat} {w : World} (polled : Polled d)
      (found : core.connections f = some c)
      (ends : poll E (windows frames R toxUdpPort beyond late) fuel core f c d = .returned () (d', w)) :
      Polled d'

end

section
variable {frames : Nat → EtherFrame} {R : Driver} (toxUdpPort : UInt16) (beyond : Nat → UInt8)
  (late : Nat → Bool) {d : WinReads} {E : Env} {core : ToxTunCore} {f : UInt32} {c : Connection}

theorem windows_poll (timely : R.Timely) (sound : d.tun.Sound frames) (whole : ¬ Broken R d)
    (found : core.connections f = some c) (fuel : Nat) :
    (∃ d' w, poll E (windows frames R toxUdpPort beyond late) fuel core f c d = .outOfFuel (d', w) ∧
        d'.tun.consumed = d.tun.consumed + fuel) ∨
      ∃ reads d' w, Took frames R toxUdpPort beyond d reads d' ∧
        (step core (E, (Call.iterate reads).op f)).outcome = .returned () w ∧
        ((Broken R d' ∧ poll E (windows frames R toxUdpPort beyond late) fuel core f c d =
            .terminated (d', w)) ∨
          (d'.tun.Sound frames ∧ ¬ Broken R d' ∧
            poll E (windows frames R toxUdpPort beyond late) fuel core f c d = .returned () (d', w))) := by
  rcases serves_or_goes_on (E := E) (windows_sane frames R toxUdpPort beyond late) core f c d fuel with
    ⟨d', w, stuck, goesOn⟩ | ⟨reads, o, few, serves⟩
  · exact .inl ⟨d', w, stuck, windows_goesOn toxUdpPort beyond late timely goesOn sound⟩
  obtain ⟨w, ends, done⟩ := iterate_ends (E := E) found serves few
  refine .inr ?_
  unfold Source.Serves at serves
  split at serves
  · obtain ⟨d', took, ⟨rfl, sound', whole'⟩ | ⟨e, rfl, broken⟩⟩ :=
      windows_gives toxUdpPort beyond late timely serves sound
    · exact ⟨reads, d', w, took, ends.trans (if_neg (took.whole toxUdpPort beyond)),
        .inr ⟨sound', whole', done⟩⟩
    · exact ⟨reads, d', w, took, ends.trans (if_neg (took.whole toxUdpPort beyond)), .inl ⟨broken, done⟩⟩
  · obtain ⟨rfl, rfl⟩ := serves
    exact ⟨[], d, w, took_nil toxUdpPort beyond rfl, ends, .inr ⟨sound, whole, done⟩⟩

theorem Polled.sound (timely : R.Timely) (polled : Polled frames R toxUdpPort beyond d) :
    d.tun.Sound frames ∧ ¬ Broken R d := by
  induction polled with
  | start readBuffer =>
      refine ⟨.idle, ?_⟩
      rintro ⟨n, clock, -⟩
      cases clock
  | @poll d d' E core f c late fuel w polled found ends ih =>
      obtain ⟨sound, whole⟩ := ih
      rcases windows_poll toxUdpPort beyond late timely sound whole found fuel (E := E) with
        ⟨d₁, w₁, stuck, -⟩ | ⟨reads, d₁, w₁, -, -, ⟨-, died⟩ | ⟨sound', whole', done⟩⟩
      · cases stuck.symm.trans ends
      · cases died.symm.trans ends
      · cases done.symm.trans ends
        exact ⟨sound', whole'⟩

/-- In every run, polling the device of a connection is the operation `iterate` on the frames
that the driver has placed, in their order and each once; apart from the filter, a frame is lost
only with a read that fails. The process ends exactly when looking for data fails, and a call goes
on only as long as every round has taken a frame. -/
theorem windows_polls (timely : R.Timely) (polled : Polled frames R toxUdpPort beyond d)
    (found : core.connections f = some c) (fuel : Nat) :
    (∃ d' w, poll E (windows frames R toxUdpPort beyond late) fuel core f c d = .outOfFuel (d', w) ∧
        d'.tun.consumed = d.tun.consumed + fuel) ∨
      ∃ reads d' w, Took frames R toxUdpPort beyond d reads d' ∧
        (step core (E, (Call.iterate reads).op f)).outcome = .returned () w ∧
        ((Broken R d' ∧ poll E (windows frames R toxUdpPort beyond late) fuel core f c d =
            .terminated (d', w)) ∨
          (¬ Broken R d' ∧
            poll E (windows frames R toxUdpPort beyond late) fuel core f c d = .returned () (d', w))) := by
  obtain ⟨sound, whole⟩ := polled.sound toxUdpPort beyond timely
  rcases windows_poll toxUdpPort beyond late timely sound whole found fuel (E := E) with
    stuck | ⟨reads, d', w, took, ends, died | ⟨-, whole', done⟩⟩
  · exact .inl stuck
  · exact .inr ⟨reads, d', w, took, ends, .inl died⟩
  · exact .inr ⟨reads, d', w, took, ends, .inr ⟨whole', done⟩⟩

end

/-- Two frames come, and then the read fails. -/
def failingDriver : Driver where
  event n := if n = 2 then .completes else if n = 4 then .fails else .waits
  first _ := .finished
  next _ := .ioPending
  torn _ := none

/-- Both frames are passed on, and then the process ends. -/
theorem windows_polls_failingDriver : ∃ reads d' w,
    Took numberedFrames failingDriver 33445 (fun _ => 0) ⟨.create zeroedBuffer, 0⟩ reads d' ∧
    (step ⟨fun _ => some { Connection.initial true with state := .connected }, true⟩
      (.obliging fun _ => some [], (Call.iterate reads).op 7)).outcome = .returned () w ∧
    poll (.obliging fun _ => some [])
      (windows numberedFrames failingDriver 33445 (fun _ => 0) (fun _ => false)) 3
      ⟨fun _ => some { Connection.initial true with state := .connected }, true⟩ 7
      { Connection.initial true with state := .connected } ⟨.create zeroedBuffer, 0⟩ =
        .terminated (d', w) := by
  let c : Connection := { Connection.initial true with state := .connected }
  let core : ToxTunCore := ⟨fun _ => some c, true⟩
  have timely : failingDriver.Timely := fun n => ⟨nofun, rfl⟩
  have ended : ∃ q, poll (.obliging fun _ => some [])
      (windows numberedFrames failingDriver 33445 (fun _ => 0) (fun _ => false)) 3 core 7 c
      ⟨.create zeroedBuffer, 0⟩ = .terminated q := Outcome.terminates_iff.mp (by decide +kernel)
  obtain ⟨q, ended⟩ := ended
  rcases windows_polls (E := .obliging fun _ => some []) 33445 (fun _ => 0) (fun _ => false) timely
    (.start zeroedBuffer) (show core.connections 7 = some c from rfl) 3 with
    ⟨d', w, stuck, -⟩ | ⟨reads, d', w, took, ends, ⟨-, died⟩ | ⟨-, done⟩⟩
  · cases stuck.symm.trans ended
  · exact ⟨reads, d', w, took, ends, died⟩
  · cases done.symm.trans ended

end Polling

end LibToxTun
