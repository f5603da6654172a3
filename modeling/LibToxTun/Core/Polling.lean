import Mathlib.Data.List.ReduceOption
import LibToxTun.Core.Steps
import LibToxTun.Tun.Devices
import LibToxTun.Tun.Filter

/-! # Reading from the device of a connection

`Connection::iterate` looks whether data is pending at the device, takes one frame and
sends it, until nothing is pending or the time is over. The operation `iterate` of the
core is given the results of these reads. Here they come from a device, and on Unix from
its queue: the frames that pass the filter for own traffic, cut to the size of the buffer.
-/

namespace LibToxTun

open Foundation Foundation.Action

/-! ## The loop -/

/-- What `Connection::iterate` asks for: the functions of a backend, and whether the time
is over. -/
structure Source (δ : Type) where
  dataPending : Code δ Bool
  getData : Code δ Data
  late : δ → Bool

/-- A device, and the connection that reads from it. -/
structure Polling (δ : Type) where
  device : δ
  frame : Frame

namespace TunInterface

section
variable (toxUdpPort : UInt16) (beyond : Nat → UInt8)

/-- Behind a frame in the buffer lie the bytes `beyond`. -/
def getData {δ : Type} (getDataBackend : Code δ Data) : Code δ Data := do
  let data ← getDataBackend
  let own ← Action.zoom (fun _ => reader data beyond) (fun _ d => d) (isFromOwnTox toxUdpPort data)
  if own then throw (.toxTunError "Dropping packet from own tox instance")
  else pure data

/-- Whether the filter lets a packet pass. -/
def passes (data : Data) : Bool :=
  match isFromOwnTox toxUdpPort data (reader data beyond) with
  | .returned false _ => true
  | _ => false

variable {δ : Type} {getDataBackend : Code δ Data} {d d' : δ}

theorem getData_returned {data : Data} (read : getDataBackend d = .returned data d') :
    (passes toxUdpPort beyond data = true ∧
      getData toxUdpPort beyond getDataBackend d = .returned data d') ∨
    passes toxUdpPort beyond data = false ∧
      ∃ what, getData toxUdpPort beyond getDataBackend d = .thrown (.toxTunError what) d' := by
  obtain ⟨own, outcome, -⟩ := isFromOwnTox_tells toxUdpPort (reader data beyond) data
  simp only [passes, getData, bind_apply, read, Outcome.andThen_returned, zoom_apply, outcome]
  cases own with
  | false => exact .inl ⟨rfl, rfl⟩
  | true => exact .inr ⟨rfl, _, rfl⟩

theorem getData_thrown {e : Exn} (read : getDataBackend d = .thrown e d') :
    getData toxUdpPort beyond getDataBackend d = .thrown e d' := by
  simp only [getData, bind_apply, read, Outcome.andThen_thrown]

theorem getData_outOfFuel (read : getDataBackend d = .outOfFuel d') :
    getData toxUdpPort beyond getDataBackend d = .outOfFuel d' := by
  simp only [getData, bind_apply, read, Outcome.andThen_outOfFuel]

end

end TunInterface

namespace Polling

variable {δ : Type}

def onDevice {α : Type} (a : Code δ α) : Code (Polling δ) α :=
  a.zoom device fun d p => { p with device := d }

def onFrame {α : Type} (a : Code Frame α) : Code (Polling δ) α :=
  a.zoom frame fun fr p => { p with frame := fr }

section
variable (E : Env) (D : Source δ)

/-- The loop of `Connection::iterate`. -/
def iterateFuel : Nat → Code (Polling δ) Unit
  | 0 => exhausted
  | fuel + 1 => do
      if (← onFrame (getMember .state Connection.state)) ≠ .connected then pure ()
      else
        onFrame (Action.modify fun fr => fr.touch .tun)
        if !(← onDevice D.dataPending) then pure ()
        else if ← Action.read fun p => D.late p.device then pure ()
        else
          Action.noexcept (catchToxTunError (do
            let data ← onDevice D.getData
            onFrame (sendToTox E data)) (pure ()))
          iterateFuel fuel

def iterate (fuel : Nat) : Code (Polling δ) Unit := Action.noexcept (iterateFuel E D fuel)

/-- A call on the connection with a friend: the device, and the core with what was sent. -/
def poll (fuel : Nat) (core : ToxTunCore) (f : UInt32) (c : Connection) (d : δ) :
    Outcome Exn (δ × World) Unit :=
  (iterate E D fuel ⟨d, .enter f c ⟨core, 0, []⟩⟩).mapState fun p => (p.device, p.frame.leave)

end

end Polling

/-! ## What a device gives -/

/-- The results of the reads of one call, and how the device has ended it: nothing is pending,
the time is over, looking for data has thrown, an empty frame was read, or a read does not
return. -/
inductive Source.Gives {δ : Type} (D : Source δ) :
    δ → List (Option (List UInt8)) → Outcome Exn δ Unit → Prop where
  | quiet {d d' : δ} (pending : D.dataPending d = .returned false d') : Gives D d [] (.returned () d')
  | late {d d' : δ} (pending : D.dataPending d = .returned true d') (expired : D.late d' = true) :
      Gives D d [] (.returned () d')
  | broken {d d' : δ} {e : Exn} (pending : D.dataPending d = .thrown e d') : Gives D d [] (.thrown e d')
  | blocked {d d' d'' : δ} (pending : D.dataPending d = .returned true d') (inTime : D.late d' = false)
      (read : D.getData d' = .outOfFuel d'') : Gives D d [] (.outOfFuel d'')
  | empty {d d' d'' : δ} (pending : D.dataPending d = .returned true d') (inTime : D.late d' = false)
      (read : D.getData d' = .thrown .outOfRange d'') : Gives D d [some []] (.terminated d'')
  | passed {d d' d'' : δ} {frame : List UInt8} {reads : List (Option (List UInt8))}
      {o : Outcome Exn δ Unit} (bytes : frame ≠ []) (pending : D.dataPending d = .returned true d')
      (inTime : D.late d' = false) (read : D.getData d' = .returned (Data.tunData frame) d'')
      (rest : Gives D d'' reads o) : Gives D d (some frame :: reads) o
  | dropped {d d' d'' : δ} {what : String} {reads : List (Option (List UInt8))}
      {o : Outcome Exn δ Unit} (pending : D.dataPending d = .returned true d')
      (inTime : D.late d' = false) (read : D.getData d' = .thrown (.toxTunError what) d'')
      (rest : Gives D d'' reads o) : Gives D d (none :: reads) o

/-- So many reads have returned or thrown, and the time was not over before any of them. -/
inductive Source.GoesOn {δ : Type} (D : Source δ) : δ → Nat → δ → Prop where
  | none {d : δ} : GoesOn D d 0 d
  | round {d d' d'' d₃ : δ} {n : Nat} (pending : D.dataPending d = .returned true d')
      (inTime : D.late d' = false)
      (read : (∃ frame, D.getData d' = .returned (Data.tunData frame) d'') ∨
        ∃ what, D.getData d' = .thrown (.toxTunError what) d'')
      (rest : GoesOn D d'' n d₃) : GoesOn D d (n + 1) d₃

/-- The reads after which the loop goes on. -/
def survived (reads : List (Option (List UInt8))) : Nat := reads.countP (· != some [])

theorem survived_cons {read : Option (List UInt8)} (goesOn : read ≠ some [])
    (reads : List (Option (List UInt8))) : survived (read :: reads) = survived reads + 1 :=
  List.countP_cons_of_pos (by simpa using goesOn)

/-- A connection that is not up reads nothing. -/
def Source.Serves {δ : Type} (D : Source δ) (c : Connection) (d : δ)
    (reads : List (Option (List UInt8))) (o : Outcome Exn δ Unit) : Prop :=
  if c.state = .connected then D.Gives d reads o else reads = [] ∧ o = .returned () d

/-- The functions of a backend return packets with frames, or throw; only a read throws
anything but a `ToxTunError`. -/
structure Source.Sane {δ : Type} (D : Source δ) : Prop where
  pending : ∀ d, (∃ b d', D.dataPending d = .returned b d') ∨
    ∃ what d', D.dataPending d = .thrown (.toxTunError what) d'
  reads : ∀ d, (∃ frame d', frame ≠ [] ∧ D.getData d = .returned (Data.tunData frame) d') ∨
    (∃ e d', D.getData d = .thrown e d') ∨ ∃ d', D.getData d = .outOfFuel d'

namespace Polling

variable {δ : Type}

/-! ## One round -/

section
variable {E : Env} {fr : Frame}

theorem iterate_idle (alive : fr.alive = true) (idle : fr.self.state ≠ .connected)
    (reads : List (Except Exn Data)) : LibToxTun.iterate E reads fr = .returned () fr := by
  cases reads with
  | nil => rfl
  | cons read reads => simp [LibToxTun.iterate, Frame.touch_of_alive alive, idle]

variable {D : Source δ} {d d' d'' : δ}

theorem iterateFuel_idle (alive : fr.alive = true) (idle : fr.self.state ≠ .connected) (fuel : Nat) :
    iterateFuel E D (fuel + 1) ⟨d, fr⟩ = .returned () ⟨d, fr⟩ := by
  simp [iterateFuel, onFrame, Frame.touch_of_alive alive, idle]

section
variable (alive : fr.alive = true) (connected : fr.self.state = .connected) (fuel : Nat)
include alive connected

theorem iterateFuel_quiet (pending : D.dataPending d = .returned false d') :
    iterateFuel E D (fuel + 1) ⟨d, fr⟩ = .returned () ⟨d', fr⟩ := by
  simp [iterateFuel, onFrame, onDevice, Frame.touch_of_alive alive, connected, pending]

theorem iterateFuel_broken {e : Exn} (pending : D.dataPending d = .thrown e d') :
    iterateFuel E D (fuel + 1) ⟨d, fr⟩ = .thrown e ⟨d', fr⟩ := by
  simp [iterateFuel, onFrame, onDevice, Frame.touch_of_alive alive, connected, pending]

variable (pending : D.dataPending d = .returned true d')
include pending

theorem iterateFuel_late (expired : D.late d' = true) :
    iterateFuel E D (fuel + 1) ⟨d, fr⟩ = .returned () ⟨d', fr⟩ := by
  simp [iterateFuel, onFrame, onDevice, Frame.touch_of_alive alive, connected, pending, expired]

variable (inTime : D.late d' = false)
include inTime

theorem iterateFuel_blocked (read : D.getData d' = .outOfFuel d'') :
    iterateFuel E D (fuel + 1) ⟨d, fr⟩ = .outOfFuel ⟨d'', fr⟩ := by
  simp [iterateFuel, onFrame, onDevice, Frame.touch_of_alive alive, connected, pending, inTime, read,
    catchToxTunError]

theorem iterateFuel_dropped {what : String} (read : D.getData d' = .thrown (.toxTunError what) d'') :
    iterateFuel E D (fuel + 1) ⟨d, fr⟩ = iterateFuel E D fuel ⟨d'', fr⟩ := by
  simp [iterateFuel, onFrame, onDevice, Frame.touch_of_alive alive, connected, pending, inTime, read,
    catchToxTunError, Outcome.rescued]

theorem iterateFuel_empty (read : D.getData d' = .thrown .outOfRange d'') :
    iterateFuel E D (fuel + 1) ⟨d, fr⟩ = .terminated ⟨d'', fr⟩ := by
  simp [iterateFuel, onFrame, onDevice, Frame.touch_of_alive alive, connected, pending, inTime, read,
    catchToxTunError, Outcome.rescued]

theorem iterateFuel_passed {data : Data} (read : D.getData d' = .returned data d'') {fr' : Frame}
    (sent : forwardRead E (.ok data) fr = .returned () fr') :
    iterateFuel E D (fuel + 1) ⟨d, fr⟩ = iterateFuel E D fuel ⟨d'', fr'⟩ := by
  simp only [forwardRead, catchToxTunError, noexcept_apply, tryCatch_apply, bind_apply, ofExcept_ok,
    Outcome.andThen_returned] at sent
  simp only [iterateFuel, onFrame, onDevice, bind_apply, zoom_apply, getMember_apply,
    Frame.touch_of_alive alive, Outcome.andThen_returned, Outcome.mapState_returned, connected, ne_eq,
    not_true_eq_false, if_false, modify_apply, pending, Bool.not_true, Bool.false_eq_true, read_apply,
    inTime, catchToxTunError, noexcept_apply, tryCatch_apply, read]
  cases ran : sendToTox E data fr with
  | returned v fr₁ =>
      rw [ran] at sent
      cases sent
      rfl
  | terminated fr₁ =>
      rw [ran] at sent
      cases sent
  | outOfFuel fr₁ =>
      rw [ran] at sent
      cases sent
  | thrown e fr₁ =>
      cases e with
      | toxTunError what =>
          rw [ran] at sent
          cases sent
          rfl
      | outOfRange =>
          rw [ran] at sent
          cases sent

end

/-! ## The loop and the operation -/

section
variable {core : ToxTunCore} {f : UInt32}

theorem forwardRead_up {c : Connection} (connected : c.state = .connected) {k : Nat} {ps : List Data}
    (live : Frame.Live core f c k ps [] fr) {frame : List UInt8} (bytes : frame ≠ []) :
    ∃ (fr' : Frame) (c' : Connection) (k' : Nat) (ps' : List Data), c'.state = .connected ∧
      forwardRead E (.ok (Data.tunData frame)) fr = .returned () fr' ∧
      Frame.Live core f c' k' ps' [] fr' := by
  have forwarded := forwardRead_live (E := E) live (some frame)
  cases frame with
  | nil => exact (bytes rfl).elim
  | cons byte rest =>
      obtain ⟨fr', sent, live'⟩ := forwarded
      exact ⟨fr', _, _, _, by split <;> exact connected, sent, live'⟩

/-- The loop ends as the device does, and has passed on what the device gave. -/
theorem iterateFuel_gives {reads : List (Option (List UInt8))} {o : Outcome Exn δ Unit}
    (gives : D.Gives d reads o) {c : Connection} (connected : c.state = .connected) {k : Nat}
    {ps : List Data} (live : Frame.Live core f c k ps [] fr) {fuel : Nat}
    (enough : survived reads < fuel) :
    ∃ fr', LibToxTun.iterate E (reads.map Data.ofRead) fr =
        (if some [] ∈ reads then .terminated fr' else .returned () fr') ∧
      iterateFuel E D fuel ⟨d, fr⟩ = o.mapState fun d' => ⟨d', fr'⟩ := by
  obtain ⟨fuel, rfl⟩ := Nat.exists_eq_add_one.mpr (Nat.zero_lt_of_lt enough)
  have up : fr.self.state = .connected := live.self_eq ▸ connected
  induction gives generalizing c k ps fr fuel with
  | quiet pending => exact ⟨fr, rfl, iterateFuel_quiet live.alive up fuel pending⟩
  | late pending expired => exact ⟨fr, rfl, iterateFuel_late live.alive up fuel pending expired⟩
  | broken pending => exact ⟨fr, rfl, iterateFuel_broken live.alive up fuel pending⟩
  | blocked pending inTime read =>
      exact ⟨fr, rfl, iterateFuel_blocked live.alive up fuel pending inTime read⟩
  | empty pending inTime read =>
      refine ⟨fr, ?_, iterateFuel_empty live.alive up fuel pending inTime read⟩
      rw [List.map_singleton, iterate_cons live.alive up, forwardRead_live (E := E) live (some [])]
      rfl
  | @passed d d' d'' frame reads o bytes pending inTime read rest ih =>
      obtain ⟨fr₁, c₁, k₁, ps₁, connected₁, sent, live₁⟩ := forwardRead_up (E := E) connected live bytes
      rw [survived_cons (by simpa using bytes)] at enough
      have enough := Nat.lt_of_succ_lt_succ enough
      obtain ⟨fuel, rfl⟩ := Nat.exists_eq_add_one.mpr (Nat.zero_lt_of_lt enough)
      obtain ⟨fr', ends, loop⟩ := ih connected₁ live₁ fuel enough (live₁.self_eq ▸ connected₁)
      refine ⟨fr', ?_, ?_⟩
      · rw [List.map_cons, iterate_cons live.alive up, show Data.ofRead (some frame) = _ from
          Data.fromTunData_of_ne_nil bytes, sent,
          Outcome.andThen_returned, ends]
        simp [Ne.symm bytes]
      · rw [iterateFuel_passed live.alive up _ pending inTime read sent, loop]
  | @dropped d d' d'' what reads o pending inTime read rest ih =>
      rw [@survived_cons none nofun] at enough
      have enough := Nat.lt_of_succ_lt_succ enough
      obtain ⟨fuel, rfl⟩ := Nat.exists_eq_add_one.mpr (Nat.zero_lt_of_lt enough)
      obtain ⟨fr', ends, loop⟩ := ih connected live fuel enough up
      refine ⟨fr', ?_, ?_⟩
      · rw [List.map_cons, iterate_cons live.alive up, forwardRead_live (E := E) live none,
          Outcome.andThen_returned, ends]
        simp
      · rw [iterateFuel_dropped live.alive up _ pending inTime read, loop]

/-- A sane device ends the loop, or there is a read in every round. -/
theorem gives_or_goes_on (sane : D.Sane) {c : Connection} (connected : c.state = .connected)
    (fuel : Nat) (d : δ) {k : Nat} {ps : List Data} {fr : Frame} (live : Frame.Live core f c k ps [] fr) :
    (∃ reads o, survived reads < fuel ∧ D.Gives d reads o) ∨
      ∃ p, iterateFuel E D fuel ⟨d, fr⟩ = .outOfFuel p ∧ D.GoesOn d fuel p.device := by
  induction fuel generalizing d c k ps fr with
  | zero => exact .inr ⟨_, rfl, .none⟩
  | succ fuel ih =>
      have up : fr.self.state = .connected := live.self_eq ▸ connected
      rcases sane.pending d with ⟨b, d', pending⟩ | ⟨what, d', pending⟩
      · cases b with
        | false => exact .inl ⟨[], _, Nat.succ_pos _, .quiet pending⟩
        | true =>
            cases expired : D.late d' with
            | true => exact .inl ⟨[], _, Nat.succ_pos _, .late pending expired⟩
            | false =>
                rcases sane.reads d' with ⟨frame, d'', bytes, read⟩ | ⟨e, d'', read⟩ | ⟨d'', read⟩
                · obtain ⟨fr', c', k', ps', connected', sent, live'⟩ :=
                    forwardRead_up (E := E) connected live bytes
                  rcases ih connected' d'' live' with ⟨reads, o, few, gives⟩ | ⟨p, stuck, goesOn⟩
                  · refine .inl ⟨some frame :: reads, o, ?_, .passed bytes pending expired read gives⟩
                    rw [survived_cons (by simpa using bytes)]
                    exact Nat.succ_lt_succ few
                  · refine .inr ⟨p, ?_, .round pending expired (.inl ⟨frame, read⟩) goesOn⟩
                    rw [iterateFuel_passed live.alive up fuel pending expired read sent, stuck]
                · cases e with
                  | toxTunError what =>
                      rcases ih connected d'' live with ⟨reads, o, few, gives⟩ | ⟨p, stuck, goesOn⟩
                      · refine .inl ⟨none :: reads, o, ?_, .dropped pending expired read gives⟩
                        rw [@survived_cons none nofun]
                        exact Nat.succ_lt_succ few
                      · refine .inr ⟨p, ?_, .round pending expired (.inr ⟨what, read⟩) goesOn⟩
                        rw [iterateFuel_dropped live.alive up fuel pending expired read, stuck]
                  | outOfRange =>
                      exact .inl ⟨[some []], _, Nat.succ_pos _, .empty pending expired read⟩
                · exact .inl ⟨[], _, Nat.succ_pos _, .blocked pending expired read⟩
      · exact .inl ⟨[], _, Nat.succ_pos _, .broken pending⟩

/-- With rounds enough, a call of `Connection::iterate` does what the operation of the core does
with the results of the reads, and ends as the device does. -/
theorem iterate_ends {c : Connection} (found : core.connections f = some c) {d : δ}
    {reads : List (Option (List UInt8))} {o : Outcome Exn δ Unit} (serves : D.Serves c d reads o)
    {fuel : Nat} (enough : survived reads < fuel) :
    ∃ w, (LibToxTun.step core (E, (Call.iterate reads).op f)).outcome =
        (if some [] ∈ reads then .terminated w else .returned () w) ∧
      poll E D fuel core f c d = o.guarded.mapState fun d' => (d', w) := by
  have live : Frame.Live core f c 0 [] [] (.enter f c ⟨core, 0, []⟩) := Frame.live_enter core f c
  unfold Source.Serves at serves
  split at serves
  · next connected =>
      obtain ⟨fr', ends, loop⟩ := iterateFuel_gives (E := E) serves connected live enough
      refine ⟨fr'.leave, ?_, ?_⟩
      · rw [Call.op, iterate_outcome found, ends]
        split <;> rfl
      · rw [poll, iterate, noexcept_apply, loop]
        cases o <;> rfl
  · next idle =>
      obtain ⟨rfl, rfl⟩ := serves
      obtain ⟨fuel, rfl⟩ := Nat.exists_eq_add_one.mpr enough
      refine ⟨Frame.leave (.enter f c ⟨core, 0, []⟩), ?_, ?_⟩
      · rw [Call.op, iterate_outcome found]
        rfl
      · rw [poll, iterate, noexcept_apply, iterateFuel_idle live.alive idle]
        rfl

theorem serves_or_goes_on (sane : D.Sane) (core : ToxTunCore) (f : UInt32) (c : Connection) (d : δ)
    (fuel : Nat) :
    (∃ d' w, poll E D fuel core f c d = .outOfFuel (d', w) ∧ D.GoesOn d fuel d') ∨
      ∃ reads o, survived reads < fuel ∧ D.Serves c d reads o := by
  cases fuel with
  | zero => exact .inl ⟨d, _, rfl, .none⟩
  | succ fuel =>
      by_cases connected : c.state = .connected
      · rcases gives_or_goes_on (E := E) sane connected (fuel + 1) d (Frame.live_enter core f c) with
          ⟨reads, o, few, gives⟩ | ⟨p, stuck, goesOn⟩
        · refine .inr ⟨reads, o, few, ?_⟩
          rwa [Source.Serves, if_pos connected]
        · refine .inl ⟨p.device, p.frame.leave, ?_, goesOn⟩
          rw [poll, iterate, noexcept_apply, stuck]
          rfl
      · refine .inr ⟨[], .returned () d, Nat.succ_pos _, ?_⟩
        rw [Source.Serves, if_neg connected]
        exact ⟨rfl, rfl⟩

end

end

/-! ## The queue of a Unix device -/

section
variable (S : Sys) (toxUdpPort : UInt16) (beyond : Nat → UInt8) (late : Nat → Bool) (t : TunUnix)

/-- `late` tells by the clock whether the time is over. -/
def unix : Source Kernel where
  dataPending := TunUnix.dataPending S t
  getData := TunInterface.getData toxUdpPort beyond (TunUnix.getDataBackend S t)
  late k := late k.clock

/-- What is left of a frame after the buffer and the filter. -/
def shown (frame : List UInt8) : Option (List UInt8) :=
  if TunInterface.passes toxUdpPort beyond (Data.tunData (frame.take TunUnix.bufferSize)) then
    some (frame.take TunUnix.bufferSize)
  else none

theorem unix_sane : (unix S toxUdpPort beyond late t).Sane where
  pending k := by
    refine .inl ?_
    simp only [unix, TunUnix.dataPending, bind_apply, Kernel.select]
    split <;> exact ⟨_, _, rfl⟩
  reads k := by
    have backend : (∃ frame k', frame ≠ [] ∧
          TunUnix.getDataBackend S t k = .returned (Data.tunData frame) k') ∨
        (∃ e k', TunUnix.getDataBackend S t k = .thrown e k') ∨
          ∃ k', TunUnix.getDataBackend S t k = .outOfFuel k' := by
      simp only [TunUnix.getDataBackend, bind_apply, Kernel.read]
      split
      · next name frame rest outgoing granted file =>
          let took := (k.setFile t.fd (some (.tun name rest outgoing))).tick
          by_cases empty : frame.take TunUnix.bufferSize = []
          · refine .inr (.inl ⟨.outOfRange, took, ?_⟩)
            simp only [Outcome.andThen_returned, empty]
            rfl
          · refine .inl ⟨_, took, empty, ?_⟩
            simp only [Outcome.andThen_returned, Data.fromTunData_of_ne_nil empty]
            rfl
      · exact .inr (.inr ⟨_, rfl⟩)
      · exact .inr (.inl ⟨_, _, rfl⟩)
    rcases backend with ⟨frame, k', bytes, read⟩ | ⟨e, k', read⟩ | ⟨k', read⟩
    · rcases TunInterface.getData_returned toxUdpPort beyond read with ⟨-, passed⟩ | ⟨-, what, dropped⟩
      · exact .inl ⟨frame, k', bytes, passed⟩
      · exact .inr (.inl ⟨.toxTunError what, k', dropped⟩)
    · exact .inr (.inl ⟨e, k', TunInterface.getData_thrown toxUdpPort beyond read⟩)
    · exact .inr (.inr ⟨k', TunInterface.getData_outOfFuel toxUdpPort beyond read⟩)

end

/-- The frames at a descriptor are others, and nothing else has changed. -/
def Queue (t : TunUnix) (name : Option String) (outgoing : List (List UInt8)) (k : Kernel)
    (rest : List (List UInt8)) (k' : Kernel) : Prop :=
  k'.files = Function.update k.files t.fd (some (.tun name rest outgoing)) ∧
    k'.interfaces = k.interfaces

section
variable {S : Sys} (toxUdpPort : UInt16) (beyond : Nat → UInt8) (late : Nat → Bool)
  {t : TunUnix} {k : Kernel} {name : Option String} {incoming outgoing : List (List UInt8)}

theorem Queue.file {rest : List (List UInt8)} {k' : Kernel} (h : Queue t name outgoing k rest k') :
    k'.files t.fd = some (.tun name rest outgoing) := by
  rw [h.1, Function.update_self]

theorem Queue.trans {rest rest' : List (List UInt8)} {k' k'' : Kernel}
    (h : Queue t name outgoing k rest k') (h' : Queue t name outgoing k' rest' k'') :
    Queue t name outgoing k rest' k'' := by
  refine ⟨?_, h'.2.trans h.2⟩
  rw [h'.1, h.1, Function.update_idem]

section
variable (file : k.files t.fd = some (.tun name incoming outgoing))
include file

theorem queue_refl : Queue t name outgoing k incoming k := by
  refine ⟨?_, rfl⟩
  rw [← file, Function.update_eq_self]

theorem dataPending_apply : TunUnix.dataPending S t k =
    .returned (!(S.granted k.clock && incoming.isEmpty)) k.tick := by
  simp only [TunUnix.dataPending, bind_apply, Kernel.select, file]
  cases S.granted k.clock with
  | false => rfl
  | true => cases incoming <;> rfl

theorem dataPending_ticks {b : Bool} {k' : Kernel} (pending : TunUnix.dataPending S t k = .returned b k') :
    k' = k.tick := by
  rw [dataPending_apply file, Outcome.returned.injEq] at pending
  exact pending.2.symm

end

theorem take_bufferSize_ne_nil {frame : List UInt8} (bytes : frame ≠ []) :
    frame.take TunUnix.bufferSize ≠ [] := by
  cases frame with
  | nil => exact (bytes rfl).elim
  | cons byte rest => simp [TunUnix.bufferSize]

theorem shown_nil : shown toxUdpPort beyond [] = some [] := rfl

/-- A read takes a frame from the queue. An empty one is no packet, and of others the filter
may leave nothing. -/
theorem getData_took {frame : List UInt8} {rest : List (List UInt8)}
    (file : k.files t.fd = some (.tun name (frame :: rest) outgoing))
    (granted : S.granted k.clock = true) : ∃ k', Queue t name outgoing k rest k' ∧
      ((frame = [] ∧ TunInterface.getData toxUdpPort beyond (TunUnix.getDataBackend S t) k =
          .thrown .outOfRange k') ∨
      (frame ≠ [] ∧ shown toxUdpPort beyond frame = some (frame.take TunUnix.bufferSize) ∧
        TunInterface.getData toxUdpPort beyond (TunUnix.getDataBackend S t) k =
          .returned (Data.tunData (frame.take TunUnix.bufferSize)) k') ∨
      (frame ≠ [] ∧ shown toxUdpPort beyond frame = none ∧ ∃ what,
        TunInterface.getData toxUdpPort beyond (TunUnix.getDataBackend S t) k =
          .thrown (.toxTunError what) k')) := by
  refine ⟨(k.setFile t.fd (some (.tun name rest outgoing))).tick, ⟨rfl, rfl⟩, ?_⟩
  have backend : TunUnix.getDataBackend S t k =
      ofExcept (Data.fromTunData (frame.take TunUnix.bufferSize))
        (k.setFile t.fd (some (.tun name rest outgoing))).tick := by
    simp only [TunUnix.getDataBackend, bind_apply, Kernel.read, granted, file]
    rfl
  by_cases bytes : frame = []
  · subst bytes
    exact .inl ⟨rfl, TunInterface.getData_thrown toxUdpPort beyond backend⟩
  · rw [Data.fromTunData_of_ne_nil (take_bufferSize_ne_nil bytes), ofExcept_ok] at backend
    rcases TunInterface.getData_returned toxUdpPort beyond backend with ⟨passes, passed⟩ | ⟨stopped, dropped⟩
    · exact .inr (.inl ⟨bytes, by rw [shown, if_pos passes], passed⟩)
    · exact .inr (.inr ⟨bytes, by rw [shown, stopped]; rfl, dropped⟩)

/-- A read takes the first frame or fails. It ends with an empty frame, or does not return. -/
theorem getData_cases (file : k.files t.fd = some (.tun name incoming outgoing)) :
    (∃ k', TunInterface.getData toxUdpPort beyond (TunUnix.getDataBackend S t) k = .outOfFuel k') ∨
    (∃ rest k', incoming = [] :: rest ∧ Queue t name outgoing k rest k' ∧
      TunInterface.getData toxUdpPort beyond (TunUnix.getDataBackend S t) k =
        .thrown .outOfRange k') ∨
    ∃ (answer : Option (List UInt8)) (rest : List (List UInt8)) (k' : Kernel),
      incoming = answer.toList ++ rest ∧ Queue t name outgoing k rest k' ∧
      ((∃ frame, answer.bind (shown toxUdpPort beyond) = some frame ∧
        TunInterface.getData toxUdpPort beyond (TunUnix.getDataBackend S t) k =
          .returned (Data.tunData frame) k') ∨
      (answer.bind (shown toxUdpPort beyond) = none ∧ ∃ what,
        TunInterface.getData toxUdpPort beyond (TunUnix.getDataBackend S t) k =
          .thrown (.toxTunError what) k')) := by
  cases granted : S.granted k.clock with
  | false =>
      refine .inr (.inr ⟨none, incoming, k.tick, rfl, queue_refl file, .inr ⟨rfl,
        "Reading from TUN returns -1", ?_⟩⟩)
      refine TunInterface.getData_thrown toxUdpPort beyond ?_
      simp [TunUnix.getDataBackend, Kernel.read, granted]
  | true =>
      cases incoming with
      | nil =>
          refine .inl ⟨k, TunInterface.getData_outOfFuel toxUdpPort beyond ?_⟩
          simp [TunUnix.getDataBackend, Kernel.read, granted, file]
      | cons first rest =>
          obtain ⟨k', queue, ⟨rfl, ended⟩ | ⟨-, left, passed⟩ | ⟨-, left, dropped⟩⟩ :=
            getData_took toxUdpPort beyond file granted
          · exact .inr (.inl ⟨rest, k', rfl, queue, ended⟩)
          · exact .inr (.inr ⟨some first, rest, k', rfl, queue, .inl ⟨_, left, passed⟩⟩)
          · exact .inr (.inr ⟨some first, rest, k', rfl, queue, .inr ⟨left, dropped⟩⟩)

/-- The reads are those of frames of the queue in their order, each at most once. An empty
frame is the end. -/
def Drains (t : TunUnix) (name : Option String) (outgoing : List (List UInt8)) (k : Kernel)
    (incoming : List (List UInt8)) (reads : List (Option (List UInt8)))
    (o : Outcome Exn Kernel Unit) : Prop :=
  ∃ (answers : List (Option (List UInt8))) (rest : List (List UInt8)) (k' : Kernel),
    (some [] ∈ reads → o = .terminated k') ∧ (some [] ∉ reads → o = .returned () k') ∧
    incoming = answers.reduceOption ++ rest ∧ Queue t name outgoing k rest k' ∧
      reads = answers.map fun a => a.bind (shown toxUdpPort beyond)

/-- One more read, which was not the end, before the others. -/
theorem Drains.cons {k' : Kernel} {rest : List (List UInt8)} {reads : List (Option (List UInt8))}
    {o : Outcome Exn Kernel Unit} {answer read : Option (List UInt8)}
    (drains : Drains toxUdpPort beyond t name outgoing k' rest reads o)
    (queue : Queue t name outgoing k rest k') (result : answer.bind (shown toxUdpPort beyond) = read)
    (bytes : read ≠ some []) :
    Drains toxUdpPort beyond t name outgoing k (answer.toList ++ rest) (read :: reads) o := by
  obtain ⟨answers, rest', k'', ended, goes, rfl, queue', rfl⟩ := drains
  refine ⟨answer :: answers, rest', k'', fun empty => ended ?_, fun whole => goes ?_, ?_,
    queue.trans queue', ?_⟩
  · exact (List.mem_cons.mp empty).resolve_left (Ne.symm bytes)
  · exact fun empty => whole (List.mem_cons_of_mem _ empty)
  · cases answer with
    | none => rw [List.reduceOption_cons_of_none, Option.toList_none, List.nil_append]
    | some first =>
        rw [List.reduceOption_cons_of_some, Option.toList_some, List.singleton_append,
          List.cons_append]
  · rw [List.map_cons, result]

/-- Whatever the system answers, polling drains the queue, or a read does not return. -/
theorem unix_gives {reads : List (Option (List UInt8))} {o : Outcome Exn Kernel Unit}
    (gives : (unix S toxUdpPort beyond late t).Gives k reads o)
    (file : k.files t.fd = some (.tun name incoming outgoing)) :
    (∃ k', o = .outOfFuel k') ∨ Drains toxUdpPort beyond t name outgoing k incoming reads o := by
  induction gives generalizing incoming with
  | @quiet k k' pending =>
      cases dataPending_ticks file pending
      exact .inr ⟨[], incoming, k.tick, nofun, fun _ => rfl, rfl, queue_refl (k := k) file, rfl⟩
  | @late k k' pending expired =>
      cases dataPending_ticks file pending
      exact .inr ⟨[], incoming, k.tick, nofun, fun _ => rfl, rfl, queue_refl (k := k) file, rfl⟩
  | broken pending => cases (dataPending_apply (S := S) file).symm.trans pending
  | @blocked k k' k'' pending inTime read => exact .inl ⟨k'', rfl⟩
  | @empty k k' k'' pending inTime read =>
      cases dataPending_ticks file pending
      have file' : k.tick.files t.fd = some (.tun name incoming outgoing) := file
      obtain ⟨k₁, blocked⟩ | ⟨rest, k₁, rfl, queue, ended⟩ |
        ⟨answer, rest, k₁, rfl, queue, ⟨frame, left, passed⟩ | ⟨left, what, dropped⟩⟩ :=
          getData_cases (S := S) toxUdpPort beyond file'
      · cases blocked.symm.trans read
      · cases ended.symm.trans read
        refine .inr ⟨[some []], rest, k'', fun _ => rfl, fun whole => (whole (by simp)).elim, rfl, queue, ?_⟩
        rw [List.map_singleton, Option.bind_some, shown_nil]
      · cases passed.symm.trans read
      · cases dropped.symm.trans read
  | @passed k k' k'' frame reads o bytes pending inTime read _ ih =>
      cases dataPending_ticks file pending
      have file' : k.tick.files t.fd = some (.tun name incoming outgoing) := file
      obtain ⟨k₁, blocked⟩ | ⟨rest, k₁, rfl, queue, ended⟩ |
        ⟨answer, rest, k₁, rfl, queue, ⟨frame', left, passed⟩ | ⟨left, what, dropped⟩⟩ :=
          getData_cases (S := S) toxUdpPort beyond file'
      · cases blocked.symm.trans read
      · cases ended.symm.trans read
      · have same := passed.symm.trans read
        rw [Outcome.returned.injEq] at same
        obtain ⟨frames, rfl⟩ := same
        have cut : frame' = frame := by simpa [Data.tunData, Data.setToxHeader] using frames
        exact (ih queue.file).imp_right fun drains =>
          drains.cons (k := k) _ _ queue (left.trans (congrArg some cut)) (by simpa using bytes)
      · cases dropped.symm.trans read
  | @dropped k k' k'' what reads o pending inTime read _ ih =>
      cases dataPending_ticks file pending
      have file' : k.tick.files t.fd = some (.tun name incoming outgoing) := file
      obtain ⟨k₁, blocked⟩ | ⟨rest, k₁, rfl, queue, ended⟩ |
        ⟨answer, rest, k₁, rfl, queue, ⟨frame, left, passed⟩ | ⟨left, what, dropped⟩⟩ :=
          getData_cases (S := S) toxUdpPort beyond file'
      · cases blocked.symm.trans read
      · cases ended.symm.trans read
      · cases passed.symm.trans read
      · cases dropped.symm.trans read
        exact (ih queue.file).imp_right fun drains => drains.cons (k := k) _ _ queue left nofun

/-- When the system grants its calls and no frame is empty, frames are left in the queue only
when the time is over. -/
theorem unix_gives_granted (grants : ∀ clock, S.granted clock = true) (frames : [] ∉ incoming)
    (file : k.files t.fd = some (.tun name incoming outgoing)) :
    ∃ n ≤ incoming.length, ∃ k', Queue t name outgoing k (incoming.drop n) k' ∧
      (unix S toxUdpPort beyond late t).Gives k ((incoming.take n).map (shown toxUdpPort beyond))
        (.returned () k') ∧
      some [] ∉ (incoming.take n).map (shown toxUdpPort beyond) ∧
      ((∀ clock, late clock = false) → n = incoming.length) := by
  induction incoming generalizing k with
  | nil =>
      refine ⟨0, Nat.le_refl 0, k.tick, queue_refl (k := k) file, .quiet ?_, List.not_mem_nil,
        fun _ => rfl⟩
      exact (dataPending_apply file).trans (by simp [grants])
  | cons frame rest ih =>
      obtain ⟨bytes, others⟩ := List.ne_and_not_mem_of_not_mem_cons frames
      have pending : (unix S toxUdpPort beyond late t).dataPending k = .returned true k.tick :=
        (dataPending_apply file).trans (by simp)
      cases expired : late k.tick.clock with
      | true =>
          refine ⟨0, Nat.zero_le _, k.tick, queue_refl (k := k) file, .late pending expired,
            List.not_mem_nil, fun never => ?_⟩
          rw [never] at expired
          cases expired
      | false =>
          have file' : k.tick.files t.fd = some (.tun name (frame :: rest) outgoing) := file
          obtain ⟨k₁, queue, took⟩ := getData_took toxUdpPort beyond file' (grants _)
          obtain ⟨n, most, k₂, queue', gives, survives, drained⟩ := ih others queue.file
          rcases took with ⟨rfl, -⟩ | ⟨-, left, passed⟩ | ⟨-, left, what, dropped⟩
          · exact (bytes rfl).elim
          · have cut := take_bufferSize_ne_nil (Ne.symm bytes)
            refine ⟨n + 1, Nat.succ_le_succ most, k₂, queue.trans queue', ?_, ?_, fun never => ?_⟩
            · rw [List.take_succ_cons, List.map_cons, left]
              exact .passed cut pending expired passed gives
            · rw [List.take_succ_cons, List.map_cons, left]
              exact List.not_mem_cons_of_ne_of_not_mem (by simpa using Ne.symm cut) survives
            · rw [drained never, List.length_cons]
          · refine ⟨n + 1, Nat.succ_le_succ most, k₂, queue.trans queue', ?_, ?_, fun never => ?_⟩
            · rw [List.take_succ_cons, List.map_cons, left]
              exact .dropped pending expired dropped gives
            · rw [List.take_succ_cons, List.map_cons, left]
              exact List.not_mem_cons_of_ne_of_not_mem nofun survives
            · rw [drained never, List.length_cons]

end

/-! ## The operation of the core -/

section
variable {S : Sys} {E : Env} (toxUdpPort : UInt16) (beyond : Nat → UInt8) (late : Nat → Bool)
  {t : TunUnix} {name : Option String} {outgoing incoming : List (List UInt8)} {k : Kernel}
  {core : ToxTunCore} {f : UInt32} {c : Connection}

/-- Polling the device of a connection is the operation `iterate` on what is left of the
frames in the queue, in their order and each at most once; calls that fail are reads that
throw. When the system grants its calls and no frame is empty, polling comes to its end, and
unless the time is over a live connection has then taken all frames. -/
theorem iterate_polls (found : core.connections f = some c)
    (file : k.files t.fd = some (.tun name incoming outgoing)) :
    (∀ fuel, (∃ q, poll E (unix S toxUdpPort beyond late t) fuel core f c k = .outOfFuel q) ∨
      ∃ (answers : List (Option (List UInt8))) (rest : List (List UInt8)) (k' : Kernel),
        incoming = answers.reduceOption ++ rest ∧ Queue t name outgoing k rest k' ∧
        poll E (unix S toxUdpPort beyond late t) fuel core f c k =
          (step core (E, (Call.iterate (answers.map fun a =>
            a.bind (shown toxUdpPort beyond))).op f)).outcome.mapState fun w => (k', w)) ∧
    ((∀ clock, S.granted clock = true) → [] ∉ incoming → ∀ fuel, incoming.length < fuel →
      ∃ n ≤ incoming.length, ∃ k' w, Queue t name outgoing k (incoming.drop n) k' ∧
        poll E (unix S toxUdpPort beyond late t) fuel core f c k = .returned () (k', w) ∧
        (step core (E, (Call.iterate ((incoming.take n).map (shown toxUdpPort beyond))).op f)).outcome =
          .returned () w ∧
        (c.state = .connected → (∀ clock, late clock = false) → n = incoming.length)) := by
  constructor
  · intro fuel
    rcases serves_or_goes_on (E := E) (unix_sane S toxUdpPort beyond late t) core f c k fuel with
      ⟨k', w, stuck, -⟩ | ⟨reads, o, few, serves⟩
    · exact .inl ⟨_, stuck⟩
    obtain ⟨w, ends, done⟩ := iterate_ends (E := E) found serves few
    unfold Source.Serves at serves
    split at serves
    · rcases unix_gives toxUdpPort beyond late serves file with
        ⟨k', rfl⟩ | ⟨answers, rest, k', ended, goes, parts, queue, rfl⟩
      · exact .inl ⟨_, done⟩
      · refine .inr ⟨answers, rest, k', parts, queue, ?_⟩
        rw [done, ends]
        split
        · next empty => rw [ended empty]; rfl
        · next whole => rw [goes whole]; rfl
    · obtain ⟨rfl, rfl⟩ := serves
      exact .inr ⟨[], incoming, k, rfl, queue_refl file, by rw [done]; exact ends ▸ rfl⟩
  · intro grants frames fuel enough
    by_cases connected : c.state = .connected
    · obtain ⟨n, most, k', queue, gives, survives, drained⟩ :=
        unix_gives_granted toxUdpPort beyond late grants frames file
      have few : survived ((incoming.take n).map (shown toxUdpPort beyond)) < fuel := by
        refine lt_of_le_of_lt (List.countP_le_length.trans ?_) enough
        rw [List.length_map, List.length_take]
        exact Nat.min_le_right _ _
      have serves : (unix S toxUdpPort beyond late t).Serves c k
          ((incoming.take n).map (shown toxUdpPort beyond)) (.returned () k') := by
        rwa [Source.Serves, if_pos connected]
      obtain ⟨w, ends, done⟩ := iterate_ends (E := E) found serves few
      exact ⟨n, most, k', w, queue, done, ends.trans (if_neg survives), fun _ => drained⟩
    · have serves : (unix S toxUdpPort beyond late t).Serves c k [] (.returned () k) := by
        rw [Source.Serves, if_neg connected]
        exact ⟨rfl, rfl⟩
      obtain ⟨w, ends, done⟩ := iterate_ends (E := E) found serves (Nat.zero_lt_of_lt enough)
      exact ⟨0, Nat.zero_le _, k, w, queue_refl file, done, ends, fun up => (connected up).elim⟩

end

/-- Two frames wait, and both are taken. -/
theorem iterate_polls_twoFrames : ∃ k' w,
    poll (.obliging fun _ => some [])
      (unix (Devices.willing true) 33445 (fun _ => 0) (fun _ => false) ⟨3, "tap0"⟩) 3
      ⟨fun _ => some { Connection.initial true with state := .connected }, true⟩ 7
      { Connection.initial true with state := .connected }
      (Devices.lonelyKernel.setFile 3 (some (.tun (some "tap0") [[1, 2], [3]] []))) =
        .returned () (k', w) ∧
    k'.files 3 = some (.tun (some "tap0") [] []) := by
  let c : Connection := { Connection.initial true with state := .connected }
  have found : (⟨fun _ => some c, true⟩ : ToxTunCore).connections 7 = some c := rfl
  have file : (Devices.lonelyKernel.setFile 3 (some (.tun (some "tap0") [[1, 2], [3]] []))).files
      (TunUnix.mk 3 "tap0").fd = some (.tun (some "tap0") [[1, 2], [3]] []) := by
    simp [Kernel.setFile]
  obtain ⟨n, -, k', w, queue, ends, -, all⟩ := (iterate_polls (S := Devices.willing true)
    (E := .obliging fun _ => some []) 33445 (fun _ => 0) (fun _ => false) found file).2
      (fun _ => rfl) (by decide) 3 (by decide)
  cases all rfl fun _ => rfl
  exact ⟨k', w, ends, queue.file⟩

end Polling

end LibToxTun
