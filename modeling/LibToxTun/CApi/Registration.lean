import LibToxTun.CApi.Isolation

/-! # Objects and their Tox

An object registers itself with its Tox in its constructor, for lossless and for lossy
packets, and its destructor registers nobody. Tox keeps one object for each kind of
packet, so objects that share a Tox displace each other.
-/

namespace LibToxTun

open Foundation

/-- The process, the member `tox` of the objects, and the objects that are registered
with a Tox. -/
structure Hosting where
  process : Process
  tox : Pointer → Option Pointer
  losslessCallback : Pointer → Option Pointer
  lossyCallback : Pointer → Option Pointer

/-- What happens in the process: an object is created, a function of the interface is called
on one, or a Tox gets a packet. -/
inductive HostingCall where
  | create (toxtun tox : Pointer)
  | call (toxtun : Pointer) (c : ToxtunCall)
  | packet (tox : Pointer) (lossy : Bool) (E : Env) (friendNumber : UInt32) (dataRaw : List UInt8)

namespace Hosting

def start : Hosting := ⟨.initial, fun _ => none, fun _ => none, fun _ => none⟩

/-- `tox_callback_friend_lossless_packet` and `tox_callback_friend_lossy_packet`. -/
def register (s : Hosting) (tox : Pointer) (toxtun : Option Pointer) : Hosting :=
  { s with
    losslessCallback := Function.update s.losslessCallback tox toxtun
    lossyCallback := Function.update s.lossyCallback tox toxtun }

/-- The destructor of an object that is registered with its Tox. -/
def unregister (s : Hosting) (toxtun : Pointer) : Hosting :=
  match s.tox toxtun with
  | some tox => { s.register tox none with tox := Function.update s.tox toxtun none }
  | none => s

def next (s : Hosting) : HostingCall → Option Hosting
  | .create toxtun tox =>
      (s.process.next (toxtun, .new)).map fun p =>
        { s.register tox (some toxtun) with process := p, tox := Function.update s.tox toxtun (some tox) }
  | .call _ .new => none
  | .call _ (.receive _ _ _) => none
  | .call toxtun (.kill E friends) =>
      (s.process.next (toxtun, .kill E friends)).map fun p => { s.unregister toxtun with process := p }
  | .call toxtun c => (s.process.next (toxtun, c)).map fun p => { s with process := p }
  | .packet tox lossy E f dataRaw =>
      match (if lossy then s.lossyCallback else s.losslessCallback) tox with
      | some toxtun => (s.process.next (toxtun, .receive E f dataRaw)).map fun p => { s with process := p }
      | none => some s

/-- A Tox calls an object that is alive and its own, the same one for all its packets. -/
structure Sound (s : Hosting) : Prop where
  hosted : ∀ toxtun, s.tox toxtun ≠ none ↔ s.process.toxTuns toxtun ≠ none
  own : ∀ tox toxtun, s.losslessCallback tox = some toxtun → s.tox toxtun = some tox
  same : s.lossyCallback = s.losslessCallback

theorem sound_start : start.Sound := ⟨fun _ => by simp [start, Process.initial], nofun, rfl⟩

end Hosting

def ToxtunCall.kills : ToxtunCall → Bool
  | .kill _ _ => true
  | _ => false

namespace Process

theorem attempt_alive (p : Process) (toxtun : Pointer) (t : ToxTun) (o : Outcome Exn World Unit) :
    (p.attempt toxtun t o).toxTuns toxtun ≠ none := by
  unfold attempt
  split <;> simp [leave, observe]

theorem perform_alive {p : Process} {toxtun : Pointer} {t : ToxTun} (found : p.toxTuns toxtun = some t)
    (c : ToxtunCall) : (p.perform toxtun t c).toxTuns toxtun ≠ none ↔ c.kills = false := by
  cases c with
  | kill E friends => simp [perform, toxtunKill, setToxTun, ToxtunCall.kills]
  | new => simp [perform, found, ToxtunCall.kills]
  | setCallback cb userData => simp [perform, toxtunSetCallback, setToxTun, ToxtunCall.kills]
  | iterate E f reads => simp [perform, toxtunIterate, leave, ToxtunCall.kills]
  | sendConnectionRequest E f => exact iff_of_true (attempt_alive _ _ _ _) rfl
  | acceptConnection E f => exact iff_of_true (attempt_alive _ _ _ _) rfl
  | rejectConnection E f => simp [perform, toxtunRejectConnection, leave, ToxtunCall.kills]
  | closeConnection E f => simp [perform, toxtunCloseConnection, leave, ToxtunCall.kills]
  | getConnectionState f => simp [perform, toxtunGetConnectionState, observe, found, ToxtunCall.kills]
  | getLastError =>
      refine iff_of_true ?_ rfl
      change (p.toxtunGetLastError toxtun).toxTuns toxtun ≠ none
      unfold toxtunGetLastError
      split <;> simp [observe, found]
  | receive E f dataRaw => simp [perform, toxPacketCallback, leave, ToxtunCall.kills]

theorem next_alive {p p' : Process} {toxtun : Pointer} {c : ToxtunCall}
    (taken : next p (toxtun, c) = some p') (other : Pointer) :
    p'.toxTuns other ≠ none ↔ if other = toxtun then c.kills = false else p.toxTuns other ≠ none := by
  obtain ⟨-, ⟨rfl, -, -, rfl⟩ | ⟨-, t, found, rfl⟩⟩ := next_cases taken
  · by_cases own : other = toxtun
    · subst own
      simp [toxtunNew, setToxTun, ToxtunCall.kills]
    · simp [toxtunNew, setToxTun, own]
  · by_cases own : other = toxtun
    · subst own
      rw [if_pos rfl]
      exact perform_alive found c
    · rw [if_neg own, (perform_untouched (fun h => own h.symm) t c).object]

end Process

namespace HostingCall

/-- An object comes or goes. -/
def registers : HostingCall → Bool
  | .create _ _ => true
  | .call _ c => c.kills
  | .packet _ _ _ _ _ => false

def deletes (toxtun : Pointer) : HostingCall → Prop
  | .call k c => k = toxtun ∧ c.kills = true
  | _ => False

end HostingCall

namespace Hosting

/-- Another object is created on a Tox, or one of its objects is deleted. -/
def Displaces (s : Hosting) (tox : Pointer) : HostingCall → Prop
  | .create _ other => other = tox
  | .call toxtun c => c.kills = true ∧ s.tox toxtun = some tox
  | .packet _ _ _ _ _ => False

/-! ## One call -/

variable {s s' : Hosting}

/-- What a call does to the registrations: an object comes, goes, or there is no change. -/
inductive Registers (s : Hosting) (s' : Hosting) : HostingCall → Prop where
  | created {toxtun tox : Pointer} {p : Process} (taken : s.process.next (toxtun, .new) = some p)
      (same : s' = { s.register tox (some toxtun) with
        process := p, tox := Function.update s.tox toxtun (some tox) }) :
      Registers s s' (.create toxtun tox)
  | killed {toxtun : Pointer} {E : Env} {friends : List UInt32} {p : Process}
      (taken : s.process.next (toxtun, .kill E friends) = some p)
      (same : s' = { s.unregister toxtun with process := p }) :
      Registers s s' (.call toxtun (.kill E friends))
  | called {toxtun : Pointer} {c : ToxtunCall} {p : Process} {call : HostingCall}
      (quiet : call.registers = false) (kept : c.kills = false) (old : c ≠ .new)
      (taken : s.process.next (toxtun, c) = some p) (same : s' = { s with process := p }) :
      Registers s s' call
  | dropped {call : HostingCall} (quiet : call.registers = false) (same : s' = s) :
      Registers s s' call

theorem next_registers {call : HostingCall} (taken : s.next call = some s') : Registers s s' call := by
  cases call with
  | create toxtun tox =>
      obtain ⟨p, taken, same⟩ := Option.map_eq_some_iff.mp taken
      exact .created taken same.symm
  | packet tox lossy E f dataRaw =>
      simp only [next] at taken
      split at taken
      · obtain ⟨p, taken, same⟩ := Option.map_eq_some_iff.mp taken
        exact .called rfl rfl (by simp) taken same.symm
      · exact .dropped rfl (Option.some.inj taken).symm
  | call toxtun c =>
      cases c with
      | new => cases taken
      | receive E f dataRaw => cases taken
      | kill E friends =>
          obtain ⟨p, taken, same⟩ := Option.map_eq_some_iff.mp taken
          exact .killed taken same.symm
      | _ =>
          obtain ⟨p, taken, same⟩ := Option.map_eq_some_iff.mp taken
          exact .called rfl rfl (by simp) taken same.symm

@[simp] theorem register_own (s : Hosting) (tox : Pointer) (toxtun : Option Pointer) :
    (s.register tox toxtun).losslessCallback tox = toxtun := Function.update_self ..

theorem register_other {tox other : Pointer} (apart : other ≠ tox) (toxtun : Option Pointer) :
    (s.register tox toxtun).losslessCallback other = s.losslessCallback other :=
  Function.update_of_ne apart ..

theorem register_same (sound : s.Sound) (tox : Pointer) (toxtun : Option Pointer) :
    (s.register tox toxtun).lossyCallback = (s.register tox toxtun).losslessCallback := by
  rw [register, sound.same]

theorem called_alive {toxtun : Pointer} {c : ToxtunCall} {p : Process} (kept : c.kills = false)
    (old : c ≠ .new) (taken : s.process.next (toxtun, c) = some p) (other : Pointer) :
    p.toxTuns other ≠ none ↔ s.process.toxTuns other ≠ none := by
  rw [Process.next_alive taken]
  split
  · next own =>
      subst own
      rcases (Process.next_cases taken).2 with ⟨new, -⟩ | ⟨-, t, found, -⟩
      · exact (old new).elim
      · simp [kept, found]
  · rfl

theorem Sound.registers (sound : s.Sound) {call : HostingCall} (step : Registers s s' call) :
    s'.Sound := by
  cases step with
  | @created toxtun tox p taken same =>
      subst same
      obtain ⟨-, ⟨-, -, free, -⟩ | ⟨old, -⟩⟩ := Process.next_cases taken
      swap
      · exact (old rfl).elim
      have homeless : s.tox toxtun = none := by
        by_contra alive
        exact (sound.hosted toxtun).mp alive free
      refine ⟨fun other => ?_, fun tox' other registered => ?_, register_same sound tox _⟩
      · rw [Process.next_alive taken]
        by_cases own : other = toxtun
        · simp [own, ToxtunCall.kills]
        · simpa [own] using sound.hosted other
      · change Function.update s.tox toxtun (some tox) other = some tox'
        by_cases here : tox' = tox
        · subst here
          cases (register_own s tox' (some toxtun)).symm.trans registered
          exact Function.update_self ..
        · have before := sound.own tox' other ((register_other here _).symm.trans registered)
          rw [Function.update_of_ne, before]
          rintro rfl
          cases homeless.symm.trans before
  | @killed toxtun E friends p taken same =>
      subst same
      obtain ⟨-, ⟨new, -⟩ | ⟨-, t, found, -⟩⟩ := Process.next_cases taken
      · cases new
      have housed : s.tox toxtun ≠ none := (sound.hosted toxtun).mpr (by simp [found])
      obtain ⟨tox, housed⟩ := Option.ne_none_iff_exists'.mp housed
      simp only [unregister, housed]
      refine ⟨fun other => ?_, fun tox' other registered => ?_, register_same sound tox none⟩
      · rw [Process.next_alive taken]
        by_cases own : other = toxtun
        · simp [own, ToxtunCall.kills]
        · simpa [own] using sound.hosted other
      · change Function.update s.tox toxtun none other = some tox'
        by_cases here : tox' = tox
        · subst here
          cases (register_own s tox' none).symm.trans registered
        · have before := sound.own tox' other ((register_other here _).symm.trans registered)
          rw [Function.update_of_ne, before]
          rintro rfl
          exact here (Option.some.inj (before.symm.trans housed))
  | called quiet kept old taken same =>
      subst same
      exact ⟨fun other => (sound.hosted other).trans (called_alive kept old taken other).symm,
        sound.own, sound.same⟩
  | dropped quiet same =>
      subst same
      exact sound

theorem not_displaces {tox : Pointer} {call : HostingCall} (quiet : call.registers = false) :
    ¬ s.Displaces tox call := by
  cases call with
  | create toxtun other => cases quiet
  | call toxtun c => exact fun h => Bool.false_ne_true (quiet.symm.trans h.1)
  | packet => exact id

/-- An object that is not deleted stays registered exactly when it is not displaced. -/
theorem Registers.stays (sound : s.Sound) {toxtun tox : Pointer} (own : s.tox toxtun = some tox)
    {call : HostingCall} (lives : ¬ call.deletes toxtun) (step : Registers s s' call) :
    s'.tox toxtun = some tox ∧ (s'.losslessCallback tox = some toxtun ↔
      s.losslessCallback tox = some toxtun ∧ ¬ s.Displaces tox call) := by
  cases step with
  | @created other tox' p taken same =>
      subst same
      obtain ⟨-, ⟨-, -, free, -⟩ | ⟨old, -⟩⟩ := Process.next_cases taken
      swap
      · exact (old rfl).elim
      have apart : toxtun ≠ other := by
        rintro rfl
        exact (sound.hosted toxtun).mp (by simp [own]) free
      refine ⟨(Function.update_of_ne apart ..).trans own, ?_⟩
      change (s.register tox' (some other)).losslessCallback tox = some toxtun ↔ _
      by_cases here : tox' = tox
      · subst here
        simp [Displaces, apart.symm]
      · rw [register_other fun h => here h.symm]
        simp [Displaces, here]
  | @killed other E friends p taken same =>
      subst same
      have apart : toxtun ≠ other := fun same => lives ⟨same.symm, rfl⟩
      cases housed : s.tox other with
      | none => simp [unregister, housed, own, Displaces]
      | some tox' =>
          simp only [unregister, housed]
          refine ⟨(Function.update_of_ne apart ..).trans own, ?_⟩
          by_cases here : tox' = tox
          · subst here
            simp [Displaces, ToxtunCall.kills, housed]
          · rw [register_other fun h => here h.symm]
            simp [Displaces, housed, here]
  | called quiet kept old taken same =>
      subst same
      exact ⟨own, by simp [not_displaces quiet]⟩
  | dropped quiet same =>
      subst same
      exact ⟨own, by simp [not_displaces quiet]⟩

/-! ## Runs -/

theorem run_sound {calls : List HostingCall} (ran : run next start calls = some s) : s.Sound := by
  have reached : Reach next (fun _ _ => True) start s := Reach.of_run ran fun _ _ => trivial
  exact reached.invariant sound_start fun _ _ _ sound _ taken => sound.registers (next_registers taken)

/-- A Tox with a packet never calls an object that is gone. -/
theorem Sound.packet (sound : s.Sound) (running : s.process.running = true) (tox : Pointer) (lossy : Bool)
    (E : Env) (f : UInt32) (dataRaw : List UInt8) :
    (next s (.packet tox lossy E f dataRaw)).isSome = true := by
  have callback : (if lossy then s.lossyCallback else s.losslessCallback) = s.losslessCallback := by
    rw [sound.same, ite_self]
  simp only [next, callback]
  cases registered : s.losslessCallback tox with
  | none => rfl
  | some toxtun =>
      have alive := (sound.hosted toxtun).mp (by simp [sound.own tox toxtun registered])
      obtain ⟨t, found⟩ := Option.ne_none_iff_exists'.mp alive
      simp [Process.next_perform running found (show ToxtunCall.receive E f dataRaw ≠ .new by simp)]

/-- In every run, an object gets the packets of its Tox exactly as long as, since its creation,
no other object was created on this Tox and none of the others on it was deleted. No Tox calls
an object that is gone or belongs to another one. -/
theorem heard_iff {before after : List HostingCall} {toxtun tox : Pointer} {s₀ : Hosting}
    (ran : run next start before = some s₀) (created : next s₀ (.create toxtun tox) = some s)
    (lived : run next s after = some s') (lives : ∀ call ∈ after, ¬ call.deletes toxtun) :
    (s'.losslessCallback tox = some toxtun ↔ ∀ past call future, after = past ++ call :: future →
      ∀ t, run next s past = some t → ¬ t.Displaces tox call) ∧
    s'.lossyCallback = s'.losslessCallback ∧
    (∀ other k, s'.losslessCallback other = some k →
      s'.tox k = some other ∧ s'.process.toxTuns k ≠ none) ∧
    (s'.process.running = true → ∀ other lossy E f dataRaw,
      (next s' (.packet other lossy E f dataRaw)).isSome = true) := by
  have fresh : s.Sound ∧ s.tox toxtun = some tox ∧ s.losslessCallback tox = some toxtun := by
    have step := next_registers created
    refine ⟨(run_sound ran).registers step, ?_⟩
    cases step with
    | created taken same => subst same; exact ⟨Function.update_self .., Function.update_self ..⟩
    | called quiet => cases quiet
    | dropped quiet => cases quiet
  have life : s'.Sound ∧ s'.tox toxtun = some tox ∧ (s'.losslessCallback tox = some toxtun ↔
      ∀ past call future, after = past ++ call :: future →
        ∀ t, run next s past = some t → ¬ t.Displaces tox call) := by
    induction after using List.reverseRecOn generalizing s' with
    | nil =>
        cases lived
        exact ⟨fresh.1, fresh.2.1, by simp [fresh.2.2]⟩
    | append_singleton after call ih =>
        rw [run_append, Option.bind_eq_some_iff] at lived
        obtain ⟨t, earlier, taken⟩ := lived
        rw [run_singleton] at taken
        obtain ⟨sound, own, heard⟩ := ih earlier fun c mem => lives c (List.mem_append_left _ mem)
        have step := next_registers taken
        obtain ⟨own', heard'⟩ := step.stays sound own
          (lives call (List.mem_append_right _ List.mem_cons_self))
        refine ⟨sound.registers step, own', ?_⟩
        rw [heard', heard, forall_places_concat (P := fun past call => ∀ t, run next s past = some t →
          ¬ t.Displaces tox call)]
        simp [earlier]
  obtain ⟨sound, -, heard⟩ := life
  exact ⟨heard, sound.same, fun other k registered =>
    ⟨sound.own other k registered, (sound.hosted k).mp (by simp [sound.own other k registered])⟩,
    sound.packet⟩

/-- Object 2 is created on the Tox of object 1 and deleted, and object 1 gets no packets. -/
theorem heard_iff_deaf : ∃ s s' : Hosting, next start (.create 1 9) = some s ∧
    (s'.losslessCallback 9 = none ∧ s'.tox 1 = some 9) ∧
    (s'.losslessCallback 9 = some 1 ↔ ∀ past call future,
      [.create 2 9, .call 2 (.kill Process.granting [])] = past ++ call :: future →
        ∀ t, run next s past = some t → ¬ t.Displaces 9 call) := by
  obtain ⟨s, created, later⟩ := exists_run next start [.create 1 9]
    (P := fun s => (run next s [.create 2 9, .call 2 (.kill Process.granting [])]).any (fun s' =>
      decide (s'.losslessCallback 9 = none ∧ s'.tox 1 = some 9)) = true) (by decide +kernel)
  obtain ⟨s', lived, deaf⟩ := exists_run next s _ later
  rw [run_singleton] at created
  have ran : run next start [] = some start := rfl
  exact ⟨s, s', created, deaf, (heard_iff ran created lived (by simp [HostingCall.deletes])).1⟩

end Hosting

end LibToxTun
