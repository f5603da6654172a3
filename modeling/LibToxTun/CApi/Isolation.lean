import LibToxTun.Foundation.Run
import LibToxTun.Safety.Atomicity
import LibToxTun.CApi.Machine

/-! # Objects of one process

What the user of an object observes is compared with what the same calls on the
object show in a process of its own. The two statics are what can come between: the
callback function of the last caller, and an error that an earlier object under the
same handle has left behind.
-/

namespace LibToxTun

open Foundation

/-- The calls on one handle. -/
def own (toxtun : Pointer) (calls : List (Pointer × ToxtunCall)) : List (Pointer × ToxtunCall) :=
  calls.filter fun i => i.1 = toxtun

def ToxtunCall.callback (c : Option Pointer) : ToxtunCall → Option Pointer
  | .setCallback cb _ => cb
  | _ => c

/-- The function that the last of the calls has set. -/
def lastCallback (calls : List (Pointer × ToxtunCall)) : Option Pointer :=
  calls.foldl (fun c i => i.2.callback c) none

def ToxtunCall.effects (t : ToxTun) : ToxtunCall → List Effect
  | .kill E friends => (ToxTunCore.destructor E.noting friends t.enter).state.trace
  | .iterate E f reads => (ToxTunCore.iterate E.noting f reads t.enter).state.trace
  | .sendConnectionRequest E f => (ToxTunCore.sendConnectionRequest E.noting f t.enter).state.trace
  | .acceptConnection E f => (ToxTunCore.acceptConnection E.noting f t.enter).state.trace
  | .rejectConnection E f => (ToxTunCore.rejectConnection E.noting f t.enter).state.trace
  | .closeConnection E f => (ToxTunCore.closeConnection E.noting f t.enter).state.trace
  | .receive E f dataRaw => (ToxTunCore.toxPacketCallback E.noting f dataRaw t.enter).state.trace
  | _ => []

def ToxtunCall.Raises (t : ToxTun) (c : ToxtunCall) : Prop :=
  ∃ event friendNumber, Effect.raised event friendNumber ∈ c.effects t

/-- A failed call, which puts its error over an older one, or the reading of an error. -/
def Observation.settles : Observation → Bool
  | .success result => !result
  | .lastError _ => true
  | _ => false

namespace Process

/-- What has been observed on a handle since an earlier state of the process. -/
def observedSince (toxtun : Pointer) (p₀ p : Process) : List Observation :=
  (p.observedBy toxtun).drop (p₀.observedBy toxtun).length

/-- A call on an object meets nothing of others in the statics: an event finds the
function that was set last on this object, and no error is read that was there before
the object. -/
def Undisturbed (p₀ p : Process) (toxtun : Pointer) (past : List (Pointer × ToxtunCall))
    (c : ToxtunCall) : Prop :=
  (∀ t, p.toxTuns toxtun = some t → c.Raises t → p.cCallback = lastCallback (own toxtun past)) ∧
  (c = .getLastError → p₀.errorStrings toxtun = none ∨
    (observedSince toxtun p₀ p).any Observation.settles = true)

/-- An object is created, calls are made on it and on others, and what is observed is
what the calls on this object alone show. -/
def Isolated (p₀ : Process) (toxtun : Pointer) (past : List (Pointer × ToxtunCall)) : Prop :=
  ∃ p q, run next p₀ ((toxtun, .new) :: past) = some p ∧
    run next initial ((toxtun, .new) :: own toxtun past) = some q ∧
    observedSince toxtun p₀ p = q.observedBy toxtun

end Process

/-! ## Error texts -/

section
variable {E : Env} {f : UInt32} {w w' : World} {e : Exn} {what : String}

theorem erase_throws_nothing : ToxTunCore.erase E f w ≠ .thrown e w' := by
  intro thrown
  cases found : w.core.connections f with
  | none =>
      rw [ToxTunCore.erase_absent E found] at thrown
      cases thrown
  | some c =>
      let fr := Frame.enter f c w
      have alive : fr.alive = true := rfl
      by_cases heard : c.state.resets = true → w.core.callbackFunction = true
      · have erased := eraseSelf_eq E alive heard
        simp only [fr] at erased
        simp [ToxTunCore.erase, ToxTunCore.connection, found, onConnection, erased] at thrown
      · obtain ⟨resets, unset⟩ := Classical.not_imp.mp heard
        have ended := eraseSelf_unregistered E alive resets (Bool.eq_false_iff.mpr unset)
        simp only [fr] at ended
        simp [ToxTunCore.erase, ToxTunCore.connection, found, onConnection, ended] at thrown

theorem sendConnectionRequest_text
    (thrown : ToxTunCore.sendConnectionRequest E f w = .thrown (.toxTunError what) w') :
    what ≠ "No error" := by
  cases found : w.core.connections f with
  | some c =>
      simp only [ToxTunCore.sendConnectionRequest, ToxTunCore.connection, Action.bind_apply,
        Action.read_apply, Outcome.andThen_returned, found, Option.isSome_some, if_true,
        Action.throw_apply, Outcome.thrown.injEq, Exn.toxTunError.injEq] at thrown
      rw [← thrown.1]
      decide
  | none =>
      have emplaced : ToxTunCore.emplace E f true w = .thrown (.toxTunError what) w' := by
        simpa [ToxTunCore.sendConnectionRequest, ToxTunCore.connection, found] using thrown
      simp only [ToxTunCore.emplace, Action.bind_apply, Action.read_apply, Outcome.andThen_returned,
        Action.modify_apply] at emplaced
      cases opens : E.tunOpens w.clock with
      | false =>
          simp only [opens, Bool.not_false, if_true, Action.throw_apply, Outcome.thrown.injEq,
            Exn.toxTunError.injEq] at emplaced
          rw [← emplaced.1]
          decide
      | true =>
          let fr := Frame.enter f (Connection.initial true) w.tick
          have sent := sendToTox_control E (d := Data.fromPacketId .connectionRequest)
            ⟨Nat.le_add_left 1 3, rfl⟩ (show fr.alive = true from rfl)
          simp only [opens, Bool.not_true, Bool.false_eq_true, if_false, if_true,
            LibToxTun.sendConnectionRequest] at emplaced
          cases sends : E.sends fr.world.clock with
          | true =>
              rw [sent, if_pos sends] at emplaced
              cases emplaced
          | false =>
              rw [sent, if_neg (by simp [sends])] at emplaced
              cases emplaced
              exact unsent_text (by decide) f

theorem acceptConnection_text {core : ToxTunCore}
    (thrown : ToxTunCore.acceptConnection E f ⟨core, 0, []⟩ = .thrown (.toxTunError what) w') :
    what ≠ "No error" := by
  cases found : core.connections f with
  | none =>
      have missing : ToxTunCore.acceptConnection E f ⟨core, 0, []⟩ =
          .thrown (.toxTunError "No connection to accept from this friend") ⟨core, 0, []⟩ := by
        simp [ToxTunCore.acceptConnection, ToxTunCore.connection, found]
      rw [missing] at thrown
      cases thrown
      decide
  | some c =>
      let fr := Frame.enter f c ⟨core, 0, []⟩
      have silent : c.state ≠ .friendsRequestPending := acceptConnection_refuses found (by
        rw [Transition.throws, show (step core (E, .acceptConnection f)).outcome = _ from thrown])
      have refused := acceptConnection_refused E (show fr.alive = true from rfl) silent
      have dropped : ToxTunCore.acceptConnection E f ⟨core, 0, []⟩ =
          (ToxTunCore.erase E f fr.leave).andThen fun _ => Action.throw (.toxTunError
            "Connection not on right state to accept connection request") := by
        simp [ToxTunCore.acceptConnection, ToxTunCore.connection, found, onConnection, fr, refused]
      rw [dropped] at thrown
      cases erased : ToxTunCore.erase E f fr.leave with
      | returned n w'' =>
          rw [erased] at thrown
          cases thrown
          decide
      | thrown e w'' => exact (erase_throws_nothing erased).elim
      | terminated w'' =>
          rw [erased] at thrown
          cases thrown
      | outOfFuel w'' =>
          rw [erased] at thrown
          cases thrown

end

/-! ## What one call does -/

namespace Process

section
variable (p q : Process) (toxtun : Pointer) (t : ToxTun)

theorem observe_observedBy (o : Observation) :
    (p.observe toxtun o).observedBy toxtun = p.observedBy toxtun ++ [o] := by
  simp [observe, observedBy]

theorem leave_observedBy (o : Outcome Exn World Unit) :
    (p.leave toxtun t o).observedBy toxtun =
      p.observedBy toxtun ++ p.delivered t o.state.trace := by
  simp [leave, observedBy, List.filterMap_map]

theorem delivered_silent (unset : p.cCallback = none) (effects : List Effect) :
    p.delivered t effects = [] := by
  rw [delivered, List.filterMap_eq_nil_iff]
  intro e _
  cases e <;> simp [intermediateCallback, unset]

theorem delivered_raised {cb : Pointer} (set : p.cCallback = some cb) (event : Event)
    (friendNumber : UInt32) (rest : List Effect) :
    p.delivered t (.raised event friendNumber :: rest) =
      .called cb (cEvent event) friendNumber t.callbackUserData :: p.delivered t rest := by
  simp [delivered, intermediateCallback, set]

theorem delivered_settles (effects : List Effect) :
    (p.delivered t effects).any Observation.settles = false := by
  rw [List.any_eq_false]
  intro o seen
  obtain ⟨e, -, shown⟩ := List.mem_filterMap.mp seen
  cases e with
  | raised event friendNumber =>
      obtain ⟨cb, -, rfl⟩ := Option.map_eq_some_iff.mp shown
      simp [Observation.settles]
  | sent | entered | ipSet | tunWrite | destroyed | dangling => cases shown

/-- Two processes deliver the same exactly when there is nothing to deliver or their
callback functions are the same. -/
theorem delivered_eq_iff (effects : List Effect) :
    p.delivered t effects = q.delivered t effects ↔
      ((∃ event friendNumber, Effect.raised event friendNumber ∈ effects) →
        p.cCallback = q.cCallback) := by
  constructor
  · intro same raised
    induction effects with
    | nil => simp at raised
    | cons e rest ih =>
        cases e with
        | raised event friendNumber =>
            cases hp : p.cCallback with
            | none =>
                rw [p.delivered_silent t hp] at same
                cases hq : q.cCallback with
                | none => rfl
                | some cb =>
                    rw [q.delivered_raised t hq] at same
                    cases same
            | some cb =>
                cases hq : q.cCallback with
                | none =>
                    rw [q.delivered_silent t hq, p.delivered_raised t hp] at same
                    cases same
                | some cb' =>
                    rw [p.delivered_raised t hp, q.delivered_raised t hq] at same
                    injection same with called
                    injection called with function
                    rw [function]
        | sent | entered | ipSet | tunWrite | destroyed | dangling =>
            exact ih (by simpa [delivered] using same) (by simpa using raised)
  · intro same
    by_cases raised : ∃ event friendNumber, Effect.raised event friendNumber ∈ effects
    · simp only [delivered, same raised]
    · have silent (p : Process) : p.delivered t effects = [] := by
        rw [delivered, List.filterMap_eq_nil_iff]
        intro e mem
        cases e with
        | raised event friendNumber => exact absurd ⟨event, friendNumber, mem⟩ raised
        | sent | entered | ipSet | tunWrite | destroyed | dangling => rfl
      rw [silent p, silent q]

end

/-- What `toxtun_get_last_error` returns. -/
def errorText (p : Process) (toxtun : Pointer) : String := (p.errorStrings toxtun).getD "No error"

/-- The same call on the same object in two processes. `seen` and `seen'` are what its
user observes in the one and in the other. -/
structure StepsAlike (toxtun : Pointer) (t : ToxTun) (c : ToxtunCall) (p q p' q' : Process)
    (seen seen' : List Observation) : Prop where
  object : p'.toxTuns toxtun = q'.toxTuns toxtun
  running : p'.running = q'.running
  callback : q'.cCallback = c.callback q.cCallback
  observed : p'.observedBy toxtun = p.observedBy toxtun ++ seen
  observed' : q'.observedBy toxtun = q.observedBy toxtun ++ seen'
  same_iff : seen = seen' ↔ (c.Raises t → p.cCallback = q.cCallback) ∧
    (c = .getLastError → p.errorText toxtun = q.errorText toxtun)
  errors : if seen.any Observation.settles then p'.errorStrings toxtun = q'.errorStrings toxtun
    else p'.errorStrings toxtun = p.errorStrings toxtun ∧
      q'.errorStrings toxtun = q.errorStrings toxtun

section
variable {p q : Process} {toxtun : Pointer} {t : ToxTun} {c : ToxtunCall}

theorem leave_alike (o : Outcome Exn World Unit) (effects : c.effects t = o.state.trace)
    (callback : c.callback q.cCallback = q.cCallback) (other : c ≠ .getLastError) :
    StepsAlike toxtun t c p q (p.leave toxtun t o) (q.leave toxtun t o)
      (p.delivered t o.state.trace) (q.delivered t o.state.trace) where
  object := by simp [leave]
  running := rfl
  callback := callback.symm
  observed := leave_observedBy p toxtun t o
  observed' := leave_observedBy q toxtun t o
  same_iff := by
    rw [delivered_eq_iff, ToxtunCall.Raises, effects]
    simp [other]
  errors := by
    rw [delivered_settles]
    exact ⟨rfl, rfl⟩

theorem attempt_alike (o : Outcome Exn World Unit) (effects : c.effects t = o.state.trace)
    (callback : c.callback q.cCallback = q.cCallback) (other : c ≠ .getLastError) :
    ∃ seen seen', StepsAlike toxtun t c p q (p.attempt toxtun t o) (q.attempt toxtun t o)
      seen seen' := by
  have left : StepsAlike toxtun t c p q (p.leave toxtun t o) (q.leave toxtun t o) _ _ :=
    leave_alike o effects callback other
  have reported (result : Bool) :
      p.delivered t o.state.trace ++ [.success result] =
          q.delivered t o.state.trace ++ [.success result] ↔
        (c.Raises t → p.cCallback = q.cCallback) ∧
          (c = .getLastError → p.errorText toxtun = q.errorText toxtun) := by
    rw [List.append_left_inj]
    exact left.same_iff
  have result (p : Process) (b : Bool) : ((p.leave toxtun t o).observe toxtun (.success b)).observedBy
      toxtun = p.observedBy toxtun ++ (p.delivered t o.state.trace ++ [.success b]) := by
    rw [observe_observedBy, leave_observedBy, List.append_assoc]
  cases o with
  | returned value w =>
      refine ⟨_, _, left.object, left.running, left.callback, result p true, result q true,
        reported true, ?_⟩
      rw [List.any_append, delivered_settles]
      exact ⟨rfl, rfl⟩
  | thrown e w =>
      cases e with
      | toxTunError what =>
          refine ⟨_, _, left.object, left.running, left.callback, result p false, result q false,
            reported false, ?_⟩
          simp [attempt, Observation.settles]
      | outOfRange => exact ⟨_, _, left⟩
  | terminated w => exact ⟨_, _, left⟩
  | outOfFuel w => exact ⟨_, _, left⟩

theorem getLastError_observedBy (p : Process) (toxtun : Pointer) :
    (p.toxtunGetLastError toxtun).observedBy toxtun =
      p.observedBy toxtun ++ [.lastError (p.errorText toxtun)] := by
  unfold toxtunGetLastError errorText
  cases p.errorStrings toxtun <;> exact observe_observedBy p toxtun _

theorem getLastError_errors (p : Process) (toxtun : Pointer) :
    (p.toxtunGetLastError toxtun).errorStrings toxtun = none := by
  unfold toxtunGetLastError
  cases stored : p.errorStrings toxtun with
  | none => exact stored
  | some what => simp

theorem getLastError_alike (running : p.running = q.running)
    (object : p.toxTuns toxtun = q.toxTuns toxtun) :
    StepsAlike toxtun t .getLastError p q (p.toxtunGetLastError toxtun) (q.toxtunGetLastError toxtun)
      [.lastError (p.errorText toxtun)] [.lastError (q.errorText toxtun)] where
  object := by
    unfold toxtunGetLastError
    cases p.errorStrings toxtun <;> cases q.errorStrings toxtun <;> exact object
  running := by
    unfold toxtunGetLastError
    cases p.errorStrings toxtun <;> cases q.errorStrings toxtun <;> exact running
  callback := by
    unfold toxtunGetLastError
    cases q.errorStrings toxtun <;> rfl
  observed := getLastError_observedBy p toxtun
  observed' := getLastError_observedBy q toxtun
  same_iff := by simp [ToxtunCall.Raises, ToxtunCall.effects]
  errors := (getLastError_errors p toxtun).trans (getLastError_errors q toxtun).symm

/-- Every call on an object, in two processes that have the same object. -/
theorem perform_alike (running : p.running = q.running) (found : p.toxTuns toxtun = some t)
    (found' : q.toxTuns toxtun = some t) (existing : c ≠ .new) :
    ∃ seen seen', StepsAlike toxtun t c p q (p.perform toxtun t c) (q.perform toxtun t c)
      seen seen' := by
  have object := found.trans found'.symm
  have silent (effects : c.effects t = []) : ¬ c.Raises t := by simp [ToxtunCall.Raises, effects]
  cases c with
  | new => exact (existing rfl).elim
  | kill E friends =>
      let o := ToxTunCore.destructor E.noting friends t.enter
      have left : StepsAlike toxtun t (.kill E friends) p q (p.leave toxtun t o) (q.leave toxtun t o)
          _ _ := leave_alike o rfl rfl (by simp)
      refine ⟨_, _, ?_, left.running, left.callback, left.observed, left.observed', left.same_iff,
        left.errors⟩
      simp [perform, toxtunKill, setToxTun]
  | setCallback cb userData =>
      refine ⟨[], [], ?_, running, rfl, ?_, ?_, ?_, ?_⟩
      · simp [perform, toxtunSetCallback, setToxTun]
      · simp [perform, toxtunSetCallback, setToxTun, observedBy]
      · simp [perform, toxtunSetCallback, setToxTun, observedBy]
      · simp [silent rfl]
      · exact ⟨rfl, rfl⟩
  | iterate E f reads => exact ⟨_, _, leave_alike _ rfl rfl (by simp)⟩
  | sendConnectionRequest E f => exact attempt_alike _ rfl rfl (by simp)
  | acceptConnection E f => exact attempt_alike _ rfl rfl (by simp)
  | rejectConnection E f => exact ⟨_, _, leave_alike _ rfl rfl (by simp)⟩
  | closeConnection E f => exact ⟨_, _, leave_alike _ rfl rfl (by simp)⟩
  | getConnectionState f =>
      refine ⟨_, _, object, running, rfl, observe_observedBy p toxtun _,
        observe_observedBy q toxtun _, ?_, ?_⟩
      · simp [silent rfl]
      · simp [Observation.settles, perform, toxtunGetConnectionState, observe]
  | getLastError => exact ⟨_, _, getLastError_alike running object⟩
  | receive E f dataRaw => exact ⟨_, _, leave_alike _ rfl rfl (by simp)⟩

end

/-! ## What a call on another handle does -/

/-- What one handle has in the process, apart from the shared callback function. -/
structure Untouched (toxtun : Pointer) (p p' : Process) : Prop where
  object : p'.toxTuns toxtun = p.toxTuns toxtun
  error : p'.errorStrings toxtun = p.errorStrings toxtun
  observed : p'.observedBy toxtun = p.observedBy toxtun

section
variable {p : Process} {toxtun other : Pointer} (apart : other ≠ toxtun) (t : ToxTun)
include apart

theorem observe_untouched (o : Observation) : Untouched toxtun p (p.observe other o) :=
  ⟨rfl, rfl, by simp [observe, observedBy, apart]⟩

theorem leave_untouched (o : Outcome Exn World Unit) : Untouched toxtun p (p.leave other t o) where
  object := Function.update_of_ne apart.symm _ _
  error := rfl
  observed := by simp [leave, observedBy, apart, List.filterMap_map]

theorem attempt_untouched (o : Outcome Exn World Unit) :
    Untouched toxtun p (p.attempt other t o) := by
  have left := leave_untouched (p := p) apart t o
  unfold attempt
  split
  · exact ⟨left.object, left.error, (observe_untouched apart _).observed.trans left.observed⟩
  · exact ⟨left.object, Function.update_of_ne apart.symm _ _,
      (observe_untouched apart _).observed.trans left.observed⟩
  · exact left

theorem getLastError_untouched : Untouched toxtun p (p.toxtunGetLastError other) := by
  unfold toxtunGetLastError
  split
  · exact ⟨rfl, Function.update_of_ne apart.symm _ _, (observe_untouched apart _).observed⟩
  · exact ⟨rfl, rfl, (observe_untouched apart _).observed⟩

theorem perform_untouched (c : ToxtunCall) : Untouched toxtun p (p.perform other t c) := by
  cases c with
  | new => exact ⟨rfl, rfl, rfl⟩
  | kill E friends =>
      have left := leave_untouched (p := p) apart t (ToxTunCore.destructor E.noting friends t.enter)
      exact ⟨(Function.update_of_ne apart.symm _ _).trans left.object, left.error, left.observed⟩
  | setCallback cb userData => exact ⟨Function.update_of_ne apart.symm _ _, rfl, rfl⟩
  | iterate E f reads => exact leave_untouched apart t _
  | sendConnectionRequest E f => exact attempt_untouched apart t _
  | acceptConnection E f => exact attempt_untouched apart t _
  | rejectConnection E f => exact leave_untouched apart t _
  | closeConnection E f => exact leave_untouched apart t _
  | getConnectionState f => exact observe_untouched apart _
  | getLastError => exact getLastError_untouched apart
  | receive E f dataRaw => exact leave_untouched apart t _

end

/-! ## Runs -/

theorem next_cases {p p' : Process} {toxtun : Pointer} {c : ToxtunCall}
    (taken : next p (toxtun, c) = some p') :
    p.running = true ∧
      (c = .new ∧ toxtun ≠ 0 ∧ p.toxTuns toxtun = none ∧ p' = p.toxtunNew toxtun ∨
        c ≠ .new ∧ ∃ t, p.toxTuns toxtun = some t ∧ p' = p.perform toxtun t c) := by
  unfold next at taken
  split at taken
  · next running =>
      refine ⟨running, ?_⟩
      cases found : p.toxTuns toxtun with
      | none => cases c <;> simp_all
      | some t => cases c <;> simp_all
  · cases taken

theorem next_perform {p : Process} {toxtun : Pointer} {t : ToxTun} {c : ToxtunCall}
    (running : p.running = true) (found : p.toxTuns toxtun = some t) (existing : c ≠ .new) :
    next p (toxtun, c) = some (p.perform toxtun t c) := by
  cases c <;> simp_all [next]

theorem next_untouched {p p' : Process} {toxtun other : Pointer} (apart : other ≠ toxtun)
    {c : ToxtunCall} (taken : next p (other, c) = some p') : Untouched toxtun p p' := by
  rcases (next_cases taken).2 with ⟨-, -, -, rfl⟩ | ⟨-, t, -, rfl⟩
  · exact ⟨Function.update_of_ne apart.symm _ _, rfl, rfl⟩
  · exact perform_untouched apart t c

/-- No error string reads as if there were none. -/
def Worded (p : Process) : Prop := ∀ toxtun, p.errorStrings toxtun ≠ some "No error"

theorem attempt_worded {p : Process} (worded : p.Worded) (toxtun : Pointer) (t : ToxTun)
    {o : Outcome Exn World Unit}
    (text : ∀ what w, o = .thrown (.toxTunError what) w → what ≠ "No error") :
    (p.attempt toxtun t o).Worded := by
  unfold attempt
  split
  · exact worded
  · next what w =>
      intro other
      by_cases same : other = toxtun
      · rw [same]
        simpa using text what w rfl
      · simpa [same] using worded other
  · exact worded

theorem next_worded {p p' : Process} {i : Pointer × ToxtunCall} (worded : p.Worded)
    (taken : next p i = some p') : p'.Worded := by
  obtain ⟨toxtun, c⟩ := i
  rcases (next_cases taken).2 with ⟨-, -, -, rfl⟩ | ⟨-, t, -, rfl⟩
  · exact worded
  · cases c with
    | sendConnectionRequest E f =>
        exact attempt_worded worded toxtun t fun what w thrown => sendConnectionRequest_text thrown
    | acceptConnection E f =>
        exact attempt_worded worded toxtun t fun what w thrown => acceptConnection_text thrown
    | getLastError =>
        intro other
        by_cases same : other = toxtun
        · rw [same, show (p.perform toxtun t .getLastError).errorStrings toxtun = none from
            getLastError_errors p toxtun]
          simp
        · rw [(perform_untouched (fun h => same h.symm) t .getLastError).error]
          exact worded other
    | new | kill | setCallback | iterate | rejectConnection | closeConnection
    | getConnectionState | receive => exact worded

theorem run_worded {p : Process} {calls : List (Pointer × ToxtunCall)}
    (ran : run next initial calls = some p) : p.Worded := by
  have reached : Reach next (fun _ _ => True) initial p := Reach.of_run ran fun _ _ => trivial
  exact reached.invariant (I := Worded) (by simp [Worded, initial])
    fun _ _ _ worded _ taken => next_worded worded taken

/-- The process in which an object lives among others, beside the process in which it
lives alone, after calls on it and on others. -/
structure Alike (p₀ : Process) (toxtun : Pointer) (past : List (Pointer × ToxtunCall))
    (p q : Process) : Prop where
  object : p.toxTuns toxtun = q.toxTuns toxtun
  running : p.running = true → q.running = true
  callback : q.cCallback = lastCallback (own toxtun past)
  observed : p.observedBy toxtun = p₀.observedBy toxtun ++ observedSince toxtun p₀ p
  errors : if (observedSince toxtun p₀ p).any Observation.settles then
      p.errorStrings toxtun = q.errorStrings toxtun
    else p.errorStrings toxtun = p₀.errorStrings toxtun ∧ q.errorStrings toxtun = none

section
variable {p₀ p p' q : Process} {toxtun : Pointer} {past : List (Pointer × ToxtunCall)}

theorem observedSince_append {seen : List Observation}
    (observed : p.observedBy toxtun = p₀.observedBy toxtun ++ seen) :
    observedSince toxtun p₀ p = seen := by
  rw [observedSince, observed, List.drop_left]

theorem own_concat_self (c : ToxtunCall) :
    own toxtun (past ++ [(toxtun, c)]) = own toxtun past ++ [(toxtun, c)] := by
  simp [own]

theorem own_concat_other {other : Pointer} (apart : other ≠ toxtun) (c : ToxtunCall) :
    own toxtun (past ++ [(other, c)]) = own toxtun past := by
  simp [own, apart]

theorem lastCallback_concat (i : Pointer × ToxtunCall) :
    lastCallback (past ++ [i]) = i.2.callback (lastCallback past) := by
  simp [lastCallback]

theorem Alike.start (p₀ : Process) (toxtun : Pointer) :
    Alike p₀ toxtun [] (p₀.toxtunNew toxtun) (initial.toxtunNew toxtun) := by
  have observed : (p₀.toxtunNew toxtun).observedBy toxtun = p₀.observedBy toxtun ++ [] :=
    (List.append_nil _).symm
  refine ⟨by simp [toxtunNew, setToxTun], fun _ => rfl, rfl, ?_, ?_⟩
  · rw [observedSince_append observed, observed]
  · rw [observedSince_append observed]
    exact ⟨rfl, rfl⟩

theorem Alike.other (alike : Alike p₀ toxtun past p q) {other : Pointer} (apart : other ≠ toxtun)
    {c : ToxtunCall} (taken : next p (other, c) = some p') :
    Alike p₀ toxtun (past ++ [(other, c)]) p' q ∧
      observedSince toxtun p₀ p' = observedSince toxtun p₀ p := by
  have untouched := next_untouched apart taken
  have running := (next_cases taken).1
  have since : observedSince toxtun p₀ p' = observedSince toxtun p₀ p := by
    rw [observedSince, untouched.observed, observedSince]
  refine ⟨⟨untouched.object.trans alike.object, fun _ => alike.running running, ?_, ?_, ?_⟩, since⟩
  · rw [own_concat_other apart, alike.callback]
  · rw [since, untouched.observed, ← alike.observed]
  · rw [since, untouched.error]
    exact alike.errors

/-- The same text is read exactly when nothing is left of an earlier object. -/
theorem Alike.text_iff (alike : Alike p₀ toxtun past p q) (worded : p₀.Worded) :
    p.errorText toxtun = q.errorText toxtun ↔ p₀.errorStrings toxtun = none ∨
      (observedSince toxtun p₀ p).any Observation.settles = true := by
  have errors := alike.errors
  cases settled : (observedSince toxtun p₀ p).any Observation.settles with
  | true =>
      rw [settled, if_pos rfl] at errors
      simp [errorText, errors]
  | false =>
      rw [settled, if_neg (by decide)] at errors
      cases old : p₀.errorStrings toxtun with
      | none => simp [errorText, errors, old]
      | some what =>
          have text : what ≠ "No error" := fun same => worded toxtun (same ▸ old)
          simp [errorText, errors, old, text]

/-- A call on the object goes alike, and shows the same exactly when it is undisturbed. -/
theorem Alike.self (alike : Alike p₀ toxtun past p q) (worded : p₀.Worded) {c : ToxtunCall}
    (existing : c ≠ .new) (taken : next p (toxtun, c) = some p') :
    ∃ q', next q (toxtun, c) = some q' ∧ Alike p₀ toxtun (past ++ [(toxtun, c)]) p' q' ∧
      (observedSince toxtun p₀ p = q.observedBy toxtun →
        (observedSince toxtun p₀ p' = q'.observedBy toxtun ↔ Undisturbed p₀ p toxtun past c)) := by
  obtain ⟨running, ⟨rfl, -⟩ | ⟨-, t, found, rfl⟩⟩ := next_cases taken
  · exact (existing rfl).elim
  · have found' : q.toxTuns toxtun = some t := alike.object.symm.trans found
    have running' := alike.running running
    obtain ⟨seen, seen', steps⟩ :=
      perform_alike (running.trans running'.symm) found found' existing
    have observed : (p.perform toxtun t c).observedBy toxtun =
        p₀.observedBy toxtun ++ (observedSince toxtun p₀ p ++ seen) := by
      rw [steps.observed, ← List.append_assoc, ← alike.observed]
    have since := observedSince_append observed
    refine ⟨_, next_perform running' found' existing, ⟨steps.object, ?_, ?_, ?_, ?_⟩, fun same => ?_⟩
    · rw [steps.running]
      exact id
    · rw [steps.callback, alike.callback, own_concat_self, lastCallback_concat]
    · rw [since, observed]
    · have errors := steps.errors
      rw [since, List.any_append]
      cases settles : seen.any Observation.settles with
      | true =>
          rw [settles, if_pos rfl] at errors
          simpa using errors
      | false =>
          rw [settles, if_neg (by decide)] at errors
          rw [Bool.or_false, errors.1, errors.2]
          exact alike.errors
    · rw [since, steps.observed', same, List.append_right_inj, steps.same_iff, alike.callback,
        alike.text_iff worded, Undisturbed]
      simp [found, same]

theorem run_new (lived : run next p₀ ((toxtun, .new) :: past) = some p) :
    toxtun ≠ 0 ∧ run next (p₀.toxtunNew toxtun) past = some p := by
  simp only [run, Option.bind_eq_some_iff] at lived
  obtain ⟨p₁, taken, lived⟩ := lived
  rcases (next_cases taken).2 with ⟨-, handle, -, rfl⟩ | ⟨existing, -⟩
  · exact ⟨handle, lived⟩
  · exact (existing rfl).elim

theorem run_alone (handle : toxtun ≠ 0) (calls : List (Pointer × ToxtunCall)) :
    run next initial ((toxtun, .new) :: calls) = run next (initial.toxtunNew toxtun) calls := by
  have taken : next initial (toxtun, .new) = some (initial.toxtunNew toxtun) := by
    simp [next, initial, handle]
  simp [run, taken]

/-- The life of an object among others has its counterpart. -/
theorem alike_of_run (worded : p₀.Worded)
    (lived : run next (p₀.toxtunNew toxtun) past = some p) (once : (toxtun, .new) ∉ past) :
    ∃ q, run next (initial.toxtunNew toxtun) (own toxtun past) = some q ∧
      Alike p₀ toxtun past p q := by
  induction past using List.reverseRecOn generalizing p with
  | nil =>
      cases lived
      exact ⟨_, rfl, .start p₀ toxtun⟩
  | append_singleton past i ih =>
      obtain ⟨other, c⟩ := i
      rw [run_append, Option.bind_eq_some_iff] at lived
      obtain ⟨p₁, earlier, taken⟩ := lived
      rw [run_singleton] at taken
      obtain ⟨q, alone, alike⟩ := ih earlier fun mem => once (List.mem_append_left _ mem)
      by_cases self : other = toxtun
      · subst self
        have existing : c ≠ .new := by
          rintro rfl
          exact once (List.mem_append_right _ List.mem_cons_self)
        obtain ⟨q', taken', alike', -⟩ := alike.self worded existing taken
        refine ⟨q', ?_, alike'⟩
        rw [own_concat_self, run_append, alone, Option.bind_some, run_singleton, taken']
      · refine ⟨q, ?_, (alike.other self taken).1⟩
        rw [own_concat_other self, alone]

theorem isolated_iff_same (lived : run next p₀ ((toxtun, .new) :: past) = some p)
    (alone : run next initial ((toxtun, .new) :: own toxtun past) = some q) :
    Isolated p₀ toxtun past ↔ observedSince toxtun p₀ p = q.observedBy toxtun := by
  constructor
  · rintro ⟨p', q', lived', alone', same⟩
    rw [lived] at lived'
    rw [alone] at alone'
    cases lived'
    cases alone'
    exact same
  · intro same
    exact ⟨p, q, lived, alone, same⟩

theorem isolated_concat (worded : p₀.Worded) {i : Pointer × ToxtunCall}
    (lived : run next p₀ ((toxtun, .new) :: (past ++ [i])) = some p)
    (once : (toxtun, .new) ∉ past ++ [i]) (isolated : Isolated p₀ toxtun past) :
    Isolated p₀ toxtun (past ++ [i]) ↔ (i.1 = toxtun →
      ∀ p', run next p₀ ((toxtun, .new) :: past) = some p' →
        Undisturbed p₀ p' toxtun past i.2) := by
  obtain ⟨other, c⟩ := i
  obtain ⟨handle, life⟩ := run_new lived
  rw [run_append, Option.bind_eq_some_iff] at life
  obtain ⟨p₁, earlier, taken⟩ := life
  rw [run_singleton] at taken
  have lived₁ : run next p₀ ((toxtun, .new) :: past) = some p₁ := by
    rw [← List.cons_append, run_append, Option.bind_eq_some_iff] at lived
    obtain ⟨p₂, lived, -⟩ := lived
    rw [lived, ← (run_new lived).2, earlier]
  obtain ⟨q, alone, alike⟩ := alike_of_run worded earlier fun mem => once (List.mem_append_left _ mem)
  have alone₁ := (run_alone handle _).trans alone
  rw [isolated_iff_same lived₁ alone₁] at isolated
  by_cases self : other = toxtun
  · subst self
    have existing : c ≠ .new := by
      rintro rfl
      exact once (List.mem_append_right _ List.mem_cons_self)
    obtain ⟨q', taken', -, step⟩ := alike.self worded existing taken
    have alone' : run next initial ((other, .new) :: own other (past ++ [(other, c)])) = some q' := by
      rw [run_alone handle, own_concat_self, run_append, alone, Option.bind_some, run_singleton, taken']
    rw [isolated_iff_same lived alone', step isolated]
    simp [lived₁]
  · have alone' : run next initial ((toxtun, .new) :: own toxtun (past ++ [(other, c)])) = some q := by
      rw [own_concat_other self, alone₁]
    rw [isolated_iff_same lived alone', (alike.other self taken).2]
    simp [isolated, self]

end

/-- In every run of the process, the user of an object observes at every moment of its
life what its own calls show alone, exactly when every one of these calls is undisturbed:
its events find the function that was set last on the object, and it reads no error of
an earlier object. -/
theorem isolated_iff {earlier life : List (Pointer × ToxtunCall)} {p₀ p : Process}
    {toxtun : Pointer} (before : run next initial earlier = some p₀)
    (lived : run next p₀ ((toxtun, .new) :: life) = some p) (once : (toxtun, .new) ∉ life) :
    (∀ past, past <+: life → Isolated p₀ toxtun past) ↔
      ∀ past call future, life = past ++ call :: future → call.1 = toxtun →
        ∀ p', run next p₀ ((toxtun, .new) :: past) = some p' →
          Undisturbed p₀ p' toxtun past call.2 := by
  have worded := run_worded before
  induction life using List.reverseRecOn generalizing p with
  | nil =>
      obtain ⟨handle, -⟩ := run_new lived
      have isolated : Isolated p₀ toxtun [] :=
        ⟨p, _, lived, run_alone handle [], by
          cases (run_new lived).2
          exact observedSince_append (List.append_nil _).symm⟩
      simp [isolated]
  | append_singleton life i ih =>
      have lived' := lived
      rw [← List.cons_append, run_append, Option.bind_eq_some_iff] at lived'
      obtain ⟨p₁, lived', -⟩ := lived'
      have ih := ih lived' fun mem => once (List.mem_append_left _ mem)
      refine Iff.trans ?_ ((and_congr_left' ih).trans forall_places_concat.symm)
      constructor
      · intro isolated
        have shorter (past : List (Pointer × ToxtunCall)) (h : past <+: life) :
            Isolated p₀ toxtun past := isolated past (h.trans (List.prefix_append _ _))
        exact ⟨shorter, (isolated_concat worded lived once (shorter life (List.prefix_refl _))).mp
          (isolated _ (List.prefix_refl _))⟩
      · rintro ⟨shorter, last⟩ past h
        rcases List.prefix_concat_iff.mp h with rfl | h
        · exact (isolated_concat worded lived once (shorter life (List.prefix_refl _))).mpr last
        · exact shorter past h

/-! ## Two objects in one process -/

/-- Tox and the system grant everything. -/
def granting : Env := .obliging fun _ => some []

/-- Object 1 sets its function anew after object 2 has, and rings. -/
def lifeBeside : List (Pointer × ToxtunCall) :=
  [(1, .setCallback (some 10) 100), (2, .setCallback (some 20) 200),
    (1, .setCallback (some 10) 100), (1, .receive granting 7 [160]), (1, .getLastError)]

theorem lifeBeside_isolated_iff : ∃ p₀ p, run next initial [(2, .new)] = some p₀ ∧
    run next p₀ ((1, .new) :: lifeBeside) = some p ∧
    ((∀ past, past <+: lifeBeside → Isolated p₀ 1 past) ↔
      ∀ past call future, lifeBeside = past ++ call :: future → call.1 = 1 →
        ∀ p', run next p₀ ((1, .new) :: past) = some p' → Undisturbed p₀ p' 1 past call.2) := by
  obtain ⟨p₀, before, lives⟩ := exists_run next initial [(2, .new)]
    (P := fun p₀ => (run next p₀ ((1, .new) :: lifeBeside)).isSome = true) (by decide +kernel)
  obtain ⟨p, lived⟩ := Option.isSome_iff_exists.mp lives
  exact ⟨p₀, p, before, lived, isolated_iff before lived (by simp [lifeBeside])⟩

theorem Isolated.shown {p₀ : Process} {toxtun : Pointer} {past : List (Pointer × ToxtunCall)}
    (isolated : Isolated p₀ toxtun past) :
    (run next p₀ ((toxtun, .new) :: past)).map (observedSince toxtun p₀) =
      (run next initial ((toxtun, .new) :: own toxtun past)).map (observedBy toxtun) := by
  obtain ⟨p, q, lived, alone, same⟩ := isolated
  rw [lived, alone, Option.map_some, Option.map_some, same]

/-- Object 1 sets a function, then object 2 does, then object 1 gets a request. -/
def borrowedCallback : List (Pointer × ToxtunCall) :=
  [(1, .setCallback (some 10) 100), (2, .new), (2, .setCallback (some 20) 200),
    (1, .receive granting 7 [160])]

/-- An object fails to accept a connection and is deleted. -/
def failedBefore : List (Pointer × ToxtunCall) :=
  [(1, .new), (1, .acceptConnection granting 7), (1, .kill granting [])]

/-- The function of object 2 gets the event of object 1, with the user data of object 1;
and a new object under an old handle reads the error of the old one. -/
theorem objects_meet :
    (run next initial ((1, .new) :: borrowedCallback)).map (observedBy 1) =
      some [.called 20 .connectionRequested 7 100] ∧
    ¬ Isolated initial 1 borrowedCallback ∧
    ∃ p₀, run next initial failedBefore = some p₀ ∧ ¬ Isolated p₀ 1 [(1, .getLastError)] := by
  refine ⟨by decide +kernel, fun isolated => ?_, ?_⟩
  · have shown := isolated.shown
    revert shown
    decide +kernel
  · obtain ⟨p₀, before, differs⟩ := exists_run next initial failedBefore
      (P := fun p₀ => (run next p₀ [(1, .new), (1, .getLastError)]).map (observedSince 1 p₀) ≠
        (run next initial [(1, .new), (1, .getLastError)]).map (observedBy 1)) (by decide +kernel)
    exact ⟨p₀, before, fun isolated => differs isolated.shown⟩

end Process

end LibToxTun
