import LibToxTun.Foundation.Run
import LibToxTun.Connection.Surroundings
import LibToxTun.Core.Steps

/-! # Friends apart

An operation on one friend reads and changes the entry of that friend and the
callback only. What a session with a friend shows in a run is therefore what it shows
when the operations on all other friends are left out, and operations on different
friends may be put in any order.
-/

namespace LibToxTun

open Foundation Foundation.Action

/-! ## Operations -/

/-- An operation on one friend does the same whatever the other entries are. -/
abbrev IgnoresOthers (f : UInt32) (others : UInt32 → Option Connection) {α : Type}
    (a : Code World α) : Prop :=
  Refines (fun _ => True) (World.amid f others) a a

theorem Frame.leave_amid {f : UInt32} {others : UInt32 → Option Connection} {fr : Frame}
    (of : fr.connectedFriend = f) : (fr.amid f others).leave = fr.leave.amid f others := by
  subst of
  unfold Frame.leave
  rw [show (fr.amid fr.connectedFriend others).linked = fr.linked from rfl]
  split
  · exact World.amid_setConnection fr.world (some fr.self)
  · rfl

namespace IgnoresOthers

variable {f : UInt32} {others : UInt32 → Option Connection}

theorem onConnection {α : Type} {a : Code Frame α} (h : Regardless f others a) (c : Connection) :
    IgnoresOthers f others (onConnection f c a) := by
  intro w _
  obtain ⟨kept, same⟩ := h (Frame.enter f c w) rfl
  refine ⟨trivial, ?_⟩
  change (a ((Frame.enter f c w).amid f others)).mapState Frame.leave = _
  rw [same]
  unfold LibToxTun.onConnection
  cases ha : a (Frame.enter f c w) with
  | returned v fr => rw [ha] at kept; exact congrArg (Outcome.returned v) (Frame.leave_amid kept)
  | thrown e fr => rw [ha] at kept; exact congrArg (Outcome.thrown e) (Frame.leave_amid kept)
  | terminated fr => rw [ha] at kept; exact congrArg Outcome.terminated (Frame.leave_amid kept)
  | outOfFuel fr => rw [ha] at kept; exact congrArg Outcome.outOfFuel (Frame.leave_amid kept)

theorem connection : IgnoresOthers f others (ToxTunCore.connection f) :=
  refines_read fun w _ => w.core.amid_self

theorem of_read {α : Type} (g : World → α) (same : ∀ w : World, g (w.amid f others) = g w) :
    IgnoresOthers f others (read g : Code World α) :=
  refines_read fun w _ => same w

section
variable {E : Env} (passive : E.Passive)

theorem emplace (initiateConnection : Bool) :
    IgnoresOthers f others (ToxTunCore.emplace E f initiateConnection) := by
  have ticks : IgnoresOthers f others (modify World.tick : Code World Unit) :=
    refines_modify (fun _ _ => trivial) fun _ _ => rfl
  refine (of_read (fun w => E.tunOpens w.clock) fun _ => rfl).bind fun opened =>
    ticks.bind fun _ => ?_
  split
  · exact refines_throw _
  · intro w _
    let a : Code Frame Unit := if initiateConnection then LibToxTun.sendConnectionRequest E else pure ()
    have ha : Regardless f others a := by
      simp only [a]
      split
      · exact regardless_sendToTox _
      · exact refines_pure ()
    obtain ⟨kept, same⟩ := ha (Frame.enter f (Connection.initial initiateConnection) w) rfl
    refine ⟨trivial, ?_⟩
    have entered : Frame.enter f (Connection.initial initiateConnection) (w.amid f others) =
        (Frame.enter f (Connection.initial initiateConnection) w).amid f others := rfl
    simp only [a] at same kept
    simp only [entered, same]
    generalize ho : (if initiateConnection = true then LibToxTun.sendConnectionRequest E else pure ())
      (Frame.enter f (Connection.initial initiateConnection) w) = o
    rw [ho] at kept
    cases o with
    | returned v fr => exact congrArg (Outcome.returned ()) (Frame.leave_amid kept)
    | thrown e fr => rfl
    | terminated fr => rfl
    | outOfFuel fr => rfl

theorem sendConnectionRequest : IgnoresOthers f others (ToxTunCore.sendConnectionRequest E f) := by
  refine connection.bind fun found => ?_
  split
  · exact refines_throw _
  · exact emplace true

theorem iterate (reads : List (Except Exn Data)) :
    IgnoresOthers f others (ToxTunCore.iterate E f reads) := by
  refine (connection.bind fun found => ?_).noexcept
  cases found with
  | some c => exact onConnection (regardless_iterate reads) c
  | none => exact refines_pure ()

theorem resetFriend : IgnoresOthers f others (resetFriend E f) := by
  intro w _
  rw [resetFriend_eq, resetFriend_eq]
  exact ⟨trivial, rfl⟩

include passive

theorem erase : IgnoresOthers f others (ToxTunCore.erase E f) := by
  refine connection.bind fun found => ?_
  cases found with
  | none => exact refines_pure 0
  | some c => exact (onConnection (regardless_eraseSelf passive) c).bind fun _ => refines_pure 1

theorem raiseRequested : IgnoresOthers f others (ToxTunCore.raiseRequested E f) := by
  refine connection.bind fun found => ?_
  cases found with
  | none => exact refines_pure ()
  | some c => exact onConnection (regardless_callback passive _) c

theorem handleConnectionRequest : IgnoresOthers f others (ToxTunCore.handleConnectionRequest E f) := by
  refine ((of_read (fun w => !w.core.callbackFunction) fun _ => rfl).bind fun unset => ?_).noexcept
  split
  · exact refines_pure ()
  · refine Refines.bind ?_ fun created => ?_
    · refine Refines.tryCatch ((emplace false).bind fun _ => refines_pure true) fun e => ?_
      cases e with
      | toxTunError what =>
          exact .some ((erase passive).bind fun _ => resetFriend.bind fun _ => refines_pure false)
      | outOfRange => exact .none
    · split
      · exact raiseRequested passive
      · exact refines_pure ()

theorem handleData (data : Data) : IgnoresOthers f others (ToxTunCore.handleData E data f) := by
  refine (connection.bind fun found => ?_).noexcept
  cases found with
  | some c => exact onConnection (regardless_handleData passive data) c
  | none =>
      refine (refines_ofExcept _).bind fun id => ?_
      cases id with
      | connectionRequest => exact handleConnectionRequest passive
      | connectionReset => exact refines_pure ()
      | _ => exact resetFriend

theorem acceptConnection : IgnoresOthers f others (ToxTunCore.acceptConnection E f) := by
  refine connection.bind fun found => ?_
  cases found with
  | none => exact refines_throw _
  | some c =>
      intro w _
      have accepts : IgnoresOthers f others
          (LibToxTun.onConnection f c (LibToxTun.acceptConnection E)) :=
        onConnection (regardless_acceptConnection passive) c
      have same := (accepts w trivial).2
      refine ⟨trivial, ?_⟩
      simp only [same]
      generalize LibToxTun.onConnection f c (LibToxTun.acceptConnection E) w = o
      cases o with
      | thrown e w' =>
          cases e with
          | toxTunError what =>
              exact (((erase passive).bind fun _ => refines_throw _) w' trivial).2
          | outOfRange => rfl
      | returned v w' => rfl
      | terminated w' => rfl
      | outOfFuel w' => rfl

theorem exec {op : Op} (mine : op.friend = some f) : IgnoresOthers f others (exec E op) := by
  have erases : IgnoresOthers f others (noexcept do let _ ← ToxTunCore.erase E f) :=
    ((erase passive).bind fun _ => refines_pure ()).noexcept
  cases op with
  | setCallback callback => cases mine
  | receive g dataRaw => cases mine; exact (handleData passive _).noexcept
  | iterate g reads => cases mine; exact iterate reads
  | sendConnectionRequest g => cases mine; exact sendConnectionRequest
  | acceptConnection g => cases mine; exact acceptConnection passive
  | rejectConnection g => cases mine; exact erases
  | closeConnection g => cases mine; exact erases.noexcept

end

end IgnoresOthers

/-! ## Steps -/

/-- The operation is on the friend, or on the callback. -/
def Op.concerns (f : UInt32) (op : Op) : Bool := op.friend.all fun g => g = f

/-- Two tables that a session with a friend cannot tell apart. -/
structure ToxTunCore.Agrees (f : UInt32) (core core' : ToxTunCore) : Prop where
  connection : core'.connections f = core.connections f
  callbackFunction : core'.callbackFunction = core.callbackFunction

/-- What a step shows of the session with a friend: its operation and the entry it found,
how it ended, all its effects, and the entry it left. -/
structure View where
  env : Env
  op : Op
  before : Option Connection
  outcome : Outcome Exn (List Effect × Option Connection) Unit

def Transition.view (f : UInt32) (t : Transition) : View where
  env := t.env
  op := t.op
  before := t.before.connections f
  outcome := t.outcome.mapState fun w => (w.trace, w.core.connections f)

theorem ToxTunCore.Agrees.eq_amid {f : UInt32} {core core' : ToxTunCore} (h : core.Agrees f core') :
    core' = core.amid f core'.connections := by
  obtain ⟨entry, registered⟩ := h
  cases core'
  simp only [ToxTunCore.amid] at *
  rw [← entry, registered, Function.update_eq_self]

section
variable {E : Env} (passive : E.Passive) {core core' : ToxTunCore} {op : Op} {f : UInt32}
include passive

/-- A step on a friend does the same in a table that agrees on the friend. -/
theorem step_amid (mine : op.concerns f = true) (agrees : core.Agrees f core') :
    (step core' (E, op)).outcome =
      (step core (E, op)).outcome.mapState (World.amid f core'.connections) := by
  have world : World.mk core' 0 [] = (World.mk core 0 []).amid f core'.connections := by
    conv_lhs => rw [agrees.eq_amid]
    rfl
  change exec E op (World.mk core' 0 []) = (exec E op (World.mk core 0 [])).mapState _
  rw [world]
  cases about : op.friend with
  | none =>
      cases op with
      | setCallback callback => rfl
      | _ => cases about
  | some g =>
      have same : g = f := by simpa [Op.concerns, about] using mine
      subst same
      exact (IgnoresOthers.exec passive about _ trivial).2

theorem step_view (mine : op.concerns f = true) (agrees : core.Agrees f core') :
    (step core' (E, op)).view f = (step core (E, op)).view f := by
  have outcome := step_amid passive mine agrees
  simp only [Transition.view, outcome, View.mk.injEq]
  refine ⟨rfl, rfl, agrees.connection, ?_⟩
  cases (step core (E, op)).outcome <;> simp [World.amid]

theorem step_agrees (mine : op.concerns f = true) (agrees : core.Agrees f core') :
    match (step core (E, op)).after with
    | some next => ∃ next', (step core' (E, op)).after = some next' ∧ next.Agrees f next'
    | none => (step core' (E, op)).after = none := by
  have outcome := step_amid passive mine agrees
  unfold Transition.after
  rw [outcome]
  cases (step core (E, op)).outcome with
  | returned v w => exact ⟨_, rfl, w.core.amid_self, rfl⟩
  | thrown e w => exact ⟨_, rfl, w.core.amid_self, rfl⟩
  | terminated w => rfl
  | outOfFuel w => rfl

/-- A step on another friend leaves the session with a friend alone. -/
theorem step_elsewhere (other : op.concerns f = false) {next : ToxTunCore}
    (after : (step core (E, op)).after = some next) : core.Agrees f next := by
  obtain ⟨g, about, away⟩ : ∃ g, op.friend = some g ∧ f ≠ g := by
    cases about : op.friend with
    | none => simp [Op.concerns, about] at other
    | some g => exact ⟨g, rfl, by simpa [Op.concerns, about, eq_comm] using other⟩
  have answered {g' : UInt32} {r : Reply} (on : op.friend = some g')
      (answers : (step core (E, op)).Answers g' r) : core.Agrees f next := by
    cases on.symm.trans about
    cases after.symm.trans answers.after
    exact ⟨ToxTunCore.put_other _ _ _ away, rfl⟩
  rcases step_cases passive after with ⟨same, -, answers⟩ | ⟨same, answers⟩ | ⟨same, -, -⟩
  · next g' call r =>
      change op = call.op g' at same
      exact answered (by rw [same]; cases call <;> rfl) answers
  · next g' reads index ps =>
      change op = .iterate g' reads at same
      exact answered (by rw [same]; rfl) answers
  · next callback =>
      change op = .setCallback callback at same
      rw [same] at about
      cases about

end

/-! ## Runs -/

/-- The operations that a session with a friend depends on. -/
def sessionInputs (f : UInt32) (inputs : List (Env × Op)) : List (Env × Op) :=
  inputs.filter fun input => input.2.concerns f

def views (f : UInt32) (ts : List Transition) : List View :=
  (ts.filter fun t => t.op.concerns f).map (Transition.view f)

section
variable {f : UInt32} {inputs : List (Env × Op)} (passive : ∀ input ∈ inputs, input.1.Passive)
include passive

/-- The session goes on as it does alone, for as long as the run lasts. -/
theorem views_prefix {core core' : ToxTunCore} (agrees : core.Agrees f core') :
    ∃ rest, views f (transitions core' (sessionInputs f inputs)) =
        views f (transitions core inputs) ++ rest ∧
      ((transitions core inputs).length = inputs.length → rest = []) := by
  induction inputs generalizing core core' with
  | nil => exact ⟨[], rfl, fun _ => rfl⟩
  | cons input inputs ih =>
      obtain ⟨E, op⟩ := input
      have first := passive (E, op) List.mem_cons_self
      have later := fun i mem => passive i (List.mem_cons_of_mem _ mem)
      cases mine : op.concerns f with
      | true =>
          have kept : sessionInputs f ((E, op) :: inputs) = (E, op) :: sessionInputs f inputs :=
            List.filter_cons_of_pos (p := fun input : Env × Op => input.2.concerns f) mine
          have seen := step_view first mine agrees
          have agree := step_agrees first mine agrees
          have shown (core : ToxTunCore) (ts : List Transition) :
              views f (step core (E, op) :: ts) = (step core (E, op)).view f :: views f ts := by
            have own : (step core (E, op)).op.concerns f = true := mine
            simp [views, own]
          rw [kept]
          cases after : (step core (E, op)).after with
          | none =>
              rw [after] at agree
              rw [transitions_of_end after, transitions_of_end agree]
              refine ⟨[], ?_, fun _ => rfl⟩
              rw [shown, shown, seen]
              rfl
          | some next =>
              rw [after] at agree
              obtain ⟨next', after', agrees'⟩ := agree
              obtain ⟨rest, same, complete⟩ := ih later agrees'
              rw [transitions_of_after after, transitions_of_after after', shown, shown, seen, same]
              exact ⟨rest, rfl, fun length => complete (by simpa using length)⟩
      | false =>
          have dropped : sessionInputs f ((E, op) :: inputs) = sessionInputs f inputs :=
            List.filter_cons_of_neg (p := fun input : Env × Op => input.2.concerns f) (by simp [mine])
          have hidden (ts : List Transition) : views f (step core (E, op) :: ts) = views f ts := by
            have away : (step core (E, op)).op.concerns f = false := mine
            simp [views, away]
          rw [dropped]
          cases after : (step core (E, op)).after with
          | none =>
              rw [transitions_of_end after, hidden]
              refine ⟨_, rfl, fun length => ?_⟩
              cases inputs with
              | nil => rfl
              | cons i is => simp at length
          | some next =>
              have elsewhere := step_elsewhere first mine after
              obtain ⟨rest, same, complete⟩ := ih later
                ⟨agrees.connection.trans elsewhere.connection.symm,
                  agrees.callbackFunction.trans elsewhere.callbackFunction.symm⟩
              rw [transitions_of_after after, hidden, same]
              exact ⟨rest, rfl, fun length => complete (by simpa using length)⟩

end

theorem ToxTunCore.Agrees.refl (f : UInt32) (core : ToxTunCore) : core.Agrees f core := ⟨rfl, rfl⟩

/-- Alone, every operation is one of the session. -/
theorem views_alone (f : UInt32) (core : ToxTunCore) (inputs : List (Env × Op)) :
    views f (transitions core (sessionInputs f inputs)) =
      (transitions core (sessionInputs f inputs)).map (Transition.view f) := by
  refine congrArg _ (List.filter_eq_self.mpr fun t ht => ?_)
  obtain ⟨before, -, input, mem, rfl⟩ :=
    mem_transitions (I := fun _ => True) trivial (fun _ _ _ _ _ _ => trivial) ht
  exact (List.mem_filter.mp mem).2

/-- In a run, the steps on other friends neither show anything of the session with a
friend nor change its connection, and the session shows what it shows when there is no
other friend, to its end or to the end of the process. -/
theorem friend_alone {inputs : List (Env × Op)} (passive : ∀ input ∈ inputs, input.1.Passive)
    (core : ToxTunCore) (f : UInt32) :
    (∀ t ∈ transitions core inputs, t.op.concerns f = false →
      (∀ e ∈ t.effects, e.friend ≠ f) ∧
        ∀ next, t.after = some next → next.connections f = t.before.connections f) ∧
    views f (transitions core inputs) <+:
      (transitions core (sessionInputs f inputs)).map (Transition.view f) ∧
    ((transitions core inputs).length = inputs.length → views f (transitions core inputs) =
      (transitions core (sessionInputs f inputs)).map (Transition.view f)) := by
  obtain ⟨rest, same, complete⟩ := views_prefix passive (ToxTunCore.Agrees.refl f core)
  rw [views_alone] at same
  refine ⟨fun t ht other => ?_, ⟨rest, same.symm⟩, fun length => ?_⟩
  · obtain ⟨before, -, ⟨E, op⟩, mem, rfl⟩ :=
      mem_transitions (I := fun _ => True) trivial (fun _ _ _ _ _ _ => trivial) ht
    have calm := passive _ mem
    refine ⟨fun e he about => ?_, fun next after => (step_elsewhere calm other after).connection⟩
    change op.concerns f = false at other
    cases on : op.friend with
    | none => simp [Op.concerns, on] at other
    | some g =>
        have away : g ≠ f := by simpa [Op.concerns, on] using other
        exact away ((effects_friend calm before on e he).symm.trans about)
  · rw [same, complete length, List.append_nil]

/-! ## Interleavings -/

def afterStep (core : ToxTunCore) (input : Env × Op) : Option ToxTunCore := (step core input).after

theorem run_isSome_iff {core : ToxTunCore} {inputs : List (Env × Op)} :
    (run afterStep core inputs).isSome = true ↔ ∀ t ∈ transitions core inputs, t.after ≠ none := by
  induction inputs generalizing core with
  | nil => simp [run, transitions]
  | cons input inputs ih =>
      cases after : (step core input).after with
      | none => simp [run, afterStep, after, transitions_of_end after]
      | some next => simp [run, afterStep, after, transitions_of_after after, ih]

theorem transitions_length {core last : ToxTunCore} {inputs : List (Env × Op)}
    (completes : run afterStep core inputs = some last) :
    (transitions core inputs).length = inputs.length := by
  induction inputs generalizing core with
  | nil => rfl
  | cons input inputs ih =>
      cases after : (step core input).after with
      | none => simp [run, afterStep, after] at completes
      | some next =>
          rw [run, afterStep, after] at completes
          rw [transitions_of_after after, List.length_cons, List.length_cons, ih completes]

/-- A session ends alone with the entry it has at the end of the run. -/
theorem run_agrees {f : UInt32} {inputs : List (Env × Op)}
    (passive : ∀ input ∈ inputs, input.1.Passive) {core core' last : ToxTunCore}
    (agrees : core.Agrees f core') (completes : run afterStep core inputs = some last) :
    ∃ last', run afterStep core' (sessionInputs f inputs) = some last' ∧ last.Agrees f last' := by
  induction inputs generalizing core core' with
  | nil =>
      cases completes
      exact ⟨core', rfl, agrees⟩
  | cons input inputs ih =>
      obtain ⟨E, op⟩ := input
      have first := passive (E, op) List.mem_cons_self
      have later := fun i mem => passive i (List.mem_cons_of_mem _ mem)
      obtain ⟨next, after, completes⟩ := Option.bind_eq_some_iff.mp completes
      cases mine : op.concerns f with
      | true =>
          have kept : sessionInputs f ((E, op) :: inputs) = (E, op) :: sessionInputs f inputs :=
            List.filter_cons_of_pos (p := fun input : Env × Op => input.2.concerns f) mine
          have agree := step_agrees first mine agrees
          rw [show (step core (E, op)).after = some next from after] at agree
          obtain ⟨next', after', agrees'⟩ := agree
          obtain ⟨last', ends, agreed⟩ := ih later agrees' completes
          refine ⟨last', ?_, agreed⟩
          rw [kept, run, afterStep, after']
          exact ends
      | false =>
          have dropped : sessionInputs f ((E, op) :: inputs) = sessionInputs f inputs :=
            List.filter_cons_of_neg (p := fun input : Env × Op => input.2.concerns f) (by simp [mine])
          have elsewhere := step_elsewhere first mine after
          rw [dropped]
          exact ih later ⟨agrees.connection.trans elsewhere.connection.symm,
            agrees.callbackFunction.trans elsewhere.callbackFunction.symm⟩ completes

theorem mem_sessionInputs (input : Env × Op) :
    ∃ f, ∀ inputs : List (Env × Op), input ∈ inputs ↔ input ∈ sessionInputs f inputs := by
  refine ⟨input.2.friend.getD 0, fun inputs => ?_⟩
  have mine : input.2.concerns (input.2.friend.getD 0) = true := by
    unfold Op.concerns
    cases input.2.friend <;> simp
  simp [sessionInputs, mine]

/-- Runs in which every friend sees the same operations in the same order come to the
same table and show every friend the same, however the operations on different friends
lie between each other. -/
theorem interleavings_agree {inputs inputs' : List (Env × Op)}
    (passive : ∀ input ∈ inputs, input.1.Passive)
    (same : ∀ f, sessionInputs f inputs' = sessionInputs f inputs) {core last : ToxTunCore}
    (completes : run afterStep core inputs = some last) :
    run afterStep core inputs' = some last ∧
      ∀ f, views f (transitions core inputs') = views f (transitions core inputs) := by
  have passive' : ∀ input ∈ inputs', input.1.Passive := fun input mem => by
    obtain ⟨f, iff⟩ := mem_sessionInputs input
    exact passive input ((iff inputs).mpr (same f ▸ (iff inputs').mp mem))
  have alone (f : UInt32) : views f (transitions core (sessionInputs f inputs)) =
      views f (transitions core inputs) := by
    obtain ⟨rest, whole, complete⟩ := views_prefix passive (ToxTunCore.Agrees.refl f core)
    rw [whole, complete (transitions_length completes), List.append_nil]
  have goesOn := run_isSome_iff.mp (by rw [completes]; rfl)
  -- A step that ends the process would end it in the other run as well.
  have completes' : (run afterStep core inputs').isSome = true := by
    refine run_isSome_iff.mpr fun t ht ended => ?_
    obtain ⟨f, mine⟩ : ∃ f, t.op.concerns f = true := by
      refine ⟨t.op.friend.getD 0, ?_⟩
      unfold Op.concerns
      cases t.op.friend <;> simp
    obtain ⟨rest, whole, -⟩ := views_prefix passive' (ToxTunCore.Agrees.refl f core)
    have seen : t.view f ∈ views f (transitions core inputs) := by
      rw [← alone f, ← same f, whole]
      exact List.mem_append_left _ (List.mem_map_of_mem (List.mem_filter.mpr ⟨ht, mine⟩))
    obtain ⟨t', ht', view⟩ := List.mem_map.mp seen
    have outcome := congrArg View.outcome view
    refine goesOn t' (List.mem_of_mem_filter ht') ?_
    revert outcome ended
    simp only [Transition.view, Transition.after]
    cases t.outcome <;> cases t'.outcome <;> simp
  obtain ⟨last', ends⟩ := Option.isSome_iff_exists.mp completes'
  refine ⟨?_, fun f => ?_⟩
  · rw [ends]
    congr 1
    have entries (f : UInt32) : last'.connections f = last.connections f ∧
        last'.callbackFunction = last.callbackFunction := by
      obtain ⟨one, runs, agrees⟩ := run_agrees passive (ToxTunCore.Agrees.refl f core) completes
      obtain ⟨other, runs', agrees'⟩ := run_agrees passive' (ToxTunCore.Agrees.refl f core) ends
      rw [same f, runs] at runs'
      cases runs'
      exact ⟨agrees'.connection.symm.trans agrees.connection,
        agrees'.callbackFunction.symm.trans agrees.callbackFunction⟩
    cases last
    cases last'
    exact (ToxTunCore.mk.injEq ..).mpr ⟨funext fun f => (entries f).1, (entries 0).2⟩
  · obtain ⟨rest, whole, complete⟩ := views_prefix passive' (ToxTunCore.Agrees.refl f core)
    rw [same f, alone, complete (transitions_length ends), List.append_nil] at whole
    exact whole.symm

/-- Two friends call, one after the other. -/
def twoRing : List (Env × Op) :=
  [(.obliging fun _ => some [], .receive 7 [160]), (.obliging fun _ => some [], .receive 8 [160])]

theorem friend_alone_twoRing :
    views 7 (transitions (ToxTunCore.empty true) twoRing) =
      (transitions (ToxTunCore.empty true) (sessionInputs 7 twoRing)).map (Transition.view 7) := by
  have passive : ∀ input ∈ twoRing, input.1.Passive := by simp [twoRing, Env.obliging_passive]
  exact (friend_alone passive (ToxTunCore.empty true) 7).2.2 (by decide +kernel)

theorem interleavings_agree_twoRing : ∃ last,
    run afterStep (ToxTunCore.empty true) twoRing.reverse = some last ∧
      ∀ f, views f (transitions (ToxTunCore.empty true) twoRing.reverse) =
        views f (transitions (ToxTunCore.empty true) twoRing) := by
  have completes : (run afterStep (ToxTunCore.empty true) twoRing).isSome = true := by
    decide +kernel
  obtain ⟨last, ends⟩ := Option.isSome_iff_exists.mp completes
  refine ⟨last, interleavings_agree (by simp [twoRing, Env.obliging_passive]) (fun f => ?_) ends⟩
  simp only [twoRing, sessionInputs, List.reverse_cons, List.reverse_nil, List.nil_append,
    List.cons_append, List.filter_cons, List.filter_nil, Op.concerns, Op.friend, Option.all_some,
    decide_eq_true_eq]
  by_cases seven : (7 : UInt32) = f
  · subst seven
    simp
  · by_cases eight : (8 : UInt32) = f
    · subst eight
      simp
    · simp [seven, eight]

end LibToxTun
