import LibToxTun.Core.Mute

/-! # What a step can do

Every step of a core that does not end the process is of one of three kinds: it
answers a call on one friend, it forwards what was read from the device of one
friend, or it registers a callback function. All it shows is about that friend.
-/

namespace LibToxTun

open Foundation Foundation.Action

/-! ## Effects and their friends -/

def Effect.friend : Effect → UInt32
  | .sent f _ _ => f
  | .raised _ f => f
  | .entered f _ => f
  | .ipSet f _ _ => f
  | .tunWrite f _ _ => f
  | .destroyed f => f
  | .dangling f _ => f

/-- The effects of a connection that comes up. -/
def Effect.setsUp : Effect → Bool
  | .ipSet _ _ _ => true
  | .entered _ s => decide (s = .connected)
  | _ => false

/-- The object stays that of a friend, and what it shows is of a kind. -/
def Frame.Concerns (P : UInt32 → Effect → Prop) (fr fr' : Frame) : Prop :=
  fr'.connectedFriend = fr.connectedFriend ∧ Emits (P fr.connectedFriend) fr.world fr'.world

section
variable {P : UInt32 → Effect → Prop}

instance : IsPreorder Frame (Frame.Concerns P) where
  refl fr := ⟨rfl, Std.Refl.refl fr.world⟩
  trans _ _ _ h h' := ⟨h'.1.trans h.1, IsTrans.trans (r := Emits _) _ _ _ h.2 (h.1 ▸ h'.2)⟩

theorem Frame.Concerns.log {fr fr' : Frame} (h : fr.Concerns P fr') {e : Effect}
    (ok : P fr.connectedFriend e) : fr.Concerns P (fr'.log e) :=
  ⟨h.1, h.2.log ok⟩

theorem Frame.Concerns.of_same {fr fr' : Frame} (friend : fr'.connectedFriend = fr.connectedFriend)
    (trace : fr'.world.trace = fr.world.trace) : fr.Concerns P fr' :=
  ⟨friend, .of_trace_eq trace⟩

/-- What every handler may show: the effects about its friend, except that a
connection comes up and that a packet is written to a device. -/
def Ordinary (P : UInt32 → Effect → Prop) : Prop :=
  ∀ e : Effect, e.setsUp = false → (∀ f s d, e ≠ .tunWrite f s d) → P e.friend e

section
variable (ordinary : Ordinary P)
include ordinary

theorem touch_concerns (fr : Frame) (field : Field) : fr.Concerns P (fr.touch field) := by
  unfold Frame.touch
  split
  · exact Std.Refl.refl fr
  · have start : fr.Concerns P fr := Std.Refl.refl fr
    exact start.log (ordinary (.dangling fr.connectedFriend field) rfl (by simp))

theorem freed_concerns (fr : Frame) : fr.Concerns P fr.freed := by
  have unlinked : fr.Concerns P fr.unlinked := .of_same rfl rfl
  have touched := IsTrans.trans (r := Frame.Concerns P) _ _ _ unlinked
    (touch_concerns ordinary fr.unlinked .state)
  have destroyed := touched.log (ordinary (.destroyed fr.connectedFriend) rfl (by simp))
  exact ⟨destroyed.1, destroyed.2⟩

theorem buried_concerns (fr : Frame) : fr.Concerns P fr.buried := by
  have touched := touch_concerns ordinary fr .state
  have entered : fr.Concerns P (fr.enterState .deleting) :=
    (show fr.Concerns P { fr.touch .state with self := { fr.self with state := .deleting } } from
      touched).log (ordinary (.entered fr.connectedFriend .deleting) rfl (by simp))
  have left := IsTrans.trans (r := Frame.Concerns P) _ _ _ entered
    (touch_concerns ordinary _ .connectedFriend)
  unfold Frame.buried
  dsimp only
  split
  · exact IsTrans.trans (r := Frame.Concerns P) _ _ _ left (freed_concerns ordinary _)
  · exact left

theorem carriesErasure_concerns {E : Env} (passive : E.Passive) :
    E.CarriesErasure (Frame.Concerns P) fun f => Emits (P f) where
  touch := touch_concerns ordinary
  member _ _ := .of_same rfl rfl
  sent fr d status := by
    have logged := (Std.Refl.refl fr : fr.Concerns P fr).log
      (ordinary (.sent fr.connectedFriend d status) rfl (by simp))
    exact ⟨logged.1, logged.2⟩
  ticked _ := .of_same rfl rfl
  entered fr s up _ := (Std.Refl.refl fr : fr.Concerns P fr).log
    (ordinary (.entered fr.connectedFriend s) (by simpa [Effect.setsUp] using up) (by simp))
  raised event fr := by
    rw [Frame.raise, passive]
    exact (Std.Refl.refl fr : fr.Concerns P fr).log
      (ordinary (.raised event fr.connectedFriend) rfl (by simp))
  deletes _ _ _ fr _ _ := by
    rw [deleteConnection_eq]
    exact buried_concerns ordinary fr
  leave f c w fr inner :=
    IsTrans.trans (r := Emits (P f)) _ _ _ inner.2 (.of_trace_eq fr.leave_trace)
  abandoned _ _ _ _ inner := inner.2
  asked _ _ := .of_trace_eq rfl
  told f w d status := by
    have logged := (Std.Refl.refl w : Emits (P f) w w).log (ordinary (.sent f d status) rfl (by simp))
    exact ⟨logged.choose, logged.choose_spec⟩
  unlinks _ := .of_same rfl rfl
  frees fr := by
    have logged := (Std.Refl.refl fr : fr.Concerns P fr).log
      (ordinary (.destroyed fr.connectedFriend) rfl (by simp))
    exact ⟨logged.1, logged.2⟩

end

theorem setIp_concerns {E : Env} (ordinary : Ordinary P) (passive : E.Passive)
    {subnet ipPostfix : UInt8} (set : ∀ f, P f (.ipSet f subnet ipPostfix))
    (up : ∀ f, P f (.entered f .connected)) :
    Respects (Frame.Concerns P) (setIp E subnet ipPostfix) := by
  have carries := carriesErasure_concerns ordinary passive
  have device : Respects (Frame.Concerns P) (tunSetIp subnet ipPostfix) :=
    (carries.setMember .tun _).bind fun _ fr =>
      (Std.Refl.refl fr : fr.Concerns P fr).log (set fr.connectedFriend)
  have connected : Respects (Frame.Concerns P) (setState .connected) :=
    (carries.setMember .state _).bind fun _ fr =>
      (Std.Refl.refl fr : fr.Concerns P fr).log (up fr.connectedFriend)
  exact (device.bind fun _ => connected.bind fun _ => carries.callback _).noexcept

end

theorem effects_friend {E : Env} (passive : E.Passive) (core : ToxTunCore) {op : Op} {f : UInt32}
    (friend : op.friend = some f) : ∀ e ∈ (step core (E, op)).effects, e.friend = f := by
  let P (f : UInt32) (e : Effect) : Prop := e.friend = f
  have ordinary : Ordinary P := fun _ _ _ => rfl
  have carries := carriesErasure_concerns ordinary passive
  have handled (fuel : Nat) (d : Data) : Respects (Frame.Concerns P) (handleDataFuel E fuel d) := by
    induction fuel generalizing d with
    | zero => exact respects_exhausted
    | succ fuel ih =>
        intro fr
        have sets (subnet ipPostfix : UInt8) :=
          setIp_concerns ordinary passive (fun _ => rfl : ∀ f, P f (.ipSet f subnet ipPostfix))
            fun _ => rfl
        refine carries.handleDataFuel_succ ⟨?_, ?_, ?_, ?_⟩
        · exact fun _ _ subnet ipPostfix _ _ => sets subnet ipPostfix
        · exact fun _ _ => sets _ 1
        · exact fun _ => carries.sendToTun (fun fr d => (Std.Refl.refl fr : fr.Concerns P fr).log rfl) d
        · exact fun _ => ih
  have emits : Emits (P f) ⟨core, 0, []⟩ (exec E op ⟨core, 0, []⟩).state :=
    carries.exec friend fun dataRaw c _ _ => handled _ _ _
  exact emits.forall_mem rfl

section
variable {E : Env} (passive : E.Passive) (core : ToxTunCore) {op : Op} {f g : UInt32}
  (friend : op.friend = some g) (other : f ≠ g)
include passive friend other

theorem packets_other : (step core (E, op)).effects.filterMap (Effect.packetTo f) = [] := by
  rw [List.filterMap_eq_nil_iff]
  intro e he
  have about := effects_friend passive core friend e he
  cases e with
  | sent h d status =>
      have same : h = g := about
      have elsewhere : h ≠ f := fun own => other (own.symm.trans same)
      cases status <;> simp [Effect.packetTo, elsewhere]
  | _ => rfl

theorem events_other : (step core (E, op)).effects.filterMap (Effect.eventOf f) = [] := by
  rw [List.filterMap_eq_nil_iff]
  intro e he
  have about := effects_friend passive core friend e he
  cases e with
  | raised event h =>
      have same : h = g := about
      have elsewhere : h ≠ f := fun own => other (own.symm.trans same)
      simp [Effect.eventOf, elsewhere]
  | _ => rfl

end

/-! ## Frames from the device -/

/-- Forwarding what was read, whatever it is, moves the counter of the fragments. -/
structure Frame.Forwards (fr fr' : Frame) : Prop where
  friend : fr'.connectedFriend = fr.connectedFriend
  linked : fr'.linked = fr.linked
  alive : fr'.alive = fr.alive
  core : fr'.world.core = fr.world.core
  self : ∃ index, fr'.self = { fr.self with nextFragmentIndex := index }
  silent : Emits (fun e => ∀ event f, e ≠ .raised event f) fr.world fr'.world

instance : IsPreorder Frame Frame.Forwards where
  refl fr := ⟨rfl, rfl, rfl, rfl, ⟨_, rfl⟩, Std.Refl.refl fr.world⟩
  trans fr fr' fr'' h h' := by
    obtain ⟨i, hi⟩ := h.self
    obtain ⟨j, hj⟩ := h'.self
    exact ⟨h'.friend.trans h.friend, h'.linked.trans h.linked, h'.alive.trans h.alive,
      h'.core.trans h.core, ⟨j, by rw [hj, hi]⟩, IsTrans.trans (r := Emits _) _ _ _ h.silent h'.silent⟩

theorem carriesSending_forwards (E : Env) : E.CarriesSending Frame.Forwards where
  touch fr field := by
    unfold Frame.touch
    split
    · exact Std.Refl.refl fr
    · exact ⟨rfl, rfl, rfl, rfl, ⟨_, rfl⟩, (Std.Refl.refl fr.world : Emits _ _ _).log (by simp)⟩
  counts fr index := ⟨rfl, rfl, rfl, rfl, ⟨index, rfl⟩, Std.Refl.refl fr.world⟩
  sent fr d status := by
    have logged : Emits (fun e => ∀ event f, e ≠ .raised event f) fr.world
        (fr.world.log (.sent fr.connectedFriend d status)) :=
      (Std.Refl.refl fr.world : Emits _ _ _).log (by simp)
    exact ⟨rfl, rfl, rfl, rfl, ⟨_, rfl⟩, logged.choose, logged.choose_spec⟩

/-- A connection with another counter of its fragments. -/
def Connection.withIndex (index : UInt8) (c : Connection) : Connection :=
  { c with nextFragmentIndex := index }

theorem iterate_outcome {E : Env} {core : ToxTunCore} {f : UInt32} {c : Connection}
    (found : core.connections f = some c) (reads : List (Except Exn Data)) :
    (step core (E, .iterate f reads)).outcome =
      ((LibToxTun.iterate E reads (Frame.enter f c ⟨core, 0, []⟩)).mapState Frame.leave).guarded := by
  simp [step, exec, ToxTunCore.iterate, ToxTunCore.connection, found, onConnection]

/-- What one call of `iterate` shows of the connection that it finds. -/
theorem iterate_trace {E : Env} {core : ToxTunCore} {f : UInt32} {c : Connection}
    (found : core.connections f = some c) (reads : List (Except Exn Data)) :
    (step core (E, .iterate f reads)).effects =
      (LibToxTun.iterate E reads (Frame.enter f c ⟨core, 0, []⟩)).state.world.trace := by
  rw [Transition.effects, iterate_outcome found, Outcome.guarded_state, Outcome.mapState_state]
  exact Frame.leave_trace _

theorem iterate_absent {E : Env} {core : ToxTunCore} {f : UInt32} (absent : core.connections f = none)
    (reads : List (Except Exn Data)) : (step core (E, .iterate f reads)).effects = [] := by
  simp [Transition.effects, step, exec, ToxTunCore.iterate, ToxTunCore.connection, absent]

theorem iterate_silent {E : Env} {core : ToxTunCore} {f : UInt32} {reads : List (Except Exn Data)} :
    ∀ e ∈ (step core (E, .iterate f reads)).effects, ∀ event g, e ≠ .raised event g := by
  cases found : core.connections f with
  | none =>
      have silent : (step core (E, .iterate f reads)).effects = [] := by
        simp [Transition.effects, step, exec, ToxTunCore.iterate, ToxTunCore.connection, found]
      simp [silent]
  | some c =>
      have forwards := (carriesSending_forwards E).iterate reads (Frame.enter f c ⟨core, 0, []⟩)
      have trace : (step core (E, .iterate f reads)).effects =
          (LibToxTun.iterate E reads (Frame.enter f c ⟨core, 0, []⟩)).state.world.trace := by
        rw [Transition.effects, iterate_outcome found, Outcome.guarded_state, Outcome.mapState_state]
        exact Frame.leave_trace _
      rw [trace]
      exact forwards.silent.forall_mem rfl

theorem iterate_forwards {E : Env} {core next : ToxTunCore} {f : UInt32} {reads : List (Except Exn Data)}
    (after : (step core (E, .iterate f reads)).after = some next) :
    ∃ index ps, (step core (E, .iterate f reads)).Answers f
      ⟨(core.connections f).map (Connection.withIndex index), ps, []⟩ := by
  cases found : core.connections f with
  | none =>
      refine ⟨0, [], Transition.answers_of_returned ?_ (shows_start found)⟩
      simp [step, exec, ToxTunCore.iterate, ToxTunCore.connection, found]
  | some c =>
      let fr := Frame.enter f c ⟨core, 0, []⟩
      have forwards := (carriesSending_forwards E).iterate reads fr
      have outcome := iterate_outcome (E := E) found reads
      change _ = ((LibToxTun.iterate E reads fr).mapState Frame.leave).guarded at outcome
      cases ho : LibToxTun.iterate E reads fr with
      | returned v fr' =>
          rw [ho] at outcome forwards
          obtain ⟨index, self⟩ := forwards.self
          have quiet := @iterate_silent E core f reads
          rw [Transition.effects, outcome] at quiet
          refine ⟨index, fr'.world.trace.filterMap (Effect.packetTo f),
            Transition.answers_of_returned outcome ⟨?_, ?_, ?_⟩⟩
          · have linked : fr'.linked = true := forwards.linked
            have same : fr'.world.core = core := forwards.core
            have friend : fr'.connectedFriend = f := forwards.friend
            have kept : fr'.self = { c with nextFragmentIndex := index } := self
            rw [Frame.leave, if_pos linked, World.setConnection, same, friend, kept]
            rfl
          · rw [Frame.leave_trace]
          · rw [List.filterMap_eq_nil_iff]
            intro e he
            cases e with
            | raised event g => exact (quiet _ he event g rfl).elim
            | _ => rfl
      | thrown e fr' => simp [Transition.after, outcome, ho] at after
      | terminated fr' => simp [Transition.after, outcome, ho] at after
      | outOfFuel fr' => simp [Transition.after, outcome, ho] at after

theorem iterate_idle {E : Env} {core : ToxTunCore} {f : UInt32} {c : Connection}
    (found : core.connections f = some c) (idle : c.state ≠ .connected) (reads : List (Except Exn Data)) :
    (step core (E, .iterate f reads)).Answers f ⟨some c, [], []⟩ := by
  have alive : (Frame.enter f c ⟨core, 0, []⟩).alive = true := rfl
  have returned : LibToxTun.iterate E reads (Frame.enter f c ⟨core, 0, []⟩) =
      .returned () (Frame.enter f c ⟨core, 0, []⟩) := by
    cases reads with
    | nil => rfl
    | cons read reads =>
        have still : (Frame.enter f c ⟨core, 0, []⟩).self.state ≠ .connected := idle
        simp [LibToxTun.iterate, Frame.touch_of_alive alive, still]
  have outcome := iterate_outcome (E := E) found reads
  rw [returned] at outcome
  exact Transition.answers_of_returned outcome (Frame.live_enter core f c).leave

/-! ## The kinds of steps -/

/-- The kinds of steps that do not end the process. -/
inductive Transition.Kind (t : Transition) : Prop where
  | answers {f : UInt32} {call : Call} {r : Reply} (op : t.op = call.op f)
      (answer : t.env.answer t.before.callbackFunction (t.before.connections f) call = some r)
      (answers : t.Answers f r)
  | forwards {f : UInt32} {reads : List (Except Exn Data)} {index : UInt8} {ps : List Data}
      (op : t.op = .iterate f reads)
      (answers : t.Answers f ⟨(t.before.connections f).map (Connection.withIndex index), ps, []⟩)
  | registers {callback : Bool} (op : t.op = .setCallback callback)
      (after : t.after = some { t.before with callbackFunction := callback }) (silent : t.effects = [])

theorem step_cases {E : Env} (passive : E.Passive) {core next : ToxTunCore} {op : Op}
    (after : (step core (E, op)).after = some next) : (step core (E, op)).Kind := by
  have call {f : UInt32} (call : Call) (same : op = call.op f) : (step core (E, op)).Kind := by
    subst same
    obtain ⟨r, answer, answers⟩ := answers_of_after passive after
    exact .answers rfl answer answers
  cases op with
  | receive f dataRaw => exact call (.receive dataRaw) rfl
  | setCallback callback => exact .registers rfl rfl rfl
  | iterate f reads =>
      obtain ⟨index, ps, answers⟩ := iterate_forwards after
      exact .forwards rfl answers
  | sendConnectionRequest f => exact call .sendConnectionRequest rfl
  | acceptConnection f => exact call .acceptConnection rfl
  | rejectConnection f => exact call .rejectConnection rfl
  | closeConnection f => exact call .closeConnection rfl

/-- What a step does to the entry of one friend. -/
inductive Transition.Entry (f : UInt32) (t : Transition) (next : ToxTunCore) : Prop where
  | answers {call : Call} {r : Reply} (op : t.op = call.op f)
      (answer : t.env.answer t.before.callbackFunction (t.before.connections f) call = some r)
      (answers : t.Answers f r) (entry : next.connections f = r.connection)
  | forwards {reads : List (Except Exn Data)} {index : UInt8} (op : t.op = .iterate f reads)
      (silent : t.effects.filterMap (Effect.eventOf f) = [])
      (entry : next.connections f = (t.before.connections f).map (Connection.withIndex index))
  | elsewhere {g : UInt32} (friend : t.op.friend = some g) (other : f ≠ g)
      (entry : next.connections f = t.before.connections f)
  | registers {callback : Bool} (op : t.op = .setCallback callback) (silent : t.effects = [])
      (entry : next.connections f = t.before.connections f)

theorem step_entry {E : Env} (passive : E.Passive) {core next : ToxTunCore} {op : Op}
    (after : (step core (E, op)).after = some next) (f : UInt32) :
    (step core (E, op)).Entry f next := by
  have elsewhere {g : UInt32} {r : Reply} (friend : op.friend = some g) (other : f ≠ g)
      (answers : (step core (E, op)).Answers g r) : (step core (E, op)).Entry f next := by
    cases after.symm.trans answers.after
    exact .elsewhere friend other (ToxTunCore.put_other _ _ _ other)
  rcases step_cases passive after with ⟨same, answer, answers⟩ | ⟨same, answers⟩ | ⟨same, after', silent⟩
  · next g call r =>
      change op = call.op g at same
      by_cases own : f = g
      · subst own
        cases after.symm.trans answers.after
        exact .answers same answer answers (ToxTunCore.put_self ..)
      · exact elsewhere (by rw [same]; cases call <;> rfl) own answers
  · next g reads index ps =>
      change op = .iterate g reads at same
      by_cases own : f = g
      · subst own
        cases after.symm.trans answers.after
        exact .forwards same answers.events (ToxTunCore.put_self ..)
      · exact elsewhere (by rw [same]; rfl) own answers
  · cases after.symm.trans after'
    exact .registers same silent rfl

/-! ## Invariants with a history -/

theorem transitions_suffix {core : ToxTunCore} {inputs : List (Env × Op)} {pre post : List Transition}
    {t : Transition} (split : transitions core inputs = pre ++ t :: post) :
    ∃ before input later, (∀ i ∈ input :: later, i ∈ inputs) ∧ t = step before input ∧
      t :: post = transitions before (input :: later) := by
  induction pre generalizing core inputs with
  | nil =>
      cases inputs with
      | nil => cases split
      | cons input later =>
          rw [List.nil_append] at split
          refine ⟨core, input, later, fun _ mem => mem, ?_, split.symm⟩
          rw [transitions, List.cons.injEq] at split
          exact split.1.symm
  | cons first pre ih =>
      cases inputs with
      | nil => cases split
      | cons input rest =>
          rw [transitions, List.cons_append, List.cons.injEq] at split
          obtain ⟨-, later⟩ := split
          cases after : (step core input).after with
          | none =>
              rw [after] at later
              simp at later
          | some next =>
              rw [after] at later
              obtain ⟨before, input', later', sub, same, run⟩ := ih later
              exact ⟨before, input', later', fun i mem => List.mem_cons_of_mem _ (sub i mem), same, run⟩

/-- What holds at the start and along every step holds, with the steps made so far,
before every step of a run. The steps may be asked to meet a condition. -/
theorem transitions_history {I : List Transition → ToxTunCore → Prop} {C : Transition → Prop}
    {core : ToxTunCore} {inputs : List (Env × Op)} {done : List Transition} (start : I done core)
    (preserved : ∀ done before input next, I done before → input ∈ inputs → C (step before input) →
      (step before input).after = some next → I (done ++ [step before input]) next)
    {pre post : List Transition} {t : Transition} (split : transitions core inputs = pre ++ t :: post)
    (met : ∀ t ∈ pre, C t) :
    ∃ before, I (done ++ pre) before ∧ ∃ input ∈ inputs, t = step before input := by
  induction inputs generalizing core done pre with
  | nil => simp [transitions] at split
  | cons input inputs ih =>
      simp only [transitions] at split
      cases pre with
      | nil =>
          simp only [List.nil_append, List.cons.injEq] at split
          exact ⟨core, by simpa using start, input, List.mem_cons_self, split.1.symm⟩
      | cons first pre =>
          simp only [List.cons_append, List.cons.injEq] at split
          obtain ⟨rfl, rest⟩ := split
          cases after : (step core input).after with
          | none => simp [after] at rest
          | some next =>
              simp only [after] at rest
              have kept := preserved done core input next start List.mem_cons_self
                (met _ List.mem_cons_self) after
              obtain ⟨before, inv, later, hmem, rfl⟩ := ih kept
                (fun done before input next inv hmem =>
                  preserved done before input next inv (List.mem_cons_of_mem _ hmem))
                rest fun t ht => met t (List.mem_cons_of_mem _ ht)
              exact ⟨before, by simpa using inv, later, List.mem_cons_of_mem _ hmem, rfl⟩

end LibToxTun
