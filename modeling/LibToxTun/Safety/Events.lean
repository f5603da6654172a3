import LibToxTun.Safety.Atomicity
import LibToxTun.Core.Steps

/-! # Events and the reported state

What the user hears of a friend and what `getConnectionState` says agree, except
after a proposal whose acceptance could not be sent: the handler goes on, and it
announces an acceptance by a connection that is gone.
-/

namespace LibToxTun

open Foundation

/-- The events that end a connection. -/
def Event.terminal : Event → Bool
  | .connectionRequested => false
  | .connectionAccepted => false
  | .connectionRejected => true
  | .connectionClosed => true

/-- What happens for a friend: an event, or a call with which the user ends the
connection. -/
inductive Happening where
  | raised (event : Event)
  | ended
deriving DecidableEq, Repr

/-- The events of an operation, and then its end when the user ends the connection. -/
def happened (es : List Event) (ended : Bool) : List Happening :=
  es.map Happening.raised ++ if ended then [Happening.ended] else []

namespace Transition

def events (f : UInt32) (t : Transition) : List Event := t.effects.filterMap (Effect.eventOf f)

/-- The step is a local `closeConnection`, `rejectConnection` or throwing
`acceptConnection`. -/
def ends (f : UInt32) (t : Transition) : Bool :=
  match t.op with
  | .closeConnection g => g == f
  | .rejectConnection g => g == f
  | .acceptConnection g => g == f && t.throws
  | _ => false

def happenings (f : UInt32) (t : Transition) : List Happening :=
  happened (t.events f) (t.ends f)

/-- A proposal with an unused subnet arrives where one is expected, and tox does not
take the acceptance. -/
def Unaccepted (f : UInt32) (t : Transition) : Prop :=
  ∃ dataRaw c d joins fs subnet ipPostfix,
    t.op = .receive f dataRaw ∧ t.before.connections f = some c ∧
    c.fragments.arrival (Data.fromToxData dataRaw) = .packet d joins fs ∧
    PacketId.ofByte d.header = .ipProposal ∧ c.state = .expectingIpPacket ∧
    proposalBytes d = .ok (subnet, ipPostfix) ∧
    t.env.unusedAt 0 subnet = true ∧ t.env.sends 1 = false

end Transition

/-- At most one acceptance and one end, and nothing after the end. -/
structure Orderly (es : List Event) : Prop where
  accepts : es.count .connectionAccepted ≤ 1
  ends : es.countP Event.terminal ≤ 1
  last : ∀ pre e post, es = pre ++ e :: post → e.terminal = true → post = []

/-- The steps from the insertion of a connection on, up to its removal at most. -/
def Lifetime (f : UInt32) : List Transition → Prop
  | [] => False
  | first :: rest => first.before.connections f = none ∧
      ∀ t ∈ rest, (t.before.connections f).isSome = true

/-- Every lifetime raises its events in order. -/
def LifetimesOrderly (f : UInt32) (ts : List Transition) : Prop :=
  ∀ pre life post, ts = pre ++ life ++ post → Lifetime f life →
    Orderly (life.flatMap (Transition.events f))

/-- The friend is reported as connected exactly when an acceptance was the last thing
that happened. -/
def StatesAgree (f : UInt32) (ts : List Transition) : Prop :=
  ∀ pre t post next, ts = pre ++ t :: post → t.after = some next →
    (next.getConnectionState f = .connected ↔
      ((pre ++ [t]).flatMap (Transition.happenings f)).getLast? = some (.raised .connectionAccepted))

/-! ## The course of an entry -/

def Up (entry : Option Connection) : Prop := ∃ c, entry = some c ∧ c.state = .connected

@[simp] theorem not_up_none : ¬ Up none := by
  rintro ⟨c, found, -⟩
  cases found

@[simp] theorem up_some (c : Connection) : Up (some c) ↔ c.state = .connected :=
  ⟨fun ⟨_, found, state⟩ => by cases found; exact state, fun state => ⟨c, rfl, state⟩⟩

theorem getConnectionState_connected (core : ToxTunCore) (f : UInt32) :
    core.getConnectionState f = .connected ↔ Up (core.connections f) := by
  unfold ToxTunCore.getConnectionState
  cases core.connections f with
  | none => simp
  | some c =>
      rw [up_some]
      cases state : c.state <;> simp [Connection.getConnectionState, state]

/-- What a step does to the entry of a friend, with its events and whether the user
ends the connection. -/
inductive Course (entry next : Option Connection) (ended : Bool) : List Event → Prop
  | calm (same : ended = false → (Up next ↔ Up entry)) (gone : ended = true → next = none) :
      Course entry next ended []
  | rung (absent : entry = none) (ringing : ¬ Up next) (going : ended = false) :
      Course entry next ended [.connectionRequested]
  | up (down : ¬ Up entry) (up : Up next) (going : ended = false) :
      Course entry next ended [.connectionAccepted]
  | down (gone : next = none) {e : Event} (terminal : e.terminal = true) : Course entry next ended [e]

/-- The events so far of a lifetime that goes on. -/
structure Open (entry : Option Connection) (es : List Event) : Prop where
  accepts : es.count .connectionAccepted ≤ 1
  accepted : 1 ≤ es.count .connectionAccepted → Up entry
  lasting : es.countP Event.terminal = 0

theorem Open.orderly {entry : Option Connection} {es : List Event} (h : Open entry es) : Orderly es := by
  refine ⟨h.accepts, by rw [h.lasting]; exact Nat.zero_le 1, ?_⟩
  rintro pre e post rfl terminal
  have none := List.countP_eq_zero.mp h.lasting e (by simp)
  exact (none terminal).elim

section
variable {entry next : Option Connection} {ended : Bool} {es new : List Event}

/-- A course that leaves a connection goes on with its lifetime. -/
theorem Course.open (course : Course entry next ended new) (h : Open entry es)
    (present : next ≠ none) : Open next (es ++ new) := by
  have accepts := h.accepts
  have lasting := h.lasting
  cases course with
  | calm same gone =>
      rw [List.append_nil]
      have going : ended = false := by
        cases ended with
        | false => rfl
        | true => exact (present (gone rfl)).elim
      exact ⟨accepts, fun once => (same going).mpr (h.accepted once), lasting⟩
  | rung absent ringing going =>
      have none : es.count .connectionAccepted = 0 := by
        by_contra some
        have up := h.accepted (by omega)
        rw [absent] at up
        exact not_up_none up
      refine ⟨?_, fun once => ?_, ?_⟩
      · simpa [List.count_append] using accepts
      · simp [List.count_append, none] at once
      · simpa [List.countP_append, Event.terminal] using lasting
  | up down up going =>
      have none : es.count .connectionAccepted = 0 := by
        by_contra some
        exact down (h.accepted (by omega))
      refine ⟨?_, fun _ => up, ?_⟩
      · simp [List.count_append, none]
      · simpa [List.countP_append, Event.terminal] using lasting
  | down gone terminal => exact (present gone).elim

theorem Course.orderly (course : Course entry next ended new) (h : Open entry es) :
    Orderly (es ++ new) := by
  have accepts := h.accepts
  have lasting := h.lasting
  cases course with
  | calm same gone =>
      rw [List.append_nil]
      exact h.orderly
  | rung absent ringing going =>
      have kept : Open entry (es ++ [.connectionRequested]) :=
        ⟨by simpa [List.count_append] using accepts,
          fun once => h.accepted (by simpa [List.count_append] using once),
          by simpa [List.countP_append, Event.terminal] using lasting⟩
      exact kept.orderly
  | up down up going =>
      have kept : Open next (es ++ [.connectionAccepted]) :=
        (Course.up down up going).open h fun gone => by rw [gone] at up; exact not_up_none up
      exact kept.orderly
  | @down gone e terminal =>
      have other : e ≠ .connectionAccepted := by
        rintro rfl
        cases terminal
      refine ⟨?_, ?_, ?_⟩
      · simpa [List.count_append, other] using accepts
      · simp [List.countP_append, lasting, terminal]
      · intro pre e' post same terminal'
        rcases List.eq_nil_or_concat post with rfl | ⟨post', last, rfl⟩
        · rfl
        · have split : es ++ [e] = (pre ++ e' :: post') ++ [last] := by simpa using same
          obtain ⟨before, -⟩ := List.append_inj' split rfl
          have none := List.countP_eq_zero.mp lasting e' (by simp [before])
          exact (none terminal').elim

/-- The last happening tells whether the connection is up. -/
theorem Course.last (course : Course entry next ended new) (hist : List Happening)
    (h : Up entry ↔ hist.getLast? = some (.raised .connectionAccepted)) :
    Up next ↔ (hist ++ happened new ended).getLast? = some (.raised .connectionAccepted) := by
  unfold happened
  cases ended with
  | true =>
      have gone : ¬ Up next := by
        cases course with
        | calm same gone => simp [gone rfl]
        | down gone terminal => simp [gone]
        | rung absent ringing going => cases going
        | up down up going => cases going
      simp [gone]
  | false =>
      simp only [Bool.false_eq_true, if_false, List.append_nil]
      cases course with
      | calm same gone =>
          rw [List.map_nil, List.append_nil, same rfl]
          exact h
      | rung absent ringing going => simp [ringing]
      | up down up going => simp [up]
      | @down gone e terminal =>
          have other : e ≠ .connectionAccepted := by
            rintro rfl
            cases terminal
          simp [gone, other]

end

/-! ## The course of a reply -/

/-- The user ends the connection with this call. -/
def Call.ending (entry : Option Connection) : Call → Bool
  | .acceptConnection => entry.all fun c => decide (c.state ≠ .friendsRequestPending)
  | .rejectConnection => true
  | .closeConnection => true
  | _ => false

section
variable {E : Env}

theorem killedAt_course (entry : Option Connection) (ended : Bool) (clock : Nat) :
    Course entry (E.killedAt clock).connection ended (E.killedAt clock).events :=
  .down rfl rfl

theorem dismiss_course (c : Connection) : Course (some c) (E.dismiss c).connection true
    (E.dismiss c).events := by
  cases state : c.state <;> simp only [Env.dismiss, state]
  · exact killedAt_course _ _ _
  · exact .calm (fun going => by cases going) fun _ => rfl
  · exact killedAt_course _ _ _
  · exact killedAt_course _ _ _
  · exact .calm (fun going => by cases going) fun _ => rfl
  · exact .calm (fun going => by cases going) fun _ => rfl

theorem kept_course {c c' : Connection} (state : c'.state = c.state) :
    Course (some c) (some c') false [] :=
  .calm (fun _ => by simp [state]) fun ends => by cases ends

theorem propose_course {c c' : Connection} (expecting : c.state = .expectingIpConfirmation)
    (down : c'.state ≠ .connected) :
    Course (some c') (E.propose c).connection false (E.propose c).events := by
  obtain ⟨⟨subnet, clock, found⟩, search⟩ := search_total E c.subnet 0
  simp only [Env.propose, search]
  cases found with
  | false => exact killedAt_course _ _ _
  | true =>
      dsimp only
      split
      · exact .calm (fun _ => by simp [expecting, down]) fun ends => by cases ends
      · exact killedAt_course _ _ _

/-- A proposal is answered in order unless its acceptance is not sent. -/
theorem consider_course {c c' : Connection} (expecting : c.state = .expectingIpPacket)
    (same : c'.state = c.state) {subnet ipPostfix : UInt8}
    (sent : ¬ (E.unusedAt 0 subnet = true ∧ E.sends 1 = false)) :
    Course (some c') (E.consider c subnet ipPostfix).connection false
      (E.consider c subnet ipPostfix).events := by
  unfold Env.consider
  split
  · next unused =>
      split
      · exact .up (by simp [same, expecting]) (by simp) rfl
      · next unsent => exact (sent ⟨unused, by simpa using unsent⟩).elim
  · split
    · exact kept_course same.symm
    · exact killedAt_course _ _ _

theorem respond_course (c : Connection) (fs : Fragments) (d : Data)
    (sent : ∀ subnet ipPostfix, PacketId.ofByte d.header = .ipProposal →
      c.state = .expectingIpPacket → proposalBytes d = .ok (subnet, ipPostfix) →
        ¬ (E.unusedAt 0 subnet = true ∧ E.sends 1 = false)) :
    Course (some c) (E.respond { c with fragments := fs } d).connection false
      (E.respond { c with fragments := fs } d).events := by
  have kept : Course (some c) (some { c with fragments := fs }) false [] := kept_course rfl
  have killed := killedAt_course (E := E) (some c) false 0
  simp only [Env.respond]
  cases header : PacketId.ofByte d.header with
  | connectionRequest => exact kept
  | connectionAccept =>
      dsimp only
      split
      · next own => exact propose_course rfl (by simp [own])
      · exact killed
  | connectionReject | connectionClose =>
      dsimp only
      split
      · exact .down rfl rfl
      · exact killed
  | connectionReset => exact .down rfl rfl
  | ipProposal =>
      dsimp only
      split
      · next expecting =>
          split
          · next subnet ipPostfix bytes =>
              exact @consider_course E { c with fragments := fs } c expecting rfl _ _
                (sent _ _ header expecting bytes)
          · exact kept
      · exact killed
  | ipAccept =>
      dsimp only
      split
      · next expecting => exact .up (by simp [expecting]) (by simp) rfl
      · exact killed
  | ipReject =>
      dsimp only
      split
      · next expecting =>
          exact @propose_course E { c with fragments := fs } c expecting (by simp [expecting])
      · exact killed
  | data =>
      dsimp only
      split
      · exact kept
      · exact killed
  | fragment => exact kept
  | unnamed b => exact kept

theorem greet_course (d : Data) : Course none (E.greet d).connection false (E.greet d).events := by
  have calm : Course none none false [] := .calm (fun _ => Iff.rfl) fun _ => rfl
  unfold Env.greet
  split
  · split
    · exact .rung rfl (by simp [Connection.initial]) rfl
    · exact calm
  · exact calm
  · exact calm

theorem receive_course {c : Connection} {dataRaw : List UInt8} {r : Reply}
    (sent : ∀ d joins fs subnet ipPostfix,
      c.fragments.arrival (Data.fromToxData dataRaw) = .packet d joins fs →
      PacketId.ofByte d.header = .ipProposal → c.state = .expectingIpPacket →
      proposalBytes d = .ok (subnet, ipPostfix) →
        ¬ (E.unusedAt 0 subnet = true ∧ E.sends 1 = false))
    (reply : E.reply (some c) (.receive dataRaw) = some r) :
    Course (some c) r.connection false r.events := by
  simp only [Env.reply, Env.receive] at reply
  cases arrival : c.fragments.arrival (Data.fromToxData dataRaw) with
  | packet d joins fs =>
      rw [arrival] at reply
      cases reply
      exact respond_course c fs d fun subnet ipPostfix => sent d joins fs subnet ipPostfix arrival
  | kept fs =>
      rw [arrival] at reply
      cases reply
      exact kept_course rfl
  | corrupted | unfinished =>
      rw [arrival] at reply
      cases reply

theorem iterate_course {entry : Option Connection} {reads : List (Option (List UInt8))} {r : Reply}
    (reply : E.reply entry (.iterate reads) = some r) : Course entry r.connection false r.events := by
  obtain ⟨rfl, rfl⟩ | ⟨c, rfl, -, rfl⟩ | ⟨c, rfl, -, -, rfl⟩ := Env.reply_iterate reply
  · exact .calm (fun _ => Iff.rfl) fun _ => rfl
  · exact kept_course rfl
  · obtain ⟨index, same⟩ := E.forward_connection 0 c reads
    simp only [same]
    exact kept_course rfl

theorem sendConnectionRequest_course {entry : Option Connection} {r : Reply}
    (reply : E.reply entry .sendConnectionRequest = some r) :
    Course entry r.connection false r.events := by
  cases entry with
  | none =>
      cases reply
      dsimp only
      split
      · exact .calm (fun _ => by simp [Connection.initial]) fun ends => by cases ends
      · exact .calm (fun _ => Iff.rfl) fun _ => rfl
  | some c =>
      cases reply
      exact kept_course rfl

theorem acceptConnection_course {entry : Option Connection} {r : Reply}
    (reply : E.reply entry .acceptConnection = some r) :
    Course entry r.connection (Call.acceptConnection.ending entry) r.events := by
  cases entry with
  | none =>
      cases reply
      exact .calm (fun ends => by cases ends) fun _ => rfl
  | some c =>
      cases reply
      simp only [Call.ending, Option.all_some]
      split
      · next ringing =>
          simp only [ringing, ne_eq, not_true_eq_false, decide_false]
          split
          · exact .calm (fun _ => by simp [ringing]) fun ends => by cases ends
          · exact killedAt_course _ _ _
      · next silent =>
          simp only [ne_eq, silent, not_false_eq_true, decide_true]
          exact dismiss_course c

/-- Every reply takes an orderly course unless an acceptance is not sent. -/
theorem reply_course {entry : Option Connection} {call : Call} {r : Reply}
    (sent : ∀ dataRaw c d joins fs subnet ipPostfix, call = .receive dataRaw → entry = some c →
      c.fragments.arrival (Data.fromToxData dataRaw) = .packet d joins fs →
      PacketId.ofByte d.header = .ipProposal → c.state = .expectingIpPacket →
      proposalBytes d = .ok (subnet, ipPostfix) →
        ¬ (E.unusedAt 0 subnet = true ∧ E.sends 1 = false))
    (reply : E.reply entry call = some r) :
    Course entry r.connection (call.ending entry) r.events := by
  cases call with
  | receive dataRaw =>
      cases entry with
      | none =>
          cases reply
          exact greet_course _
      | some c =>
          exact receive_course (fun d joins fs subnet ipPostfix =>
            sent dataRaw c d joins fs subnet ipPostfix rfl rfl) reply
  | iterate reads => exact iterate_course reply
  | sendConnectionRequest => exact sendConnectionRequest_course reply
  | acceptConnection => exact acceptConnection_course reply
  | rejectConnection | closeConnection =>
      cases entry with
      | none =>
          cases reply
          exact .calm (fun ends => by cases ends) fun _ => rfl
      | some c =>
          cases reply
          exact dismiss_course c

end

/-! ## The course of a step -/

section
variable {E : Env} {core : ToxTunCore} {f : UInt32}

theorem course_untouched {entry next : Option Connection} (same : next = entry) :
    Course entry next false [] := by
  subst same
  exact .calm (fun _ => Iff.rfl) fun ends => by cases ends

theorem ends_call (passive : E.Passive) (registered : core.callbackFunction = true) (call : Call) :
    (step core (E, call.op f)).ends f = call.ending (core.connections f) := by
  cases call with
  | acceptConnection =>
      have own : (step core (E, Call.acceptConnection.op f)).ends f =
          (step core (E, Call.acceptConnection.op f)).throws := by
        simp [Transition.ends, step, Call.op]
      rw [own]
      cases found : core.connections f with
      | none =>
          simp [Transition.throws, step, Call.op, exec, ToxTunCore.acceptConnection,
            ToxTunCore.connection, found, Call.ending]
      | some c =>
          by_cases ringing : c.state = .friendsRequestPending
          · have completes : (step core (E, Call.acceptConnection.op f)).throws ≠ true :=
              fun throws => acceptConnection_refuses found throws ringing
            simpa [Call.ending, ringing] using completes
          · let fr := Frame.enter f c ⟨core, 0, []⟩
            have refused := acceptConnection_refused E (show fr.alive = true from rfl) ringing
            obtain ⟨w, erased, -⟩ := erase_dismiss passive (f := f) registered c
            have left : fr.leave = ⟨core.put f (some c), 0, []⟩ := rfl
            rw [← left] at erased
            have thrown : (step core (E, Call.acceptConnection.op f)).outcome = .thrown _ w :=
              acceptConnection_caught found refused erased
            simp [Transition.throws, thrown, Call.ending, ringing]
  | rejectConnection | closeConnection => simp [Transition.ends, Call.ending, step, Call.op]
  | receive dataRaw | iterate reads | sendConnectionRequest => rfl

theorem ended_silent (passive : E.Passive) (registered : core.callbackFunction = true) {op : Op}
    (ended : (step core (E, op)).after = none) (f : UInt32) : (step core (E, op)).events f = [] := by
  have answered {g : UInt32} (call : Call) {r : Reply}
      (reply : E.reply (core.connections g) call = some r) :
      (step core (E, call.op g)).after ≠ none := by
    have answers := step_reply passive registered (f := g) call
    rw [reply] at answers
    rw [answers.after]
    exact Option.some_ne_none _
  cases op with
  | receive g dataRaw =>
      cases found : core.connections g with
      | none => exact (answered (.receive dataRaw) (by rw [found]; rfl) ended).elim
      | some c =>
          have reception : (step core (E, .receive g dataRaw)).reception =
              some (g, c, c.fragments.arrival (Data.fromToxData dataRaw)) := by
            simp [Transition.reception, step, found]
          obtain ⟨-, finishes, o, ho, outcome⟩ := step_reception reception
          cases arrival : c.fragments.arrival (Data.fromToxData dataRaw) with
          | packet d joins fs =>
              exact (answered (.receive dataRaw) (by rw [found, Env.reply, Env.receive, arrival])
                ended).elim
          | kept fs =>
              exact (answered (.receive dataRaw) (by rw [found, Env.reply, Env.receive, arrival])
                ended).elim
          | corrupted =>
              rw [arrival] at ho
              obtain ⟨fs, rfl⟩ := ho
              rw [Transition.events, Transition.effects, outcome, Outcome.mapState_terminated,
                Outcome.state_terminated, Frame.leave_trace]
              rfl
          | unfinished => exact (finishes arrival).elim
  | setCallback callback => cases ended
  | iterate g reads =>
      rw [Transition.events, List.filterMap_eq_nil_iff]
      intro e he
      cases e with
      | raised event h => exact (iterate_silent _ he event h rfl).elim
      | _ => rfl
  | sendConnectionRequest g => exact (answered .sendConnectionRequest rfl ended).elim
  | acceptConnection g => exact (answered .acceptConnection rfl ended).elim
  | rejectConnection g => exact (answered .rejectConnection rfl ended).elim
  | closeConnection g => exact (answered .closeConnection rfl ended).elim

theorem ends_other {op : Op} {g : UInt32} (friend : op.friend = some g) (other : g ≠ f) :
    (step core (E, op)).ends f = false := by
  cases op <;> cases friend <;> simp [Transition.ends, step, other]

/-- A step takes an orderly course for every friend whose acceptance it does not fail
to send. -/
theorem step_course (passive : E.Passive) (registered : core.callbackFunction = true) {op : Op}
    {next : ToxTunCore} (after : (step core (E, op)).after = some next) {f : UInt32}
    (accepted : ¬ (step core (E, op)).Unaccepted f) :
    Course (core.connections f) (next.connections f) ((step core (E, op)).ends f)
      ((step core (E, op)).events f) := by
  rcases step_entry passive after f with
    ⟨same, answer, answers, entry⟩ | ⟨same, silent, entry⟩ | ⟨friend, other, entry⟩ |
      ⟨same, silent, entry⟩
  · next call r =>
      change op = call.op f at same
      subst same
      change E.answer core.callbackFunction (core.connections f) call = some r at answer
      rw [registered] at answer
      have events : (step core (E, call.op f)).events f = r.events := answers.events
      rw [events, ends_call passive registered, entry]
      refine reply_course ?_ answer
      rintro dataRaw c d joins fs subnet ipPostfix rfl found arrival header state bytes ⟨unused, unsent⟩
      exact accepted ⟨dataRaw, c, d, joins, fs, subnet, ipPostfix, rfl, found, arrival, header,
        state, bytes, unused, unsent⟩
  · next reads index =>
      change op = .iterate f reads at same
      subst same
      have events : (step core (E, .iterate f reads)).events f = [] := silent
      rw [events, entry]
      change Course _ ((core.connections f).map _) false _
      cases core.connections f with
      | none => exact course_untouched rfl
      | some c => exact kept_course rfl
  · have friend : op.friend = some _ := friend
    have events : (step core (E, op)).events f = [] := events_other passive core friend other
    rw [events, ends_other friend (Ne.symm other)]
    exact course_untouched entry
  · next callback =>
      change op = .setCallback callback at same
      subst same
      have events : (step core (E, .setCallback callback)).events f = [] := rfl
      rw [events]
      exact course_untouched entry

end

/-! ## Runs -/

/-- What has happened for a friend, and the table now. -/
structure Told (f : UInt32) (done : List Transition) (core : ToxTunCore) : Prop where
  registered : core.callbackFunction = true
  last : Up (core.connections f) ↔
    (done.flatMap (Transition.happenings f)).getLast? = some (.raised .connectionAccepted)
  lasting : ∀ pre life, done = pre ++ life → Lifetime f life → core.connections f ≠ none →
    Open (core.connections f) (life.flatMap (Transition.events f))

section
variable {f : UInt32} {done : List Transition} {core : ToxTunCore} {input : Env × Op}

theorem open_nil (entry : Option Connection) : Open entry [] :=
  ⟨Nat.zero_le 1, fun once => absurd once (by simp), rfl⟩

theorem Told.before (h : Told f done core) {pre life : List Transition}
    (split : done ++ [step core input] = pre ++ life) (lifetime : Lifetime f life) :
    ∃ life', life = life' ++ [step core input] ∧
      Open (core.connections f) (life'.flatMap (Transition.events f)) := by
  rcases List.eq_nil_or_concat life with rfl | ⟨life', t, concat⟩
  · cases lifetime
  · rw [List.concat_eq_append] at concat
    subst concat
    have split' : done ++ [step core input] = (pre ++ life') ++ [t] := by simpa using split
    obtain ⟨earlier, same⟩ := List.append_inj' split' rfl
    cases same
    refine ⟨life', by simp, ?_⟩
    cases life' with
    | nil => exact open_nil _
    | cons first rest =>
        obtain ⟨fresh, going⟩ := lifetime
        have present : core.connections f ≠ none := by
          have here := going (step core input) (by simp)
          exact Option.isSome_iff_ne_none.mp here
        exact h.lasting pre (first :: rest) earlier
          ⟨fresh, fun t ht => going t (List.mem_append_left _ ht)⟩ present

theorem Told.step (h : Told f done core) (passive : input.1.Passive)
    (stays : input.2 ≠ .setCallback false) (accepted : ¬ (step core input).Unaccepted f)
    {next : ToxTunCore} (after : (step core input).after = some next) :
    Told f (done ++ [LibToxTun.step core input]) next := by
  have course := step_course passive h.registered after accepted
  refine ⟨step_registered h.registered passive.keepsCallback stays after, ?_, ?_⟩
  · rw [List.flatMap_append, List.flatMap_singleton]
    exact course.last _ h.last
  · intro pre life split lifetime present
    obtain ⟨life', rfl, lasting⟩ := h.before split lifetime
    rw [List.flatMap_append, List.flatMap_singleton]
    exact course.open lasting present

end

theorem told_empty (f : UInt32) : Told f [] (ToxTunCore.empty true) := by
  refine ⟨rfl, by simp [ToxTunCore.empty], ?_⟩
  intro pre life split lifetime present
  exact (present rfl).elim

section
variable {inputs : List (Env × Op)}
  (passive : ∀ input ∈ inputs, input.1.Passive ∧ input.2 ≠ .setCallback false)
include passive

/-- What is told before a step of a run whose steps so far send their acceptances. -/
theorem told_before {f : UInt32} {pre post : List Transition} {t : Transition}
    (split : transitions (ToxTunCore.empty true) inputs = pre ++ t :: post)
    (accepted : ∀ t ∈ pre, ¬ t.Unaccepted f) :
    ∃ before, Told f pre before ∧ ∃ input ∈ inputs, t = step before input := by
  have reached := transitions_history (I := Told f) (C := fun t => ¬ t.Unaccepted f) (told_empty f)
    (fun done before input next told hmem met after =>
      told.step (passive input hmem).1 (passive input hmem).2 met after) split accepted
  simpa using reached

omit passive in
theorem unaccepted_answers {E : Env} (passive : E.Passive) {core : ToxTunCore}
    (registered : core.callbackFunction = true) {op : Op} {f : UInt32}
    (unaccepted : (step core (E, op)).Unaccepted f) :
    (step core (E, op)).ends f = false ∧ ∃ ps, (step core (E, op)).Answers f
      ⟨none, ps, [.connectionClosed, .connectionAccepted]⟩ := by
  obtain ⟨dataRaw, c, d, joins, fs, subnet, ipPostfix, same, found, arrival, header, state, bytes,
    unused, unsent⟩ := unaccepted
  change op = .receive f dataRaw at same
  change core.connections f = some c at found
  change E.unusedAt 0 subnet = true at unused
  change E.sends 1 = false at unsent
  subst same
  have reply : E.reply (core.connections f) (.receive dataRaw) = some
      ⟨none, E.taken 2 (Data.fromPacketId .connectionReset),
        [.connectionClosed, .connectionAccepted]⟩ := by
    simp only [found, Env.reply, Env.receive, arrival, Env.respond, header, state, if_true, bytes,
      Env.consider, unused, unsent, Bool.false_eq_true, if_false, Env.killedAt]
  have answers := step_reply passive registered (f := f) (.receive dataRaw)
  rw [reply] at answers
  exact ⟨rfl, _, answers⟩

/-- In every run with a registered callback, the events of every lifetime come in
order and the reported state agrees with them exactly when no acceptance fails to be
sent. -/
theorem events_agree_iff (f : UInt32) :
    (LifetimesOrderly f (transitions (ToxTunCore.empty true) inputs) ∧
      StatesAgree f (transitions (ToxTunCore.empty true) inputs)) ↔
    ∀ t ∈ transitions (ToxTunCore.empty true) inputs, ¬ t.Unaccepted f := by
  constructor
  · rintro ⟨-, agree⟩ t mem unaccepted
    obtain ⟨pre, post, split⟩ := List.append_of_mem mem
    obtain ⟨before, registered, ⟨E, op⟩, hmem, rfl⟩ :=
      mem_transitions (I := fun core => core.callbackFunction = true) rfl
        (fun before inv input hmem next after =>
          step_registered inv (passive input hmem).1.keepsCallback (passive input hmem).2 after) mem
    obtain ⟨going, ps, answers⟩ := unaccepted_answers (passive _ hmem).1 registered unaccepted
    have events : (step before (E, op)).events f = [.connectionClosed, .connectionAccepted] :=
      answers.events
    have last : ((pre ++ [step before (E, op)]).flatMap (Transition.happenings f)).getLast? =
        some (.raised .connectionAccepted) := by
      simp [Transition.happenings, happened, events, going]
    have connected := (agree pre _ post _ split answers.after).mpr last
    rw [getConnectionState_connected, ToxTunCore.put_self] at connected
    exact not_up_none connected
  · intro accepted
    have reached {pre post : List Transition} {t : Transition}
        (split : transitions (ToxTunCore.empty true) inputs = pre ++ t :: post) :
        ∃ before, Told f pre before ∧ ∃ input ∈ inputs, t = step before input :=
      told_before passive split fun t ht => accepted t (by rw [split]; exact List.mem_append_left _ ht)
    refine ⟨?_, ?_⟩
    · intro pre life post split lifetime
      rcases List.eq_nil_or_concat life with rfl | ⟨life', t, concat⟩
      · cases lifetime
      · rw [List.concat_eq_append] at concat
        subst concat
        have split' : transitions (ToxTunCore.empty true) inputs = (pre ++ life') ++ t :: post := by
          simpa using split
        obtain ⟨before, told, ⟨E, op⟩, hmem, rfl⟩ := reached split'
        obtain ⟨life'', same, lasting⟩ := told.before (List.append_assoc pre life' _) lifetime
        obtain ⟨rfl, -⟩ := List.append_inj' same rfl
        rw [List.flatMap_append, List.flatMap_singleton]
        cases after : (step before (E, op)).after with
        | none =>
            rw [ended_silent (passive _ hmem).1 told.registered after f, List.append_nil]
            exact lasting.orderly
        | some next =>
            have met := accepted (step before (E, op)) (by rw [split']; simp)
            exact (step_course (passive _ hmem).1 told.registered after met).orderly lasting
    · intro pre t post next split after
      obtain ⟨before, told, ⟨E, op⟩, hmem, rfl⟩ := reached split
      have met := accepted (step before (E, op)) (by rw [split]; simp)
      have later := told.step (passive _ hmem).1 (passive _ hmem).2 met after
      rw [getConnectionState_connected]
      exact later.last

end

/-- A request is accepted; the proposal that follows suits, but tox does not take the
acceptance. -/
def unsentAcceptance : List (Env × Op) :=
  [(.obliging fun _ => some [], .receive 7 [160]),
    (.obliging fun _ => some [], .acceptConnection 7),
    ({ Env.obliging fun _ => some [] with sends := fun clock => decide (clock ≠ 1) },
      .receive 7 [165, 4, 2])]

theorem unsentAcceptance_agree_iff :
    (LifetimesOrderly 7 (transitions (ToxTunCore.empty true) unsentAcceptance) ∧
      StatesAgree 7 (transitions (ToxTunCore.empty true) unsentAcceptance)) ↔
    ∀ t ∈ transitions (ToxTunCore.empty true) unsentAcceptance, ¬ t.Unaccepted 7 :=
  events_agree_iff (by simp [unsentAcceptance, Env.Passive, Env.obliging]) 7

/-- An acceptance is announced after the end of the connection. -/
theorem unsentAcceptance_disagrees :
    ¬ (LifetimesOrderly 7 (transitions (ToxTunCore.empty true) unsentAcceptance) ∧
      StatesAgree 7 (transitions (ToxTunCore.empty true) unsentAcceptance)) := by
  rintro ⟨orderly, -⟩
  have lifetime : Lifetime 7 (transitions (ToxTunCore.empty true) unsentAcceptance) := by
    refine ⟨rfl, ?_⟩
    decide +kernel
  have raised : (transitions (ToxTunCore.empty true) unsentAcceptance).flatMap
      (Transition.events 7) = [.connectionRequested, .connectionClosed, .connectionAccepted] := by
    decide +kernel
  have ordered := orderly [] _ [] (by simp) lifetime
  rw [raised] at ordered
  cases ordered.last [.connectionRequested] .connectionClosed [.connectionAccepted] rfl rfl

end LibToxTun
