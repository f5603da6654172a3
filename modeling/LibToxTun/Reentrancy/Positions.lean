import LibToxTun.Core.Steps
import LibToxTun.Reentrancy.Calls

/-! # The positions of an event

An event is raised as the last thing an operation does with the connection, before
the connection is deleted, after it, or from the destructor. In each position a call
made in the event is compared with the call made afterwards.
-/

namespace LibToxTun

open Foundation

/-- The environment with another callback function. -/
def Env.withCallback (E : Env) (userCallback : Event → Frame → Frame) : Env :=
  { E with userCallback := userCallback }

section
variable (E : Env) (userCallback : Event → Frame → Frame)

@[simp] theorem withCallback_sends : (E.withCallback userCallback).sends = E.sends := rfl

end

/-! ## What is seen of a frame -/

def World.visible (w : World) : List Effect := w.trace.filter Effect.visible

theorem World.events_visible (f : UInt32) (w : World) :
    w.events f = w.visible.filterMap (Effect.eventOf f) := by
  rw [visible, events, List.filterMap_filter]
  congr 1
  funext e
  cases e <;> rfl

/-- What follows a call that destroyed the object, or an event, with nothing more to be
seen of it: the object is deleted if it is still in the table. -/
structure Burial (tail : Frame → Frame) : Prop where
  visible : ∀ fr, (tail fr).world.visible = fr.world.visible
  friend : ∀ fr, (tail fr).connectedFriend = fr.connectedFriend
  unlinked : ∀ fr, (tail fr).linked = false
  core : ∀ fr, (tail fr).world.core = fr.world.core.put fr.connectedFriend none ∨
    fr.linked = false ∧ (tail fr).world.core = fr.world.core

theorem Burial.absent {tail : Frame → Frame} (burial : Burial tail) {fr : Frame}
    (linked : fr.linked = true) : (tail fr).world.core.connections fr.connectedFriend = none := by
  rcases burial.core fr with gone | ⟨unlinked, -⟩
  · rw [gone, ToxTunCore.put_self]
  · cases linked.symm.trans unlinked

namespace Frame

variable (fr : Frame)

@[simp] theorem touch_visible (field : Field) : (fr.touch field).world.visible = fr.world.visible := by
  unfold touch
  split
  · rfl
  · simp [World.visible, Effect.visible]

theorem log_unseen {e : Effect} (unseen : e.visible = false) :
    (fr.log e).world.visible = fr.world.visible := by
  simp [World.visible, unseen]

@[simp] theorem enterState_visible (s : State) :
    (fr.enterState s).world.visible = fr.world.visible := by
  rw [enterState, log_unseen _ rfl]
  exact fr.touch_visible .state

theorem log_raised (event : Event) : (fr.log (.raised event fr.connectedFriend)).world.visible =
    fr.world.visible ++ [.raised event fr.connectedFriend] := by
  simp [World.visible, Effect.visible]

@[simp] theorem freed_visible : fr.freed.world.visible = fr.world.visible := by
  show (({ fr with linked := false, world := fr.world.setConnection fr.connectedFriend none }.touch
    .state).log (.destroyed fr.connectedFriend)).world.visible = _
  rw [log_unseen _ rfl, touch_visible]
  rfl

theorem buried_burial : Burial buried where
  visible fr := by
    unfold buried
    dsimp only
    split <;> simp
  friend fr := by
    unfold buried
    dsimp only
    split <;> simp [freed]
  unlinked fr := by
    unfold buried
    dsimp only
    split
    · simp [freed]
    · next unlinked => simpa using unlinked
  core fr := by
    unfold buried
    dsimp only
    rw [touch_linked, enterState_linked]
    split
    · exact .inl (by simp [freed, World.setConnection, ToxTunCore.put])
    · next unlinked => exact .inr ⟨by simpa using unlinked, by simp⟩

/-- The end of an erasure that runs the destructor first. -/
theorem expired_burial : Burial fun fr => fr.unlinked.expired where
  visible fr := log_unseen fr.unlinked (e := .destroyed fr.connectedFriend) rfl
  friend _ := rfl
  unlinked _ := rfl
  core _ := .inl rfl

/-! ## The enclosing calls of a reassembly -/

/-- The accesses of the enclosing calls to an object that is gone. -/
def unwinding (fr : Frame) (joins : Nat) : List Effect :=
  if fr.alive then [] else (List.replicate joins
    [.dangling fr.connectedFriend .connectedFriend, .dangling fr.connectedFriend .fragments]).flatten

theorem unwound_eq (joins : Nat) : fr.unwound joins =
    { fr with world := { fr.world with trace := fr.world.trace ++ fr.unwinding joins } } := by
  by_cases alive : fr.alive = true
  · rw [unwound_of_alive alive, unwinding, if_pos alive, List.append_nil]
  · induction joins with
    | zero =>
        rw [unwinding, if_neg alive]
        exact (congrArg (fun trace => { fr with world := { fr.world with trace := trace } })
          (List.append_nil _)).symm
    | succ joins ih =>
        have dead : fr.alive = false := by simpa using alive
        rw [unwound, Function.iterate_succ_apply', ← unwound, ih]
        simp [afterNested, touch, unwinding, dead, log, World.log, List.replicate_succ']

theorem unwinding_unseen (joins : Nat) : (fr.unwinding joins).filter Effect.visible = [] := by
  unfold unwinding
  split
  · rfl
  · rw [List.filter_eq_nil_iff]
    intro e mem
    obtain ⟨l, inside, mem⟩ := List.mem_flatten.mp mem
    rw [List.eq_of_mem_replicate inside] at mem
    simp only [List.mem_cons, List.not_mem_nil, or_false] at mem
    rcases mem with rfl | rfl <;> simp [Effect.visible]

theorem unwound_leave_unlinked {fr : Frame} (unlinked : fr.linked = false) (joins : Nat) :
    (fr.unwound joins).leave =
      { fr.world with trace := fr.world.trace ++ fr.unwinding joins } := by
  rw [unwound_eq, leave, if_neg (by simp [unlinked])]

@[simp] theorem leave_visible : fr.leave.visible = fr.world.visible := by
  rw [World.visible, leave_trace]
  rfl

@[simp] theorem unwound_visible (joins : Nat) :
    (fr.unwound joins).world.visible = fr.world.visible := by
  rw [unwound_eq]
  simp [World.visible, unwinding_unseen]

/-! ## Raising an event -/

theorem raise_passive {E : Env} (passive : E.Passive) (event : Event) :
    fr.raise E event = fr.log (.raised event fr.connectedFriend) := passive _ _

theorem raise_calling (E : Env) (n : Nat) (u : UserCall) (note : UserResult → Data) (event : Event) :
    fr.raise (E.calling n u note) event =
      if (fr.world.events fr.connectedFriend).length = n then
        (fr.log (.raised event fr.connectedFriend)).perform E u note
      else fr.log (.raised event fr.connectedFriend) := by
  have told : ((fr.log (.raised event fr.connectedFriend)).world.events fr.connectedFriend).length =
      (fr.world.events fr.connectedFriend).length + 1 := by
    simp [World.events, Effect.eventOf]
  simp only [raise, Env.calling, log_connectedFriend, told, Nat.add_right_cancel_iff]

/-- The address is set on a connection; its event is still to come. -/
def addressed (subnet ipPostfix : UInt8) : Frame :=
  ((({ fr.touch .tun with self := { fr.self with tun := ⟨some (subnet, ipPostfix)⟩ } }.log
    (.ipSet fr.connectedFriend subnet ipPostfix)).enterState .connected).touch .connectedFriend)

theorem ipSet_eq (E : Env) (subnet ipPostfix : UInt8) :
    fr.ipSet E subnet ipPostfix = (fr.addressed subnet ipPostfix).raise E .connectionAccepted := rfl

section
variable (subnet ipPostfix : UInt8)

@[simp] theorem addressed_visible :
    (fr.addressed subnet ipPostfix).world.visible = fr.world.visible := by
  rw [addressed, touch_visible, enterState_visible, log_unseen _ rfl]
  exact fr.touch_visible .tun

@[simp] theorem addressed_connectedFriend :
    (fr.addressed subnet ipPostfix).connectedFriend = fr.connectedFriend := by simp [addressed]

@[simp] theorem addressed_linked :
    (fr.addressed subnet ipPostfix).linked = fr.linked := by simp [addressed]

@[simp] theorem addressed_core :
    (fr.addressed subnet ipPostfix).world.core = fr.world.core := by simp [addressed]

end

theorem ipSet_calling (E : Env) (n : Nat) (u : UserCall) (note : UserResult → Data)
    (subnet ipPostfix : UInt8) :
    fr.ipSet (E.calling n u note) subnet ipPostfix =
      if (fr.world.events fr.connectedFriend).length = n then
        ((fr.addressed subnet ipPostfix).log
          (.raised .connectionAccepted fr.connectedFriend)).perform E u note
      else (fr.addressed subnet ipPostfix).log (.raised .connectionAccepted fr.connectedFriend) := by
  rw [ipSet_eq, raise_calling, addressed_connectedFriend, World.events_visible,
    addressed_visible, ← World.events_visible]

/-- The address is set although the connection has been reset. -/
def outlived (E : Env) (subnet ipPostfix : UInt8) (fr : Frame) : Frame :=
  (fr.raise E .connectionClosed).buried.ipSet E subnet ipPostfix

/-- The part of the trace that a call adds, and the note after it. -/
theorem perform_visible {E : Env} (passive : E.Passive) (u : UserCall) (note : UserResult → Data)
    (f : UInt32) (w : World) : ∃ l, (u.run E f w).state.trace = w.trace ++ l ∧
      (w.perform E f u note).visible =
        w.visible ++ (l.filter Effect.visible ++ [.sent f (note (u.result E f w)) true]) := by
  obtain ⟨l, ext⟩ := u.run_extends (f := f) passive w
  refine ⟨l, ext, ?_⟩
  simp [World.perform, World.visible, World.log, ext, Effect.visible]

end Frame

/-! ## The positions -/

theorem World.Same.refl (w : World) : w.Same w := ⟨rfl, rfl, rfl⟩

theorem World.same_dangling (w : World) {l : List Effect} (unseen : l.filter Effect.visible = []) :
    World.Same { w with trace := w.trace ++ l } w ↔ l.filter Effect.isDangling = [] := by
  constructor
  · intro same
    have dangling := same.dangling
    rw [List.filter_append] at dangling
    simpa using dangling
  · intro sound
    exact ⟨rfl, by simp [unseen], by simp [sound]⟩

theorem Frame.unwinding_sound {fr : Frame} (dead : fr.alive = false) (joins : Nat) :
    (fr.unwinding joins).filter Effect.isDangling = [] ↔ joins = 0 := by
  rw [unwinding, if_neg (by simp [dead])]
  constructor
  · intro sound
    cases joins with
    | zero => rfl
    | succ joins => simp [List.replicate_succ, Effect.isDangling] at sound
  · intro none
    subst none
    rfl

theorem Frame.perform_connectedFriend (E : Env) (u : UserCall) (note : UserResult → Data)
    (fr : Frame) : (fr.perform E u note).connectedFriend = fr.connectedFriend := by
  unfold perform
  dsimp only
  split
  · split <;> rfl
  · rfl

theorem Frame.perform_world (E : Env) (u : UserCall) (note : UserResult → Data) (fr : Frame) :
    (fr.perform E u note).world = fr.leave.perform E fr.connectedFriend u note := by
  unfold perform
  dsimp only
  split
  · split <;> rfl
  · rfl

/-- Without a connection a call may as well come after what is not seen. -/
theorem World.perform_unseen (E : Env) {f : UInt32} {w : World}
    (absent : w.core.connections f = none) (u : UserCall) (note : UserResult → Data)
    {m : List Effect} (unseen : m.filter Effect.visible = []) :
    World.Same
      { w.perform E f u note with trace := (w.perform E f u note).trace ++ m }
      (World.perform E f u note { w with trace := w.trace ++ m }) := by
  obtain ⟨core, clock, trace⟩ := w
  obtain ⟨r, core', clock', l, sound, run⟩ := u.run_absent (E := E) absent clock
  obtain ⟨result, state⟩ := run trace
  obtain ⟨result', state'⟩ := run (trace ++ m)
  simp only [perform, result, result', state, state', log]
  refine ⟨rfl, ?_, ?_⟩
  · simp [List.filter_cons, unseen]
  · simp [sound, Effect.isDangling]

section
variable {E : Env} (passive : E.Passive) {core : ToxTunCore}
  (registered : core.callbackFunction = true) {f : UInt32} {c : Connection} {k : Nat}
  {ps : List Data} {es : List Event} {x : Frame} (live : x.Live core f c k ps es) (u : UserCall)
include live

theorem Frame.Live.leave_entry : x.leave.core.connections f = some c := by
  rw [live.leave.core_eq, ToxTunCore.put_self]

theorem Frame.Live.leave_registered (registered : core.callbackFunction = true) :
    x.leave.core.callbackFunction = true := by
  rw [live.leave.core_eq]
  exact registered

include passive registered

/-- An event after which only the enclosing calls of a reassembly go on. -/
theorem accepted_same_iff (up : c.state = .connected) (joins : Nat) :
    (∀ note, ((x.perform E u note).unwound joins).leave.Same
      ((x.unwound joins).leave.perform E f u note)) ↔ joins = 0 ∨ u.keeps = true := by
  have entry := live.leave_entry
  have told := live.leave_registered registered
  have after := u.run_connected passive told entry up
  have performed (note : UserResult → Data) :
      (x.perform E u note).leave = x.leave.perform E f u note := by
    rw [Frame.perform_leave, live.friend]
  simp only [Frame.unwound_of_alive live.alive]
  cases keeps : u.keeps with
  | true =>
      refine iff_of_true (fun note => ?_) (.inr rfl)
      have stays : (x.leave.perform E x.connectedFriend u note).core.connections x.connectedFriend =
          some c := by
        rw [keeps, if_pos rfl] at after
        rw [live.friend]
        rcases after with same | ⟨e, same⟩ <;> simpa [World.perform, World.log, same] using entry
      rw [Frame.perform_kept live.linked stays, Frame.unwound_of_alive (by exact live.alive),
        ← Frame.perform_kept live.linked stays, performed]
      exact World.Same.refl _
  | false =>
      have gone (note : UserResult → Data) :
          (x.leave.perform E x.connectedFriend u note).core.connections x.connectedFriend = none := by
        rw [keeps, if_neg (by simp)] at after
        rw [live.friend]
        exact after
      have dead (note : UserResult → Data) : (x.perform E u note).alive = false := by
        rw [Frame.perform_destroyed live.linked (gone note)]
      have unlinked (note : UserResult → Data) : (x.perform E u note).linked = false := by
        rw [Frame.perform_destroyed live.linked (gone note)]
      have last (note : UserResult → Data) : ((x.perform E u note).unwound joins).leave.Same
          (x.leave.perform E f u note) ↔ joins = 0 := by
        rw [← live.friend, ← Frame.perform_world, Frame.unwound_leave_unlinked (unlinked note),
          ← Frame.unwinding_sound (dead note)]
        exact World.same_dangling _ (Frame.unwinding_unseen _ joins)
      simp only [last, Bool.false_eq_true, or_false]
      exact ⟨fun same => same fun _ => Data.fromPacketId .connectionRequest, fun none _ => none⟩

/-- An event before the connection is deleted: the call meets a connection that is
not there afterwards. -/
theorem dropped_differs (standing : c.state ≠ .deleting) {tail : Frame → Frame}
    (burial : Burial tail) (joins : Nat) :
    ¬ ∀ note, ((tail (x.perform E u note)).unwound joins).leave.Same
      (((tail x).unwound joins).leave.perform E f u note) := by
  intro same
  let w' := ((tail x).unwound joins).leave
  have absent : w'.core.connections f = none := by
    have gone := burial.absent live.linked
    rw [live.friend] at gone
    simp only [w']
    rw [Frame.unwound_leave_unlinked (burial.unlinked x)]
    exact gone
  have seen : w'.visible = x.leave.visible := by
    simp only [w', Frame.leave_visible, Frame.unwound_visible, burial.visible]
  have ends (note : UserResult → Data) : ∃ l l',
      (u.run E f x.leave).state.trace = x.leave.trace ++ l ∧
      (u.run E f w').state.trace = w'.trace ++ l' ∧ l.filter Effect.visible = l'.filter Effect.visible ∧
      note (u.result E f x.leave) = note (u.result E f w') := by
    obtain ⟨l, ext, inside⟩ := Frame.perform_visible passive u note f x.leave
    obtain ⟨l', ext', after⟩ := Frame.perform_visible passive u note f w'
    have visible : (x.leave.perform E f u note).visible = (w'.perform E f u note).visible := by
      have all := (same note).visible
      rw [← World.visible, ← World.visible, Frame.leave_visible, Frame.unwound_visible,
        burial.visible, Frame.perform_world, live.friend] at all
      exact all
    rw [inside, after, seen, List.append_cancel_left_eq] at visible
    obtain ⟨same, last⟩ := List.append_inj' visible rfl
    simp only [List.cons.injEq, Effect.sent.injEq, true_and, and_true] at last
    exact ⟨l, l', ext, ext', same, last⟩
  rcases u.tells_apart passive (live.leave_registered registered) live.leave_entry standing absent with
    result | ⟨⟨shown, ext, seen⟩, silent⟩
  · let note (r : UserResult) : Data :=
      if r = u.result E f x.leave then Data.fromPacketId .connectionRequest
      else Data.fromPacketId .connectionReset
    obtain ⟨-, -, -, -, -, noted⟩ := ends note
    simp only [note, if_true, if_neg result.symm] at noted
    exact absurd noted (by decide)
  · obtain ⟨l, l', ext', silent', same, -⟩ := ends fun _ => Data.fromPacketId .connectionRequest
    rw [silent] at silent'
    have nothing : l' = [] := by simpa using silent'
    rw [ext, List.append_cancel_left_eq] at ext'
    rw [ext', same, nothing] at seen
    exact seen rfl

omit registered in
theorem outlived_passive (subnet ipPostfix : UInt8) : x.outlived E subnet ipPostfix =
    ((x.log (.raised .connectionClosed f)).buried.addressed subnet ipPostfix).log
      (.raised .connectionAccepted f) := by
  rw [Frame.outlived, Frame.raise_passive _ passive, Frame.ipSet_eq, Frame.raise_passive _ passive,
    Frame.addressed_connectedFriend, Frame.buried_burial.friend, Frame.log_connectedFriend, live.friend]

omit passive registered in
theorem raise_calling_first (fresh : es = []) (event : Event) (n : Nat) (note : UserResult → Data) :
    x.raise (E.calling n u note) event =
      if n = 0 then (x.log (.raised event f)).perform E u note else x.log (.raised event f) := by
  have silent : x.world.events f = [] := live.events.trans fresh
  rw [Frame.raise_calling, live.friend, silent]
  simp only [List.length_nil, eq_comm]

omit registered in
/-- What a call shows in the first of two events comes before the second. -/
theorem outlived_first_differs (fresh : es = []) (subnet ipPostfix : UInt8) (joins : Nat)
    (note : UserResult → Data) :
    ¬ ((x.outlived (E.calling 0 u note) subnet ipPostfix).unwound joins).leave.Same
      (((x.outlived E subnet ipPostfix).unwound joins).leave.perform E f u note) := by
  intro same
  let z := (x.log (.raised .connectionClosed f)).perform E u note
  obtain ⟨l, -, after⟩ := Frame.perform_visible passive u note f
    ((x.outlived E subnet ipPostfix).unwound joins).leave
  obtain ⟨l', -, inside⟩ := Frame.perform_visible passive u note f
    (x.log (.raised .connectionClosed f)).leave
  have friend : z.connectedFriend = f := (Frame.perform_connectedFriend ..).trans live.friend
  have shown : z.world.visible = x.world.visible ++ [.raised .connectionClosed f] ++
      (l'.filter Effect.visible ++
        [.sent f (note (u.result E f (x.log (.raised .connectionClosed f)).leave)) true]) := by
    have told := x.log_raised .connectionClosed
    rw [live.friend] at told
    rw [Frame.perform_world, Frame.log_connectedFriend, live.friend, inside, Frame.leave_visible, told]
  have told : (z.buried.world.events z.buried.connectedFriend).length ≠ 0 := by
    rw [World.events_visible, Frame.buried_burial.visible, shown, Frame.buried_burial.friend, friend]
    simp [Effect.eventOf]
  have nested : (x.outlived (E.calling 0 u note) subnet ipPostfix).world.visible =
      z.world.visible ++ [.raised .connectionAccepted f] := by
    have last := (z.buried.addressed subnet ipPostfix).log_raised .connectionAccepted
    simp only [Frame.addressed_connectedFriend, Frame.addressed_visible, Frame.buried_burial.friend,
      Frame.buried_burial.visible, friend] at last
    rw [Frame.outlived, raise_calling_first live u fresh, if_pos rfl, Frame.ipSet_calling,
      if_neg told, Frame.buried_burial.friend, friend]
    exact last
  have all := same.visible
  rw [← World.visible, ← World.visible, Frame.leave_visible, Frame.unwound_visible, nested, after,
    ← List.append_assoc] at all
  have last := (List.append_inj' all rfl).2
  simp at last

omit registered in
/-- In the second event the connection is gone. -/
theorem outlived_second_same (fresh : es = []) (subnet ipPostfix : UInt8) (joins : Nat)
    (note : UserResult → Data) :
    ((x.outlived (E.calling 1 u note) subnet ipPostfix).unwound joins).leave.Same
      (((x.outlived E subnet ipPostfix).unwound joins).leave.perform E f u note) := by
  let y := x.log (.raised .connectionClosed f)
  let v := x.outlived E subnet ipPostfix
  have passed : v = (y.buried.addressed subnet ipPostfix).log (.raised .connectionAccepted f) :=
    outlived_passive passive live subnet ipPostfix
  have friend : v.connectedFriend = f := by
    rw [passed, Frame.log_connectedFriend, Frame.addressed_connectedFriend,
      Frame.buried_burial.friend, Frame.log_connectedFriend, live.friend]
  have unlinked : v.linked = false := by
    rw [passed, Frame.log_linked, Frame.addressed_linked, Frame.buried_burial.unlinked]
  have absent : v.world.core.connections f = none := by
    have gone := Frame.buried_burial.absent (show y.linked = true from live.linked)
    rw [show y.connectedFriend = f from live.friend] at gone
    rw [passed, Frame.log_core, Frame.addressed_core]
    exact gone
  have once : (y.buried.world.events y.buried.connectedFriend).length = 1 := by
    have told := x.log_raised .connectionClosed
    have silent : x.world.events f = [] := live.events.trans fresh
    rw [live.friend] at told
    rw [World.events_visible, Frame.buried_burial.visible, Frame.buried_burial.friend, told,
      Frame.log_connectedFriend, live.friend, List.filterMap_append, ← World.events_visible, silent]
    simp [Effect.eventOf]
  have nested : x.outlived (E.calling 1 u note) subnet ipPostfix = v.perform E u note := by
    rw [Frame.outlived, raise_calling_first live u fresh, if_neg (by decide), Frame.ipSet_calling,
      if_pos once, passed, Frame.buried_burial.friend, Frame.log_connectedFriend, live.friend]
  let z : Frame := { v with world := v.world.perform E v.connectedFriend u note }
  have after : (z.unwound joins).leave =
      { z.world with trace := z.world.trace ++ v.unwinding joins } :=
    Frame.unwound_leave_unlinked (show z.linked = false from unlinked) joins
  rw [nested, Frame.perform_unlinked unlinked, Frame.unwound_leave_unlinked unlinked, after]
  simp only [z, friend]
  exact World.perform_unseen E absent u note (Frame.unwinding_unseen v joins)

end

/-! ## The destructor -/

section
variable {E : Env} {core : ToxTunCore} {f : UInt32} {c : Connection}
  (resets : c.state.resets = true)

/-- The object is out of the table when its destructor raises the event. -/
def Frame.leaving (E : Env) (core : ToxTunCore) (f : UInt32) (c : Connection) : Frame :=
  (Frame.enter f c ⟨core, 0, []⟩).unlinked.sent (Data.fromPacketId .connectionReset) (E.sends 0)

include resets

/-- The entry is still in the table when the destructor raises the event. -/
theorem erased_last (last : E.unlinksFirst 0 = false) (userCallback : Event → Frame → Frame) :
    (Frame.enter f c ⟨core, 0, []⟩).erased (E.withCallback userCallback) =
      (((Frame.enter f c ⟨core, 0, []⟩).sent (Data.fromPacketId .connectionReset) (E.sends 0)).raise
        (E.withCallback userCallback) .connectionClosed).unlinked.expired := by
  have order : ¬ (E.withCallback userCallback).unlinksFirst 0 = true := by simp [Env.withCallback, last]
  rw [Frame.erased, Frame.removed, if_neg (by exact order), Frame.farewell_resets _ resets]
  rfl

section
variable (first : E.unlinksFirst 0 = true)
include first

theorem erased_first (userCallback : Event → Frame → Frame) :
    (Frame.enter f c ⟨core, 0, []⟩).erased (E.withCallback userCallback) =
      ((Frame.leaving E core f c).raise (E.withCallback userCallback) .connectionClosed).expired := by
  have order : (E.withCallback userCallback).unlinksFirst 0 = true := first
  rw [Frame.erased, Frame.removed, if_pos (by exact order), Frame.farewell_resets _ resets]
  rfl

end

end

end LibToxTun
