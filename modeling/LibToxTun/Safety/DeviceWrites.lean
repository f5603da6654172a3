import LibToxTun.Core.Reception

/-! # Writes to the TAP device

A data packet may reach the device only in a connected state. The check of
`sendToTun` deletes the connection in every other state but does not leave the
function, so the packet is handed to the device of the deleted object. A run
writes safely exactly when no packet arrives as a data packet in another state.
-/

namespace LibToxTun

open Foundation

/-- A write to the device of a connection that is connected, or no write at all. -/
def Effect.guardedWrite : Effect → Prop
  | .tunWrite _ s _ => s = .connected
  | _ => True

/-- The callback hands no packet to a device. -/
def Env.QuietCallback (E : Env) : Prop :=
  ∀ event fr, Emits Effect.guardedWrite fr.world (E.userCallback event fr).world

namespace Transition

/-- A received packet arrives, whole or reassembled, as a packet of a connection. -/
def Dispatches (t : Transition) (f : UInt32) (c : Connection) (d : Data) : Prop :=
  ∃ joins fs, t.reception = some (f, c, .packet d joins fs)

/-- What the source promises about the device. -/
structure DeviceGuarded (t : Transition) : Prop where
  connected : ∀ f s d, .tunWrite f s d ∈ t.effects → s = .connected
  rejected : ∀ f c d, t.Dispatches f c d → PacketId.ofByte d.header = .data →
    c.state ≠ .connected →
      (∃ status, .sent f (Data.fromPacketId .connectionReset) status ∈ t.effects) ∧
      (∃ next, t.after = some next ∧ next.connections f = none) ∧
      ∀ f' s d', .tunWrite f' s d' ∉ t.effects

/-- Data packets arrive at connected connections only. -/
def DataWhenConnected (t : Transition) : Prop :=
  ∀ f c d, t.Dispatches f c d → PacketId.ofByte d.header = .data → c.state = .connected

end Transition

section
variable {E : Env}

theorem preservesErasure_guardedWrite (quiet : E.QuietCallback) :
    E.PreservesErasure (Emits Effect.guardedWrite) :=
  preservesErasure_emits (fun e others => by
    cases e with
    | tunWrite f s d => exact (others f s d rfl).elim
    | _ => trivial) quiet

theorem Env.Passive.quietCallback (passive : E.Passive) : E.QuietCallback := fun event fr => by
  rw [passive event fr]
  exact Std.Refl.refl _

theorem dispatch_connected {d : Data} (set : d.toxHeaderSet = true)
    (data : PacketId.ofByte d.header = .data) {fr : Frame} (alive : fr.alive = true)
    (connected : fr.self.state = .connected) :
    handleDataFuel E 1 d fr = .returned () (fr.written d) := by
  simp only [handleDataFuel, Action.noexcept_apply, Action.bind_apply,
    Data.getToxHeader_of_set set, Action.ofExcept_ok, Outcome.andThen_returned, data, sendToTun,
    getMember_apply, Frame.touch_of_alive alive, connected, ne_eq, not_true_eq_false, if_false,
    sendToTun_written, Outcome.guarded_returned]

theorem dispatch_unregistered {d : Data} (set : d.toxHeaderSet = true)
    (data : PacketId.ofByte d.header = .data) {fr : Frame} (alive : fr.alive = true)
    (refused : fr.self.state ≠ .connected) (unset : fr.world.core.callbackFunction = false) :
    ∃ fr', handleDataFuel E 1 d fr = .terminated fr' := by
  have reset := resetAndDeleteConnection_unregistered E alive unset
  refine ⟨fr.sent (Data.fromPacketId .connectionReset) (E.sends fr.world.clock), ?_⟩
  simp only [handleDataFuel, Action.noexcept_apply, Action.bind_apply,
    Data.getToxHeader_of_set set, Action.ofExcept_ok, Outcome.andThen_returned, data, sendToTun,
    getMember_apply, Frame.touch_of_alive alive, ne_eq, refused, not_false_eq_true, if_true, reset,
    Outcome.andThen_terminated, Outcome.guarded_terminated]

/-- With a callback, the connection is deleted and the packet is written all the same. -/
theorem dispatch_refused {d : Data} (set : d.toxHeaderSet = true)
    (data : PacketId.ofByte d.header = .data) {fr : Frame} (alive : fr.alive = true)
    (refused : fr.self.state ≠ .connected) (registered : fr.world.core.callbackFunction = true) :
    ∃ f fr', handleDataFuel E 1 d fr = .returned () fr' ∧
      .tunWrite f .deleting d ∈ fr'.world.trace := by
  refine ⟨(fr.killed E).connectedFriend, (fr.killed E).written d, ?_, ?_⟩
  · have handler := sendToTun_eq E alive registered d
    rw [Frame.afterData, if_neg refused] at handler
    simp only [handleDataFuel, Action.noexcept_apply, Action.bind_apply,
      Data.getToxHeader_of_set set, Action.ofExcept_ok, Outcome.andThen_returned, data, handler,
      Outcome.guarded_returned]
  · simp only [Frame.written, Frame.killed, Frame.buried_state]
    split <;> simp [Frame.ticked, World.tick]

section
variable {P : Effect → Prop} (preserves : E.PreservesErasure (Emits P))
include preserves

/-- What a packet shows is of a kind if the write to the device is, where there is one. -/
theorem dispatch_emits {d : Data} (set : d.toxHeaderSet = true) {fr : Frame} (alive : fr.alive = true)
    (guard : PacketId.ofByte d.header = .data →
      fr.self.state = .connected ∧ P (.tunWrite fr.connectedFriend fr.self.state d)) :
    Emits P fr.world (handleDataFuel E 1 d fr).state.world := by
  by_cases data : PacketId.ofByte d.header = .data
  · obtain ⟨connected, writes⟩ := guard data
    have write : Emits P fr.world (fr.world.log (.tunWrite fr.connectedFriend fr.self.state d)) :=
      (Std.Refl.refl fr.world : Emits _ _ _).log writes
    rw [dispatch_connected set data alive connected]
    simp only [Outcome.state_returned, Frame.written, Frame.touch_of_alive alive]
    split
    · exact write
    · exact IsTrans.trans (r := Emits P) _ _ _ write (.of_trace_eq rfl)
  · refine handleDataFuel_succ_respects preserves.toPreservesDeletion
      (fun _ => Action.respects_exhausted) (fun header => ?_) fr
    rw [Data.getToxHeader_of_set set] at header
    exact (data (Except.ok.inj header)).elim

variable (dangling : ∀ f field, P (.dangling f field))
include dangling

/-- A packet that travels through the store writes where its arrival does. -/
theorem arrival_emits {fr : Frame} (alive : fr.alive = true) {a : Arrival}
    {o : Outcome Exn Frame Unit} (h : a.outcome E fr o)
    (guard : ∀ d joins fs, a = .packet d joins fs → d.toxHeaderSet = true ∧
      (PacketId.ofByte d.header = .data →
        fr.self.state = .connected ∧ P (.tunWrite fr.connectedFriend fr.self.state d))) :
    Emits P fr.world o.state.world := by
  cases a with
  | packet d joins fs =>
      obtain ⟨set, connected⟩ := guard d joins fs rfl
      have dispatch := dispatch_emits preserves set
        (show (fr.withFragments fs).alive = true from alive) connected
      have unwinds : Action.Respects (OverWorld (Emits P))
          (Action.modify fun fr => fr.unwound joins : Code Frame Unit) :=
        fun fr => unwound_emits dangling fr joins
      cases h
      exact IsTrans.trans (r := Emits P) _ _ _ dispatch (unwinds.andThen _)
  | kept fs =>
      cases h
      exact .of_trace_eq rfl
  | corrupted =>
      obtain ⟨fs, rfl⟩ := h
      exact .of_trace_eq rfl
  | unfinished =>
      obtain ⟨fs, rfl⟩ := h
      exact .of_trace_eq rfl

/-- What an operation shows is of a kind if the write of the packet that arrives in it is. -/
theorem step_emits {core : ToxTunCore} {op : Op}
    (guard : ∀ f c d, (step core (E, op)).Dispatches f c d → PacketId.ofByte d.header = .data →
      c.state = .connected ∧ P (.tunWrite f c.state d)) :
    ∀ e ∈ (step core (E, op)).effects, P e := by
  refine Emits.forall_mem (w := ⟨core, 0, []⟩) ?_ rfl
  refine exec_state preserves (fun f dataRaw c received found => ?_) fun callback _ => .of_trace_eq rfl
  have set := Data.fromToxData_toxHeaderSet dataRaw
  refine arrival_emits preserves dangling rfl (handleData_arrival E rfl set) fun d joins fs arrival => ?_
  refine ⟨(Fragments.arrive_packet set arrival).1, guard f c d ⟨joins, fs, ?_⟩⟩
  have same : op = .receive f dataRaw := received
  subst same
  have found' : core.connections f = some c := found
  simp only [Transition.reception, step, found', Option.map_some]
  rw [← arrival]
  rfl

end

end

/-! ## One operation -/

section
variable {core : ToxTunCore} {input : Env × Op}

theorem step_guardedWrite (quiet : input.1.QuietCallback)
    (guard : (step core input).DataWhenConnected) :
    ∀ e ∈ (step core input).effects, e.guardedWrite :=
  step_emits (preservesErasure_guardedWrite quiet) (fun _ _ => trivial) fun f c d dispatches data =>
    ⟨guard f c d dispatches data, guard f c d dispatches data⟩

theorem step_deviceGuarded (quiet : input.1.QuietCallback) :
    (step core input).DeviceGuarded ↔ (step core input).DataWhenConnected := by
  constructor
  · intro guarded f c d dispatches data
    by_contra refused
    obtain ⟨joins, fs, reception⟩ := dispatches
    obtain ⟨set, -⟩ := reception_packet reception
    obtain ⟨-, -, o, rfl, outcome⟩ := step_reception reception
    let fr := ((step core input).frame f c).withFragments fs
    have alive : fr.alive = true := rfl
    cases registered : core.callbackFunction with
    | false =>
        obtain ⟨fr', dispatch⟩ := dispatch_unregistered set data alive refused registered
        obtain ⟨-, ⟨next, after, -⟩, -⟩ := guarded.rejected f c d ⟨joins, fs, reception⟩ data refused
        rw [dispatch] at outcome
        simp [Transition.after, outcome] at after
    | true =>
        obtain ⟨g, fr', dispatch, write⟩ :=
          dispatch_refused set data alive refused registered
        rw [dispatch] at outcome
        have kept := (unwound_emits (P := Effect.guardedWrite) (fun _ _ => trivial) fr' joins).mem write
        have effects : (step core input).effects = (fr'.unwound joins).world.trace := by
          rw [Transition.effects, outcome]
          exact Frame.leave_trace _
        exact absurd (guarded.connected g .deleting d (effects ▸ kept)) (by decide)
  · intro guard
    have writes := step_guardedWrite quiet guard
    exact ⟨fun f s d hmem => writes _ hmem, fun f c d dispatches data refused =>
      (refused (guard f c d dispatches data)).elim⟩

end

/-- In every run a device is written to as promised exactly when data packets
arrive at connected connections only. -/
theorem deviceGuarded_iff (core : ToxTunCore) (inputs : List (Env × Op))
    (quiet : ∀ input ∈ inputs, input.1.QuietCallback) :
    (∀ t ∈ transitions core inputs, t.DeviceGuarded) ↔
      ∀ t ∈ transitions core inputs, t.DataWhenConnected := by
  refine forall₂_congr fun t ht => ?_
  obtain ⟨before, -, input, hmem, rfl⟩ :=
    mem_transitions (I := fun _ => True) trivial (fun _ _ _ _ _ _ => trivial) ht
  exact step_deviceGuarded (quiet input hmem)

/-- A request is sent, and a data packet comes in before it is answered. -/
def earlyData : List (Env × Op) :=
  [(.obliging fun _ => some [], .sendConnectionRequest 7),
    (.obliging fun _ => some [], .receive 7 [200, 1])]

theorem earlyData_deviceGuarded_iff :
    (∀ t ∈ transitions (ToxTunCore.empty true) earlyData, t.DeviceGuarded) ↔
      ∀ t ∈ transitions (ToxTunCore.empty true) earlyData, t.DataWhenConnected :=
  deviceGuarded_iff (ToxTunCore.empty true) earlyData (by
    simp [earlyData, (Env.obliging_passive _).quietCallback])

theorem earlyData_written :
    ¬ ∀ t ∈ transitions (ToxTunCore.empty true) earlyData, t.DeviceGuarded := by
  have write : ((transitions (ToxTunCore.empty true) earlyData).any fun t =>
      t.effects.contains (.tunWrite 7 .deleting ⟨200, [1], true⟩)) = true := by decide +kernel
  obtain ⟨t, ht, hmem⟩ := List.any_eq_true.mp write
  intro guarded
  exact absurd ((guarded t ht).connected 7 .deleting _ (List.contains_iff_mem.mp hmem)) (by decide)

end LibToxTun
