import LibToxTun.Safety.Deletion

/-! # Runs that leave deleted connections alone

The operations of the table, one by one: whatever they do, a connection they give
up is given up last. Only a received packet can go on with a deleted connection,
and it does so exactly when its handler does, or when it was reassembled and
deletes the connection.
-/

namespace LibToxTun

open Foundation Foundation.Action

/-! ## Operations that delete last -/

/-- Without a callback no connection is given up. -/
def UnlessRegistered (w w' : World) : Prop :=
  KeepsRegistration w w' ∧
    (w.core.callbackFunction = false → Emits (fun e => ¬ e.farewell) w w')

instance : IsPreorder World UnlessRegistered where
  refl _ := ⟨rfl, fun _ => Std.Refl.refl _⟩
  trans _ _ _ h h' := ⟨h'.1.trans h.1, fun unset =>
    IsTrans.trans (r := Emits _) _ _ _ (h.2 unset) (h'.2 (h.1.trans unset))⟩

section
variable {E : Env} (passive : E.Passive)
include passive

theorem preservesTable_noFarewell : E.PreservesTable (Emits fun e => ¬ e.farewell) where
  log w e harmless := (Std.Refl.refl w : Emits _ w w).log fun farewell => by
    cases e with
    | entered f s => exact harmless farewell
    | destroyed f => exact harmless
    | _ => exact farewell
  tick w := .of_trace_eq rfl
  userCallback event fr := by
    rw [passive]
    exact Std.Refl.refl _
  links w f c := .of_trace_eq rfl

theorem preservesDeletion_unlessRegistered : E.PreservesDeletion UnlessRegistered where
  log w e harmless := ⟨rfl, fun _ => (preservesTable_noFarewell passive).log w e harmless⟩
  tick w := ⟨rfl, fun _ => .of_trace_eq rfl⟩
  userCallback event fr := by
    rw [passive]
    exact Std.Refl.refl _
  deletes event fr fr' fr'' returned between := by
    have registered : fr.world.core.callbackFunction = true := by
      by_contra unset
      rw [callback_unregistered E (by simpa using unset)] at returned
      cases returned
    have callback := callback_eq E registered event
    rw [returned] at callback
    have same : fr'.world.core.callbackFunction = true := by
      rw [(Outcome.returned.inj callback).2, Frame.raise_callbackFunction _ passive.keepsCallback]
      simpa using registered
    rw [deleteConnection_eq]
    exact ⟨fr''.buried_callbackFunction, fun unset => absurd (between.1.trans same) (by simp [unset])⟩

/-- Erasing an entry destroys the object last, or ends the process before. -/
theorem eraseSelf_closing {fr : Frame} (start : fr.world.trace = []) :
    Closing (eraseSelf E fr).state.world.trace := by
  have emits (fr : Frame) : Emits (fun e => ¬ e.farewell) fr.world (destructor E fr).state.world :=
    (preservesTable_noFarewell passive).toPreserves.carries.destructor fr
  have plain : ∀ e ∈ (removeEntry E fr).state.world.trace, ¬ e.farewell := by
    rw [removeEntry_apply]
    split
    · exact (emits fr.unlinked).forall_mem start
    · have told := (emits fr).forall_mem start
      cases ho : destructor E fr with
      | returned v fr' => rw [ho] at told; exact told
      | thrown e fr' => rw [ho] at told; exact told
      | terminated fr' => rw [ho] at told; exact told
      | outOfFuel fr' => rw [ho] at told; exact told
  rw [eraseSelf, bind_apply]
  cases ho : removeEntry E fr with
  | returned v fr' => rw [ho] at plain; exact .erased plain _
  | thrown e fr' => rw [ho] at plain; exact .kept plain
  | terminated fr' => rw [ho] at plain; exact .kept plain
  | outOfFuel fr' => rw [ho] at plain; exact .kept plain

theorem erase_closing (f : UInt32) {w : World} (start : w.trace = []) :
    Closing (ToxTunCore.erase E f w).state.trace := by
  simp only [ToxTunCore.erase, ToxTunCore.connection, bind_apply, read_apply,
    Outcome.andThen_returned]
  cases w.core.connections f with
  | none => exact .kept (by simp [start])
  | some c =>
      have closing := eraseSelf_closing passive
        (show (Frame.enter f c w).world.trace = [] from start)
      simp only [bind_apply, onConnection]
      rw [Outcome.andThen_state _ fun _ _ => rfl, Outcome.mapState_state, Frame.leave_trace]
      exact closing

theorem acceptConnection_closing (f : UInt32) {w : World} (start : w.trace = []) :
    Closing (ToxTunCore.acceptConnection E f w).state.trace := by
  simp only [ToxTunCore.acceptConnection, ToxTunCore.connection, bind_apply, read_apply,
    Outcome.andThen_returned]
  cases w.core.connections f with
  | none => exact .kept (by simp [start])
  | some c =>
      let fr := Frame.enter f c w
      have alive : fr.alive = true := rfl
      have intact : fr.Intact (fr.enterState .expectingIpPacket) :=
        (Frame.Intact.refl rfl rfl).enterState (by decide)
      have sent := intact.sent (Data.fromPacketId .connectionAccept)
      dsimp only
      by_cases ringing : c.state = .friendsRequestPending
      · cases registered : w.core.callbackFunction with
        | true =>
            have accept := acceptConnection_eq E alive registered ringing
            simp only [onConnection, fr] at accept ⊢
            rw [accept, Frame.accepted]
            dsimp only [Outcome.mapState_returned, Outcome.state_returned]
            rw [Frame.leave_trace]
            split
            · exact (sent true).closing start
            · exact ((sent false).killed passive).closing start
        | false =>
            have accept := acceptConnection_unregistered E alive ringing registered
            simp only [onConnection, fr] at accept ⊢
            split at accept
            · rw [accept]
              simpa using (sent true).closing start
            · rw [accept]
              simpa using ((sent false).sent _ _).closing start
      · have refused := acceptConnection_refused E alive ringing
        have erased := erase_closing passive f (w := fr.leave) (by simpa [fr, Frame.enter] using start)
        simp only [onConnection, fr] at refused ⊢
        rw [refused]
        change Closing ((ToxTunCore.erase E f fr.leave).andThen fun _ => Action.throw _).state.trace
        rw [Outcome.andThen_state _ fun _ _ => rfl]
        exact erased

/-- Every call of the user gives a connection up last of all. -/
theorem call_closing {op : Op} (call : ∀ f dataRaw, op ≠ .receive f dataRaw) {w : World}
    (start : w.trace = []) : Closing (exec E op w).state.trace := by
  have carries := (preservesTable_noFarewell passive).carries
  have table := carries.walks
  cases op with
  | receive f dataRaw => exact (call f dataRaw rfl).elim
  | setCallback callback => exact .kept (by simp [exec, ToxTunCore.setCallback, start])
  | iterate f reads => exact .kept ((table.iterate f (carries.sending.iterate reads) w).forall_mem start)
  | sendConnectionRequest f =>
      exact .kept ((table.sendConnectionRequest f w).forall_mem start)
  | acceptConnection f => exact acceptConnection_closing passive f start
  | rejectConnection f =>
      have erased := erase_closing passive f start
      rw [exec, ToxTunCore.rejectConnection, noexcept_apply, bind_apply, Outcome.guarded_state,
        Outcome.andThen_state _ fun _ _ => rfl]
      exact erased
  | closeConnection f =>
      have erased := erase_closing passive f start
      simp only [exec, ToxTunCore.closeConnection, ToxTunCore.deleteConnection, noexcept_apply,
        bind_apply, Outcome.guarded_state]
      rw [Outcome.andThen_state _ fun _ _ => rfl]
      exact erased

/-- So does a packet from a friend without a connection. -/
theorem absent_closing {f : UInt32} {dataRaw : List UInt8} {w : World} (start : w.trace = [])
    (absent : w.core.connections f = none) :
    Closing (exec E (.receive f dataRaw) w).state.trace := by
  have set := Data.fromToxData_toxHeaderSet dataRaw
  have reset := resetFriend_eq E f w
  simp only [exec, ToxTunCore.toxPacketCallback, ToxTunCore.handleData, noexcept_apply, bind_apply,
    ToxTunCore.connection, read_apply, Outcome.andThen_returned, absent,
    Data.getToxHeader_of_set set, ofExcept_ok, Outcome.guarded_guarded]
  cases PacketId.ofByte (Data.fromToxData dataRaw).header with
  | connectionRequest =>
      cases registered : w.core.callbackFunction with
      | false => exact .kept (by simp [ToxTunCore.handleConnectionRequest, registered, start])
      | true =>
          cases opens : E.tunOpens w.clock with
          | true =>
              simp only [ToxTunCore.handleConnectionRequest_opened E registered opens,
                Outcome.guarded_returned, Outcome.state_returned, Frame.leave_trace, Frame.raise,
                passive _ _]
              exact .kept (by simp [Frame.enter, World.setConnection, World.tick, start, Effect.farewell])
          | false =>
              simp only [ToxTunCore.handleConnectionRequest_unopened E registered opens absent]
              exact .kept (by simp [World.log, World.tick, start, Effect.farewell])
  | connectionReset => exact .kept (by simp [start])
  | _ =>
      simp only [reset]
      exact .kept (by simp [World.log, World.tick, start, Effect.farewell])

end

/-! ## Received packets -/

namespace Transition

/-- The handler of a packet that arrives does not go on with a deleted connection,
and no packet that was reassembled deletes its connection. -/
def LeavesDeleted (t : Transition) : Prop :=
  t.before.callbackFunction = true →
    ∀ f c d joins fs, t.reception = some (f, c, .packet d joins fs) →
      ¬ (t.frame f c).GoesOn t.env d ∧ (joins = 0 ∨ ¬ (t.frame f c).Ends t.env d)

end Transition

section
variable {E : Env} (passive : E.Passive) {fr : Frame} (alive : fr.alive = true)
  (linked : fr.linked = true)

/-- A call that encloses a nested one touches the connection first of all. -/
theorem unwound_touches (fr : Frame) (joins : Nat) :
    Emits (fun _ => True) (fr.touch .connectedFriend).world (fr.unwound (joins + 1)).world := by
  have first : Emits (fun _ => True) (fr.touch .connectedFriend).world fr.afterNested.world :=
    Emits.touch (Std.Refl.refl _) .fragments trivial
  rw [Frame.unwound, Function.iterate_succ_apply]
  exact IsTrans.trans (r := Emits _) _ _ _ first (unwound_emits (fun _ _ => trivial) _ joins)

include passive alive linked

theorem unwound_untouched (start : fr.world.trace = []) (d : Data) (joins : Nat) :
    Untouched ((fr.handled E d).unwound joins).world.trace ↔
      ¬ fr.GoesOn E d ∧ (joins = 0 ∨ ¬ fr.Ends E d) := by
  constructor
  · intro untouched
    have stops : ¬ fr.GoesOn E d := by
      intro goesOn
      obtain ⟨fr', field, deleted, touched⟩ := Frame.handled_goesOn passive alive linked goesOn
      exact deleted_touched start deleted (IsTrans.trans (r := Emits _) _ _ _ touched
        (unwound_emits (fun _ _ => trivial) _ joins)) untouched
    refine ⟨stops, ?_⟩
    cases joins with
    | zero => exact .inl rfl
    | succ joins =>
        refine .inr fun ends => ?_
        have deleted := (Frame.handled_cases passive alive linked stops).1 ends
        exact deleted_touched start deleted (unwound_touches _ joins) untouched
  · rintro ⟨stops, whole⟩
    have cases := Frame.handled_cases passive alive linked stops
    by_cases ends : fr.Ends E d
    · rw [whole.resolve_right fun kept => kept ends]
      exact ((cases.1 ends).closing start).untouched
    · rw [Frame.unwound_of_alive (cases.2 ends).alive]
      exact ((cases.2 ends).closing start).untouched

end

section
variable {core : ToxTunCore} {input : Env × Op} (passive : input.1.Passive)
include passive

theorem found_untouched {f : UInt32} {c : Connection} {a : Arrival}
    (reception : (step core input).reception = some (f, c, a))
    (registered : core.callbackFunction = true) :
    Untouched (step core input).effects ↔ (step core input).LeavesDeleted := by
  obtain ⟨-, finishes, o, ho, outcome⟩ := step_reception reception
  have effects := effects_of_outcome outcome
  have silent (fs : Fragments) (ho : o.state = ((step core input).frame f c).withFragments fs)
      (other : ∀ d joins fs, a ≠ .packet d joins fs) :
      Untouched (step core input).effects ↔ (step core input).LeavesDeleted := by
    refine ⟨fun _ _ f' c' d joins fs' arrives => ?_, fun _ => ?_⟩
    · rw [reception] at arrives
      cases arrives
      exact (other d joins fs' rfl).elim
    · rw [effects, ho]
      have nothing : Closing [] := .kept (by simp)
      exact nothing.untouched
  cases a with
  | packet d joins fs =>
      obtain ⟨set, whole⟩ := reception_packet reception
      let fr := ((step core input).frame f c).withFragments fs
      have alive : fr.alive = true := rfl
      have handled : o = .returned () ((fr.handled input.1 d).unwound joins) := by
        rw [ho, handleDataFuel_eq input.1 alive registered passive.keepsCallback set whole]
        rfl
      have condition : (step core input).LeavesDeleted ↔
          ¬ fr.GoesOn input.1 d ∧ (joins = 0 ∨ ¬ fr.Ends input.1 d) := by
        refine ⟨fun leaves => leaves registered f c d joins fs reception,
          fun leaves _ f' c' d' joins' fs' arrives => ?_⟩
        rw [reception] at arrives
        cases arrives
        exact leaves
      rw [effects, condition, handled]
      exact unwound_untouched passive alive rfl rfl d joins
  | kept fs => exact silent fs (by rw [ho]; rfl) fun _ _ _ => by simp
  | corrupted =>
      obtain ⟨fs, rfl⟩ := ho
      exact silent fs rfl fun _ _ _ => by simp
  | unfinished => exact (finishes rfl).elim

/-- One operation leaves deleted connections alone exactly under the condition. -/
theorem step_untouched :
    Untouched (step core input).effects ↔ (step core input).LeavesDeleted := by
  obtain ⟨E, op⟩ := input
  have closed (closing : Closing (exec E op ⟨core, 0, []⟩).state.trace)
      (none : (step core (E, op)).reception = none ∨ core.callbackFunction = false) :
      Untouched (step core (E, op)).effects ↔ (step core (E, op)).LeavesDeleted := by
    refine ⟨fun _ registered f c d joins fs arrives => ?_, fun _ => closing.untouched⟩
    rcases none with none | unset
    · simp [none] at arrives
    · have registered' : core.callbackFunction = true := registered
      simp [unset] at registered'
  cases op with
  | receive f dataRaw =>
      cases found : core.connections f with
      | none =>
          refine closed (absent_closing passive rfl found) (.inl ?_)
          simp [Transition.reception, step, found]
      | some c =>
          have reception : (step core (E, .receive f dataRaw)).reception =
              some (f, c, c.fragments.arrival (Data.fromToxData dataRaw)) := by
            simp [Transition.reception, step, found]
          cases registered : core.callbackFunction with
          | true => exact found_untouched passive reception registered
          | false =>
              have emits := handleDataFuel_respects (preservesDeletion_unlessRegistered passive)
                (fun w g s d => ⟨rfl, fun _ => (Std.Refl.refl w : Emits _ w w).log id⟩)
                (c.fragments.fuel (Data.fromToxData dataRaw)) (Data.fromToxData dataRaw)
                (Frame.enter f c ⟨core, 0, []⟩)
              refine closed (.kept ?_) (.inr registered)
              change ∀ e ∈ (step core (E, .receive f dataRaw)).effects, ¬ e.farewell
              rw [effects_of_outcome (step_receive found dataRaw)]
              exact (emits.2 registered).forall_mem rfl
  | setCallback callback => exact closed (call_closing passive (by simp) rfl) (.inl rfl)
  | iterate f reads => exact closed (call_closing passive (by simp) rfl) (.inl rfl)
  | sendConnectionRequest f => exact closed (call_closing passive (by simp) rfl) (.inl rfl)
  | acceptConnection f => exact closed (call_closing passive (by simp) rfl) (.inl rfl)
  | rejectConnection f => exact closed (call_closing passive (by simp) rfl) (.inl rfl)
  | closeConnection f => exact closed (call_closing passive (by simp) rfl) (.inl rfl)

end

/-- In every run, connections are left alone once they were deleted exactly when
no handler goes on after a deletion and no reassembled packet ends its connection. -/
theorem untouched_iff (core : ToxTunCore) (inputs : List (Env × Op))
    (passive : ∀ input ∈ inputs, input.1.Passive) :
    (∀ t ∈ transitions core inputs, Untouched t.effects) ↔
      ∀ t ∈ transitions core inputs, t.LeavesDeleted := by
  refine forall₂_congr fun t ht => ?_
  obtain ⟨before, -, input, hmem, rfl⟩ :=
    mem_transitions (I := fun _ => True) trivial (fun _ _ _ _ _ _ => trivial) ht
  exact step_untouched (passive input hmem)

/-- A request is accepted, the answer to the proposal that follows is lost. -/
def lostAcceptance : List (Env × Op) :=
  [(.obliging fun _ => some [], .receive 7 [160]),
    (.obliging fun _ => some [], .acceptConnection 7),
    ({ Env.obliging fun _ => some [] with sends := fun _ => false }, .receive 7 [165, 4, 2])]

theorem lostAcceptance_untouched_iff :
    (∀ t ∈ transitions (ToxTunCore.empty true) lostAcceptance, Untouched t.effects) ↔
      ∀ t ∈ transitions (ToxTunCore.empty true) lostAcceptance, t.LeavesDeleted :=
  untouched_iff (ToxTunCore.empty true) lostAcceptance (by
    simp [lostAcceptance, Env.Passive, Env.obliging])

theorem lostAcceptance_touched :
    ¬ ∀ t ∈ transitions (ToxTunCore.empty true) lostAcceptance, Untouched t.effects := by
  have trace : ((transitions (ToxTunCore.empty true) lostAcceptance).map fun t => t.effects)[2]? =
      some [.sent 7 (Data.fromPacketId .ipAccept) false,
        .sent 7 (Data.fromPacketId .connectionReset) false, .raised .connectionClosed 7,
        .entered 7 .deleting, .destroyed 7, .dangling 7 .tun, .ipSet 7 4 2, .dangling 7 .state,
        .entered 7 .connected, .dangling 7 .connectedFriend, .raised .connectionAccepted 7] := by
    decide +kernel
  obtain ⟨t, ht, effects⟩ := List.mem_map.mp (List.mem_of_getElem? trace)
  intro untouched
  have deleted := (untouched t ht).destroyed
  rw [effects] at deleted
  simp [Effect.uses] at deleted

end LibToxTun
