import LibToxTun.Core.Endpoint

/-! # A core without a callback function

An event that nobody takes is an exception, and every place that raises one lies
below a function that must not throw, so the process ends there. Up to that point
the core gives the replies it gives with a callback; only a request of a friend is
ignored where it would have made a connection.
-/

namespace LibToxTun

open Foundation

/-- A request from a friend without a connection. -/
def Call.requests (c : Option Connection) : Call → Bool
  | .receive dataRaw =>
      c.isNone && decide (PacketId.ofByte (Data.fromToxData dataRaw).header = .connectionRequest)
  | _ => false

/-- The reply without a callback function, or none where the process ends. -/
def Env.mute (E : Env) (c : Option Connection) (call : Call) : Option Reply :=
  if call.requests c then some ⟨none, [], []⟩
  else (E.reply c call).filter fun r => r.events.isEmpty

/-- An action comes to a reply without events. Otherwise it ends the process, once
the packets of the reply are sent. -/
def Frame.Mutes (core : ToxTunCore) (f : UInt32) (r : Reply) (o : Outcome Exn Frame Unit) : Prop :=
  if r.events = [] then ∃ fr, o = .returned () fr ∧ fr.Meets core f r
  else ∃ fr, o = .terminated fr ∧ fr.world.trace.filterMap (Effect.packetTo f) = r.packets

namespace Frame

section
variable {E : Env} {core : ToxTunCore} {f : UInt32} {c : Connection} {r : Reply} {fr : Frame}
  {k : Nat} {ps : List Data}

theorem Mutes.guarded {o : Outcome Exn Frame Unit} (h : Mutes core f r o) :
    Mutes core f r o.guarded := by
  unfold Mutes at h ⊢
  split at h
  · obtain ⟨fr, rfl, meets⟩ := h
    rw [if_pos ‹_›]
    exact ⟨fr, rfl, meets⟩
  · obtain ⟨fr, rfl, packets⟩ := h
    rw [if_neg ‹_›]
    exact ⟨fr, rfl, packets⟩

/-- Nothing is raised on the way to a live connection. -/
theorem Live.mutes (h : Live core f c k ps [] fr) :
    Mutes core f ⟨some c, ps, []⟩ (.returned () fr) :=
  ⟨fr, rfl, k, h⟩

theorem mutes_terminated {o : Outcome Exn Frame Unit} (raised : r.events ≠ [])
    (ends : ∃ fr, o = .terminated fr ∧ fr.world.trace.filterMap (Effect.packetTo f) = r.packets) :
    Mutes core f r o := by
  rw [Mutes, if_neg raised]
  exact ends

variable (unset : core.callbackFunction = false)
include unset

theorem Live.unregistered (h : Live core f c k ps [] fr) : fr.world.core.callbackFunction = false := by
  rw [h.core_eq]
  exact unset

theorem Live.mutes_killed (h : Live core f c k [] [] fr) :
    Mutes core f (E.killedAt k) (resetAndDeleteConnection E fr) :=
  mutes_terminated (by simp [Env.killedAt])
    ⟨_, resetAndDeleteConnection_unregistered E h.alive (h.unregistered unset), (h.tried _).packets⟩

theorem Live.callback_thrown (h : Live core f c k ps [] fr) (event : Event) :
    callback E event fr = .thrown (.toxTunError "Callback function not set") fr := by
  rw [callback_unregistered E (h.unregistered unset), touch_of_alive h.alive]

theorem Live.mutes_proposed (h : Live core f c 0 [] [] fr) :
    Mutes core f (E.propose c) (sendIp E fr) := by
  obtain ⟨⟨subnet, clock, found⟩, search⟩ := search_total E c.subnet 0
  have search' : E.search (2 ^ 16) fr.self.subnet fr.world.clock = some (subnet, clock, found) := by
    rw [h.self_eq, h.clock_eq]
    exact search
  have loop := sendIpLoop_unregistered E h.alive _ (h.unregistered unset) search'
  have searched := h.searched subnet clock
  simp only [sendIp, Action.noexcept_apply, Action.bind_apply, loop, Env.propose, search]
  cases found with
  | false =>
      have reset := searched.tried (E := E) (Data.fromPacketId .connectionReset)
      rw [searched.clock_eq] at reset
      exact mutes_terminated (by simp [Env.killedAt]) ⟨_, rfl, reset.packets⟩
  | true =>
      have control := Data.control_fromIpPostfix (UInt8.ofInt subnet) 2
      have sent := catch_sendToTox E control (resetAndDeleteConnection E) searched.alive
      rw [searched.clock_eq] at sent
      simp only [if_true, Outcome.andThen_returned, Action.bind_apply, getMember_apply,
        touch_of_alive searched.alive, searched.self_eq, sent]
      cases sends : E.sends clock with
      | true => exact (searched.sent _).mutes
      | false => exact ((searched.unsent _).mutes_killed unset).guarded

/-- An address is never set in peace: its event is raised in any case. -/
theorem Live.setIp_terminated (h : Live core f c k ps [] fr) (subnet ipPostfix : UInt8) :
    ∃ fr', setIp E subnet ipPostfix fr = .terminated fr' ∧
      fr'.world.trace.filterMap (Effect.packetTo f) = ps := by
  let fr' : Frame := { fr with self := { c with tun := ⟨some (subnet, ipPostfix)⟩ } }.log
    (.ipSet fr.connectedFriend subnet ipPostfix)
  have device : Live core f { c with tun := ⟨some (subnet, ipPostfix)⟩ } k ps [] fr' :=
    (h.member _).log rfl rfl
  have thrown := (device.enterState .connected).callback_thrown (E := E) unset .connectionAccepted
  have run : setIp E subnet ipPostfix fr =
      (callback E .connectionAccepted (fr'.enterState .connected)).guarded := by
    simp only [setIp, tunSetIp, Action.noexcept_apply, Action.bind_apply, setMember_apply,
      touch_of_alive h.alive, h.self_eq, Outcome.andThen_returned, Action.modify_apply,
      setState_apply, fr']
  rw [run, thrown]
  exact ⟨fr'.enterState .connected, rfl, (device.enterState .connected).packets⟩

theorem Live.mutes_proposal (h : Live core f c 0 [] [] fr) {d : Data} (set : d.toxHeaderSet = true)
    (header : PacketId.ofByte d.header = .ipProposal) :
    Mutes core f (E.respond c d) (handleIpProposal E d fr) := by
  simp only [Env.respond, header, handleIpProposal, Action.noexcept_apply, Action.bind_apply,
    getMember_apply, touch_of_alive h.alive, Outcome.andThen_returned, h.self_eq]
  by_cases expecting : c.state = .expectingIpPacket
  · simp only [expecting, ne_eq, not_true_eq_false, if_false, if_true, Action.bind_apply]
    cases bytes : proposalBytes d with
    | error e =>
        obtain ⟨what, rfl⟩ := proposalBytes_error set header bytes
        exact h.mutes
    | ok pair =>
        obtain ⟨subnet, ipPostfix⟩ := pair
        have ticked := h.ticked
        have sent {packetId : PacketId} (control : (Data.fromPacketId packetId).Control) :=
          catch_sendToTox E control (resetAndDeleteConnection E) ticked.alive
        rw [ticked.clock_eq] at sent
        have accept := @sent .ipAccept ⟨Nat.le_add_left 1 3, rfl⟩
        have reject := @sent .ipReject ⟨Nat.le_add_left 1 3, rfl⟩
        have asked := assumeUnused_eq E h.alive subnet
        rw [h.clock_eq] at asked
        change Mutes core f (E.consider c subnet ipPostfix)
          (((assumeUnused E subnet >>= _) fr).guarded)
        simp only [Action.bind_apply, asked, Outcome.andThen_returned, Env.consider]
        cases E.unusedAt 0 subnet with
        | true =>
            simp only [if_true, Action.bind_apply, accept]
            cases sends : E.sends 1 with
            | true =>
                obtain ⟨fr', ends, packets⟩ :=
                  (ticked.sent (Data.fromPacketId .ipAccept)).setIp_terminated (E := E) unset subnet
                    ipPostfix
                exact mutes_terminated (by simp) ⟨fr', congrArg Outcome.guarded ends, packets⟩
            | false =>
                have unsent := ticked.unsent (Data.fromPacketId .ipAccept)
                have ends := resetAndDeleteConnection_unregistered E unsent.alive
                  (unsent.unregistered unset)
                simp only [Bool.false_eq_true, if_false, ends]
                exact mutes_terminated (by simp) ⟨_, rfl, (unsent.tried _).packets⟩
        | false =>
            simp only [Bool.false_eq_true, if_false, reject]
            cases sends : E.sends 1 with
            | true => exact (ticked.sent _).mutes
            | false => exact ((ticked.unsent _).mutes_killed unset).guarded
  · simp only [expecting, ne_eq, not_false_eq_true, if_true, if_false]
    exact (h.mutes_killed unset).guarded

theorem Live.mutes_handled (h : Live core f c 0 [] [] fr) {d : Data} (set : d.toxHeaderSet = true)
    (whole : PacketId.ofByte d.header ≠ .fragment) (fuel : Nat) :
    Mutes core f (E.respond c d) (handleDataFuel E (fuel + 1) d fr) := by
  have killed : Mutes core f (E.killedAt 0) (resetAndDeleteConnection E fr) :=
    h.mutes_killed unset
  have kept : Mutes core f (.kept c) (.returned () fr) := h.mutes
  have thrown (event : Event) := h.callback_thrown (E := E) unset event
  have state {a b : Code Frame Unit} (s : State) :
      (do if (← getMember .state Connection.state) ≠ s then a else b : Code Frame Unit) fr =
        if c.state = s then b fr else a fr := by
    simp only [Action.bind_apply, getMember_apply, touch_of_alive h.alive, h.self_eq,
      Outcome.andThen_returned, ite_not]
    split <;> rfl
  simp only [handleDataFuel, Action.noexcept_apply, Action.bind_apply,
    Data.getToxHeader_of_set set, Action.ofExcept_ok, Outcome.andThen_returned]
  apply Mutes.guarded
  cases header : PacketId.ofByte d.header with
  | connectionRequest => simpa [Env.respond, header] using kept
  | connectionAccept =>
      simp only [Env.respond, header, handleConnectionAccepted, Action.noexcept_apply, state]
      apply Mutes.guarded
      split
      · simp only [Action.bind_apply, setState_apply, Outcome.andThen_returned]
        exact (h.enterState .expectingIpConfirmation).mutes_proposed unset
      · exact killed
  | connectionReject =>
      simp only [Env.respond, header, handleConnectionRejected, Action.noexcept_apply, state]
      split
      · refine mutes_terminated (by simp) ⟨fr, ?_, h.packets⟩
        simp [thrown]
      · exact killed.guarded
  | connectionClose =>
      simp only [Env.respond, header, handleConnectionClosed, Action.noexcept_apply, state]
      split
      · refine mutes_terminated (by simp) ⟨fr, ?_, h.packets⟩
        simp [thrown]
      · exact killed.guarded
  | connectionReset =>
      simp only [Env.respond, header, handleConnectionReset, Action.noexcept_apply]
      refine mutes_terminated (by simp) ⟨fr, ?_, h.packets⟩
      simp [thrown]
  | ipProposal => exact h.mutes_proposal unset set header
  | ipAccept =>
      simp only [Env.respond, header, handleIpAccepted, Action.noexcept_apply, state]
      split
      · obtain ⟨fr', ends, packets⟩ :=
          h.setIp_terminated (E := E) unset (UInt8.ofInt c.subnet) 1
        refine mutes_terminated (by simp) ⟨fr', ?_, packets⟩
        simp only [Action.bind_apply, getMember_apply, touch_of_alive h.alive, h.self_eq,
          Outcome.andThen_returned, ends]
        rfl
      · exact killed.guarded
  | ipReject =>
      simp only [Env.respond, header, handleIpRejected, Action.noexcept_apply, state]
      apply Mutes.guarded
      split
      · exact h.mutes_proposed unset
      · exact killed
  | data =>
      simp only [Env.respond, header, sendToTun, Action.noexcept_apply, Action.bind_apply,
        getMember_apply, touch_of_alive h.alive, h.self_eq, Outcome.andThen_returned]
      by_cases connected : c.state = .connected
      · simp only [connected, ne_eq, not_true_eq_false, if_false, if_true,
          sendToTun_written]
        have start : fr.Meets core f (.kept c) := ⟨0, h⟩
        exact ⟨fr.written d, rfl, start.written d⟩
      · have ends := resetAndDeleteConnection_unregistered E h.alive (h.unregistered unset)
        simp only [connected, ne_eq, not_false_eq_true, if_true, if_false, Action.bind_apply, ends]
        exact mutes_terminated (by simp [Env.killedAt]) ⟨_, rfl, (h.tried _).packets⟩
  | fragment => exact (whole header).elim
  | unnamed b => simpa [Env.respond, header] using kept

end

end Frame

/-! ## Steps without a callback -/

section
variable {E : Env} {core : ToxTunCore} {f : UInt32}

theorem Env.mute_of_reply {c : Option Connection} {call : Call} {r : Reply}
    (reply : E.reply c call = some r) (answered : call.requests c = false) :
    E.mute c call = if r.events = [] then some r else none := by
  simp only [Env.mute, answered, Bool.false_eq_true, if_false, reply, Option.filter_some,
    List.isEmpty_iff]

theorem erase_mute (unset : core.callbackFunction = false) (c : Connection) :
    if (E.dismiss c).events = [] then
      ∃ w, ToxTunCore.erase E f ⟨core.put f (some c), 0, []⟩ = .returned 1 w ∧
        w.Shows core f (E.dismiss c)
    else ∃ w, ToxTunCore.erase E f ⟨core.put f (some c), 0, []⟩ = .terminated w ∧
      w.trace.filterMap (Effect.packetTo f) = (E.dismiss c).packets := by
  let fr := Frame.enter f c ⟨core.put f (some c), 0, []⟩
  have alive : fr.alive = true := rfl
  have run : ToxTunCore.erase E f ⟨core.put f (some c), 0, []⟩ =
      ((eraseSelf E fr).mapState Frame.leave).andThen fun _ => pure 1 := by
    simp [ToxTunCore.erase, ToxTunCore.connection, onConnection, fr]
  cases resets : c.state.resets with
  | false =>
      have quiet : (E.dismiss c).events = [] := by
        cases h : c.state <;> simp [Env.dismiss, h] at resets ⊢ <;> cases resets
      have gone : (E.dismiss c).connection = none := by
        cases h : c.state <;> simp [Env.dismiss, h, Env.killedAt]
      have erased := eraseSelf_eq E alive fun h => absurd (resets.symm.trans h) (by decide)
      have shows := ((Frame.live_enter (core.put f (some c)) f c).erased (E := E)
        fun h => absurd (resets.symm.trans h) (by decide)).leave
      rw [if_pos quiet, run, erased]
      refine ⟨_, rfl, ?_, shows.packets, shows.events⟩
      rw [shows.core_eq, ToxTunCore.put_put, gone]
  | true =>
      have raised : (E.dismiss c).events ≠ [] := by
        cases h : c.state <;> simp [Env.dismiss, h, Env.killedAt] at resets ⊢ <;> cases resets
      have sent : (E.dismiss c).packets = E.taken 0 (Data.fromPacketId .connectionReset) := by
        cases h : c.state <;> simp [Env.dismiss, h, Env.killedAt] at resets ⊢ <;> cases resets
      rw [if_neg raised, run, eraseSelf_unregistered E alive resets unset, sent]
      refine ⟨_, rfl, ?_⟩
      rw [Frame.leave_trace, Frame.sent_trace, Env.taken, show fr.world.clock = 0 from rfl]
      cases E.unlinksFirst 0 <;> cases E.sends 0 <;>
        simp [Frame.unlinked, World.setConnection, fr, Frame.enter, Effect.packetTo]

namespace Transition

/-- A step comes to a reply without events. Otherwise it ends the process, once the
packets of the reply are sent. -/
def Mutes (t : Transition) (f : UInt32) (r : Reply) : Prop :=
  if r.events = [] then t.Answers f r
  else t.after = none ∧ t.effects.filterMap (Effect.packetTo f) = r.packets

theorem mutes_terminated {t : Transition} {r : Reply} (raised : r.events ≠ []) {w : World}
    (outcome : t.outcome = .terminated w)
    (packets : w.trace.filterMap (Effect.packetTo f) = r.packets) : t.Mutes f r := by
  rw [Mutes, if_neg raised, after, effects, outcome]
  exact ⟨rfl, packets⟩

end Transition

variable (unset : core.callbackFunction = false)
include unset

theorem receive_mutes {c : Connection} (found : core.connections f = some c) (dataRaw : List UInt8)
    {r : Reply} (reply : E.receive (some c) (Data.fromToxData dataRaw) = some r) :
    (step core (E, .receive f dataRaw)).Mutes f r := by
  have reception : (step core (E, .receive f dataRaw)).reception =
      some (f, c, c.fragments.arrival (Data.fromToxData dataRaw)) := by
    simp [Transition.reception, step, found]
  obtain ⟨-, -, o, ho, outcome⟩ := step_reception reception
  have live (fs : Fragments) : Frame.Live core f { c with fragments := fs } 0 [] []
      (((step core (E, .receive f dataRaw)).frame f c).withFragments fs) :=
    ⟨rfl, rfl, rfl, rfl, rfl, rfl, rfl, rfl⟩
  simp only [Env.receive] at reply
  cases arrival : c.fragments.arrival (Data.fromToxData dataRaw) with
  | packet d joins fs =>
      rw [arrival] at ho reception reply
      cases reply
      obtain ⟨set, whole⟩ := reception_packet reception
      have mutes := (live fs).mutes_handled (E := E) unset set whole 0
      unfold Frame.Mutes at mutes
      split at mutes
      · next quiet =>
          obtain ⟨fr', returned, meets⟩ := mutes
          rw [ho, returned] at outcome
          rw [Transition.Mutes, if_pos quiet]
          exact Transition.answers_of_returned outcome (meets.unwound joins).leave
      · next raised =>
          obtain ⟨fr', terminated, packets⟩ := mutes
          rw [ho, terminated] at outcome
          exact Transition.mutes_terminated raised outcome (by rw [Frame.leave_trace, packets])
  | kept fs =>
      rw [arrival] at ho reply
      cases reply
      rw [ho] at outcome
      exact Transition.answers_of_returned outcome (live fs).leave
  | corrupted =>
      rw [arrival] at reply
      cases reply
  | unfinished =>
      rw [arrival] at reply
      cases reply

theorem acceptConnection_mutes {c : Connection} (found : core.connections f = some c) {r : Reply}
    (reply : E.reply (some c) .acceptConnection = some r) :
    (step core (E, .acceptConnection f)).Mutes f r := by
  let fr := Frame.enter f c ⟨core, 0, []⟩
  have alive : fr.alive = true := rfl
  have live : Frame.Live core f c 0 [] [] fr := Frame.live_enter core f c
  simp only [Env.reply] at reply
  cases reply
  by_cases ringing : c.state = .friendsRequestPending
  · have accepted := acceptConnection_unregistered E alive ringing unset
    have entered := live.enterState .expectingIpPacket
    simp only [entered.clock_eq] at accepted
    rw [if_pos ringing]
    cases sends : E.sends 0 with
    | true =>
        rw [sends, if_pos rfl] at accepted
        exact Transition.answers_of_returned (acceptConnection_found found accepted)
          (entered.sent _).leave
    | false =>
        rw [sends, if_neg (by simp)] at accepted
        have outcome : (step core (E, .acceptConnection f)).outcome = .terminated _ :=
          acceptConnection_ended found accepted
        refine Transition.mutes_terminated (by simp [Env.killedAt]) outcome ?_
        rw [Frame.leave_trace]
        exact ((entered.unsent _).tried _).packets
  · have refused := acceptConnection_refused E alive ringing
    have left : fr.leave = ⟨core.put f (some c), 0, []⟩ := rfl
    have erased := erase_mute (E := E) (f := f) unset c
    rw [← left] at erased
    rw [if_neg ringing]
    split at erased
    · obtain ⟨w, returned, shows⟩ := erased
      rw [Transition.Mutes, if_pos ‹_›]
      exact Transition.answers_of_thrown (acceptConnection_caught found refused returned) shows
    · obtain ⟨w, terminated, packets⟩ := erased
      have outcome : (step core (E, .acceptConnection f)).outcome = .terminated w :=
        acceptConnection_dropped found refused terminated
      exact Transition.mutes_terminated ‹_› outcome packets

theorem erase_mutes {c : Connection} (found : core.connections f = some c) (op : Op)
    (erases : (exec E op ⟨core, 0, []⟩) =
      ((ToxTunCore.erase E f ⟨core, 0, []⟩).andThen fun _ => pure ()).guarded) :
    (step core (E, op)).Mutes f (E.dismiss c) := by
  have outcome : (step core (E, op)).outcome = _ := erases
  have erased := erase_mute (E := E) (f := f) unset c
  rw [ToxTunCore.put_eq_self found] at erased
  split at erased
  · obtain ⟨w, returned, shows⟩ := erased
    rw [Transition.Mutes, if_pos ‹_›]
    exact Transition.answers_of_returned (outcome.trans (by rw [returned]; rfl)) shows
  · obtain ⟨w, terminated, packets⟩ := erased
    exact Transition.mutes_terminated ‹_› (outcome.trans (by rw [terminated]; rfl)) packets

theorem step_mutes (call : Call) (answered : call.requests (core.connections f) = false) {r : Reply}
    (reply : E.reply (core.connections f) call = some r) :
    (step core (E, call.op f)).Mutes f r := by
  -- A reply without events does not depend on the callback.
  have quiet {r' : Reply} (same : some r' = some r) (silent : r'.events = [])
      (answers : (step core (E, call.op f)).Answers f r') : (step core (E, call.op f)).Mutes f r := by
    cases same
    rw [Transition.Mutes, if_pos silent]
    exact answers
  cases call with
  | receive dataRaw =>
      cases found : core.connections f with
      | none =>
          rw [found] at reply answered
          simp only [Call.requests, Option.isNone_none, Bool.true_and, decide_eq_false_iff_not]
            at answered
          refine quiet reply ?_ (greet_unrequested (E := E) found dataRaw answered)
          unfold Env.greet
          split
          · exact (answered ‹_›).elim
          · rfl
          · rfl
      | some c =>
          rw [found] at reply
          exact receive_mutes unset found dataRaw reply
  | iterate reads =>
      refine quiet rfl ?_ (iterate_replies reply)
      obtain ⟨-, rfl⟩ | ⟨c, -, -, rfl⟩ | ⟨c, -, -, -, rfl⟩ := Env.reply_iterate reply <;> rfl
  | sendConnectionRequest =>
      obtain ⟨r', reply', answers⟩ := sendConnectionRequest_answers (E := E) (f := f) core
      refine quiet (reply'.symm.trans reply) ?_ answers
      cases reply'
      split
      · rfl
      · split <;> rfl
  | acceptConnection =>
      cases found : core.connections f with
      | none =>
          rw [found] at reply
          exact quiet reply rfl (acceptConnection_missing found)
      | some c =>
          rw [found] at reply
          exact acceptConnection_mutes unset found reply
  | rejectConnection =>
      cases found : core.connections f with
      | none =>
          rw [found] at reply
          exact quiet reply rfl (erase_missing found (.rejectConnection f) rfl)
      | some c =>
          rw [found] at reply
          cases reply
          exact erase_mutes unset found (.rejectConnection f) rfl
  | closeConnection =>
      have erases : exec E (.closeConnection f) ⟨core, 0, []⟩ =
          ((ToxTunCore.erase E f ⟨core, 0, []⟩).andThen fun _ => pure ()).guarded := by
        simp [exec, ToxTunCore.closeConnection, ToxTunCore.deleteConnection]
      cases found : core.connections f with
      | none =>
          rw [found] at reply
          exact quiet reply rfl (erase_missing found (.closeConnection f) erases)
      | some c =>
          rw [found] at reply
          cases reply
          exact erase_mutes unset found (.closeConnection f) erases

omit unset in
theorem step_unanswered {call : Call} (reply : E.reply (core.connections f) call = none) :
    (step core (E, call.op f)).after = none := by
  obtain ⟨c, dataRaw, found, rfl, arrival⟩ | ⟨c, reads, -, rfl, -, -⟩ := Env.reply_none reply
  · exact (receive_corrupted found arrival).1
  · have answers := iterate_answers (E := E) (f := f) core reads
    rwa [reply] at answers

/-- A request of a friend without a connection is not even looked at. -/
theorem request_ignored {call : Call} (requests : call.requests (core.connections f) = true) :
    (step core (E, call.op f)).Answers f ⟨none, [], []⟩ := by
  cases call with
  | receive dataRaw =>
      simp only [Call.requests, Bool.and_eq_true, Option.isNone_iff_eq_none, decide_eq_true_eq]
        at requests
      obtain ⟨absent, request⟩ := requests
      have outcome := welcome_outcome (E := E) absent dataRaw
      rw [request] at outcome
      have ignored : ToxTunCore.welcome E f .connectionRequest ⟨core, 0, []⟩ =
          .returned () ⟨core, 0, []⟩ := by
        simp [ToxTunCore.welcome, ToxTunCore.handleConnectionRequest, unset]
      rw [ignored] at outcome
      exact Transition.answers_of_returned outcome (shows_start absent)
  | iterate reads => cases requests
  | sendConnectionRequest => cases requests
  | acceptConnection => cases requests
  | rejectConnection => cases requests
  | closeConnection => cases requests

/-- Without a callback function, every step gives the reply, or ends the process
where there is none. -/
theorem step_mute (call : Call) :
    match E.mute (core.connections f) call with
    | some r => (step core (E, call.op f)).Answers f r
    | none => (step core (E, call.op f)).after = none := by
  cases requests : call.requests (core.connections f) with
  | true =>
      rw [Env.mute, if_pos requests]
      exact request_ignored unset requests
  | false =>
      cases reply : E.reply (core.connections f) call with
      | none =>
          simp only [Env.mute, requests, Bool.false_eq_true, if_false, reply, Option.filter_none]
          exact step_unanswered reply
      | some r =>
          have mutes := step_mutes unset call requests reply
          rw [Env.mute_of_reply reply requests]
          unfold Transition.Mutes at mutes
          split at mutes
          · rw [if_pos ‹_›]
            exact mutes
          · rw [if_neg ‹_›]
            exact mutes.1

end

/-! ## With or without a callback -/

/-- The reply of a core, whether or not a callback function is set. -/
def Env.answer (E : Env) (registered : Bool) (c : Option Connection) (call : Call) : Option Reply :=
  if registered then E.reply c call else E.mute c call

section
variable {E : Env} {core : ToxTunCore} {f : UInt32}

theorem step_answer (passive : E.Passive) (core : ToxTunCore) (f : UInt32) (call : Call) :
    match E.answer core.callbackFunction (core.connections f) call with
    | some r => (step core (E, call.op f)).Answers f r
    | none => (step core (E, call.op f)).after = none := by
  cases registered : core.callbackFunction with
  | true => exact step_reply passive registered call
  | false => exact step_mute registered call

/-- A step that does not end the process has an answer. -/
theorem answers_of_after (passive : E.Passive) {call : Call} {next : ToxTunCore}
    (after : (step core (E, call.op f)).after = some next) :
    ∃ r, E.answer core.callbackFunction (core.connections f) call = some r ∧
      (step core (E, call.op f)).Answers f r := by
  have answers := step_answer passive core f call
  cases answer : E.answer core.callbackFunction (core.connections f) call with
  | some r =>
      rw [answer] at answers
      exact ⟨r, rfl, answers⟩
  | none =>
      rw [answer, after] at answers
      cases answers

theorem Env.answer_cases {registered : Bool} {c : Option Connection} {call : Call} {r : Reply}
    (h : E.answer registered c call = some r) :
    (registered = false ∧ call.requests c = true ∧ r = ⟨none, [], []⟩) ∨ E.reply c call = some r := by
  cases registered with
  | true => exact .inr h
  | false =>
      cases requests : call.requests c with
      | true =>
          simp only [Env.answer, Bool.false_eq_true, if_false, Env.mute, requests, if_true,
            Option.some.injEq] at h
          exact .inl ⟨rfl, rfl, h.symm⟩
      | false =>
          simp only [Env.answer, Bool.false_eq_true, if_false, Env.mute, requests,
            Option.filter_eq_some_iff] at h
          exact .inr h.1

/-- Apart from requests that are ignored, an answer is the reply of a registered core. -/
theorem Env.reply_of_answer {registered : Bool} {c : Option Connection} {call : Call} {r : Reply}
    (answered : call.requests c = false) (h : E.answer registered c call = some r) :
    E.reply c call = some r := by
  rcases Env.answer_cases h with ignored | reply
  · rw [answered] at ignored
    cases ignored.2.1
  · exact reply

end

end LibToxTun
