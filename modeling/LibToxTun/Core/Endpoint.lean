import LibToxTun.Core.Reply
import LibToxTun.Data.Splitting

/-! # An endpoint

The reply of a core to every operation on one friend, as a function of the
connection to that friend alone, for all answers of tox and the operating system. A
step of the faithful machine does what the function says, or ends the process where
it says none.
-/

namespace LibToxTun

open Foundation

namespace Env

variable (E : Env)

/-- The reply to a packet from a friend without a connection. -/
def greet (d : Data) : Reply :=
  match PacketId.ofByte d.header with
  | .connectionRequest =>
      if E.tunOpens 0 then ⟨some (Connection.initial false), [], [.connectionRequested]⟩
      else ⟨none, E.taken 1 (Data.fromPacketId .connectionReset), []⟩
  | .connectionReset => ⟨none, [], []⟩
  | _ => ⟨none, E.taken 0 (Data.fromPacketId .connectionReset), []⟩

/-- The reply to a packet, or none when a set of fragments does not join. -/
def receive (c : Option Connection) (d : Data) : Option Reply :=
  match c with
  | none => some (E.greet d)
  | some c =>
      match c.fragments.arrival d with
      | .packet d' _ fs => some (E.respond { c with fragments := fs } d')
      | .kept fs => some (.kept { c with fragments := fs })
      | .corrupted => none
      | .unfinished => none

/-- The reply of a connection that is erased from the table. -/
def dismiss (c : Connection) : Reply :=
  match c.state with
  | .friendsRequestPending => ⟨none, E.taken 0 (Data.fromPacketId .connectionReject), []⟩
  | .ownRequestPending => E.killedAt 0
  | .expectingIpPacket => E.killedAt 0
  | .expectingIpConfirmation => E.killedAt 0
  | .connected => ⟨none, E.taken 0 (Data.fromPacketId .connectionClose), []⟩
  | .deleting => ⟨none, [], []⟩

theorem dismiss_connection (c : Connection) : (E.dismiss c).connection = none := by
  unfold dismiss
  cases c.state <;> rfl

/-- The packets that tox takes before it refuses one, and the clock after that. -/
def sendList : Nat → List Data → List Data × Nat
  | clock, [] => ([], clock)
  | clock, p :: rest =>
      if E.sends clock then
        let (packets, clock') := sendList (clock + 1) rest
        (p :: packets, clock')
      else ([], clock + 1)

theorem sendList_sublist (clock : Nat) (l : List Data) : (E.sendList clock l).1.Sublist l := by
  induction l generalizing clock with
  | nil => exact List.Sublist.refl _
  | cons p rest ih =>
      rw [sendList]
      split
      · exact (ih (clock + 1)).cons_cons p
      · exact List.nil_sublist _

/-- Frames read from the device and sent on. -/
def forward : Nat → Connection → List (Option (List UInt8)) → Connection × List Data
  | _, c, [] => (c, [])
  | clock, c, none :: reads => forward clock c reads
  | clock, c, some buffer :: reads =>
      let d := Data.tunData buffer
      let index := c.nextFragmentIndex
      let c' := if d.getToxDataLen ≤ E.maxPacketSize then c
        else { c with nextFragmentIndex := if index = 255 then 0 else index + 1 }
      let (packets, clock') := E.sendList clock (toxPackets E d index)
      let (c'', later) := forward clock' c' reads
      (c'', packets ++ later)

theorem forward_connection (clock : Nat) (c : Connection) (reads : List (Option (List UInt8))) :
    ∃ index, (E.forward clock c reads).1 = { c with nextFragmentIndex := index } := by
  induction reads generalizing clock c with
  | nil => exact ⟨_, rfl⟩
  | cons read reads ih =>
      cases read with
      | none => exact ih clock c
      | some buffer =>
          simp only [forward]
          obtain ⟨index, same⟩ := ih
            (E.sendList clock (toxPackets E (Data.tunData buffer) c.nextFragmentIndex)).2
            (if (Data.tunData buffer).getToxDataLen ≤ E.maxPacketSize
              then c else { c with nextFragmentIndex :=
                if c.nextFragmentIndex = 255 then 0 else c.nextFragmentIndex + 1 })
          refine ⟨index, ?_⟩
          rw [same]
          split <;> rfl

end Env

/-- The operations on one friend. -/
inductive Call where
  | receive (dataRaw : List UInt8)
  | iterate (reads : List (Option (List UInt8)))
  | sendConnectionRequest
  | acceptConnection
  | rejectConnection
  | closeConnection

namespace Call

def op (f : UInt32) : Call → Op
  | receive dataRaw => .receive f dataRaw
  | iterate reads => .iterate f (reads.map Data.ofRead)
  | sendConnectionRequest => .sendConnectionRequest f
  | acceptConnection => .acceptConnection f
  | rejectConnection => .rejectConnection f
  | closeConnection => .closeConnection f

end Call

/-- The reply to an operation, or none when it ends the process. -/
def Env.reply (E : Env) (c : Option Connection) : Call → Option Reply
  | .receive dataRaw => E.receive c (Data.fromToxData dataRaw)
  | .iterate reads =>
      match c with
      | some c =>
          if c.state = .connected then
            if some [] ∈ reads then none
            else
              let (c', packets) := E.forward 0 c reads
              some ⟨some c', packets, []⟩
          else some (.kept c)
      | none => some ⟨none, [], []⟩
  | .sendConnectionRequest => some <| match c with
      | some c => .kept c
      | none =>
          if E.tunOpens 0 ∧ E.sends 1 then
            ⟨some (Connection.initial true), [Data.fromPacketId .connectionRequest], []⟩
          else ⟨none, [], []⟩
  | .acceptConnection => some <| match c with
      | some c =>
          if c.state = .friendsRequestPending then
            if E.sends 0 then
              ⟨some { c with state := .expectingIpPacket }, [Data.fromPacketId .connectionAccept], []⟩
            else E.killedAt 1
          else E.dismiss c
      | none => ⟨none, [], []⟩
  | .rejectConnection => some <| match c with
      | some c => E.dismiss c
      | none => ⟨none, [], []⟩
  | .closeConnection => some <| match c with
      | some c => E.dismiss c
      | none => ⟨none, [], []⟩

theorem Env.reply_iterate {E : Env} {entry : Option Connection} {reads : List (Option (List UInt8))}
    {r : Reply} (reply : E.reply entry (.iterate reads) = some r) :
    (entry = none ∧ r = ⟨none, [], []⟩) ∨
    (∃ c, entry = some c ∧ c.state ≠ .connected ∧ r = .kept c) ∨
    ∃ c, entry = some c ∧ c.state = .connected ∧ some [] ∉ reads ∧
      r = ⟨some (E.forward 0 c reads).1, (E.forward 0 c reads).2, []⟩ := by
  cases entry with
  | none => exact .inl ⟨rfl, (Option.some.inj reply).symm⟩
  | some c =>
      refine .inr ?_
      simp only [Env.reply] at reply
      split at reply
      · next connected =>
          split at reply
          · cases reply
          · next frames => exact .inr ⟨c, rfl, connected, frames, (Option.some.inj reply).symm⟩
      · next idle => exact .inl ⟨c, rfl, idle, (Option.some.inj reply).symm⟩

/-- There is no reply where a set of fragments does not join, or an empty frame is read. -/
theorem Env.reply_none {E : Env} {entry : Option Connection} {call : Call}
    (reply : E.reply entry call = none) :
    (∃ c dataRaw, entry = some c ∧ call = .receive dataRaw ∧
      c.fragments.arrival (Data.fromToxData dataRaw) = .corrupted) ∨
    ∃ c reads, entry = some c ∧ call = .iterate reads ∧ c.state = .connected ∧ some [] ∈ reads := by
  cases call with
  | receive dataRaw =>
      cases entry with
      | none => cases reply
      | some c =>
          simp only [Env.reply, Env.receive] at reply
          cases arrival : c.fragments.arrival (Data.fromToxData dataRaw) with
          | packet d joins fs =>
              rw [arrival] at reply
              cases reply
          | kept fs =>
              rw [arrival] at reply
              cases reply
          | corrupted => exact .inl ⟨c, dataRaw, rfl, rfl, arrival⟩
          | unfinished => exact (Fragments.arrival_finishes _ _ arrival).elim
  | iterate reads =>
      cases entry with
      | none => cases reply
      | some c =>
          simp only [Env.reply] at reply
          split at reply
          · next connected =>
              split at reply
              · next empty => exact .inr ⟨c, reads, rfl, rfl, connected, empty⟩
              · cases reply
          · cases reply
  | sendConnectionRequest => cases reply
  | acceptConnection => cases reply
  | rejectConnection => cases reply
  | closeConnection => cases reply

/-! ## The machine replies -/

namespace Transition

/-- The step ended with a reply to a friend. -/
structure Answers (t : Transition) (f : UInt32) (r : Reply) : Prop where
  after : t.after = some (t.before.put f r.connection)
  packets : t.effects.filterMap (Effect.packetTo f) = r.packets
  events : t.effects.filterMap (Effect.eventOf f) = r.events

theorem answers_of_returned {t : Transition} {f : UInt32} {r : Reply} {w : World}
    (outcome : t.outcome = .returned () w) (shows : w.Shows t.before f r) : t.Answers f r :=
  ⟨by rw [after, outcome]; exact congrArg some shows.core_eq,
    by rw [effects, outcome]; exact shows.packets,
    by rw [effects, outcome]; exact shows.events⟩

theorem answers_of_thrown {t : Transition} {f : UInt32} {r : Reply} {e : Exn} {w : World}
    (outcome : t.outcome = .thrown e w) (shows : w.Shows t.before f r) : t.Answers f r :=
  ⟨by rw [after, outcome]; exact congrArg some shows.core_eq,
    by rw [effects, outcome]; exact shows.packets,
    by rw [effects, outcome]; exact shows.events⟩

end Transition

section
variable {E : Env} (passive : E.Passive) {core : ToxTunCore}
  (registered : core.callbackFunction = true) {f : UInt32}

theorem shows_start {c : Option Connection} (found : core.connections f = c) :
    World.Shows core f ⟨c, [], []⟩ ⟨core, 0, []⟩ :=
  ⟨(ToxTunCore.put_eq_self found).symm, rfl, rfl⟩

/-- What the core does with the packet of a friend without a connection. -/
def ToxTunCore.welcome (E : Env) (f : UInt32) : PacketId → Code World Unit
  | .connectionRequest => handleConnectionRequest E f
  | .connectionReset => pure ()
  | _ => resetFriend E f

theorem welcome_outcome (absent : core.connections f = none) (dataRaw : List UInt8) :
    (step core (E, .receive f dataRaw)).outcome = (ToxTunCore.welcome E f
      (PacketId.ofByte (Data.fromToxData dataRaw).header) ⟨core, 0, []⟩).guarded := by
  cases header : PacketId.ofByte (Data.fromToxData dataRaw).header <;>
    simp only [step, exec, ToxTunCore.toxPacketCallback, ToxTunCore.handleData,
      Action.noexcept_apply, Action.bind_apply, ToxTunCore.connection, Action.read_apply,
      Outcome.andThen_returned, absent, Data.getToxHeader_of_set (Data.fromToxData_toxHeaderSet _),
      Action.ofExcept_ok, Outcome.guarded_guarded, header, ToxTunCore.welcome]

theorem reset_shows (absent : core.connections f = none) {w : World}
    (start : w.core = core ∧ w.trace = []) :
    World.Shows core f ⟨none, E.taken w.clock (Data.fromPacketId .connectionReset), []⟩
      (w.log (.sent f (Data.fromPacketId .connectionReset) (E.sends w.clock))).tick := by
  refine ⟨?_, ?_, by simp [World.tick, World.log, start, Effect.eventOf]⟩
  · rw [ToxTunCore.put_eq_self absent]
    exact start.1
  · rw [Env.taken]
    cases E.sends w.clock <;> simp [World.tick, World.log, start, Effect.packetTo]

/-- Every packet but a request is answered without a connection or an event. -/
theorem greet_unrequested (absent : core.connections f = none) (dataRaw : List UInt8)
    (other : PacketId.ofByte (Data.fromToxData dataRaw).header ≠ .connectionRequest) :
    (step core (E, .receive f dataRaw)).Answers f (E.greet (Data.fromToxData dataRaw)) := by
  have outcome := welcome_outcome (E := E) absent dataRaw
  have reset := reset_shows (E := E) absent (w := ⟨core, 0, []⟩) ⟨rfl, rfl⟩
  rw [Env.greet]
  cases header : PacketId.ofByte (Data.fromToxData dataRaw).header with
  | connectionRequest => exact (other header).elim
  | connectionReset =>
      rw [header] at outcome
      exact Transition.answers_of_returned outcome (shows_start absent)
  | _ =>
      rw [header] at outcome
      exact Transition.answers_of_returned (outcome.trans (congrArg Outcome.guarded
        (resetFriend_eq E f _))) reset

include passive

theorem greet_answers (registered : core.callbackFunction = true) (absent : core.connections f = none)
    (dataRaw : List UInt8) :
    (step core (E, .receive f dataRaw)).Answers f (E.greet (Data.fromToxData dataRaw)) := by
  by_cases header : PacketId.ofByte (Data.fromToxData dataRaw).header = .connectionRequest
  · have outcome := welcome_outcome (E := E) absent dataRaw
    rw [header] at outcome
    simp only [Env.greet, header]
    cases opens : E.tunOpens 0 with
    | true =>
        have handled := ToxTunCore.handleConnectionRequest_opened E (w := ⟨core, 0, []⟩) registered
          opens f
        have live : Frame.Live (core.put f (some (Connection.initial false))) f
            (Connection.initial false) 1 [] [] (Frame.enter f (Connection.initial false)
              ((World.mk core 0 []).tick.setConnection f (some (Connection.initial false)))) :=
          ⟨rfl, rfl, rfl, rfl, rfl, rfl, rfl, rfl⟩
        have shows := (live.raise passive .connectionRequested).leave
        refine Transition.answers_of_returned (outcome.trans (congrArg Outcome.guarded handled))
          ⟨?_, shows.packets, shows.events⟩
        rw [shows.core_eq, ToxTunCore.put_put]
        rfl
    | false =>
        have handled := ToxTunCore.handleConnectionRequest_unopened E (w := ⟨core, 0, []⟩)
          registered opens absent
        exact Transition.answers_of_returned (outcome.trans (congrArg Outcome.guarded handled))
          (reset_shows absent (w := (World.mk core 0 []).tick) ⟨rfl, rfl⟩)
  · exact greet_unrequested absent dataRaw header

omit passive in
theorem receive_corrupted {c : Connection} (found : core.connections f = some c)
    {dataRaw : List UInt8} (corrupted : c.fragments.arrival (Data.fromToxData dataRaw) = .corrupted) :
    (step core (E, .receive f dataRaw)).after = none ∧
      (step core (E, .receive f dataRaw)).effects = [] := by
  have reception : (step core (E, .receive f dataRaw)).reception = some (f, c, .corrupted) := by
    simp [Transition.reception, step, found, corrupted]
  obtain ⟨-, -, o, ⟨fs, rfl⟩, outcome⟩ := step_reception reception
  exact ⟨by simp [Transition.after, outcome], effects_of_outcome outcome⟩

theorem receive_answers (registered : core.callbackFunction = true) (dataRaw : List UInt8) :
    match E.receive (core.connections f) (Data.fromToxData dataRaw) with
    | some r => (step core (E, .receive f dataRaw)).Answers f r
    | none => (step core (E, .receive f dataRaw)).after = none := by
  cases found : core.connections f with
  | none => exact greet_answers passive registered found dataRaw
  | some c =>
      have reception : (step core (E, .receive f dataRaw)).reception =
          some (f, c, c.fragments.arrival (Data.fromToxData dataRaw)) := by
        simp [Transition.reception, step, found]
      obtain ⟨-, finishes, o, ho, outcome⟩ := step_reception reception
      simp only [Env.receive]
      have live (fs : Fragments) : Frame.Live core f { c with fragments := fs } 0 [] []
          (((step core (E, .receive f dataRaw)).frame f c).withFragments fs) :=
        ⟨rfl, rfl, rfl, rfl, rfl, rfl, rfl, rfl⟩
      cases arrival : c.fragments.arrival (Data.fromToxData dataRaw) with
      | packet d joins fs =>
          rw [arrival] at ho reception
          obtain ⟨set, whole⟩ := reception_packet reception
          let fr := ((step core (E, .receive f dataRaw)).frame f c).withFragments fs
          have alive : fr.alive = true := rfl
          have dispatch := handleDataFuel_eq E alive registered
            passive.keepsCallback set whole 0
          rw [ho, dispatch] at outcome
          exact Transition.answers_of_returned outcome
            (((live fs).handled passive d).unwound joins).leave
      | kept fs =>
          rw [arrival] at ho
          rw [ho] at outcome
          exact Transition.answers_of_returned outcome (live fs).leave
      | corrupted => exact (receive_corrupted found arrival).1
      | unfinished => exact (finishes arrival).elim

/-! ## Calls of the user -/

omit passive

theorem emplace_request (core : ToxTunCore) (f : UInt32) (opens : E.tunOpens 0 = true)
    (sends : E.sends 1 = true) :
    ∃ w, ToxTunCore.emplace E f true ⟨core, 0, []⟩ = .returned () w ∧
      w.Shows core f
        ⟨some (Connection.initial true), [Data.fromPacketId .connectionRequest], []⟩ := by
  let fr := Frame.enter f (Connection.initial true) (World.mk core 0 []).tick
  have live : Frame.Live core f (Connection.initial true) 1 [] [] fr :=
    ⟨rfl, rfl, rfl, rfl, rfl, rfl, rfl, rfl⟩
  have sent := sendToTox_control E (d := Data.fromPacketId .connectionRequest)
    ⟨Nat.le_add_left 1 3, rfl⟩ live.alive
  rw [live.clock_eq, if_pos sends] at sent
  refine ⟨_, ?_, (live.sent _).leave⟩
  simp only [ToxTunCore.emplace, Action.bind_apply, Action.read_apply, Outcome.andThen_returned,
    Action.modify_apply, opens, Bool.not_true, Bool.false_eq_true, if_false, if_true,
    LibToxTun.sendConnectionRequest]
  simp only [fr] at sent
  rw [sent]

theorem emplace_failed (absent : core.connections f = none)
    (fails : ¬ (E.tunOpens 0 = true ∧ E.sends 1 = true)) :
    ∃ e w, ToxTunCore.emplace E f true ⟨core, 0, []⟩ = .thrown e w ∧
      w.Shows core f ⟨none, [], []⟩ := by
  cases opens : E.tunOpens 0 with
  | false =>
      refine ⟨.toxTunError "Error while opening \"/dev/net/tun\": ", (World.mk core 0 []).tick, ?_, ?_⟩
      · simp [ToxTunCore.emplace, opens]
      · exact ⟨(ToxTunCore.put_eq_self absent).symm, rfl, rfl⟩
  | true =>
      have refused : E.sends 1 = false := by simpa [opens] using fails
      let fr := Frame.enter f (Connection.initial true) (World.mk core 0 []).tick
      have live : Frame.Live core f (Connection.initial true) 1 [] [] fr :=
        ⟨rfl, rfl, rfl, rfl, rfl, rfl, rfl, rfl⟩
      have sent := sendToTox_control E (d := Data.fromPacketId .connectionRequest)
        ⟨Nat.le_add_left 1 3, rfl⟩ live.alive
      have unsent := live.unsent (Data.fromPacketId .connectionRequest)
      rw [live.clock_eq, if_neg (by simp [refused])] at sent
      refine ⟨.toxTunError ("Can't send lossless packet to " ++ toString f),
        (fr.sent (Data.fromPacketId .connectionRequest) false).world, ?_, ?_⟩
      · simp only [ToxTunCore.emplace, Action.bind_apply, Action.read_apply,
          Outcome.andThen_returned, Action.modify_apply, opens, Bool.not_true, Bool.false_eq_true,
          if_false, if_true, LibToxTun.sendConnectionRequest]
        simp only [fr] at sent
        rw [sent]
        rfl
      · exact ⟨(ToxTunCore.put_eq_self absent).symm, unsent.packets, unsent.events⟩

theorem sendConnectionRequest_answers (core : ToxTunCore) :
    ∃ r, E.reply (core.connections f) .sendConnectionRequest = some r ∧
      (step core (E, .sendConnectionRequest f)).Answers f r := by
  cases found : core.connections f with
  | some c =>
      refine ⟨_, rfl, Transition.answers_of_thrown (e := .toxTunError
        "You have allready an open connection to this friend") ?_ (shows_start found)⟩
      simp [step, exec, ToxTunCore.sendConnectionRequest, ToxTunCore.connection, found]
  | none =>
      have outcome : (step core (E, .sendConnectionRequest f)).outcome =
          ToxTunCore.emplace E f true ⟨core, 0, []⟩ := by
        simp [step, exec, ToxTunCore.sendConnectionRequest, ToxTunCore.connection, found]
      refine ⟨_, rfl, ?_⟩
      dsimp only
      split
      · next works =>
          obtain ⟨w, emplaced, shows⟩ := emplace_request core f works.1 works.2
          exact Transition.answers_of_returned (outcome.trans emplaced) shows
      · next fails =>
          obtain ⟨e, w, emplaced, shows⟩ := emplace_failed (E := E) found fails
          exact Transition.answers_of_thrown (outcome.trans emplaced) shows

theorem Frame.Live.erased {c : Connection} {fr : Frame} (live : Frame.Live core f c 0 [] [] fr)
    (passive : c.state.resets = true → E.Passive) :
    Frame.Gone core f (E.dismiss c).packets (E.dismiss c).events (fr.erased E) := by
  have gone : Frame.Gone core f [] [] fr.unlinked :=
    ⟨live.friend, rfl, by simp [Frame.unlinked, World.setConnection, live.core_eq, live.friend,
      ToxTunCore.put], live.packets, live.events⟩
  have clock : fr.unlinked.world.clock = 0 := live.clock_eq
  have state : fr.unlinked.self.state = c.state := congrArg Connection.state live.self_eq
  have said (packetId : PacketId) := gone.tried (E := E) (Data.fromPacketId packetId)
  simp only [clock, List.nil_append] at said
  have closed (resets : c.state.resets = true) :=
    (said .connectionReset).raise (passive resets) .connectionClosed
  have left : Frame.Gone core f (E.dismiss c).packets (E.dismiss c).events
      (fr.unlinked.farewell E) := by
    simp only [Frame.farewell, Env.dismiss, state, clock]
    cases h : c.state with
    | friendsRequestPending => exact said .connectionReject
    | ownRequestPending => exact closed (by rw [h]; rfl)
    | expectingIpPacket => exact closed (by rw [h]; rfl)
    | expectingIpConfirmation => exact closed (by rw [h]; rfl)
    | connected => exact said .connectionClose
    | deleting => exact gone
  have freed := left.log (e := .destroyed (fr.unlinked.farewell E).connectedFriend) rfl rfl
  rw [fr.erased_eq E (live.self_eq.symm ▸ passive)]
  exact ⟨freed.friend, freed.unlinked, freed.core_eq, freed.packets, freed.events⟩

include passive

theorem erase_dismiss (registered : core.callbackFunction = true) (c : Connection) :
    ∃ w, ToxTunCore.erase E f ⟨core.put f (some c), 0, []⟩ = .returned 1 w ∧
      w.Shows core f (E.dismiss c) := by
  let fr := Frame.enter f c ⟨core.put f (some c), 0, []⟩
  have erased : eraseSelf E fr = .returned () (fr.erased E) :=
    eraseSelf_eq E (show fr.alive = true from rfl) fun _ => registered
  have shows := ((Frame.live_enter (core.put f (some c)) f c).erased fun _ => passive).leave
  refine ⟨(fr.erased E).leave, ?_, ?_, shows.packets, shows.events⟩
  · simp only [fr] at erased
    simp [ToxTunCore.erase, ToxTunCore.connection, onConnection, erased, fr]
  · rw [shows.core_eq, ToxTunCore.put_put]
    cases h : c.state <;> simp [Env.dismiss, h, Env.killedAt]

omit passive in
theorem acceptConnection_found {c : Connection} {w : World} (found : w.core.connections f = some c)
    {fr : Frame} (accepted : LibToxTun.acceptConnection E (Frame.enter f c w) = .returned () fr) :
    ToxTunCore.acceptConnection E f w = .returned () fr.leave := by
  simp only [ToxTunCore.acceptConnection, ToxTunCore.connection, Action.bind_apply,
    Action.read_apply, Outcome.andThen_returned, found, onConnection, accepted,
    Outcome.mapState_returned]

omit passive in
/-- An acceptance that the connection refuses erases the entry before the error goes on. -/
theorem acceptConnection_caught {c : Connection} {w w' : World} {n : Nat}
    (found : w.core.connections f = some c) {fr : Frame} {what : String}
    (refused : LibToxTun.acceptConnection E (Frame.enter f c w) = .thrown (.toxTunError what) fr)
    (erased : ToxTunCore.erase E f fr.leave = .returned n w') :
    ToxTunCore.acceptConnection E f w = .thrown (.toxTunError what) w' := by
  simp only [ToxTunCore.acceptConnection, ToxTunCore.connection, Action.bind_apply,
    Action.read_apply, Outcome.andThen_returned, found, onConnection, refused,
    Outcome.mapState_thrown, erased, Action.throw_apply]

omit passive in
/-- A goodbye that ends the process ends the acceptance. -/
theorem acceptConnection_dropped {c : Connection} {w w' : World}
    (found : w.core.connections f = some c) {fr : Frame} {what : String}
    (refused : LibToxTun.acceptConnection E (Frame.enter f c w) = .thrown (.toxTunError what) fr)
    (ended : ToxTunCore.erase E f fr.leave = .terminated w') :
    ToxTunCore.acceptConnection E f w = .terminated w' := by
  simp only [ToxTunCore.acceptConnection, ToxTunCore.connection, Action.bind_apply,
    Action.read_apply, Outcome.andThen_returned, found, onConnection, refused,
    Outcome.mapState_thrown, ended, Outcome.andThen_terminated]

omit passive in
theorem acceptConnection_ended {c : Connection} {w : World} (found : w.core.connections f = some c)
    {fr : Frame} (ended : LibToxTun.acceptConnection E (Frame.enter f c w) = .terminated fr) :
    ToxTunCore.acceptConnection E f w = .terminated fr.leave := by
  simp only [ToxTunCore.acceptConnection, ToxTunCore.connection, Action.bind_apply,
    Action.read_apply, Outcome.andThen_returned, found, onConnection, ended,
    Outcome.mapState_terminated]

omit passive in
theorem acceptConnection_missing (absent : core.connections f = none) :
    (step core (E, .acceptConnection f)).Answers f ⟨none, [], []⟩ := by
  refine Transition.answers_of_thrown (e := .toxTunError
    "No connection to accept from this friend") ?_ (shows_start absent)
  simp [step, exec, ToxTunCore.acceptConnection, ToxTunCore.connection, absent]

theorem acceptConnection_answers (registered : core.callbackFunction = true) :
    ∃ r, E.reply (core.connections f) .acceptConnection = some r ∧
      (step core (E, .acceptConnection f)).Answers f r := by
  cases found : core.connections f with
  | none => exact ⟨_, rfl, acceptConnection_missing found⟩
  | some c =>
      let fr := Frame.enter f c ⟨core, 0, []⟩
      have live : Frame.Live core f c 0 [] [] fr := Frame.live_enter core f c
      refine ⟨_, rfl, ?_⟩
      dsimp only
      split
      · next ringing =>
          have accepted := acceptConnection_eq E (show fr.alive = true from rfl) registered ringing
          refine Transition.answers_of_returned (acceptConnection_found found accepted) ?_
          have entered := live.enterState .expectingIpPacket
          simp only [Frame.accepted, entered.clock_eq]
          cases sends : E.sends 0 with
          | true =>
              simp only [if_true]
              exact (entered.sent _).leave
          | false =>
              simp only [Bool.false_eq_true, if_false]
              exact ((entered.unsent _).killed passive).leave
      · next silent =>
          have refused := acceptConnection_refused E (show fr.alive = true from rfl) silent
          have left : fr.leave = ⟨core.put f (some c), 0, []⟩ := rfl
          obtain ⟨w, erased, shows⟩ := erase_dismiss passive (f := f) registered c
          rw [← left] at erased
          exact Transition.answers_of_thrown (acceptConnection_caught found refused erased) shows

omit passive in
theorem erase_missing (absent : core.connections f = none) (op : Op)
    (erases : (exec E op ⟨core, 0, []⟩) =
      ((ToxTunCore.erase E f ⟨core, 0, []⟩).andThen fun _ => pure ()).guarded) :
    (step core (E, op)).Answers f ⟨none, [], []⟩ := by
  refine Transition.answers_of_returned ?_ (shows_start absent)
  rw [show (step core (E, op)).outcome = _ from erases, ToxTunCore.erase_absent E absent]
  rfl

theorem erase_answers (registered : core.callbackFunction = true) (op : Op)
    (erases : (exec E op ⟨core, 0, []⟩) =
      ((ToxTunCore.erase E f ⟨core, 0, []⟩).andThen fun _ => pure ()).guarded) :
    (step core (E, op)).Answers f (match core.connections f with
      | some c => E.dismiss c
      | none => ⟨none, [], []⟩) := by
  have outcome : (step core (E, op)).outcome = _ := erases
  cases found : core.connections f with
  | none => exact erase_missing found op erases
  | some c =>
      obtain ⟨w, erased, shows⟩ := erase_dismiss passive (f := f) registered c
      rw [ToxTunCore.put_eq_self found] at erased
      refine Transition.answers_of_returned ?_ shows
      rw [outcome, erased]
      rfl

/-! ## Frames from the device -/

omit passive in
theorem toxPackets_lossy (E : Env) (buffer : List UInt8) (index : UInt8) :
    ∀ p ∈ toxPackets E (Data.tunData buffer) index, p.getSendTox = .ok .lossy := by
  intro p hp
  unfold toxPackets at hp
  split at hp
  · rw [List.mem_singleton.mp hp]
    rfl
  · rw [Data.getSplitted_eq, List.mem_reverse, List.mem_map] at hp
    obtain ⟨g, -, rfl⟩ := hp
    simp only [Data.getSendTox, g.getToxHeader]
    rfl

omit passive in
theorem onWorld_sendAll_cons {p : Data} (lossy : p.getSendTox = .ok .lossy) (rest : List Data)
    (fr : Frame) : onWorld (sendAll E fr.connectedFriend (p :: rest)) fr =
      if E.sends fr.world.clock then onWorld (sendAll E fr.connectedFriend rest) (fr.sent p true)
      else .thrown (.toxTunError ("Can't send lossy packet to " ++ toString fr.connectedFriend))
        (fr.sent p false) := by
  simp only [onWorld, Action.zoom_apply, sendAll, Action.bind_apply, lossy, Action.ofExcept_ok,
    Outcome.andThen_returned, toxFriendSend]
  cases E.sends fr.world.clock <;> rfl

omit passive in
/-- The packets of a frame go out until tox refuses one; the connection is unchanged. -/
theorem onWorld_sendAll {c : Connection} {k : Nat} {ps : List Data} {es : List Event} {fr : Frame}
    (live : Frame.Live core f c k ps es fr) {l : List Data}
    (lossy : ∀ p ∈ l, p.getSendTox = .ok .lossy) :
    ∃ fr', (onWorld (sendAll E f l) fr = .returned () fr' ∨
        ∃ what, onWorld (sendAll E f l) fr = .thrown (.toxTunError what) fr') ∧
      Frame.Live core f c (E.sendList k l).2 (ps ++ (E.sendList k l).1) es fr' := by
  induction l generalizing fr k ps with
  | nil => exact ⟨fr, .inl rfl, by simpa [Env.sendList] using live⟩
  | cons p rest ih =>
      have first := onWorld_sendAll_cons (E := E) (lossy p List.mem_cons_self) rest fr
      rw [live.friend, live.clock_eq] at first
      simp only [first, Env.sendList]
      cases sends : E.sends k with
      | true =>
          obtain ⟨fr', ends, after⟩ := ih (live.sent p) fun q hq => lossy q (List.mem_cons_of_mem _ hq)
          exact ⟨fr', ends, by simpa using after⟩
      | false => exact ⟨fr.sent p false, .inr ⟨_, rfl⟩, by simpa using live.unsent p⟩

omit passive in
theorem sendToTox_live {c : Connection} {k : Nat} {ps : List Data} {es : List Event} {fr : Frame}
    (live : Frame.Live core f c k ps es fr) (buffer : List UInt8) :
    let d := Data.tunData buffer
    let sent := E.sendList k (toxPackets E d c.nextFragmentIndex)
    ∃ fr', catchToxTunError (sendToTox E d) (pure ()) fr = .returned () fr' ∧
      Frame.Live core f (if d.getToxDataLen ≤ E.maxPacketSize then c
        else { c with nextFragmentIndex :=
          if c.nextFragmentIndex = 255 then 0 else c.nextFragmentIndex + 1 }) sent.2
        (ps ++ sent.1) es fr' := by
  intro d sent
  have lossy := toxPackets_lossy E buffer c.nextFragmentIndex
  have caught {a : Code Frame Unit} {fr' : Frame} (ends : a fr = .returned () fr' ∨
      ∃ what, a fr = .thrown (.toxTunError what) fr') :
      catchToxTunError a (pure ()) fr = .returned () fr' := by
    obtain returned | ⟨what, thrown⟩ := ends
    · exact catchToxTunError_returned returned
    · exact catchToxTunError_thrown thrown
  have start : sendToTox E d fr = (if ¬ d.getToxDataLen ≤ E.maxPacketSize then
      onWorld (sendAll E f (toxPackets E d c.nextFragmentIndex)) { fr with self := { c with
        nextFragmentIndex := if c.nextFragmentIndex = 255 then 0 else c.nextFragmentIndex + 1 } }
      else onWorld (sendAll E f (toxPackets E d c.nextFragmentIndex)) fr) := by
    simp only [sendToTox, Action.bind_apply, getFriend_apply, getMember_apply,
      Frame.touch_of_alive live.alive, Outcome.andThen_returned, live.self_eq, live.friend,
      sendToToxIndexed]
    split
    · simp only [Action.bind_apply, setMember_apply, Frame.touch_of_alive live.alive, live.self_eq,
        Outcome.andThen_returned]
      rw [live.friend]
    · rfl
  by_cases short : d.getToxDataLen ≤ E.maxPacketSize
  · rw [if_neg (not_not.mpr short)] at start
    rw [if_pos short]
    obtain ⟨fr', ends, after⟩ := onWorld_sendAll live lossy
    exact ⟨fr', caught (start ▸ ends), after⟩
  · rw [if_pos short] at start
    rw [if_neg short]
    obtain ⟨fr', ends, after⟩ := onWorld_sendAll (live.member { c with nextFragmentIndex :=
      if c.nextFragmentIndex = 255 then 0 else c.nextFragmentIndex + 1 }) lossy
    exact ⟨fr', caught (start ▸ ends), after⟩

omit passive in
/-- What is read is sent; the `std::out_of_range` of an empty frame ends the process. -/
theorem forwardRead_live {c : Connection} {k : Nat} {ps : List Data} {es : List Event} {fr : Frame}
    (live : Frame.Live core f c k ps es fr) (read : Option (List UInt8)) :
    let o := forwardRead E (Data.ofRead read) fr
    match read with
    | some [] => o = .terminated fr
    | some buffer =>
        let d := Data.tunData buffer
        let sent := E.sendList k (toxPackets E d c.nextFragmentIndex)
        ∃ fr', o = .returned () fr' ∧
          Frame.Live core f (if d.getToxDataLen ≤ E.maxPacketSize then c
            else { c with nextFragmentIndex :=
              if c.nextFragmentIndex = 255 then 0 else c.nextFragmentIndex + 1 }) sent.2
            (ps ++ sent.1) es fr'
    | none => o = .returned () fr := by
  match read with
  | none => rfl
  | some [] => rfl
  | some (byte :: bytes) =>
      obtain ⟨fr', sent, after⟩ := sendToTox_live (E := E) live (byte :: bytes)
      exact ⟨fr', congrArg Outcome.guarded sent, after⟩

omit passive in
theorem iterate_cons {fr : Frame} (alive : fr.alive = true) (connected : fr.self.state = .connected)
    (read : Except Exn Data) (reads : List (Except Exn Data)) :
    LibToxTun.iterate E (read :: reads) fr =
      (forwardRead E read fr).andThen fun _ => LibToxTun.iterate E reads := by
  simp only [LibToxTun.iterate, Action.bind_apply, getMember_apply, Frame.touch_of_alive alive,
    Outcome.andThen_returned, connected, if_true, Action.modify_apply]

omit passive in
theorem iterate_live {c : Connection} {k : Nat} {ps : List Data} {es : List Event} {fr : Frame}
    (connected : c.state = .connected) (live : Frame.Live core f c k ps es fr)
    {reads : List (Option (List UInt8))} (frames : some [] ∉ reads) :
    ∃ fr' k', LibToxTun.iterate E (reads.map Data.ofRead) fr = .returned () fr' ∧
      Frame.Live core f (E.forward k c reads).1 k' (ps ++ (E.forward k c reads).2) es fr' := by
  induction reads generalizing c k ps fr with
  | nil => exact ⟨fr, k, rfl, by simpa [Env.forward] using live⟩
  | cons read reads ih =>
      obtain ⟨frame, rest⟩ := List.ne_and_not_mem_of_not_mem_cons frames
      have round := iterate_cons (E := E) live.alive (by rw [live.self_eq, connected]) (Data.ofRead read)
        (reads.map Data.ofRead)
      have forwarded := forwardRead_live (E := E) live read
      rw [List.map_cons, round]
      match read with
      | none =>
          obtain ⟨fr', k', run, after⟩ := ih connected live rest
          exact ⟨fr', k', by rw [forwarded]; exact run, by simpa [Env.forward] using after⟩
      | some [] => exact (frame rfl).elim
      | some (byte :: bytes) =>
          obtain ⟨fr1, sent, after⟩ := forwarded
          have state : (if (Data.tunData (byte :: bytes)).getToxDataLen ≤ E.maxPacketSize then c
              else { c with nextFragmentIndex :=
                if c.nextFragmentIndex = 255 then 0 else c.nextFragmentIndex + 1 }).state =
              .connected := by
            split <;> exact connected
          obtain ⟨fr', k', run, last⟩ := ih state after rest
          refine ⟨fr', k', ?_, ?_⟩
          · rw [sent]
            exact run
          · simpa [Env.forward, List.append_assoc] using last

omit passive in
/-- An empty frame among those that are read ends the process. -/
theorem iterate_ended {c : Connection} {k : Nat} {ps : List Data} {es : List Event} {fr : Frame}
    (connected : c.state = .connected) (live : Frame.Live core f c k ps es fr)
    {reads : List (Option (List UInt8))} (empty : some [] ∈ reads) :
    ∃ fr', LibToxTun.iterate E (reads.map Data.ofRead) fr = .terminated fr' := by
  induction reads generalizing c k ps fr with
  | nil => cases empty
  | cons read reads ih =>
      have round := iterate_cons (E := E) live.alive (by rw [live.self_eq, connected]) (Data.ofRead read)
        (reads.map Data.ofRead)
      have forwarded := forwardRead_live (E := E) live read
      rw [List.map_cons, round]
      match read with
      | none =>
          rw [forwarded]
          exact ih connected live (by simpa using empty)
      | some [] =>
          rw [forwarded]
          exact ⟨fr, rfl⟩
      | some (byte :: bytes) =>
          obtain ⟨fr1, sent, after⟩ := forwarded
          rw [sent]
          exact ih (by split <;> exact connected) after (by simpa using empty)

omit passive in
/-- One call of `iterate` gives the reply, or ends the process where there is none. -/
theorem iterate_answers (core : ToxTunCore) (reads : List (Option (List UInt8))) :
    match E.reply (core.connections f) (.iterate reads) with
    | some r => (step core (E, (Call.iterate reads).op f)).Answers f r
    | none => (step core (E, (Call.iterate reads).op f)).after = none := by
  cases found : core.connections f with
  | none =>
      refine Transition.answers_of_returned ?_ (shows_start found)
      simp [step, exec, Call.op, ToxTunCore.iterate, ToxTunCore.connection, found]
  | some c =>
      have live : Frame.Live core f c 0 [] [] (Frame.enter f c ⟨core, 0, []⟩) :=
        Frame.live_enter core f c
      have outcome : (step core (E, (Call.iterate reads).op f)).outcome =
          ((LibToxTun.iterate E (reads.map Data.ofRead)
            (Frame.enter f c ⟨core, 0, []⟩)).mapState Frame.leave).guarded := by
        simp [step, exec, Call.op, ToxTunCore.iterate, ToxTunCore.connection, found, onConnection]
      by_cases connected : c.state = .connected
      · by_cases empty : some [] ∈ reads
        · obtain ⟨fr', run⟩ := iterate_ended (E := E) connected live empty
          simp only [Env.reply, if_pos connected, if_pos empty]
          rw [Transition.after, outcome, run]
          rfl
        · obtain ⟨fr', k', run, after⟩ := iterate_live (E := E) connected live empty
          simp only [Env.reply, if_pos connected, if_neg empty]
          rw [run] at outcome
          exact Transition.answers_of_returned outcome after.leave
      · have run : LibToxTun.iterate E (reads.map Data.ofRead)
            (Frame.enter f c ⟨core, 0, []⟩) = .returned () (Frame.enter f c ⟨core, 0, []⟩) := by
          cases reads with
          | nil => rfl
          | cons read reads =>
              simp [LibToxTun.iterate, Frame.touch_of_alive live.alive, live.self_eq, connected]
        simp only [Env.reply, if_neg connected]
        rw [run] at outcome
        exact Transition.answers_of_returned outcome live.leave

omit passive in
theorem iterate_replies {reads : List (Option (List UInt8))} {r : Reply}
    (reply : E.reply (core.connections f) (.iterate reads) = some r) :
    (step core (E, (Call.iterate reads).op f)).Answers f r := by
  have answers := iterate_answers (E := E) (f := f) core reads
  rwa [reply] at answers

omit passive in
theorem iterate_replied {reads : List (Option (List UInt8))} {next : ToxTunCore}
    (after : (step core (E, (Call.iterate reads).op f)).after = some next) :
    ∃ r, E.reply (core.connections f) (.iterate reads) = some r ∧
      (step core (E, (Call.iterate reads).op f)).Answers f r := by
  have answers := iterate_answers (E := E) (f := f) core reads
  cases reply : E.reply (core.connections f) (.iterate reads) with
  | some r => exact ⟨r, rfl, iterate_replies reply⟩
  | none =>
      rw [reply, after] at answers
      cases answers

/-- Every step gives the reply, or ends the process where
there is none. -/
theorem step_reply (registered : core.callbackFunction = true) (call : Call) :
    match E.reply (core.connections f) call with
    | some r => (step core (E, call.op f)).Answers f r
    | none => (step core (E, call.op f)).after = none := by
  cases call with
  | receive dataRaw => exact receive_answers passive registered dataRaw
  | iterate reads =>
      exact iterate_answers core reads
  | sendConnectionRequest =>
      obtain ⟨r, hr, answers⟩ := sendConnectionRequest_answers core
      rw [hr]
      exact answers
  | acceptConnection =>
      obtain ⟨r, hr, answers⟩ := acceptConnection_answers passive (f := f) registered
      rw [hr]
      exact answers
  | rejectConnection =>
      have answers := erase_answers passive (f := f) registered (.rejectConnection f) rfl
      simp only [Env.reply]
      cases found : core.connections f <;> rw [found] at answers <;> exact answers
  | closeConnection =>
      have answers := erase_answers passive (f := f) registered (.closeConnection f) (by
        simp [exec, ToxTunCore.closeConnection, ToxTunCore.deleteConnection])
      simp only [Env.reply]
      cases found : core.connections f <;> rw [found] at answers <;> exact answers

end

end LibToxTun
