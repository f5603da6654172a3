import LibToxTun.Core.Reception

/-! # What an endpoint answers

When the callback does not interfere, the operation of a core on one friend amounts
to a reply: the connection to the friend afterwards, the packets that tox took and
the events raised. The rest of the table is untouched.
-/

namespace LibToxTun

open Foundation

/-- The environment takes every packet, and the user stays out of the callback. -/
structure Env.Reliable (E : Env) : Prop where
  passive : E.Passive
  sends : ∀ clock, E.sends clock = true

theorem Env.obliging_reliable (usedIp4 : Nat → Option (List Ip4)) : (obliging usedIp4).Reliable :=
  ⟨obliging_passive usedIp4, fun _ => rfl⟩

structure Reply where
  connection : Option Connection
  packets : List Data
  events : List Event

/-- What tox takes of a packet it is given at a clock. -/
def Env.taken (E : Env) (clock : Nat) (d : Data) : List Data := if E.sends clock then [d] else []

/-- The packet that tox took for a friend. -/
def Effect.packetTo (f : UInt32) : Effect → Option Data
  | .sent g d true => if g = f then some d else none
  | _ => none

def Effect.eventOf (f : UInt32) : Effect → Option Event
  | .raised e g => if g = f then some e else none
  | _ => none

def ToxTunCore.put (core : ToxTunCore) (f : UInt32) (c : Option Connection) : ToxTunCore :=
  { core with connections := Function.update core.connections f c }

section
variable (core : ToxTunCore) (f : UInt32) (c c' : Option Connection)

@[simp] theorem ToxTunCore.put_put : (core.put f c).put f c' = core.put f c' := by
  simp [ToxTunCore.put]

@[simp] theorem ToxTunCore.put_self : (core.put f c).connections f = c := by
  simp [ToxTunCore.put]

theorem ToxTunCore.put_other {g : UInt32} (other : g ≠ f) :
    (core.put f c).connections g = core.connections g := by
  simp [ToxTunCore.put, other]

@[simp] theorem ToxTunCore.put_callbackFunction :
    (core.put f c).callbackFunction = core.callbackFunction := rfl

variable {core f c} in
theorem ToxTunCore.put_eq_self (h : core.connections f = c) : core.put f c = core := by
  simp [ToxTunCore.put, ← h]

end

/-- The world shows a reply of a core to a friend. -/
structure World.Shows (core : ToxTunCore) (f : UInt32) (r : Reply) (w : World) : Prop where
  core_eq : w.core = core.put f r.connection
  packets : w.trace.filterMap (Effect.packetTo f) = r.packets
  events : w.trace.filterMap (Effect.eventOf f) = r.events

/-! ## Frames on the way to a reply -/

namespace Frame

/-- The connection is as given, and so are the packets and events so far. -/
structure Live (core : ToxTunCore) (f : UInt32) (c : Connection) (clock : Nat) (ps : List Data)
    (es : List Event) (fr : Frame) : Prop where
  friend : fr.connectedFriend = f
  linked : fr.linked = true
  alive : fr.alive = true
  core_eq : fr.world.core = core
  self_eq : fr.self = c
  clock_eq : fr.world.clock = clock
  packets : fr.world.trace.filterMap (Effect.packetTo f) = ps
  events : fr.world.trace.filterMap (Effect.eventOf f) = es

/-- The connection was deleted. -/
structure Gone (core : ToxTunCore) (f : UInt32) (ps : List Data) (es : List Event) (fr : Frame) :
    Prop where
  friend : fr.connectedFriend = f
  unlinked : fr.linked = false
  core_eq : fr.world.core = core.put f none
  packets : fr.world.trace.filterMap (Effect.packetTo f) = ps
  events : fr.world.trace.filterMap (Effect.eventOf f) = es

section
variable {E : Env} {core : ToxTunCore} {f : UInt32} {c : Connection} {k : Nat} {ps : List Data}
  {es : List Event} {fr : Frame}

theorem live_enter (core : ToxTunCore) (f : UInt32) (c : Connection) :
    Live core f c 0 [] [] (Frame.enter f c ⟨core, 0, []⟩) :=
  ⟨rfl, rfl, rfl, rfl, rfl, rfl, rfl, rfl⟩

theorem Live.leave (h : Live core f c k ps es fr) : fr.leave.Shows core f ⟨some c, ps, es⟩ := by
  refine ⟨?_, ?_, ?_⟩
  · rw [Frame.leave, if_pos h.linked, World.setConnection, h.core_eq, h.friend, h.self_eq]
    rfl
  · rw [leave_trace]
    exact h.packets
  · rw [leave_trace]
    exact h.events

theorem Gone.leave (h : Gone core f ps es fr) : fr.leave.Shows core f ⟨none, ps, es⟩ := by
  refine ⟨?_, ?_, ?_⟩
  · rw [Frame.leave, h.unlinked]
    exact h.core_eq
  · rw [leave_trace]
    exact h.packets
  · rw [leave_trace]
    exact h.events

/-- Effects that are neither packets nor events do not show in the reply. -/
theorem Live.log (h : Live core f c k ps es fr) {e : Effect} (packet : e.packetTo f = none)
    (event : e.eventOf f = none) : Live core f c k ps es (fr.log e) :=
  ⟨h.friend, h.linked, h.alive, h.core_eq, h.self_eq, h.clock_eq,
    by simp [h.packets, packet], by simp [h.events, event]⟩

theorem Gone.log (h : Gone core f ps es fr) {e : Effect} (packet : e.packetTo f = none)
    (event : e.eventOf f = none) : Gone core f ps es (fr.log e) :=
  ⟨h.friend, h.unlinked, h.core_eq, by simp [h.packets, packet], by simp [h.events, event]⟩

theorem Gone.touch (h : Gone core f ps es fr) (field : Field) : Gone core f ps es (fr.touch field) := by
  unfold Frame.touch
  split
  · exact h
  · exact h.log rfl rfl

theorem Live.ticked (h : Live core f c k ps es fr) : Live core f c (k + 1) ps es fr.ticked :=
  ⟨h.friend, h.linked, h.alive, h.core_eq, h.self_eq, congrArg Nat.succ h.clock_eq, h.packets,
    h.events⟩

theorem Live.member (h : Live core f c k ps es fr) (c' : Connection) :
    Live core f c' k ps es { fr with self := c' } :=
  ⟨h.friend, h.linked, h.alive, h.core_eq, rfl, h.clock_eq, h.packets, h.events⟩

theorem Live.sent (h : Live core f c k ps es fr) (d : Data) :
    Live core f c (k + 1) (ps ++ [d]) es (fr.sent d true) :=
  ⟨h.friend, h.linked, h.alive, h.core_eq, h.self_eq, congrArg Nat.succ h.clock_eq,
    by simp [h.packets, h.friend, Effect.packetTo], by simp [h.events, Effect.eventOf]⟩

theorem Live.enterState (h : Live core f c k ps es fr) (s : State) :
    Live core f { c with state := s } k ps es (fr.enterState s) := by
  rw [Frame.enterState, touch_of_alive h.alive, h.self_eq]
  exact (h.member _).log rfl rfl

theorem Live.searched (h : Live core f c k ps es fr) (subnet : Int) (clock : Nat) :
    Live core f { c with subnet := subnet } clock ps es (fr.searched subnet clock) :=
  ⟨h.friend, h.linked, h.alive, h.core_eq, by simp [Frame.searched, h.self_eq], rfl, h.packets,
    h.events⟩

theorem Live.freed (h : Live core f c k ps es fr) : Gone core f ps es fr.freed := by
  let unlinked : Frame :=
    { fr with linked := false, world := fr.world.setConnection fr.connectedFriend none }
  have alive : unlinked.alive = true := h.alive
  rw [Frame.freed, touch_of_alive alive]
  exact ⟨h.friend, rfl, by simp [unlinked, World.setConnection, h.core_eq, h.friend, ToxTunCore.put],
    by simp [unlinked, World.setConnection, h.packets, Effect.packetTo],
    by simp [unlinked, World.setConnection, h.events, Effect.eventOf]⟩

theorem Live.buried (h : Live core f c k ps es fr) : Gone core f ps es fr.buried := by
  have deleting := h.enterState .deleting
  rw [Frame.buried, touch_of_alive deleting.alive]
  simp only [deleting.linked, if_true]
  exact deleting.freed

theorem Live.unsent (h : Live core f c k ps es fr) (d : Data) :
    Live core f c (k + 1) ps es (fr.sent d false) :=
  ⟨h.friend, h.linked, h.alive, h.core_eq, h.self_eq, congrArg Nat.succ h.clock_eq,
    by simp [h.packets, Effect.packetTo], by simp [h.events, Effect.eventOf]⟩

theorem Live.tried (h : Live core f c k ps es fr) (d : Data) :
    Live core f c (k + 1) (ps ++ E.taken k d) es (fr.sent d (E.sends fr.world.clock)) := by
  rw [h.clock_eq, Env.taken]
  cases E.sends k with
  | true => exact h.sent d
  | false => simpa using h.unsent d

theorem Gone.tried (h : Gone core f ps es fr) (d : Data) :
    Gone core f (ps ++ E.taken fr.world.clock d) es (fr.sent d (E.sends fr.world.clock)) := by
  refine ⟨h.friend, h.unlinked, h.core_eq, ?_, by simp [h.events, Effect.eventOf]⟩
  rw [Env.taken]
  cases E.sends fr.world.clock <;> simp [h.packets, h.friend, Effect.packetTo]

theorem Gone.enterState (h : Gone core f ps es fr) (s : State) : Gone core f ps es (fr.enterState s) := by
  have touched := h.touch .state
  rw [Frame.enterState]
  have assigned : Gone core f ps es { fr.touch .state with self := { fr.self with state := s } } :=
    ⟨touched.friend, touched.unlinked, touched.core_eq, touched.packets, touched.events⟩
  exact assigned.log rfl rfl

variable (passive : E.Passive)
include passive

theorem Gone.raise (h : Gone core f ps es fr) (event : Event) :
    Gone core f ps (es ++ [event]) (fr.raise E event) := by
  rw [Frame.raise, passive]
  exact ⟨h.friend, h.unlinked, h.core_eq, by simp [h.packets, Effect.packetTo],
    by simp [h.events, h.friend, Effect.eventOf]⟩

theorem Live.raise (h : Live core f c k ps es fr) (event : Event) :
    Live core f c k ps (es ++ [event]) (fr.raise E event) := by
  rw [Frame.raise, passive]
  exact ⟨h.friend, h.linked, h.alive, h.core_eq, h.self_eq, h.clock_eq,
    by simp [h.packets, Effect.packetTo], by simp [h.events, h.friend, Effect.eventOf]⟩

theorem Live.killed (h : Live core f c k ps es fr) :
    Gone core f (ps ++ E.taken k (Data.fromPacketId .connectionReset)) (es ++ [.connectionClosed])
      (fr.killed E) :=
  ((h.tried _).raise passive _).buried

theorem Live.ipSet (h : Live core f c k ps es fr) (subnet ipPostfix : UInt8) :
    Live core f { c with tun := ⟨some (subnet, ipPostfix)⟩, state := .connected } k ps
      (es ++ [.connectionAccepted]) (fr.ipSet E subnet ipPostfix) := by
  rw [Frame.ipSet, touch_of_alive h.alive, h.self_eq]
  have device : Live core f { c with tun := ⟨some (subnet, ipPostfix)⟩ } k ps es
      ({ fr with self := { c with tun := ⟨some (subnet, ipPostfix)⟩ } }.log
        (.ipSet fr.connectedFriend subnet ipPostfix)) := (h.member _).log rfl rfl
  have entered := device.enterState .connected
  rw [touch_of_alive entered.alive]
  exact entered.raise passive _

theorem Gone.ipSet (h : Gone core f ps es fr) (subnet ipPostfix : UInt8) :
    Gone core f ps (es ++ [.connectionAccepted]) (fr.ipSet E subnet ipPostfix) := by
  have touched := h.touch .tun
  let device : Frame :=
    { fr.touch .tun with self := { fr.self with tun := ⟨some (subnet, ipPostfix)⟩ } }
  have gone : Gone core f ps es device :=
    ⟨touched.friend, touched.unlinked, touched.core_eq, touched.packets, touched.events⟩
  have logged := gone.log (e := .ipSet fr.connectedFriend subnet ipPostfix) rfl rfl
  exact ((logged.enterState .connected).touch .connectedFriend).raise passive _

end

end Frame

/-! ## The reply to a packet -/

namespace Reply

/-- Nothing is sent. -/
def kept (c : Connection) : Reply := ⟨some c, [], []⟩

/-- The connection is reset. -/
def killed : Reply := ⟨none, [Data.fromPacketId .connectionReset], [.connectionClosed]⟩

end Reply

namespace Env

variable (E : Env)

/-- The connection is reset, whether or not tox takes the packet. -/
def killedAt (clock : Nat) : Reply :=
  ⟨none, E.taken clock (Data.fromPacketId .connectionReset), [.connectionClosed]⟩

/-- The next proposal, from the subnet after the last one tried. -/
def propose (c : Connection) : Reply :=
  match E.search (2 ^ 16) c.subnet 0 with
  | some (subnet, clock, true) =>
      if E.sends clock then
        ⟨some { c with subnet := subnet }, [Data.fromIpPostfix (UInt8.ofInt subnet) 2], []⟩
      else E.killedAt (clock + 1)
  | some (_, clock, false) => E.killedAt clock
  | none => .kept c

/-- The answer to a proposal. When it is not sent the connection is reset, and yet an
acceptance is announced. -/
def consider (c : Connection) (subnet ipPostfix : UInt8) : Reply :=
  if E.unusedAt 0 subnet then
    if E.sends 1 then
      ⟨some { c with tun := ⟨some (subnet, ipPostfix)⟩, state := .connected },
        [Data.fromPacketId .ipAccept], [.connectionAccepted]⟩
    else { E.killedAt 2 with events := [.connectionClosed, .connectionAccepted] }
  else if E.sends 1 then ⟨some c, [Data.fromPacketId .ipReject], []⟩
  else E.killedAt 2

/-- The reply of a connection to a packet that is no fragment. -/
def respond (c : Connection) (d : Data) : Reply :=
  match PacketId.ofByte d.header with
  | .connectionRequest => .kept c
  | .connectionAccept =>
      if c.state = .ownRequestPending then E.propose { c with state := .expectingIpConfirmation }
      else E.killedAt 0
  | .connectionReject =>
      if c.state = .ownRequestPending then ⟨none, [], [.connectionRejected]⟩ else E.killedAt 0
  | .connectionClose =>
      if c.state = .connected then ⟨none, [], [.connectionClosed]⟩ else E.killedAt 0
  | .connectionReset => ⟨none, [], [.connectionClosed]⟩
  | .ipProposal =>
      if c.state = .expectingIpPacket then
        match proposalBytes d with
        | .ok (subnet, ipPostfix) => E.consider c subnet ipPostfix
        | .error _ => .kept c
      else E.killedAt 0
  | .ipAccept =>
      if c.state = .expectingIpConfirmation then
        ⟨some { c with tun := ⟨some (UInt8.ofInt c.subnet, 1)⟩, state := .connected }, [],
          [.connectionAccepted]⟩
      else E.killedAt 0
  | .ipReject => if c.state = .expectingIpConfirmation then E.propose c else E.killedAt 0
  | .data => if c.state = .connected then .kept c else E.killedAt 0
  | .fragment => .kept c
  | .unnamed _ => .kept c

variable {E}

/-! A reliable tox takes what it is given. -/

@[simp] theorem Reliable.taken (reliable : E.Reliable) (clock : Nat) (d : Data) :
    E.taken clock d = [d] := if_pos (reliable.sends clock)

@[simp] theorem Reliable.killedAt (reliable : E.Reliable) (clock : Nat) :
    E.killedAt clock = .killed := by simp [Env.killedAt, reliable.taken, Reply.killed]

end Env

namespace Frame

/-- The frame has come to a reply. -/
def Meets (core : ToxTunCore) (f : UInt32) (r : Reply) (fr : Frame) : Prop :=
  match r.connection with
  | some c => ∃ k, Live core f c k r.packets r.events fr
  | none => Gone core f r.packets r.events fr

section
variable {E : Env} {core : ToxTunCore} {f : UInt32} {c : Connection} {r : Reply} {fr : Frame}

theorem Meets.leave (h : fr.Meets core f r) : fr.leave.Shows core f r := by
  obtain ⟨connection, ps, es⟩ := r
  cases connection with
  | some c => obtain ⟨k, live⟩ := h; exact live.leave
  | none => exact Gone.leave h

theorem Meets.unwound (h : fr.Meets core f r) (joins : Nat) : (fr.unwound joins).Meets core f r := by
  induction joins with
  | zero => exact h
  | succ joins ih =>
      rw [Frame.unwound, Function.iterate_succ_apply']
      obtain ⟨connection, ps, es⟩ := r
      cases connection with
      | some c =>
          obtain ⟨k, live⟩ := ih
          exact ⟨k, by rw [← Frame.unwound, Frame.afterNested_of_alive live.alive]; exact live⟩
      | none => exact (Gone.touch ih _).touch _

theorem Meets.written (h : fr.Meets core f r) (d : Data) : (fr.written d).Meets core f r := by
  obtain ⟨connection, ps, es⟩ := r
  cases connection with
  | some c =>
      obtain ⟨k, live⟩ := h
      have write := live.log (e := .tunWrite fr.connectedFriend fr.self.state d) rfl rfl
      rw [Frame.written, touch_of_alive live.alive]
      split
      · exact ⟨k, write⟩
      · exact ⟨k + 1, write.ticked⟩
  | none =>
      have write := (Gone.touch h .tun).log (e := .tunWrite fr.connectedFriend fr.self.state d) rfl rfl
      rw [Frame.written]
      split
      · exact write
      · exact ⟨write.friend, write.unlinked, write.core_eq, write.packets, write.events⟩

variable (passive : E.Passive)
include passive

theorem Live.proposed (h : Live core f c 0 [] [] fr) : (fr.proposed E).Meets core f (E.propose c) := by
  obtain ⟨⟨subnet, clock, found⟩, search⟩ := search_total E c.subnet 0
  simp only [Frame.proposed, Env.propose, h.self_eq, h.clock_eq, search]
  have searched := h.searched subnet clock
  cases found with
  | false => exact searched.killed passive
  | true =>
      cases sends : E.sends clock with
      | true =>
          simp only [sends, if_true]
          exact ⟨_, searched.sent _⟩
      | false =>
          simp only [sends, Bool.false_eq_true, if_false]
          exact (searched.unsent _).killed passive

theorem Live.answered (h : Live core f c 0 [] [] fr) (subnet ipPostfix : UInt8) :
    (fr.answered E subnet ipPostfix).Meets core f (E.consider c subnet ipPostfix) := by
  have clock : fr.ticked.world.clock = 1 := h.ticked.clock_eq
  simp only [Frame.answered, Env.consider, clock, h.clock_eq]
  cases sends : E.sends 1 with
  | true =>
      simp only [if_true]
      split
      · exact ⟨_, (h.ticked.sent _).ipSet passive _ _⟩
      · exact ⟨_, h.ticked.sent _⟩
  | false =>
      simp only [Bool.false_eq_true, if_false]
      split
      · exact ((h.ticked.unsent _).killed passive).ipSet passive _ _
      · exact (h.ticked.unsent _).killed passive

theorem Live.handled (h : Live core f c 0 [] [] fr) (d : Data) :
    (fr.handled E d).Meets core f (E.respond c d) := by
  have killed : (fr.killed E).Meets core f (E.killedAt 0) := h.killed passive
  have kept : fr.Meets core f (.kept c) := ⟨0, h⟩
  simp only [Frame.handled, Env.respond]
  cases PacketId.ofByte d.header with
  | connectionRequest => exact kept
  | connectionAccept =>
      simp only [afterAccept, h.self_eq]
      split
      · exact (h.enterState _).proposed passive
      · exact killed
  | connectionReject =>
      simp only [afterReject, h.self_eq]
      split
      · exact (h.raise passive _).buried
      · exact killed
  | connectionClose =>
      simp only [afterClose, h.self_eq]
      split
      · have raised := h.raise passive .connectionClosed
        rw [touch_of_alive raised.alive]
        exact raised.buried
      · exact killed
  | connectionReset => exact (h.raise passive _).buried
  | ipProposal =>
      simp only [afterProposal, h.self_eq]
      split
      · cases proposalBytes d with
        | error e => exact kept
        | ok pair => exact h.answered passive pair.1 pair.2
      · exact killed
  | ipAccept =>
      simp only [afterIpAccept, h.self_eq]
      split
      · exact ⟨_, h.ipSet passive _ _⟩
      · exact killed
  | ipReject =>
      simp only [afterIpReject, h.self_eq]
      split
      · exact h.proposed passive
      · exact killed
  | data =>
      simp only [afterData, h.self_eq]
      split
      · exact kept.written d
      · exact killed.written d
  | fragment => exact kept
  | unnamed b => exact kept

end

end Frame

end LibToxTun
