import Mathlib.Algebra.Order.BigOperators.Group.List
import LibToxTun.Core.Mute
import LibToxTun.Foundation.Duplex
import LibToxTun.Foundation.Run

/-! # The protocol comes to rest

Two endpoints that are left alone: packets that are in flight are delivered in any
order or lost, and nobody calls the library. Every packet has a weight, and so has a
connection that still proposes subnets; a packet that is delivered is heavier than
all that it causes, so the weight of the net bounds the number of deliveries.
-/

namespace LibToxTun

open Foundation

/-! ## Weights -/

/-- A reset causes nothing, a proposal may be answered. -/
def Data.weight (d : Data) : Nat :=
  match PacketId.ofByte d.header with
  | .connectionReset => 1
  | .ipProposal => 3
  | _ => 2

def weightOf (l : List Data) : Nat := (l.map Data.weight).sum

/-- The proposals a connection may still make, with their answers. -/
def Connection.potential (c : Connection) : Nat :=
  match c.state with
  | .ownRequestPending => 2 * (256 - c.subnet).toNat
  | .expectingIpConfirmation => 2 * (256 - c.subnet).toNat
  | _ => 0

def potentialOf (c : Option Connection) : Nat := (c.map Connection.potential).getD 0

/-- The subnet counter of a connection is that of a search that goes on. -/
def InRange (c : Option Connection) : Prop := ∀ c', c = some c' → -1 ≤ c'.subnet ∧ c'.subnet ≤ 255

/-- The packets that the library sends of its own accord are no fragments. -/
def Whole (l : List Data) : Prop :=
  ∀ d ∈ l, d.toxHeaderSet = true ∧ PacketId.ofByte d.header ≠ .fragment

/-- All that a reply leaves behind weighs no more than a bound. -/
structure Reply.Within (r : Reply) (bound : Nat) : Prop where
  weight : weightOf r.packets + potentialOf r.connection ≤ bound
  range : InRange r.connection
  whole : Whole r.packets

section
variable {E : Env}

theorem Reply.Within.mono {r : Reply} {m n : Nat} (h : r.Within m) (le : m ≤ n) : r.Within n :=
  ⟨Nat.le_trans h.weight le, h.range, h.whole⟩

theorem inRange_none : InRange none := fun _ h => by cases h

theorem whole_nil : Whole [] := fun _ h => by cases h

theorem whole_singleton {d : Data} (set : d.toxHeaderSet = true)
    (other : PacketId.ofByte d.header ≠ .fragment) : Whole [d] := by
  intro d' h
  rw [List.mem_singleton.mp h]
  exact ⟨set, other⟩

theorem silent_within {c : Option Connection} (range : InRange c) (events : List Event) :
    Reply.Within ⟨c, [], events⟩ (potentialOf c) :=
  ⟨by simp [weightOf], range, whole_nil⟩

theorem single_within {c : Option Connection} (range : InRange c) {d : Data} (whole : Whole [d])
    (events : List Event) : Reply.Within ⟨c, [d], events⟩ (d.weight + potentialOf c) :=
  ⟨by simp [weightOf], range, whole⟩

theorem whole_reset : Whole [Data.fromPacketId .connectionReset] :=
  whole_singleton rfl (by decide)

theorem reset_within (clock : Nat) (events : List Event) :
    Reply.Within ⟨none, E.taken clock (Data.fromPacketId .connectionReset), events⟩ 1 := by
  unfold Env.taken
  split
  · exact single_within inRange_none whole_reset events
  · exact (silent_within inRange_none events).mono (Nat.zero_le 1)

theorem killed_within (clock : Nat) : (E.killedAt clock).Within 1 := reset_within clock _

/-- A proposal is paid by the subnets that are left behind. -/
theorem propose_within {c : Connection} (range : InRange (some c))
    (state : c.state = .expectingIpConfirmation) :
    (E.propose c).Within (1 + c.potential) := by
  obtain ⟨low, high⟩ := range c rfl
  obtain ⟨⟨subnet, clock, found⟩, search⟩ := search_total E c.subnet 0
  have searched := search_searched E low high search
  have killed (clock : Nat) : (E.killedAt clock).Within (1 + c.potential) :=
    (killed_within clock).mono (Nat.le_add_right 1 _)
  simp only [Env.propose, search]
  cases found with
  | false => exact killed clock
  | true =>
      have above := searched.above
      have below := (searched.passed rfl).1
      cases sends : E.sends clock with
      | false => simpa [sends] using killed (clock + 1)
      | true =>
          have range' : InRange (some { c with subnet := subnet }) := by
            intro c' h
            cases h
            exact ⟨by dsimp only; omega, below⟩
          have whole : Whole [Data.fromIpPostfix (UInt8.ofInt subnet) 2] :=
            whole_singleton rfl (show PacketId.ofByte PacketId.ipProposal.toByte ≠ .fragment by decide)
          have proposal : (Data.fromIpPostfix (UInt8.ofInt subnet) 2).weight = 3 := rfl
          simp only [sends, if_true]
          refine (single_within range' whole []).mono ?_
          simp only [potentialOf, Option.map_some, Option.getD_some, Connection.potential, state,
            proposal]
          omega

theorem connected_inRange {c : Connection} (range : InRange (some c)) (tun : Tun) :
    InRange (some { c with tun := tun, state := .connected }) := by
  intro c' h
  cases h
  exact range c rfl

theorem consider_within {c : Connection} (range : InRange (some c)) (subnet ipPostfix : UInt8) :
    (E.consider c subnet ipPostfix).Within (2 + c.potential) := by
  have accept : Whole [Data.fromPacketId .ipAccept] := whole_singleton rfl (by decide)
  have reject : Whole [Data.fromPacketId .ipReject] := whole_singleton rfl (by decide)
  have killed (events : List Event) : Reply.Within
      ⟨none, E.taken 2 (Data.fromPacketId .connectionReset), events⟩ (2 + c.potential) :=
    (reset_within 2 events).mono (by omega)
  unfold Env.consider
  split
  · split
    · exact (single_within (connected_inRange range _) accept _).mono (Nat.le_add_right 2 _)
    · exact killed _
  · split
    · exact single_within range reject []
    · exact killed _

/-- What is left of a packet is lighter than the packet. -/
theorem respond_within {c : Connection} (range : InRange (some c)) {d : Data}
    (whole : PacketId.ofByte d.header ≠ .fragment) :
    (E.respond c d).Within (d.weight - 1 + c.potential) := by
  have kept (n : Nat) : (Reply.kept c).Within (n + c.potential) :=
    (silent_within range []).mono (Nat.le_add_left _ n)
  have gone (events : List Event) (n : Nat) : Reply.Within ⟨none, [], events⟩ n :=
    (silent_within inRange_none events).mono (Nat.zero_le n)
  have killed (clock : Nat) : (E.killedAt clock).Within (1 + c.potential) :=
    (killed_within clock).mono (Nat.le_add_right 1 _)
  simp only [Env.respond, Data.weight]
  cases header : PacketId.ofByte d.header with
  | connectionRequest => exact kept 1
  | connectionAccept =>
      dsimp only
      split
      · next own =>
          have proposing := propose_within (E := E)
            (c := { c with state := .expectingIpConfirmation })
            (fun c' h => by cases h; exact range c rfl) rfl
          simpa only [Connection.potential, own] using proposing
      · exact killed 0
  | connectionReject | connectionClose =>
      dsimp only
      split
      · exact gone _ _
      · exact killed 0
  | connectionReset => exact gone _ _
  | ipProposal =>
      dsimp only
      split
      · split
        · exact consider_within range _ _
        · exact kept 2
      · exact (killed 0).mono (by omega)
  | ipAccept =>
      dsimp only
      split
      · exact (silent_within (connected_inRange range _) _).mono (Nat.zero_le _)
      · exact killed 0
  | ipReject =>
      dsimp only
      split
      · next expecting => exact propose_within range expecting
      · exact killed 0
  | data =>
      dsimp only
      split
      · exact kept 1
      · exact killed 0
  | fragment => exact (whole header).elim
  | unnamed b => exact kept 1

/-- A friend without a connection is asked to be left alone. -/
theorem greet_within (d : Data) : (E.greet d).Within (d.weight - 1) := by
  have initial : InRange (some (Connection.initial false)) := by
    intro c h
    cases h
    exact ⟨by decide, by decide⟩
  simp only [Env.greet, Data.weight]
  cases PacketId.ofByte d.header with
  | connectionRequest =>
      dsimp only
      split
      · exact (silent_within initial _).mono (Nat.zero_le 1)
      · exact reset_within 1 _
  | connectionReset => exact silent_within inRange_none []
  | ipProposal => exact (reset_within 0 _).mono (Nat.le_succ 1)
  | _ => exact reset_within 0 _

theorem weight_pos (d : Data) : 1 ≤ d.weight := by
  unfold Data.weight
  split <;> decide

/-- The reply to a packet that is no fragment leaves less behind than there was. -/
theorem receive_within {c : Option Connection} (range : InRange c) {d : Data}
    (whole : PacketId.ofByte d.header ≠ .fragment) :
    ∃ r, E.receive c d = some r ∧ r.Within (d.weight - 1 + potentialOf c) := by
  cases c with
  | none => exact ⟨_, rfl, greet_within d⟩
  | some c =>
      have arrival : c.fragments.arrival d = .packet d 0 c.fragments :=
        Fragments.arrive_whole whole
      exact ⟨_, by rw [Env.receive, arrival], respond_within range whole⟩

end

/-! ## One process -/

/-- What a process leaves behind when it receives a packet: packets, and a connection
unless it has ended. -/
structure Transition.Within (t : Transition) (f : UInt32) (bound : Nat) : Prop where
  weight : weightOf (t.effects.filterMap (Effect.packetTo f)) +
    potentialOf (t.after.bind fun next => next.connections f) ≤ bound
  range : InRange (t.after.bind fun next => next.connections f)
  whole : Whole (t.effects.filterMap (Effect.packetTo f))

theorem Transition.Answers.within {t : Transition} {f : UInt32} {r : Reply} {bound : Nat}
    (answers : t.Answers f r) (h : r.Within bound) : t.Within f bound := by
  refine ⟨?_, ?_, ?_⟩ <;> simp only [answers.after, answers.packets, Option.bind_some,
    ToxTunCore.put_self]
  · exact h.weight
  · exact h.range
  · exact h.whole

theorem step_within {E : Env} (passive : E.Passive) {core : ToxTunCore} {f : UInt32}
    (range : InRange (core.connections f)) {dataRaw : List UInt8}
    (whole : PacketId.ofByte (Data.fromToxData dataRaw).header ≠ .fragment) :
    (step core (E, .receive f dataRaw)).Within f
      ((Data.fromToxData dataRaw).weight - 1 + potentialOf (core.connections f)) := by
  obtain ⟨r, reply, within⟩ := receive_within (E := E) range whole
  cases registered : core.callbackFunction with
  | true =>
      have answers := step_reply passive (f := f) registered (.receive dataRaw)
      rw [show E.reply (core.connections f) (.receive dataRaw) = some r from reply] at answers
      exact Transition.Answers.within answers within
  | false =>
      cases requests : (Call.receive dataRaw).requests (core.connections f) with
      | true =>
          have ignored := request_ignored (E := E) registered requests
          exact Transition.Answers.within ignored
            ((silent_within inRange_none []).mono (Nat.zero_le _))
      | false =>
          have mutes := step_mutes registered (.receive dataRaw) requests reply
          unfold Transition.Mutes at mutes
          split at mutes
          · exact Transition.Answers.within mutes within
          · obtain ⟨ended, packets⟩ := mutes
            have weight := within.weight
            refine ⟨?_, ?_, ?_⟩ <;> simp only [Call.op] at ended packets <;>
              simp only [ended, packets, Option.bind_none]
            · exact Nat.le_trans (Nat.add_le_add_left (Nat.zero_le _) _) weight
            · exact inRange_none
            · exact within.whole

/-! ## The net -/

/-- Two processes and what is in flight to each of them. A process that has ended
leaves no core. -/
structure Pair where
  /-- The number under which a process knows the other one. -/
  friend : Side → UInt32
  core : Side → Option ToxTunCore
  flight : Side → List (List UInt8)

/-- A packet in flight to an endpoint is delivered or lost. -/
inductive Fate where
  | deliver (x : Side) (i : Nat)
  | lose (x : Side) (i : Nat)

namespace Pair

/-- A packet is no longer in flight. -/
def drop (p : Pair) (x : Side) (i : Nat) : Pair :=
  { p with flight := Function.update p.flight x ((p.flight x).eraseIdx i) }

/-- A process, if there is one, receives a packet and sends others. -/
def receive (p : Pair) (x : Side) (E : Env) (dataRaw : List UInt8) : Pair :=
  match p.core x with
  | none => p
  | some core =>
      let t := LibToxTun.step core (E, .receive (p.friend x) dataRaw)
      { p with
        core := Function.update p.core x t.after
        flight := Function.update p.flight x.other (p.flight x.other ++
          (t.effects.filterMap (Effect.packetTo (p.friend x))).map Data.bytes) }

def step (p : Pair) : Env × Fate → Option Pair
  | (E, .deliver x i) => (p.flight x)[i]?.map fun dataRaw => (p.drop x i).receive x E dataRaw
  | (_, .lose x i) => (p.flight x)[i]?.map fun _ => p.drop x i

def connection (p : Pair) (x : Side) : Option Connection :=
  (p.core x).bind fun core => core.connections (p.friend x)

/-- The share of an endpoint in the weight of the net. -/
def share (p : Pair) (x : Side) : Nat :=
  weightOf ((p.flight x).map Data.fromToxData) + potentialOf (p.connection x)

def energy (p : Pair) : Nat := p.share .a + p.share .b

/-- Control and data packets are in flight, and every subnet counter is in range. -/
structure Calm (p : Pair) : Prop where
  whole : ∀ x, ∀ dataRaw ∈ p.flight x,
    PacketId.ofByte (Data.fromToxData dataRaw).header ≠ .fragment
  range : ∀ x, InRange (p.connection x)

theorem energy_eq (p : Pair) (x : Side) : p.energy = p.share x + p.share x.other := by
  cases x with
  | a => rfl
  | b => exact Nat.add_comm _ _

theorem weightOf_perm {l m : List Data} (h : l.Perm m) : weightOf l = weightOf m :=
  (h.map Data.weight).sum_eq

theorem weightOf_append (l m : List Data) : weightOf (l ++ m) = weightOf l + weightOf m := by
  simp [weightOf]

theorem drop_energy {p : Pair} {x : Side} {i : Nat} {dataRaw : List UInt8}
    (h : (p.flight x)[i]? = some dataRaw) :
    (p.drop x i).energy + (Data.fromToxData dataRaw).weight = p.energy := by
  obtain ⟨inside, rfl⟩ := List.getElem?_eq_some_iff.mp h
  have perm := (List.getElem_cons_eraseIdx_perm inside).map Data.fromToxData
  have taken := weightOf_perm perm
  have mine : (p.drop x i).flight x = (p.flight x).eraseIdx i := Function.update_self ..
  have theirs : (p.drop x i).flight x.other = p.flight x.other :=
    Function.update_of_ne (Side.other_ne x) ..
  have same (y : Side) : (p.drop x i).connection y = p.connection y := rfl
  rw [energy_eq _ x, energy_eq p x]
  simp only [share, mine, theirs, same]
  simp only [List.map_cons, weightOf, List.sum_cons] at taken ⊢
  omega

theorem drop_calm {p : Pair} (h : p.Calm) (x : Side) (i : Nat) : (p.drop x i).Calm := by
  refine ⟨fun y dataRaw member => h.whole y dataRaw ?_, h.range⟩
  rcases Side.eq_or_other x y with rfl | rfl
  · rw [show (p.drop y i).flight y = (p.flight y).eraseIdx i from Function.update_self ..] at member
    exact List.mem_of_mem_eraseIdx member
  · rwa [show (p.drop x i).flight x.other = p.flight x.other from
      Function.update_of_ne (Side.other_ne x) ..] at member

theorem map_fromToxData_bytes {l : List Data} (h : Whole l) :
    (l.map Data.bytes).map Data.fromToxData = l := by
  rw [List.map_map]
  refine (List.map_congr_left fun d member => ?_).trans (List.map_id l)
  exact Data.fromToxData_bytes (h d member).1

/-- A packet that is received leaves less behind than it weighed, and peace is kept. -/
theorem receive_calm {p : Pair} (calm : p.Calm) {E : Env} (passive : E.Passive) (x : Side)
    {dataRaw : List UInt8} (whole : PacketId.ofByte (Data.fromToxData dataRaw).header ≠ .fragment) :
    (p.receive x E dataRaw).Calm ∧
      (p.receive x E dataRaw).energy + 1 ≤ p.energy + (Data.fromToxData dataRaw).weight := by
  have pos := weight_pos (Data.fromToxData dataRaw)
  unfold receive
  cases found : p.core x with
  | none => exact ⟨calm, by dsimp only; omega⟩
  | some core =>
      have range : InRange (core.connections (p.friend x)) := by
        have known := calm.range x
        rwa [connection, found] at known
      have within := step_within passive range whole
      have before : p.connection x = core.connections (p.friend x) := by
        rw [connection, found]
        rfl
      rw [← before] at within
      dsimp only
      generalize LibToxTun.step core (E, .receive (p.friend x) dataRaw) = t at within ⊢
      constructor
      · refine ⟨fun y raw member => ?_, fun y => ?_⟩
        · dsimp only at member
          rcases Side.eq_or_other x y with rfl | rfl
          · rw [Function.update_of_ne (Side.ne_other y)] at member
            exact calm.whole y raw member
          · rw [Function.update_self] at member
            rcases List.mem_append.mp member with old | new
            · exact calm.whole _ raw old
            · obtain ⟨d, sent, rfl⟩ := List.mem_map.mp new
              rw [Data.fromToxData_bytes (within.whole d sent).1]
              exact (within.whole d sent).2
        · rcases Side.eq_or_other x y with rfl | rfl
          · simpa only [connection, Function.update_self] using within.range
          · simpa only [connection, Function.update_of_ne (Side.other_ne x)] using calm.range x.other
      · rw [energy_eq _ x, energy_eq p x]
        have weight := within.weight
        simp only [share, connection, Function.update_self, Function.update_of_ne (Side.ne_other x),
          Function.update_of_ne (Side.other_ne x), List.map_append, weightOf_append,
          map_fromToxData_bytes within.whole] at weight ⊢
        omega

/-- Every delivery and every loss makes the net lighter. -/
theorem step_calm {p p' : Pair} (calm : p.Calm) {input : Env × Fate} (passive : input.1.Passive)
    (taken : p.step input = some p') : p'.Calm ∧ p'.energy + 1 ≤ p.energy := by
  obtain ⟨E, fate⟩ := input
  change E.Passive at passive
  cases fate with
  | deliver x i =>
      simp only [step, Option.map_eq_some_iff] at taken
      obtain ⟨dataRaw, h, rfl⟩ := taken
      have whole := calm.whole x dataRaw (List.mem_of_getElem? h)
      obtain ⟨kept, lighter⟩ := receive_calm (drop_calm calm x i) passive x whole
      have dropped := drop_energy h
      exact ⟨kept, by omega⟩
  | lose x i =>
      simp only [step, Option.map_eq_some_iff] at taken
      obtain ⟨dataRaw, h, rfl⟩ := taken
      have dropped := drop_energy h
      have pos := weight_pos (Data.fromToxData dataRaw)
      exact ⟨drop_calm calm x i, by omega⟩

/-- The weight of the net bounds the length of every run: there is no endless exchange. -/
theorem comes_to_rest {p p' : Pair} (calm : p.Calm) {inputs : List (Env × Fate)}
    (runs : Runs step (fun _ input => input.1.Passive) p inputs p') :
    inputs.length ≤ p.energy := by
  have closer : ∀ k (q : Pair) (input : Env × Fate) (q' : Pair), (q.Calm ∧ q.energy ≤ k) →
      input.1.Passive → q.step input = some q' →
        ∃ k', (q'.Calm ∧ q'.energy ≤ k') ∧ k' + (if true then 1 else 0) ≤ k := by
    intro k q input q' holds passive taken
    obtain ⟨kept, lighter⟩ := step_calm holds.1 passive taken
    exact ⟨q'.energy, ⟨kept, Nat.le_refl _⟩, by simpa using Nat.le_trans lighter holds.2⟩
  obtain ⟨k', -, bound⟩ := runs.bounded (fun _ => true) ⟨calm, Nat.le_refl p.energy⟩ closer
  have all : inputs.countP (fun _ => true) = inputs.length := by simp
  omega

/-- Both users have asked, and the requests cross. -/
def crossing : Pair where
  friend _ := 7
  core _ := some ((ToxTunCore.empty true).put 7 (some (Connection.initial true)))
  flight _ := [[160]]

theorem crossing_calm : crossing.Calm := by
  refine ⟨fun x dataRaw member => ?_, fun x c h => ?_⟩
  · rw [List.mem_singleton.mp member]
    decide
  · cases h
    exact ⟨by decide, by decide⟩

theorem crossing_comes_to_rest :
    [(Env.obliging fun _ => some [], Fate.deliver .a 0), (.obliging fun _ => some [], .lose .b 0)].length ≤
      crossing.energy :=
  comes_to_rest crossing_calm
    (.cons (Env.obliging_passive _) rfl (.cons (Env.obliging_passive _) rfl .start))

end Pair

end LibToxTun
