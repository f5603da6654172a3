import LibToxTun.Core.Endpoint
import LibToxTun.Foundation.Duplex
import LibToxTun.Foundation.Run

/-! # Two endpoints

Two cores that are friends of each other. Lossless packets reach the other side
in the order in which they were sent; lossy ones may come at any time, in any
order, or never. The users call the library whenever they like.

Two counters are kept for the statements only: how many requests an endpoint has
sent, and how many of its peer it has received. A lossless packet carries the
second one from the moment at which it was sent.
-/

namespace LibToxTun

open Foundation

/-- A lossless packet on its way, and the requests its sender had received before. -/
structure Parcel where
  data : Data
  heard : Nat
deriving DecidableEq

namespace Data

def isLossless (d : Data) : Bool :=
  match d.getSendTox with
  | .ok .lossless => true
  | _ => false

def isLossy (d : Data) : Bool :=
  match d.getSendTox with
  | .ok .lossy => true
  | _ => false

def isRequest (d : Data) : Bool := PacketId.ofByte d.header = .connectionRequest

end Data

structure Net where
  /-- The number under which an endpoint knows the other one. -/
  friend : Side → UInt32
  core : Side → ToxTunCore
  /-- Lossless packets from an endpoint that are not delivered yet. -/
  wire : Side → List Parcel
  /-- Lossy packets from an endpoint that are not delivered yet. -/
  air : Side → List Data
  asked : Side → Nat
  heard : Side → Nat
  /-- The events raised at an endpoint so far. -/
  events : Side → List Event

/-- What can happen: a call of a user, or the delivery of a packet to an endpoint. -/
inductive Move where
  | iterate (x : Side) (reads : List (Option (List UInt8)))
  | sendConnectionRequest (x : Side)
  | acceptConnection (x : Side)
  | rejectConnection (x : Side)
  | closeConnection (x : Side)
  | deliver (x : Side)
  | deliverLossy (x : Side) (i : Nat)

namespace Net

/-- Both endpoints have a callback and no connection. -/
def start (friend : Side → UInt32) : Net where
  friend := friend
  core _ := ToxTunCore.empty true
  wire _ := []
  air _ := []
  asked _ := 0
  heard _ := 0
  events _ := []

def connection (n : Net) (x : Side) : Option Connection := (n.core x).connections (n.friend x)

/-- What the user of an endpoint sees of its connection: the state, and the address of
the device. -/
def address (n : Net) (x : Side) : Option (State × Option (UInt8 × UInt8)) :=
  (n.connection x).map fun c => (c.state, c.tun.ip)

/-- The first lossless packet for an endpoint leaves the wire. -/
def take (n : Net) (x : Side) (p : Parcel) (rest : List Parcel) : Net :=
  { n with
    wire := Function.update n.wire x.other rest
    heard := Function.update n.heard x (n.heard x + if p.data.isRequest then 1 else 0) }

/-- A lossy packet for an endpoint leaves the air. -/
def takeLossy (n : Net) (x : Side) (i : Nat) : Net :=
  { n with air := Function.update n.air x.other ((n.air x.other).eraseIdx i) }

/-- An endpoint goes on with a table, having sent packets and raised events. -/
def advance (n : Net) (x : Side) (core : ToxTunCore) (sent : List Data) (events : List Event) :
    Net :=
  { n with
    core := Function.update n.core x core
    wire := Function.update n.wire x
      (n.wire x ++ (sent.filter Data.isLossless).map fun d => ⟨d, n.heard x⟩)
    air := Function.update n.air x (n.air x ++ sent.filter Data.isLossy)
    asked := Function.update n.asked x (n.asked x + (sent.filter Data.isRequest).length)
    events := Function.update n.events x (n.events x ++ events) }

/-- The operation a move makes an endpoint run, and the net it runs in. -/
def turn (n : Net) : Move → Option (Side × Call × Net)
  | .iterate x reads => some (x, .iterate reads, n)
  | .sendConnectionRequest x => some (x, .sendConnectionRequest, n)
  | .acceptConnection x => some (x, .acceptConnection, n)
  | .rejectConnection x => some (x, .rejectConnection, n)
  | .closeConnection x => some (x, .closeConnection, n)
  | .deliver x =>
      match n.wire x.other with
      | [] => none
      | p :: rest => some (x, .receive p.data.bytes, n.take x p rest)
  | .deliverLossy x i =>
      match (n.air x.other)[i]? with
      | none => none
      | some d => some (x, .receive d.bytes, n.takeLossy x i)

def transition (n : Net) (input : Env × Move) : Option (Side × Net × Transition) :=
  (n.turn input.2).map fun (x, call, m) =>
    (x, m, LibToxTun.step (m.core x) (input.1, call.op (m.friend x)))

/-- A move; there is no net after a process has ended. -/
def step (n : Net) (input : Env × Move) : Option Net :=
  match n.transition input with
  | none => none
  | some (x, m, t) => t.after.map fun core =>
      m.advance x core (t.effects.filterMap (Effect.packetTo (m.friend x)))
        (t.effects.filterMap (Effect.eventOf (m.friend x)))

def answer (n : Net) (x : Side) (r : Reply) : Net :=
  n.advance x ((n.core x).put (n.friend x) r.connection) r.packets r.events

@[simp] theorem take_events (n : Net) (x : Side) (p : Parcel) (rest : List Parcel) :
    (n.take x p rest).events = n.events := rfl

@[simp] theorem takeLossy_events (n : Net) (x : Side) (i : Nat) :
    (n.takeLossy x i).events = n.events := rfl

theorem turn_core {n m : Net} {move : Move} {x : Side} {call : Call}
    (turn : n.turn move = some (x, call, m)) : m.core = n.core ∧ m.friend = n.friend := by
  cases move with
  | deliver y | deliverLossy y i =>
      simp only [Net.turn] at turn
      split at turn <;> cases turn
      exact ⟨rfl, rfl⟩
  | _ => cases turn; exact ⟨rfl, rfl⟩

/-- What a move does to the tables: the endpoint whose turn it is runs one operation. -/
theorem step_turn {n n' : Net} {E : Env} {move : Move} (taken : n.step (E, move) = some n') :
    ∃ x call m core, n.turn move = some (x, call, m) ∧
      (LibToxTun.step (n.core x) (E, call.op (n.friend x))).after = some core ∧
      n'.core = Function.update n.core x core ∧ n'.friend = n.friend := by
  unfold step transition at taken
  cases turn : n.turn move with
  | none => simp [turn] at taken
  | some next =>
      obtain ⟨x, call, m⟩ := next
      obtain ⟨core, friend⟩ := turn_core turn
      simp only [turn, Option.map_some, Option.map_eq_some_iff, core, friend] at taken
      obtain ⟨table, after, rfl⟩ := taken
      exact ⟨x, call, m, table, rfl, after, by rw [advance, core], by rw [advance, friend]⟩

/-- A move is answered by the reply of the endpoint. -/
theorem step_eq {n : Net} {E : Env} (passive : E.Passive)
    (registered : ∀ x, (n.core x).callbackFunction = true) (move : Move) :
    n.step (E, move) = (n.turn move).bind fun (x, call, m) =>
      (E.reply (m.connection x) call).map (m.answer x) := by
  unfold step transition
  cases turn : n.turn move with
  | none => rfl
  | some next =>
      obtain ⟨x, call, m⟩ := next
      have still : (m.core x).callbackFunction = true := by
        rw [(turn_core turn).1]
        exact registered x
      have answers := step_reply passive (f := m.friend x) still call
      simp only [Option.map_some, Option.bind_some]
      change _ = (E.reply ((m.core x).connections (m.friend x)) call).map _
      cases reply : E.reply ((m.core x).connections (m.friend x)) call with
      | none =>
          rw [reply] at answers
          simp [answers]
      | some r =>
          rw [reply] at answers
          simp only [answers.after, answers.packets, answers.events, Option.map_some]
          rfl

theorem step_answer {n n' : Net} {E : Env} (passive : E.Passive) {move : Move}
    (registered : ∀ x, (n.core x).callbackFunction = true)
    (taken : n.step (E, move) = some n') :
    ∃ x call m r, n.turn move = some (x, call, m) ∧ E.reply (m.connection x) call = some r ∧
      n' = m.answer x r := by
  rw [step_eq passive registered] at taken
  obtain ⟨⟨x, call, m⟩, turn, reply⟩ := Option.bind_eq_some_iff.mp taken
  obtain ⟨r, reply, answer⟩ := Option.map_eq_some_iff.mp reply
  exact ⟨x, call, m, r, turn, reply, answer.symm⟩

end Net

end LibToxTun
