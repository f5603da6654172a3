import LibToxTun.Core.Steps

/-! # What a core says by itself

Apart from the frames of the devices, a core sends control packets only. Of what a call of
the user or a packet that comes in makes it say, tox takes one packet at most, to the friend
it is about, and a reset is never answered.
-/

namespace LibToxTun

open Foundation

/-! ## Replies -/

/-- A reply with as many packets at most, all of them control packets. -/
structure Reply.Brief (r : Reply) (n : Nat) : Prop where
  few : r.packets.length ≤ n
  control : ∀ d ∈ r.packets, d.Control

theorem Data.control_fromPacketId {id : PacketId} (lossless : (fromPacketId id).getSendTox = .ok .lossless) :
    (fromPacketId id).Control := ⟨Nat.le_add_left 1 3, lossless⟩

section
variable {E : Env}

theorem silent_brief (c : Option Connection) (events : List Event) (n : Nat) :
    Reply.Brief ⟨c, [], events⟩ n := ⟨Nat.zero_le n, List.forall_mem_nil _⟩

theorem single_brief (c : Option Connection) {d : Data} (control : d.Control) (events : List Event) :
    Reply.Brief ⟨c, [d], events⟩ 1 :=
  ⟨Nat.le_refl 1, fun _ h => List.mem_singleton.mp h ▸ control⟩

theorem taken_brief (c : Option Connection) (clock : Nat) {d : Data} (control : d.Control)
    (events : List Event) : Reply.Brief ⟨c, E.taken clock d, events⟩ 1 := by
  unfold Env.taken
  split
  · exact single_brief c control events
  · exact silent_brief c events 1

theorem control_reset : (Data.fromPacketId .connectionReset).Control := Data.control_fromPacketId rfl

theorem killedAt_brief (clock : Nat) : (E.killedAt clock).Brief 1 :=
  taken_brief none clock control_reset _

theorem propose_brief (c : Connection) : (E.propose c).Brief 1 := by
  unfold Env.propose
  split
  · split
    · exact single_brief _ (Data.control_fromIpPostfix _ _) _
    · exact killedAt_brief _
  · exact killedAt_brief _
  · exact silent_brief _ _ 1

theorem consider_brief (c : Connection) (subnet ipPostfix : UInt8) :
    (E.consider c subnet ipPostfix).Brief 1 := by
  unfold Env.consider
  split
  · split
    · exact single_brief _ (Data.control_fromPacketId rfl) _
    · exact taken_brief none 2 control_reset _
  · split
    · exact single_brief _ (Data.control_fromPacketId rfl) _
    · exact killedAt_brief _

/-- Whether a packet that arrives may be answered. -/
def Data.provokes (d : Data) : Bool := PacketId.ofByte d.header ≠ .connectionReset

theorem respond_brief (c : Connection) (d : Data) :
    (E.respond c d).Brief d.provokes.toNat := by
  unfold Env.respond Data.provokes
  cases PacketId.ofByte d.header with
  | connectionRequest => exact silent_brief _ _ 1
  | connectionAccept =>
      dsimp only
      split
      · exact propose_brief _
      · exact killedAt_brief 0
  | connectionReject | connectionClose =>
      dsimp only
      split
      · exact silent_brief _ _ 1
      · exact killedAt_brief 0
  | connectionReset => exact silent_brief _ _ 0
  | ipProposal =>
      dsimp only
      split
      · split
        · exact consider_brief c _ _
        · exact silent_brief _ _ 1
      · exact killedAt_brief 0
  | ipAccept =>
      dsimp only
      split
      · exact silent_brief _ _ 1
      · exact killedAt_brief 0
  | ipReject =>
      dsimp only
      split
      · exact propose_brief c
      · exact killedAt_brief 0
  | data =>
      dsimp only
      split
      · exact silent_brief _ _ 1
      · exact killedAt_brief 0
  | fragment => exact silent_brief _ _ 1
  | unnamed b => exact silent_brief _ _ 1

theorem greet_brief (d : Data) : (E.greet d).Brief d.provokes.toNat := by
  unfold Env.greet Data.provokes
  cases PacketId.ofByte d.header with
  | connectionRequest =>
      dsimp only
      split
      · exact silent_brief _ _ 1
      · exact taken_brief none 1 control_reset _
  | connectionReset => exact silent_brief _ _ 0
  | _ => exact taken_brief none 0 control_reset _

theorem dismiss_brief (c : Connection) : (E.dismiss c).Brief 1 := by
  unfold Env.dismiss
  cases c.state with
  | friendsRequestPending => exact taken_brief none 0 (Data.control_fromPacketId rfl) _
  | connected => exact taken_brief none 0 (Data.control_fromPacketId rfl) _
  | deleting => exact silent_brief _ _ 1
  | _ => exact killedAt_brief 0

/-- Whether an operation on a friend may make the core say something: every call of the
user may, and a packet unless it is stored only or arrives as a reset. -/
def Call.provokes (c : Option Connection) : Call → Bool
  | .receive dataRaw =>
      match c with
      | none => (Data.fromToxData dataRaw).provokes
      | some c =>
          match c.fragments.arrival (Data.fromToxData dataRaw) with
          | .packet d _ _ => d.provokes
          | _ => false
  | .iterate _ => false
  | _ => true

theorem receive_brief {c : Option Connection} {dataRaw : List UInt8} {r : Reply}
    (reply : E.receive c (Data.fromToxData dataRaw) = some r) :
    r.Brief ((Call.receive dataRaw).provokes c).toNat := by
  cases c with
  | none =>
      cases reply
      exact greet_brief _
  | some c =>
      simp only [Env.receive] at reply
      simp only [Call.provokes]
      cases arrival : c.fragments.arrival (Data.fromToxData dataRaw) with
      | packet d joins fs =>
          rw [arrival] at reply
          cases reply
          exact respond_brief _ d
      | kept fs =>
          rw [arrival] at reply
          cases reply
          exact silent_brief _ _ 0
      | corrupted =>
          rw [arrival] at reply
          cases reply
      | unfinished =>
          rw [arrival] at reply
          cases reply

theorem reply_brief {c : Option Connection} {call : Call} (own : ∀ reads, call ≠ .iterate reads)
    {r : Reply} (reply : E.reply c call = some r) : r.Brief (call.provokes c).toNat := by
  cases call with
  | receive dataRaw => exact receive_brief reply
  | iterate reads => exact (own reads rfl).elim
  | sendConnectionRequest =>
      cases c with
      | some c =>
          cases reply
          exact silent_brief _ _ 1
      | none =>
          cases reply
          dsimp only
          split
          · exact single_brief _ (Data.control_fromPacketId rfl) _
          · exact silent_brief _ _ 1
  | acceptConnection =>
      cases c with
      | none =>
          cases reply
          exact silent_brief _ _ 1
      | some c =>
          cases reply
          dsimp only
          split
          · split
            · exact single_brief _ (Data.control_fromPacketId rfl) _
            · exact killedAt_brief 1
          · exact dismiss_brief c
  | rejectConnection | closeConnection =>
      cases c with
      | none =>
          cases reply
          exact silent_brief _ _ 1
      | some c =>
          cases reply
          exact dismiss_brief c

end

/-! ## Steps -/

/-- A packet that tox has taken, with the friend it is for. -/
def Effect.taken : Effect → Option (UInt32 × Data)
  | .sent f d true => some (f, d)
  | _ => none

namespace Transition

def taken (t : Transition) : List (UInt32 × Data) := t.effects.filterMap Effect.taken

def polls (t : Transition) : Bool :=
  match t.op with
  | .iterate _ _ => true
  | _ => false

/-- The operation may make the core say something. -/
def provokes (t : Transition) : Bool :=
  match t.op with
  | .receive f dataRaw => (Call.receive dataRaw).provokes (t.before.connections f)
  | .setCallback _ => false
  | .iterate _ _ => false
  | _ => true

end Transition

section
variable {E : Env} (passive : E.Passive) (core : ToxTunCore)

include passive

/-- What tox takes in a step, whether or not the step ends the process. -/
theorem step_packets (f : UInt32) {call : Call} (own : ∀ reads, call ≠ .iterate reads) :
    (step core (E, call.op f)).effects.filterMap (Effect.packetTo f) = [] ∨
      ∃ r, E.reply (core.connections f) call = some r ∧
        (step core (E, call.op f)).effects.filterMap (Effect.packetTo f) = r.packets := by
  cases reply : E.reply (core.connections f) call with
  | none =>
      obtain ⟨c, dataRaw, found, rfl, arrival⟩ | ⟨c, reads, -, rfl, -, -⟩ := Env.reply_none reply
      · refine .inl ?_
        rw [Call.op, (receive_corrupted found arrival).2]
        rfl
      · exact (own reads rfl).elim
  | some r =>
      cases registered : core.callbackFunction with
      | true =>
          have answers := step_reply passive (f := f) registered call
          rw [reply] at answers
          exact .inr ⟨r, rfl, answers.packets⟩
      | false =>
          cases requests : call.requests (core.connections f) with
          | true => exact .inl (request_ignored registered requests).packets
          | false =>
              have mutes := step_mutes registered call requests reply
              unfold Transition.Mutes at mutes
              split at mutes
              · exact .inr ⟨r, rfl, mutes.packets⟩
              · exact .inr ⟨r, rfl, mutes.2⟩

/-- What is taken in a step on a friend is taken for the friend. -/
theorem taken_eq {op : Op} {f : UInt32} (friend : op.friend = some f) :
    (step core (E, op)).taken =
      ((step core (E, op)).effects.filterMap (Effect.packetTo f)).map (Prod.mk f) := by
  have about := effects_friend passive core friend
  rw [Transition.taken, List.map_filterMap]
  refine List.filterMap_congr fun e he => ?_
  cases e with
  | sent g d status =>
      cases about _ he
      cases status <;> simp [Effect.taken, Effect.packetTo, Effect.friend]
  | _ => rfl

theorem step_manners {op : Op} (own : (step core (E, op)).polls = false) :
    (step core (E, op)).taken.length ≤ (step core (E, op)).provokes.toNat ∧
      ∀ p ∈ (step core (E, op)).taken, op.friend = some p.1 ∧ p.2.Control := by
  have call {f : UInt32} (call : Call) (other : ∀ reads, call ≠ .iterate reads)
      (friend : (call.op f).friend = some f)
      (provokes : (step core (E, call.op f)).provokes = call.provokes (core.connections f)) :
      (step core (E, call.op f)).taken.length ≤ (step core (E, call.op f)).provokes.toNat ∧
        ∀ p ∈ (step core (E, call.op f)).taken, (call.op f).friend = some p.1 ∧ p.2.Control := by
    rw [taken_eq passive core friend, provokes]
    rcases step_packets passive core f other with none | ⟨r, reply, same⟩
    · rw [none]
      exact ⟨Nat.zero_le _, List.forall_mem_nil _⟩
    · have brief := reply_brief other reply
      rw [same, List.length_map]
      refine ⟨brief.few, fun p hp => ?_⟩
      obtain ⟨d, hd, rfl⟩ := List.mem_map.mp hp
      exact ⟨friend, brief.control d hd⟩
  cases op with
  | receive f dataRaw => exact call (.receive dataRaw) (fun _ => by simp) rfl rfl
  | setCallback callback => exact ⟨Nat.zero_le _, List.forall_mem_nil _⟩
  | iterate f reads => cases own
  | sendConnectionRequest f => exact call .sendConnectionRequest (fun _ => by simp) rfl rfl
  | acceptConnection f => exact call .acceptConnection (fun _ => by simp) rfl rfl
  | rejectConnection f => exact call .rejectConnection (fun _ => by simp) rfl rfl
  | closeConnection f => exact call .closeConnection (fun _ => by simp) rfl rfl

end

/-! ## Runs -/

/-- In every run tox takes, apart from the frames of the devices, one packet of a core at most
for each call of the user and each packet that comes in and is no reset: a control packet,
to the friend whom the call or the packet is about. -/
theorem no_amplification {inputs : List (Env × Op)} (passive : ∀ input ∈ inputs, input.1.Passive)
    (core : ToxTunCore) :
    (∀ t ∈ transitions core inputs, t.polls = false →
      t.taken.length ≤ t.provokes.toNat ∧ ∀ p ∈ t.taken, t.op.friend = some p.1 ∧ p.2.Control) ∧
    (((transitions core inputs).filter fun t => !t.polls).flatMap Transition.taken).length ≤
      (transitions core inputs).countP Transition.provokes := by
  have each : ∀ t ∈ transitions core inputs, t.polls = false →
      t.taken.length ≤ t.provokes.toNat ∧ ∀ p ∈ t.taken, t.op.friend = some p.1 ∧ p.2.Control := by
    intro t ht own
    obtain ⟨before, -, ⟨E, op⟩, mem, rfl⟩ :=
      mem_transitions (I := fun _ => True) trivial (fun _ _ _ _ _ _ => trivial) ht
    exact step_manners (passive _ mem) before own
  refine ⟨each, ?_⟩
  generalize transitions core inputs = ts at each
  induction ts with
  | nil => exact Nat.le_refl 0
  | cons t ts ih =>
      have later := ih fun u hu => each u (List.mem_cons_of_mem _ hu)
      rw [List.countP_cons]
      cases own : t.polls with
      | true =>
          rw [List.filter_cons_of_neg (by simp [own])]
          omega
      | false =>
          have here := (each t List.mem_cons_self own).1
          rw [List.filter_cons_of_pos (by simp [own]), List.flatMap_cons, List.length_append]
          have one : (if t.provokes = true then 1 else 0) = t.provokes.toNat := by
            cases t.provokes <;> rfl
          rw [one]
          omega

/-- A packet from a stranger, and the reset that answers it coming back. -/
def echoes : List (Env × Op) :=
  [(.obliging fun _ => some [], .receive 7 [161]), (.obliging fun _ => some [], .receive 7 [164])]

theorem no_amplification_echoes :
    (((transitions (ToxTunCore.empty true) echoes).filter fun t => !t.polls).flatMap
      Transition.taken).length ≤ 1 := by
  have passive : ∀ input ∈ echoes, input.1.Passive := by simp [echoes, Env.obliging_passive]
  exact Nat.le_trans (no_amplification passive (ToxTunCore.empty true)).2 (by decide +kernel)

end LibToxTun
