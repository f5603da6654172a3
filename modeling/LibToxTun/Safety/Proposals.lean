import LibToxTun.Core.Offering
import LibToxTun.Safety.Consent
import LibToxTun.Safety.Events

/-! # The proposals of a lifetime

A connection that the user asked for proposes subnets that increase, whatever the
friend sends and however the queries are answered. The counter is all it remembers of
the subnets it has tried.
-/

namespace LibToxTun

open Foundation Foundation.Action

/-- A connection on the side of the request, with a counter in range. -/
structure Connection.Initiating (c : Connection) : Prop where
  role : c.state = .ownRequestPending ∨ c.state = .expectingIpConfirmation ∨ c.state = .connected
  low : -1 ≤ c.subnet
  high : c.subnet ≤ 255
  tried : c.state = .expectingIpConfirmation → 0 ≤ c.subnet

theorem initial_initiating : (Connection.initial true).Initiating where
  role := .inl rfl
  low := by decide
  high := by decide
  tried state := by cases state

/-- What becomes of a connection that searches from a counter, or does not search. -/
structure Env.Advances (E : Env) (seeks : Option Int) (c c' : Connection) : Prop where
  initiating : c'.Initiating
  counted : seeks = none → c'.subnet = c.subnet
  found : ∀ counter, seeks = some counter →
    ∃ clock, E.search (2 ^ 16) counter 0 = some (c'.subnet, clock, true)

/-! ## Replies -/

section
variable {E : Env} {c c' : Connection} (h : c.Initiating)
include h

theorem Connection.Initiating.keeps (state : c'.state = c.state) (subnet : c'.subnet = c.subnet) :
    E.Advances none c c' := by
  refine ⟨⟨?_, ?_, ?_, ?_⟩, fun _ => subnet, fun _ seeks => by cases seeks⟩
  · rw [state]
    exact h.role
  · rw [subnet]
    exact h.low
  · rw [subnet]
    exact h.high
  · rw [state, subnet]
    exact h.tried

theorem Connection.Initiating.confirms (state : c'.state = .connected)
    (subnet : c'.subnet = c.subnet) : E.Advances none c c' := by
  refine ⟨⟨.inr (.inr state), ?_, ?_, ?_⟩, fun _ => subnet, fun _ seeks => by cases seeks⟩
  · rw [subnet]
    exact h.low
  · rw [subnet]
    exact h.high
  · intro expecting
    rw [state] at expecting
    cases expecting

theorem propose_advances {c'' : Connection} (kept : (E.propose c'').connection = some c')
    (same : c''.subnet = c.subnet) (expecting : c''.state = .expectingIpConfirmation) :
    E.Advances (some c.subnet) c c' := by
  obtain ⟨⟨subnet, clock, found⟩, search⟩ := search_total E c.subnet 0
  rw [Env.propose, same, search] at kept
  cases found with
  | false => cases kept
  | true =>
      dsimp only at kept
      split at kept
      · cases kept
        have finds := search_finds h.low h.high search
        have above := finds.above
        have low := h.low
        refine ⟨⟨.inr (.inl expecting), ?_, finds.below, fun _ => ?_⟩, ?_, ?_⟩
        · show -1 ≤ subnet
          omega
        · show 0 ≤ subnet
          omega
        · intro idle
          cases idle
        · intro counter seeks
          cases seeks
          exact ⟨clock, search⟩
      · cases kept

theorem respond_advances (fs : Fragments) {d : Data}
    (kept : (E.respond { c with fragments := fs } d).connection = some c') :
    E.Advances (if c.Seeks d then some c.subnet else none) c c' := by
  have stays (idle : ¬c.Seeks d) (same : some { c with fragments := fs } = some c') :
      E.Advances (if c.Seeks d then some c.subnet else none) c c' := by
    cases same
    rw [if_neg idle]
    exact h.keeps rfl rfl
  simp only [Env.respond] at kept
  cases header : PacketId.ofByte d.header with
  | connectionRequest | fragment | unnamed =>
      rw [header] at kept
      exact stays (by simp [Connection.Seeks, header]) kept
  | connectionAccept =>
      rw [header] at kept
      dsimp only at kept
      split at kept
      · next own =>
          rw [if_pos (.inl ⟨header, own⟩)]
          exact propose_advances h kept rfl rfl
      · cases kept
  | connectionReject | connectionClose =>
      rw [header] at kept
      dsimp only at kept
      split at kept <;> cases kept
  | connectionReset =>
      rw [header] at kept
      cases kept
  | ipProposal =>
      rw [header] at kept
      dsimp only at kept
      split at kept
      · next accepting =>
          have role := h.role
          rw [show c.state = .expectingIpPacket from accepting] at role
          simp at role
      · cases kept
  | ipAccept =>
      rw [header] at kept
      dsimp only at kept
      split at kept
      · cases kept
        rw [if_neg (by simp [Connection.Seeks, header])]
        exact h.confirms rfl rfl
      · cases kept
  | ipReject =>
      rw [header] at kept
      dsimp only at kept
      split at kept
      · next expecting =>
          rw [if_pos (.inr ⟨header, expecting⟩)]
          exact propose_advances h kept rfl expecting
      · cases kept
  | data =>
      rw [header] at kept
      dsimp only at kept
      split at kept
      · exact stays (by simp [Connection.Seeks, header]) kept
      · cases kept

theorem reply_advances {call : Call} {r : Reply} (own : ∀ dataRaw, call ≠ .receive dataRaw)
    (reply : E.reply (some c) call = some r) (kept : r.connection = some c') :
    E.Advances none c c' := by
  cases call with
  | receive dataRaw => exact (own dataRaw rfl).elim
  | iterate reads =>
      obtain ⟨⟨⟩, -⟩ | ⟨c₀, entry, -, rfl⟩ | ⟨c₀, entry, -, -, rfl⟩ := Env.reply_iterate reply
      · cases entry
        cases kept
        exact h.keeps rfl rfl
      · cases entry
        obtain ⟨index, same⟩ := E.forward_connection 0 c reads
        simp only [same] at kept
        cases kept
        exact h.keeps rfl rfl
  | sendConnectionRequest =>
      cases reply
      cases kept
      exact h.keeps rfl rfl
  | acceptConnection =>
      cases reply
      dsimp only at kept
      split at kept
      · next ringing =>
          have role := h.role
          rw [ringing] at role
          simp at role
      · rw [E.dismiss_connection] at kept
        cases kept
  | rejectConnection | closeConnection =>
      cases reply
      rw [E.dismiss_connection] at kept
      cases kept

end

/-! ## Steps -/

section
variable {E : Env} (passive : E.Passive) {f : UInt32} {core next : ToxTunCore} {op : Op}
  {c c' : Connection}
include passive

/-- Every step keeps a connection on the side of the request, and only a search counts on. -/
theorem step_advances (h : c.Initiating) (found : core.connections f = some c)
    (after : (step core (E, op)).after = some next) (found' : next.connections f = some c') :
    E.Advances ((step core (E, op)).seeksFrom f) c c' := by
  have stays (idle : (step core (E, op)).seeksFrom f = none)
      (entry : next.connections f = core.connections f) :
      E.Advances ((step core (E, op)).seeksFrom f) c c' := by
    rw [found, found', Option.some.injEq] at entry
    rw [idle, entry]
    exact h.keeps rfl rfl
  rcases step_entry passive after f with
    ⟨same, answer, -, entry⟩ | ⟨same, -, entry⟩ | ⟨friend, other, entry⟩ | ⟨same, -, entry⟩
  · next call r =>
      change op = call.op f at same
      subst same
      have kept : r.connection = some c' := entry.symm.trans found'
      have answered : call.requests (core.connections f) = false := by
        rw [found]
        cases call <;> rfl
      have reply := Env.reply_of_answer answered answer
      rw [found] at reply
      change E.reply (some c) call = some r at reply
      cases call with
      | receive dataRaw =>
          have reception : (step core (E, .receive f dataRaw)).reception =
              some (f, c, c.fragments.arrival (Data.fromToxData dataRaw)) := by
            simp [Transition.reception, step, found]
          change E.Advances ((step core (E, .receive f dataRaw)).seeksFrom f) c c'
          rw [Transition.seeksFrom, reception]
          simp only [Env.reply, Env.receive] at reply
          cases arrival : c.fragments.arrival (Data.fromToxData dataRaw) with
          | packet d joins fs =>
              rw [arrival] at reply
              cases reply
              simpa using respond_advances h fs kept
          | kept fs =>
              rw [arrival] at reply
              cases reply
              cases kept
              exact h.keeps rfl rfl
          | corrupted | unfinished =>
              rw [arrival] at reply
              cases reply
      | _ => exact reply_advances h (fun _ same => by cases same) reply kept
  · next reads index =>
      change op = .iterate f reads at same
      subst same
      change next.connections f = (core.connections f).map _ at entry
      rw [found, found'] at entry
      cases entry
      exact h.keeps rfl rfl
  · exact stays (seeksFrom_other friend other) entry
  · next callback =>
      change op = .setCallback callback at same
      subst same
      exact stays rfl entry

/-- A step proposes the subnet to which the counter has come, or neither proposes nor counts. -/
theorem step_proposes (h : c.Initiating) (found : core.connections f = some c)
    (device : op.FromDevice) :
    ((step core (E, op)).offers f = [] ∧ ∀ next c', (step core (E, op)).after = some next →
      next.connections f = some c' → c'.subnet = c.subnet) ∨
    ∃ subnet, E.Finds c.subnet subnet ∧
      (step core (E, op)).offers f = [Data.fromIpPostfix (UInt8.ofInt subnet) 2] ∧
      ∀ next c', (step core (E, op)).after = some next → next.connections f = some c' →
        c'.subnet = subnet := by
  have offers : (step core (E, op)).offers f =
      ((step core (E, op)).seeksFrom f).elim [] fun counter => E.proposalFrom counter 0 :=
    step_offers passive device
  cases seeks : (step core (E, op)).seeksFrom f with
  | none =>
      rw [seeks] at offers
      refine .inl ⟨offers, fun next c' after found' => ?_⟩
      exact (step_advances passive h found after found').counted seeks
  | some counter =>
      obtain ⟨c'', d, joins, fs, reception, -, rfl⟩ := seeksFrom_some seeks
      cases found.symm.trans (step_reception reception).1
      rw [seeks] at offers
      change (step core (E, op)).offers f = E.proposalFrom c.subnet 0 at offers
      rcases proposalFrom_cases E h.low h.high with
        ⟨subnet, clock, search, finds, proposal⟩ | ⟨clock, search, -, proposal⟩
      · refine .inr ⟨subnet, finds, offers.trans proposal, fun next c' after found' => ?_⟩
        obtain ⟨clock', same⟩ := (step_advances passive h found after found').found _ seeks
        cases search.symm.trans same
        rfl
      · refine .inl ⟨offers.trans proposal, fun next c' after found' => ?_⟩
        obtain ⟨clock', same⟩ := (step_advances passive h found after found').found _ seeks
        rw [search] at same
        simp at same

end

/-! ## Exhausted searches -/

/-- A packet makes the connection of a friend search when no subnet is left. -/
def Transition.Exhausts (f : UInt32) (t : Transition) : Prop :=
  ∃ counter, t.seeksFrom f = some counter ∧ t.env.Exhausts counter

section
variable {E : Env} {f : UInt32} {core : ToxTunCore} {op : Op} {c : Connection}

theorem respond_exhausted {fs : Fragments} {d : Data} {clock : Nat} (seeks : c.Seeks d)
    (search : E.search (2 ^ 16) c.subnet 0 = some (256, clock, false)) :
    E.respond { c with fragments := fs } d = E.killedAt clock := by
  rcases seeks with ⟨header, state⟩ | ⟨header, state⟩
  · simp only [Env.respond, header, state, if_true, Env.propose, search]
  · simp only [Env.respond, header, state, if_true, Env.propose, search]

variable (passive : E.Passive)
include passive

/-- An exhausted search proposes nothing and hands a reset to tox; the connection goes when
a callback function is set, and the process otherwise. -/
theorem exhausted_step (h : c.Initiating) (found : core.connections f = some c)
    (device : op.FromDevice) (exhausts : (step core (E, op)).Exhausts f) :
    (step core (E, op)).offers f = [] ∧
      (∃ status, .sent f (Data.fromPacketId .connectionReset) status ∈ (step core (E, op)).effects) ∧
      (step core (E, op)).after = if core.callbackFunction then some (core.put f none) else none := by
  obtain ⟨counter, seeks, all⟩ := exhausts
  obtain ⟨c'', d, joins, fs, reception, sought, rfl⟩ := seeksFrom_some seeks
  cases found.symm.trans (step_reception reception).1
  rcases proposalFrom_cases E h.low h.high with ⟨_, _, _, finds, _⟩ | ⟨clock, search, -, proposal⟩
  · exact (finds.not_exhausts all).elim
  · have offers : (step core (E, op)).offers f =
        ((step core (E, op)).seeksFrom f).elim [] fun counter => E.proposalFrom counter 0 :=
      step_offers passive device
    rw [seeks] at offers
    refine ⟨offers.trans proposal, ⟨_, exhausted_resets passive seeks search⟩, ?_⟩
    cases op with
    | receive g dataRaw =>
        simp only [Transition.reception, step, Option.map_eq_some_iff, Prod.mk.injEq] at reception
        obtain ⟨c'', found', rfl, rfl, arrival⟩ := reception
        have reply : E.reply (core.connections g) (.receive dataRaw) = some (E.killedAt clock) := by
          simp only [found, Env.reply, Env.receive, arrival, respond_exhausted sought search]
        have answers := step_answer passive core g (.receive dataRaw)
        cases registered : core.callbackFunction with
        | true =>
            rw [registered, Env.answer, if_pos rfl, reply] at answers
            exact answers.after
        | false =>
            have requests : (Call.receive dataRaw).requests (core.connections g) = false := by
              rw [found]
              rfl
            rw [registered, Env.answer, if_neg (by simp), Env.mute_of_reply reply requests] at answers
            exact answers
    | _ => cases reception

end

/-! ## Lifetimes -/

/-- The subnets that steps propose to a friend from a counter on: each one is found by a
search from the counter of the connection, which is the one before, and nothing else is
proposed. -/
inductive Proposes (f : UInt32) : Int → List Transition → List Int → Prop where
  | done (counter : Int) : Proposes f counter [] []
  | silent {counter : Int} {t : Transition} {ts : List Transition} {subnets : List Int}
      (quiet : t.offers f = []) (rest : Proposes f counter ts subnets) :
      Proposes f counter (t :: ts) subnets
  | offer {counter subnet : Int} {t : Transition} {ts : List Transition} {subnets : List Int}
      (entry : (t.before.connections f).map Connection.subnet = some counter)
      (finds : t.env.Finds counter subnet)
      (offers : t.offers f = [Data.fromIpPostfix (UInt8.ofInt subnet) 2])
      (rest : Proposes f subnet ts subnets) : Proposes f counter (t :: ts) (subnet :: subnets)

namespace Proposes

variable {f : UInt32} {counter : Int} {ts : List Transition} {subnets : List Int}

theorem offers (h : Proposes f counter ts subnets) : ts.flatMap (Transition.offers f) =
    subnets.map fun s => Data.fromIpPostfix (UInt8.ofInt s) 2 := by
  induction h with
  | done => rfl
  | silent quiet rest ih => rw [List.flatMap_cons, quiet, ih]; rfl
  | offer entry finds offers rest ih => rw [List.flatMap_cons, offers, ih]; rfl

theorem range (h : Proposes f counter ts subnets) : ∀ s ∈ subnets, counter < s ∧ s ≤ 255 := by
  induction h with
  | done => simp
  | silent quiet rest ih => exact ih
  | offer entry finds offers rest ih =>
      intro s mem
      rcases List.mem_cons.mp mem with rfl | later
      · exact ⟨finds.above, finds.below⟩
      · exact ⟨finds.above.trans (ih s later).1, (ih s later).2⟩

theorem increasing (h : Proposes f counter ts subnets) : subnets.Pairwise (· < ·) := by
  induction h with
  | done => exact .nil
  | silent quiet rest ih => exact ih
  | offer entry finds offers rest ih => exact .cons (fun s later => (rest.range s later).1) ih

theorem length (h : Proposes f counter ts subnets) (high : counter ≤ 255) :
    (subnets.length : Int) ≤ 255 - counter := by
  induction h with
  | done => simpa using high
  | silent quiet rest ih => exact ih high
  | offer entry finds offers rest ih =>
      have above := finds.above
      have fewer := ih finds.below
      rw [List.length_cons]
      omega

end Proposes

/-- The callbacks stay out of the library, and what `iterate` forwards comes from the device. -/
structure Standalone (input : Env × Op) : Prop where
  passive : input.1.Passive
  device : input.2.FromDevice

theorem standalone_obliging (usedIp4 : Nat → Option (List Ip4)) {op : Op}
    (other : ∀ f reads, op ≠ .iterate f reads) : Standalone (.obliging usedIp4, op) :=
  ⟨Env.obliging_passive usedIp4, fun f reads same => (other f reads same).elim⟩

/-- A step that meets the connection of a friend on the side of the request. -/
structure Transition.Initiated (f : UInt32) (t : Transition) (c : Connection) : Prop where
  standalone : Standalone (t.env, t.op)
  step : t = step t.before (t.env, t.op)
  found : t.before.connections f = some c
  initiating : c.Initiating

/-- A lifetime goes on from an entry on the side of the request. -/
theorem initiating_run {f : UInt32} {core : ToxTunCore} {inputs : List (Env × Op)} {c : Connection}
    (h : c.Initiating) (found : core.connections f = some c)
    (standalone : ∀ input ∈ inputs, Standalone input) {life post : List Transition}
    (split : transitions core inputs = life ++ post)
    (lasting : ∀ t ∈ life, (t.before.connections f).isSome = true) :
    (∃ subnets, Proposes f c.subnet life subnets) ∧ ∀ t ∈ life, ∃ c, t.Initiated f c := by
  induction life generalizing core inputs c with
  | nil => exact ⟨⟨[], .done _⟩, by simp⟩
  | cons t life ih =>
      cases inputs with
      | nil => cases split
      | cons input inputs =>
          obtain ⟨E, op⟩ := input
          rw [transitions, List.cons_append, List.cons.injEq] at split
          obtain ⟨rfl, later⟩ := split
          obtain ⟨passive, device⟩ := standalone _ List.mem_cons_self
          have first : (step core (E, op)).Initiated f c := ⟨⟨passive, device⟩, rfl, found, h⟩
          -- The later steps start from the counter that this one leaves.
          have rest (counter : Int) (counted : ∀ next c', (step core (E, op)).after = some next →
              next.connections f = some c' → c'.subnet = counter) :
              (∃ subnets, Proposes f counter life subnets) ∧ ∀ t ∈ life, ∃ c, t.Initiated f c := by
            cases after : (step core (E, op)).after with
            | none =>
                rw [after] at later
                have none : life = [] := (List.append_eq_nil_iff.mp later.symm).1
                rw [none]
                exact ⟨⟨[], .done _⟩, by simp⟩
            | some next =>
                rw [after] at later
                cases life with
                | nil => exact ⟨⟨[], .done _⟩, by simp⟩
                | cons t' life' =>
                    have present := lasting t' (by simp)
                    rw [transitions_before later] at present
                    obtain ⟨c', found'⟩ := Option.isSome_iff_exists.mp present
                    have advances := step_advances passive h found after found'
                    rw [← counted next c' after found']
                    exact ih advances.initiating found'
                      (fun input mem => standalone input (List.mem_cons_of_mem _ mem)) later
                      fun t mem => lasting t (List.mem_cons_of_mem _ mem)
          rcases step_proposes passive h found device with
            ⟨quiet, counted⟩ | ⟨subnet, finds, offers, counted⟩
          · obtain ⟨⟨subnets, proposes⟩, steps⟩ := rest _ counted
            exact ⟨⟨subnets, .silent quiet proposes⟩, List.forall_mem_cons.mpr ⟨⟨c, first⟩, steps⟩⟩
          · obtain ⟨⟨subnets, proposes⟩, steps⟩ := rest _ counted
            have entry : (core.connections f).map Connection.subnet = some c.subnet := by
              rw [found]
              rfl
            exact ⟨⟨subnet :: subnets, .offer entry finds offers proposes⟩,
              List.forall_mem_cons.mpr ⟨⟨c, first⟩, steps⟩⟩

/-! ## Runs -/

/-- What is proposed for a friend, and how, over the steps of the lifetime of a connection
that was asked for. -/
structure ProposesOrderly (f : UInt32) (life : List Transition) : Prop where
  terminates : ∀ t ∈ life, Halts (sendIp t.env)
  proposals : ∃ subnets : List Int, Proposes f (-1) life subnets ∧
    life.flatMap (Transition.offers f) = (subnets.map fun s => Data.fromIpPostfix (UInt8.ofInt s) 2) ∧
    subnets.Pairwise (· < ·) ∧ subnets.length ≤ 256 ∧
    ∀ s ∈ subnets, 0 ≤ s ∧ s ≤ 255 ∧ ((UInt8.ofInt s).toNat : Int) = s
  counter : ∀ t ∈ life, ∀ c, t.before.connections f = some c → -1 ≤ c.subnet ∧ c.subnet ≤ 255 ∧
    ∀ rounds fr, fr.alive = true → fr.self.subnet = c.subnet →
      (sendIpLoop t.env rounds fr).state.self.subnet ≤ 256
  addresses : ∀ t ∈ life, ∀ c, t.before.connections f = some c →
    ∀ subnet ipPostfix, .ipSet f subnet ipPostfix ∈ t.effects → (subnet.toNat : Int) = c.subnet
  exhausted : ∀ t ∈ life, t.Exhausts f → t.offers f = [] ∧
    (∃ status, .sent f (Data.fromPacketId .connectionReset) status ∈ t.effects) ∧
    ∃ next, t.after = some next ∧ next.connections f = none

section
variable {f : UInt32} {t : Transition} {c : Connection}

theorem Transition.Initiated.counter (h : t.Initiated f c) (rounds : Nat) {fr : Frame}
    (alive : fr.alive = true) (same : fr.self.subnet = c.subnet) :
    (sendIpLoop t.env rounds fr).state.self.subnet ≤ 256 :=
  sendIpLoop_counter h.standalone.passive alive rounds (same ▸ h.initiating.low)
    (same ▸ h.initiating.high)

/-- The address of a connection that was asked for has the subnet of its counter. -/
theorem Transition.Initiated.address (h : t.Initiated f c) {subnet ipPostfix : UInt8}
    (set : .ipSet f subnet ipPostfix ∈ t.effects) : (subnet.toNat : Int) = c.subnet := by
  rw [h.step] at set
  obtain ⟨dataRaw, c', d, joins, fs, -, found, -, -, s, p, route, same⟩ :=
    setUp_route h.standalone.passive set rfl
  obtain ⟨rfl, rfl⟩ := same _ _ _ rfl
  cases h.found.symm.trans found
  cases route with
  | confirmed header expecting => exact toNat_ofInt (h.initiating.tried expecting) h.initiating.high
  | accepted header expecting bytes unused =>
      have role := h.initiating.role
      rw [expecting] at role
      simp at role

theorem Transition.Initiated.exhausted (h : t.Initiated f c) (exhausts : t.Exhausts f) :
    t.offers f = [] ∧
      (∃ status, .sent f (Data.fromPacketId .connectionReset) status ∈ t.effects) ∧
      t.after = if t.before.callbackFunction then some (t.before.put f none) else none := by
  have step := h.step
  have passive : t.env.Passive := h.standalone.passive
  have device : t.op.FromDevice := h.standalone.device
  have ended := exhausted_step passive h.initiating h.found device (step ▸ exhausts)
  rwa [← step] at ended

end

theorem requested_entry {E : Env} {f : UInt32} {core next : ToxTunCore}
    (absent : core.connections f = none)
    (after : (step core (E, .sendConnectionRequest f)).after = some next) {c : Connection}
    (found : next.connections f = some c) : c = Connection.initial true := by
  obtain ⟨r, reply, answers⟩ := sendConnectionRequest_answers (E := E) (f := f) core
  cases after.symm.trans answers.after
  have kept : r.connection = some c := by rw [← found]; exact (ToxTunCore.put_self ..).symm
  rw [absent] at reply
  cases reply
  dsimp only at kept
  split at kept
  · cases kept
    rfl
  · cases kept

/-- The steps after the one of a request meet a connection on the side of the request,
and propose from the first subnet on. -/
theorem requested_run {E : Env} {f : UInt32} {before : ToxTunCore} {later : List (Env × Op)}
    {life post : List Transition} (standalone : ∀ input ∈ later, Standalone input)
    (run : step before (E, .sendConnectionRequest f) :: (life ++ post) =
      transitions before ((E, .sendConnectionRequest f) :: later))
    (lifetime : Lifetime f (step before (E, .sendConnectionRequest f) :: life)) :
    (∃ subnets, Proposes f (-1) life subnets) ∧ ∀ t ∈ life, ∃ c, t.Initiated f c := by
  obtain ⟨absent, lasting⟩ := lifetime
  rw [transitions, List.cons.injEq] at run
  obtain ⟨-, rest⟩ := run
  cases life with
  | nil => exact ⟨⟨[], .done _⟩, by simp⟩
  | cons t life =>
      cases after : (step before (E, .sendConnectionRequest f)).after with
      | none =>
          rw [after] at rest
          cases rest
      | some next =>
          rw [after] at rest
          have present := lasting t List.mem_cons_self
          rw [transitions_before rest.symm] at present
          obtain ⟨c, found⟩ := Option.isSome_iff_exists.mp present
          cases requested_entry absent after found
          exact initiating_run initial_initiating found standalone rest.symm lasting

/-- In every run, a connection that the user asked for proposes increasing subnets from the
first one on, and its searches end in order, exactly when each search that leaves no subnet
finds a callback function set. -/
theorem proposes_orderly_iff {core : ToxTunCore} {inputs : List (Env × Op)}
    (standalone : ∀ input ∈ inputs, Standalone input) {f : UInt32} {pre life post : List Transition}
    {ins : Transition} (split : transitions core inputs = pre ++ ins :: (life ++ post))
    (own : ins.op = .sendConnectionRequest f) (lifetime : Lifetime f (ins :: life)) :
    ProposesOrderly f (ins :: life) ↔
      ∀ t ∈ life, t.Exhausts f → t.before.callbackFunction = true := by
  obtain ⟨before, ⟨E, op⟩, later, sub, rfl, run⟩ := transitions_suffix split
  obtain ⟨passive, device⟩ := standalone _ (sub _ List.mem_cons_self)
  change op = .sendConnectionRequest f at own
  subst own
  obtain ⟨⟨subnets, proposes⟩, initiated⟩ := requested_run
    (fun input mem => standalone input (sub input (List.mem_cons_of_mem _ mem))) run lifetime
  have absent : (step before (E, .sendConnectionRequest f)).before.connections f = none := lifetime.1
  have quiet : (step before (E, .sendConnectionRequest f)).offers f = [] :=
    step_offers passive device
  constructor
  · intro orderly t mem exhausts
    obtain ⟨c, start⟩ := initiated t mem
    obtain ⟨-, -, next, after, -⟩ := orderly.exhausted t (List.mem_cons_of_mem _ mem) exhausts
    have ended := (start.exhausted exhausts).2.2
    cases registered : t.before.callbackFunction with
    | true => rfl
    | false =>
        rw [after, registered] at ended
        cases ended
  · intro registered
    have whole := Proposes.silent quiet proposes
    have few := whole.length (by omega)
    refine ⟨fun t _ => sendIp_halts t.env, ⟨subnets, whole, whole.offers, whole.increasing, by omega,
      fun s mem => ?_⟩, ?_, ?_, ?_⟩
    · obtain ⟨above, below⟩ := whole.range s mem
      exact ⟨by omega, below, toNat_ofInt (by omega) below⟩
    · intro t mem c found
      rcases List.mem_cons.mp mem with rfl | later
      · cases absent.symm.trans found
      · obtain ⟨c', start⟩ := initiated t later
        cases start.found.symm.trans found
        exact ⟨start.initiating.low, start.initiating.high, fun rounds fr => start.counter rounds⟩
    · intro t mem c found subnet ipPostfix set
      rcases List.mem_cons.mp mem with rfl | later
      · cases absent.symm.trans found
      · obtain ⟨c', start⟩ := initiated t later
        cases start.found.symm.trans found
        exact start.address set
    · intro t mem exhausts
      rcases List.mem_cons.mp mem with rfl | later
      · obtain ⟨counter, seeks, -⟩ := exhausts
        cases seeks
      · obtain ⟨c, start⟩ := initiated t later
        obtain ⟨silent, resets, after⟩ := start.exhausted exhausts
        rw [registered t later exhausts, if_pos rfl] at after
        exact ⟨silent, resets, _, after, ToxTunCore.put_self ..⟩

/-- A friend that rejects the first proposal and accepts the second one. -/
def rejectedOnce : List (Env × Op) :=
  [(.obliging fun _ => some [], .sendConnectionRequest 7),
    (.obliging fun _ => some [], .receive 7 [161]), (.obliging fun _ => some [], .receive 7 [167]),
    (.obliging fun _ => some [], .receive 7 [166])]

theorem rejectedOnce_orderly :
    ProposesOrderly 7 (transitions (ToxTunCore.empty true) rejectedOnce) := by
  have standalone : ∀ input ∈ rejectedOnce, Standalone input := by
    simp only [rejectedOnce, List.forall_mem_cons]
    exact ⟨standalone_obliging _ (by simp), standalone_obliging _ (by simp),
      standalone_obliging _ (by simp), standalone_obliging _ (by simp), by simp⟩
  obtain ⟨ins, life, run, own, absent⟩ : ∃ ins life,
      transitions (ToxTunCore.empty true) rejectedOnce = [] ++ ins :: (life ++ []) ∧
        ins.op = .sendConnectionRequest 7 ∧ ins.before.connections 7 = none :=
    ⟨_, _, by rw [List.append_nil]; rfl, rfl, rfl⟩
  have orderly := proposes_orderly_iff standalone run own
  have present : ((transitions (ToxTunCore.empty true) rejectedOnce).tail.all fun t =>
      (t.before.connections 7).isSome && t.before.callbackFunction) = true := by decide +kernel
  rw [run, List.nil_append, List.append_nil, List.tail_cons, List.all_eq_true] at present
  have lasting (t : Transition) (mem : t ∈ life) : (t.before.connections 7).isSome = true ∧
      t.before.callbackFunction = true := by simpa using present t mem
  rw [run, List.nil_append, List.append_nil]
  exact (orderly ⟨absent, fun t mem => (lasting t mem).1⟩).mpr fun t mem _ => (lasting t mem).2

/-- Addresses in every subnet. -/
def everySubnet : List Ip4 := (List.range 256).map fun s => (192, 168, UInt8.ofNat s, 1)

theorem everySubnet_used (subnet : UInt8) : addrspaceUnused everySubnet subnet = false := by
  have used : ((192, 168, subnet, 1) : Ip4) ∈ everySubnet := by
    refine List.mem_map.mpr ⟨subnet.toNat, List.mem_range.mpr subnet.toNat_lt, ?_⟩
    rw [UInt8.ofNat_toNat]
  simp only [addrspaceUnused, Bool.not_eq_false', List.any_eq_true]
  exact ⟨_, used, by simp⟩

/-- A host on which every subnet is in use. -/
def crowded : Env := .obliging fun _ => some everySubnet

theorem crowded_exhausts (counter : Int) : crowded.Exhausts counter := by
  intro s _ _
  simp only [Env.verdict, Env.unusedAt, crowded, Env.obliging, everySubnet_used]

/-- The callback function is removed before the friend accepts, and no subnet is left. -/
def unheardSearch : List (Env × Op) :=
  [(crowded, .sendConnectionRequest 7), (crowded, .setCallback false), (crowded, .receive 7 [161])]

theorem unheardSearch_not_orderly : (∀ input ∈ unheardSearch, Standalone input) ∧
    ∃ ins life, transitions (ToxTunCore.empty true) unheardSearch = ins :: life ∧
      ins.op = .sendConnectionRequest 7 ∧ Lifetime 7 (ins :: life) ∧
      ¬ProposesOrderly 7 (ins :: life) := by
  let requested := (ToxTunCore.empty true).put 7 (some (Connection.initial true))
  let unheard : ToxTunCore := { requested with callbackFunction := false }
  have found : unheard.connections 7 = some (Connection.initial true) :=
    (ToxTunCore.empty true).put_self 7 (some (Connection.initial true))
  have standalone : ∀ input ∈ unheardSearch, Standalone input := by
    simp only [unheardSearch, List.forall_mem_cons]
    exact ⟨standalone_obliging _ (by simp), standalone_obliging _ (by simp),
      standalone_obliging _ (by simp), by simp⟩
  have last : Standalone (crowded, .receive 7 [161]) := standalone _ (by simp [unheardSearch])
  have exhausts : (step unheard (crowded, .receive 7 [161])).Exhausts 7 := by
    have arrival : (Connection.initial true).fragments.arrival (Data.fromToxData [161]) =
        .packet (Data.fromToxData [161]) 0 (Connection.initial true).fragments :=
      Fragments.arrive_whole (by decide)
    refine ⟨-1, ?_, crowded_exhausts (-1)⟩
    simp only [Transition.seeksFrom, Transition.reception, step, found, arrival, Option.map_some]
    exact if_pos (by decide)
  have ended : (step unheard (crowded, .receive 7 [161])).after = none :=
    (exhausted_step last.passive initial_initiating found last.device exhausts).2.2
  have asked : (step (ToxTunCore.empty true) (crowded, .sendConnectionRequest 7)).after =
      some requested := by
    obtain ⟨r, reply, answers⟩ :=
      @sendConnectionRequest_answers crowded 7 (ToxTunCore.empty true)
    cases reply
    exact answers.after
  have removed : (step requested (crowded, .setCallback false)).after = some unheard := rfl
  have run : transitions (ToxTunCore.empty true) unheardSearch =
      [step (ToxTunCore.empty true) (crowded, .sendConnectionRequest 7),
        step requested (crowded, .setCallback false), step unheard (crowded, .receive 7 [161])] := by
    rw [unheardSearch, transitions_of_after asked, transitions_of_after removed,
      transitions_of_end ended]
  refine ⟨standalone, _, _, run, rfl, ⟨rfl, ?_⟩, fun orderly => ?_⟩
  · simp only [List.forall_mem_cons]
    exact ⟨rfl, rfl, by simp⟩
  · obtain ⟨-, -, next, after, -⟩ := orderly.exhausted _ (by simp) exhausts
    rw [ended] at after
    cases after

end LibToxTun
