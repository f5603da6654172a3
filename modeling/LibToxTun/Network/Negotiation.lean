import LibToxTun.Network.Simulation
import Mathlib.Order.Bounds.Defs

/-! # The search for a common subnet

One side asks, the other one accepts, and nobody disturbs them: the stages of the
handshake, one message at a time, with the subnets tried so far. Every message that
is delivered comes closer to the end, whatever the addresses in use are.
-/

namespace LibToxTun

open Foundation

/-- What the devices of the two endpoints may say about a subnet. -/
structure Verdicts where
  used : Side → UInt8 → Prop
  unused : Side → UInt8 → Prop

/-- The environment of an endpoint: its device opens and gives such verdicts. -/
structure Env.Judges (E : Env) (V : Verdicts) (x : Side) : Prop extends E.Honest where
  opens : ∀ clock, E.tunOpens clock = true
  used : ∀ clock s, E.unusedAt clock s = false → V.used x s
  unused : ∀ clock s, E.unusedAt clock s = true → V.unused x s

/-- How far the handshake has come, with a bound on the messages still to come, the
phases of both sides, the messages on either wire and the events raised so far. -/
inductive Stage (V : Verdicts) : Nat → Option Phase → Option Phase → List Msg → List Msg →
    List Event → List Event → Prop where
  | asked : Stage V 516 (some .ownRequestPending) none [.request] [] [] []
  | ringing : Stage V 515 (some .ownRequestPending) (some .friendsRequestPending) [] [] []
      [.connectionRequested]
  | accepted : Stage V 514 (some .ownRequestPending) (some .expectingIpPacket) [] [.accept] []
      [.connectionRequested]
  | proposed (s : UInt8) (tried : ∀ t < s, V.used .a t ∨ V.used .b t) (free : V.unused .a s) :
      Stage V (2 * (256 - s.toNat) + 1) (some (.expectingIpConfirmation s)) (some .expectingIpPacket)
        [.proposal s] [] [] [.connectionRequested]
  | declined (s : UInt8) (tried : ∀ t ≤ s, V.used .a t ∨ V.used .b t) :
      Stage V (2 * (256 - s.toNat)) (some (.expectingIpConfirmation s)) (some .expectingIpPacket)
        [] [.ipReject] [] [.connectionRequested]
  | agreed (s : UInt8) (tried : ∀ t < s, V.used .a t ∨ V.used .b t) (free : ∀ x, V.unused x s) :
      Stage V 1 (some (.expectingIpConfirmation s)) (some (.connectedSecond s)) [] [.ipAccept] []
        [.connectionRequested, .connectionAccepted]
  | connected (s : UInt8) (tried : ∀ t < s, V.used .a t ∨ V.used .b t) (free : ∀ x, V.unused x s) :
      Stage V 0 (some (.connectedFirst s)) (some (.connectedSecond s)) [] [] [.connectionAccepted]
        [.connectionRequested, .connectionAccepted]
  | exhausted (tried : ∀ t, V.used .a t ∨ V.used .b t) :
      Stage V 1 none (some .expectingIpPacket) [.bye .reset] [] [.connectionClosed]
        [.connectionRequested]
  | closed (tried : ∀ t, V.used .a t ∨ V.used .b t) :
      Stage V 0 none none [] [] [.connectionClosed] [.connectionRequested, .connectionClosed]

/-! ## Replies on the way -/

theorem ofInt_toNat (s : UInt8) : UInt8.ofInt s.toNat = s := by
  have := s.toNat_lt
  have same := toNat_ofInt (n := s.toNat) (by omega) (by omega)
  exact UInt8.toNat_inj.mp (by omega)

/-- A reply that turns a party into another one, with the events it raises. -/
structure Reply.Tells (r : Reply) (p p' : Party) (msgs : List Msg) (events : List Event) : Prop where
  turns : r.Turns p p' (msgs.map p.letter)
  events : r.events = events
  quiet : r.packets.filter Data.isLossy = []

section
variable {r : Reply} {p p' : Party} {msgs : List Msg} {es : List Event}

theorem Reply.tells (shown : Shown r.connection p'.phase) (packets : r.packets = msgs.map Msg.data)
    (asked : p'.asked = p.asked + msgs.count .request) (heard : p'.heard = p.heard)
    (events : r.events = es) : r.Tells p p' msgs es := by
  refine ⟨Reply.turns_of_msgs msgs shown packets asked heard, events, ?_⟩
  rw [packets, List.filter_eq_nil_iff]
  intro d hd
  obtain ⟨m, -, rfl⟩ := List.mem_map.mp hd
  simp

variable {E : Env} {V : Verdicts} {x : Side} (judges : E.Judges V x) {c : Connection}
include judges

/-- The next subnet that the own device lets pass is proposed, after all the ones in
between were in use; or all the remaining ones are. -/
theorem propose_tells (low : -1 ≤ c.subnet) (high : c.subnet ≤ 255)
    (waiting : c.state = .expectingIpConfirmation) (ofData : c.fragments.OfData) :
    (∃ s : UInt8, c.subnet < s.toNat ∧ V.unused x s ∧
      (∀ t : UInt8, c.subnet < t.toNat → t < s → V.used x t) ∧
      (E.propose c).Tells p (p.inPhase (some (.expectingIpConfirmation s))) [.proposal s] []) ∨
    ((∀ t : UInt8, c.subnet < t.toNat → V.used x t) ∧
      (E.propose c).Tells p (p.inPhase none) [.bye .reset] [.connectionClosed]) := by
  obtain ⟨⟨subnet, clock, found⟩, search⟩ := search_total E c.subnet 0
  have ends := search_searched E low high search
  have above := ends.above
  have skipped (t : UInt8) (after : c.subnet < t.toNat) (before : (t.toNat : Int) < subnet) :
      V.used x t := by
    obtain ⟨k, refused⟩ := ends.skipped t.toNat after before
    exact judges.used k t (ofInt_toNat t ▸ refused)
  simp only [Env.propose, search, judges.sends, judges.killedAt, if_true]
  cases found with
  | false =>
      refine .inr ⟨fun t after => skipped t after ?_, Reply.tells .none rfl rfl rfl rfl⟩
      have := ends.exhausted rfl
      have := t.toNat_lt
      omega
  | true =>
      obtain ⟨below, passed⟩ := ends.passed rfl
      have same := toNat_ofInt (show 0 ≤ subnet by omega) below
      refine .inl ⟨UInt8.ofInt subnet, by omega, judges.unused _ _ passed, fun t after before =>
        skipped t after ?_, Reply.tells (.some ⟨waiting, by simp only; omega, below, rfl⟩ ofData)
          rfl rfl rfl rfl⟩
      have := UInt8.lt_iff_toNat_lt.mp before
      omega

end

/-! ## One message -/

theorem receive_message (E : Env) (c : Connection) (m : Msg) :
    E.receive (some c) m.data = some (E.respond c m.data) := by
  have arrival : c.fragments.arrival m.data = .packet m.data 0 c.fragments :=
    Fragments.arrive_whole m.data_whole
  simp only [Env.receive, arrival]

section
variable {E : Env} {V : Verdicts} {p : Party} {c : Option Connection} {k : Nat}
  {pa pb : Option Phase} {m : Msg} {ab ba : List Msg} {ea eb : List Event} {r : Reply}

theorem Stage.deliver_a (stage : Stage V k pa pb ab (m :: ba) ea eb) (judges : E.Judges V .a)
    (linked : p.phase = pa) (shown : Shown c pa) (reply : E.receive c m.data = some r) :
    ∃ k' < k, ∃ p' msgs es, r.Tells (if m = .request then p.hears else p) p' msgs es ∧
      Stage V k' p'.phase pb (ab ++ msgs) ba (ea ++ es) eb := by
  cases shown with
  | none => cases stage
  | @some c phase shows ofData =>
      rw [receive_message, Option.some.injEq] at reply
      subst reply
      cases stage with
      | accepted =>
          obtain ⟨asking, fresh⟩ := shows
          have respond : E.respond c Msg.accept.data =
              E.propose { c with state := .expectingIpConfirmation } := if_pos asking
          rw [respond]
          rcases propose_tells (p := p) judges (c := { c with state := .expectingIpConfirmation })
            (by simp [fresh]) (by simp [fresh]) rfl ofData with ⟨s, -, free, skipped, tells⟩ |
            ⟨skipped, tells⟩
          · refine ⟨_, ?_, _, _, _, tells, .proposed s (fun t before => .inl (skipped t ?_ before)) free⟩
            · omega
            · simp only [fresh]
              omega
          · exact ⟨1, by omega, _, _, _, tells, .exhausted fun t => .inl (skipped t (by
              simp only [fresh]
              omega))⟩
      | declined s tried =>
          obtain ⟨waiting, low, high, rfl⟩ := shows
          have counter := toNat_ofInt low high
          have respond : E.respond c Msg.ipReject.data = E.propose c := if_pos waiting
          rw [respond]
          have before {t : UInt8} (not : ¬ c.subnet < t.toNat) : t ≤ UInt8.ofInt c.subnet :=
            UInt8.le_iff_toNat_le.mpr (by omega)
          rcases propose_tells (p := p) judges (by omega) high waiting ofData with
            ⟨s, above, free, skipped, tells⟩ | ⟨skipped, tells⟩
          · refine ⟨_, ?_, _, _, _, tells, .proposed s (fun t below => ?_) free⟩
            · have := s.toNat_lt
              omega
            · by_cases later : c.subnet < t.toNat
              · exact .inl (skipped t later below)
              · exact tried t (before later)
          · refine ⟨1, ?_, _, _, _, tells, .exhausted fun t => ?_⟩
            · omega
            · by_cases later : c.subnet < t.toNat
              · exact .inl (skipped t later)
              · exact tried t (before later)
      | agreed s tried free =>
          obtain ⟨waiting, low, high, rfl⟩ := shows
          have respond : E.respond c Msg.ipAccept.data =
              ⟨some { c with tun := ⟨some (UInt8.ofInt c.subnet, 1)⟩, state := .connected }, [],
                [.connectionAccepted]⟩ := if_pos waiting
          rw [respond]
          exact ⟨0, by omega, p.inPhase (some (.connectedFirst (UInt8.ofInt c.subnet))), [], _,
            Reply.tells (.some ⟨rfl, low, high, rfl⟩ ofData) rfl rfl rfl rfl,
            .connected _ tried free⟩

theorem Stage.deliver_b (stage : Stage V k pa pb (m :: ab) ba ea eb) (judges : E.Judges V .b)
    (linked : p.phase = pb) (shown : Shown c pb) (reply : E.receive c m.data = some r) :
    ∃ k' < k, ∃ p' msgs es, r.Tells (if m = .request then p.hears else p) p' msgs es ∧
      Stage V k' pa p'.phase ab (ba ++ msgs) ea (eb ++ es) := by
  cases shown with
  | none =>
      cases stage with
      | asked =>
          have greet : E.greet Msg.request.data =
              ⟨some (Connection.initial false), [], [.connectionRequested]⟩ := if_pos (judges.opens 0)
          rw [Env.receive, greet, Option.some.injEq] at reply
          subst reply
          exact ⟨515, by omega, p.hears.inPhase (some .friendsRequestPending), [], _,
            Reply.tells (.some ⟨rfl, rfl⟩ Fragments.ofData_empty) rfl rfl rfl rfl, .ringing⟩
  | @some c phase shows ofData =>
      rw [receive_message, Option.some.injEq] at reply
      subst reply
      cases stage with
      | proposed s tried free =>
          obtain ⟨expecting, fresh⟩ := shows
          have respond : E.respond c (Msg.proposal s).data = if E.unusedAt 0 s then
              ⟨some { c with tun := ⟨some (s, 2)⟩, state := .connected },
                [Data.fromPacketId .ipAccept], [.connectionAccepted]⟩
              else ⟨some c, [Data.fromPacketId .ipReject], []⟩ := by
            refine (if_pos expecting).trans ?_
            change E.consider c s 2 = _
            simp only [Env.consider, judges.sends, if_true]
          rw [respond]
          have range := s.toNat_lt
          cases unused : E.unusedAt 0 s with
          | true =>
              refine ⟨1, by omega, p.inPhase (some (.connectedSecond s)), [.ipAccept], _,
                Reply.tells (.some ⟨rfl, fresh, rfl⟩ ofData) rfl rfl rfl rfl,
                .agreed s tried fun x => ?_⟩
              cases x with
              | a => exact free
              | b => exact judges.unused 0 s unused
          | false =>
              refine ⟨2 * (256 - s.toNat), by omega, p, [.ipReject], [],
                Reply.tells (linked ▸ .some ⟨expecting, fresh⟩ ofData) rfl rfl rfl rfl, ?_⟩
              rw [linked, List.append_nil]
              refine .declined s fun t upTo => ?_
              rcases UInt8.lt_or_eq_of_le upTo with below | rfl
              · exact tried t below
              · exact .inr (judges.used 0 _ unused)
      | exhausted tried =>
          have respond : E.respond c (Msg.bye .reset).data = ⟨none, [], [.connectionClosed]⟩ := rfl
          rw [respond]
          exact ⟨0, by omega, p.inPhase none, [], _, Reply.tells .none rfl rfl rfl rfl, .closed tried⟩

end

/-! ## Steps of the net -/

def Connected (phase : Option Phase) : Prop :=
  ∃ s, phase = some (.connectedFirst s) ∨ phase = some (.connectedSecond s)

/-- The net is in a stage of the handshake, and only connected sides have sent frames. -/
structure Net.InStage (n : Net) (V : Verdicts) (k : Nat) (d : Duplex Party Letter) : Prop where
  abstracts : n.Abstracts d
  stage : Stage V k (d.party .a).phase (d.party .b).phase ((d.wire .a).map Letter.msg)
    ((d.wire .b).map Letter.msg) (n.events .a) (n.events .b)
  silent : ∀ x, n.air x ≠ [] → Connected (d.party x).phase

/-- What happens during a handshake: the side that was asked accepts, packets arrive, and
frames are read. -/
inductive HandshakeInput (V : Verdicts) : Env × Move → Prop where
  | deliver {E : Env} {x : Side} (judges : E.Judges V x) : HandshakeInput V (E, .deliver x)
  | deliverLossy {E : Env} {x : Side} (judges : E.Judges V x) (i : Nat) :
      HandshakeInput V (E, .deliverLossy x i)
  | iterate {E : Env} {x : Side} (judges : E.Judges V x) {reads : List (Option (List UInt8))}
      (framed : (Move.iterate x reads).Framed) : HandshakeInput V (E, .iterate x reads)
  | accept {E : Env} (judges : E.Judges V .b) : HandshakeInput V (E, .acceptConnection .b)

/-- The user of an endpoint was asked and has not answered. -/
def Net.rings (n : Net) (x : Side) : Bool :=
  match n.connection x with
  | some c => c.state = .friendsRequestPending
  | none => false

/-- A user accepts without being asked. -/
def Net.hasty (n : Net) : Move → Bool
  | .acceptConnection x => !n.rings x
  | _ => false

/-- A frame comes before the acceptance of the address that was sent before it. -/
def Net.overtakes (n : Net) : Move → Bool
  | .deliverLossy x _ => (n.wire x.other).any fun p => PacketId.ofByte p.data.header = .ipAccept
  | _ => false

/-- The moves of the handshake itself. -/
def Move.advances : Move → Bool
  | .deliver _ => true
  | .acceptConnection _ => true
  | _ => false

section
variable {n n' : Net} {V : Verdicts} {k : Nat} {d : Duplex Party Letter} {E : Env} {x : Side}

theorem Net.Abstracts.deliver_eq (h : n.Abstracts d) (reliable : E.Reliable) {l : Letter}
    {rest : List Letter} (next : d.wire x.other = l :: rest) :
    n.step (E, .deliver x) = (E.receive (n.connection x) l.msg.data).map
      ((n.take x l.parcel (rest.map Letter.parcel)).answer x) := by
  have turn : n.turn (.deliver x) = some (x, .receive l.msg.data.bytes,
      n.take x l.parcel (rest.map Letter.parcel)) := by
    simp [Net.turn, h.wire, next, Letter.parcel]
  rw [Net.step_eq reliable.passive h.registered, turn, Option.bind_some]
  simp only [Env.reply, Data.fromToxData_bytes l.msg.data_toxHeaderSet]
  rfl

/-- A reply shows in the parties, the wires, the events and the air. -/
theorem Net.Abstracts.told (h : n.Abstracts d) {r : Reply} {p' : Party} {msgs : List Msg}
    {es : List Event} (tells : r.Tells (d.party x) p' msgs es) :
    (n.answer x r).Abstracts (d.put x p' (msgs.map (d.party x).letter)) ∧
      (n.answer x r).events = Function.update n.events x (n.events x ++ es) ∧
      (n.answer x r).air = n.air :=
  ⟨h.answer tells.turns, by simp [Net.answer, Net.advance, tells.events],
    by simp [Net.answer, Net.advance, tells.quiet]⟩

theorem Stage.pending {pa pb : Option Phase} {ab ba : List Msg} {ea eb : List Event}
    (stage : Stage V k pa pb ab ba ea eb) :
    (ba ≠ [] → ¬ Connected pa) ∧ (ab ≠ [] → ¬ Connected pb) := by
  constructor <;> rintro waits ⟨s, h | h⟩ <;> cases stage <;> simp_all

theorem Net.InStage.deliver (h : n.InStage V k d) (judges : E.Judges V x)
    (taken : n.step (E, .deliver x) = some n') : ∃ k' < k, ∃ d', n'.InStage V k' d' := by
  cases next : d.wire x.other with
  | nil =>
      have turn : n.turn (.deliver x) = none := by simp [Net.turn, h.abstracts.wire, next]
      rw [Net.step_eq judges.passive h.abstracts.registered, turn] at taken
      cases taken
  | cons l rest =>
      rw [h.abstracts.deliver_eq judges.toReliable next] at taken
      obtain ⟨r, reply, rfl⟩ := Option.map_eq_some_iff.mp taken
      have shown := h.abstracts.shown x
      have heard := h.abstracts.take x l rest
      have stage := h.stage
      have pending := stage.pending
      cases x with
      | a =>
          change d.wire .b = _ at next
          rw [next, List.map_cons] at stage pending
          obtain ⟨k', less, p', msgs, es, tells, stage'⟩ := stage.deliver_a judges rfl shown reply
          obtain ⟨abstracts, events, air⟩ := heard.told (by rw [Duplex.put_party]; exact tells)
          refine ⟨k', less, _, abstracts, ?_, fun y sent => ?_⟩
          · simpa [Duplex.put, Duplex.taken, events, Function.comp_def, Side.other] using stage'
          · rw [air] at sent
            cases y with
            | a => exact (pending.1 (List.cons_ne_nil _ _) (h.silent .a sent)).elim
            | b => simpa [Duplex.put, Duplex.taken] using h.silent .b sent
      | b =>
          change d.wire .a = _ at next
          rw [next, List.map_cons] at stage pending
          obtain ⟨k', less, p', msgs, es, tells, stage'⟩ := stage.deliver_b judges rfl shown reply
          obtain ⟨abstracts, events, air⟩ := heard.told (by rw [Duplex.put_party]; exact tells)
          refine ⟨k', less, _, abstracts, ?_, fun y sent => ?_⟩
          · simpa [Duplex.put, Duplex.taken, events, Function.comp_def, Side.other] using stage'
          · rw [air] at sent
            cases y with
            | a => simpa [Duplex.put, Duplex.taken] using h.silent .a sent
            | b => exact (pending.2 (List.cons_ne_nil _ _) (h.silent .b sent)).elim

theorem Stage.accept {pa : Option Phase} {ab ba : List Msg} {ea eb : List Event}
    (stage : Stage V k pa (some .friendsRequestPending) ab ba ea eb) :
    ∃ k' < k, Stage V k' pa (some .expectingIpPacket) ab (ba ++ [.accept]) ea eb := by
  cases stage with
  | ringing => exact ⟨514, by omega, .accepted⟩

theorem Net.rings_iff {n : Net} {x : Side} :
    n.rings x = true ↔ ∃ c, n.connection x = some c ∧ c.state = .friendsRequestPending := by
  unfold Net.rings
  cases n.connection x <;> simp

theorem Net.InStage.accept (h : n.InStage V k d) (judges : E.Judges V .b) (rings : n.rings .b = true) :
    ∃ n', n.step (E, .acceptConnection .b) = some n' ∧ ∃ k' < k, ∃ d', n'.InStage V k' d' := by
  obtain ⟨c, linked, ringing⟩ := Net.rings_iff.mp rings
  have shown := h.abstracts.shown .b
  have stage := h.stage
  have silent := h.silent
  rw [Net.step_eq judges.passive h.abstracts.registered]
  simp only [Net.turn, Option.bind_some, Env.reply, linked, ringing, judges.sends, if_true,
    Option.map_some]
  refine ⟨_, rfl, ?_⟩
  rw [linked] at shown
  generalize phase : (d.party .b).phase = pb at shown stage
  cases shown with
  | @some c pb shows ofData =>
      cases pb with
      | friendsRequestPending =>
          obtain ⟨k', less, stage'⟩ := stage.accept
          have tells : Reply.Tells ⟨some { c with state := .expectingIpPacket },
              [Data.fromPacketId .connectionAccept], []⟩ (d.party .b)
              ((d.party .b).inPhase (some .expectingIpPacket)) [.accept] [] :=
            Reply.tells (.some ⟨rfl, shows.2⟩ ofData) rfl rfl rfl rfl
          obtain ⟨abstracts, events, air⟩ := h.abstracts.told tells
          refine ⟨k', less, _, abstracts, ?_, fun y sent => ?_⟩
          · simpa [Duplex.put, events] using stage'
          · rw [air] at sent
            cases y with
            | a => simpa [Duplex.put] using silent .a sent
            | b =>
                obtain ⟨s, same | same⟩ := silent .b sent <;> simp [phase] at same
      | _ => simp [shows.1] at ringing

/-- Frames that are read go into the air of a connected side. -/
theorem Net.InStage.iterate (h : n.InStage V k d) (judges : E.Judges V x)
    {reads : List (Option (List UInt8))} (framed : (Move.iterate x reads).Framed)
    (taken : n.step (E, .iterate x reads) = some n') : n'.InStage V k d := by
  rw [Net.step_eq judges.passive h.abstracts.registered] at taken
  simp only [Net.turn, Option.bind_some] at taken
  obtain ⟨r, reply, rfl⟩ := Option.map_eq_some_iff.mp taken
  have turns := iterate_turns judges.roomy (h.abstracts.shown x) framed reply
  have abstracts := h.abstracts.answer turns
  rw [Duplex.put_same] at abstracts
  have shown := h.abstracts.shown x
  have replies := Env.reply_iterate reply
  have events : r.events = [] := by
    obtain ⟨-, rfl⟩ | ⟨c, -, -, rfl⟩ | ⟨c, -, -, -, rfl⟩ := replies <;> rfl
  refine ⟨abstracts, by simpa [Net.answer, Net.advance, events] using h.stage, fun y sent => ?_⟩
  rcases Side.eq_or_other x y with rfl | rfl
  · simp only [Net.answer, Net.advance, Function.update_self] at sent
    by_cases before : n.air y = []
    · rw [before, List.nil_append] at sent
      obtain ⟨-, rfl⟩ | ⟨c, -, -, rfl⟩ | ⟨c, found, connected, -, -⟩ := replies
      · simp at sent
      · simp [Reply.kept] at sent
      · rw [found] at shown
        generalize (d.party y).phase = ph at shown
        cases shown with
        | @some c phase shows =>
            cases phase with
            | connectedFirst s => exact ⟨s, .inl rfl⟩
            | connectedSecond s => exact ⟨s, .inr rfl⟩
            | _ => simp [shows.1] at connected
    · exact h.silent y before
  · refine h.silent x.other ?_
    simpa [Net.answer, Net.advance] using sent

/-- Who hears a connected side, and no acceptance from it, is connected too. -/
theorem Stage.meets_frame {pa pb : Option Phase} {ab ba : List Msg} {ea eb : List Event}
    (stage : Stage V k pa pb ab ba ea eb) :
    (Connected pa → Connected pb) ∧ (Connected pb → .ipAccept ∉ ba → Connected pa) := by
  constructor
  · rintro ⟨s, h | h⟩ <;> cases stage <;> simp_all [Connected]
  · rintro ⟨s, h | h⟩ <;> cases stage <;> simp_all [Connected]

theorem Net.InStage.meets_frame (h : n.InStage V k d) {i : Nat}
    (ordered : n.overtakes (.deliverLossy x i) = false) (sent : n.air x.other ≠ []) :
    Connected (d.party x).phase := by
  have there := h.silent x.other sent
  have meets := h.stage.meets_frame
  cases x with
  | a =>
      refine meets.2 there fun accept => ?_
      obtain ⟨l, hl, same⟩ := List.mem_map.mp accept
      have found : (n.wire Side.a.other).any
          (fun p => PacketId.ofByte p.data.header = .ipAccept) = true := by
        rw [h.abstracts.wire, List.any_eq_true]
        exact ⟨l.parcel, List.mem_map_of_mem hl, by rw [Letter.parcel, same]; rfl⟩
      rw [Net.overtakes, found] at ordered
      cases ordered
  | b => exact meets.1 there

/-- A frame that does not overtake the acceptance of the address meets a connected side. -/
theorem Net.InStage.deliverLossy (h : n.InStage V k d) (judges : E.Judges V x) {i : Nat}
    (ordered : n.overtakes (.deliverLossy x i) = false)
    (taken : n.step (E, .deliverLossy x i) = some n') : n'.InStage V k d := by
  rw [Net.step_eq judges.passive h.abstracts.registered] at taken
  simp only [Net.turn] at taken
  cases found : (n.air x.other)[i]? with
  | none => simp [found] at taken
  | some frame =>
      simp only [found, Option.bind_some] at taken
      obtain ⟨r, reply, rfl⟩ := Option.map_eq_some_iff.mp taken
      have there : n.air x.other ≠ [] := fun empty => by simp [empty] at found
      have here := h.meets_frame ordered there
      have traffic := h.abstracts.air x.other frame (List.mem_of_getElem? found)
      have lossy := h.abstracts.takeLossy x i
      have shown := h.abstracts.shown x
      simp only [Env.reply, Data.fromToxData_bytes traffic.1] at reply
      change E.receive (n.connection x) frame = some r at reply
      generalize n.connection x = c at shown reply
      generalize phase : (d.party x).phase = ph at shown
      cases shown with
      | none => obtain ⟨s, same | same⟩ := here <;> simp [phase] at same
      | @some c ph shows ofData =>
          have connected : c.state = .connected := by
            obtain ⟨s, same | same⟩ := here <;>
              (rw [phase, Option.some.injEq] at same; subst same; exact shows.1)
          rcases lossy_cases judges.toReliable ofData traffic reply with ⟨fs, stored, rfl⟩ | ⟨refused, -⟩
          · have tells : Reply.Tells (.kept { c with fragments := fs }) (d.party x) (d.party x) [] [] :=
              Reply.tells (phase ▸ .some (shows.withFragments fs) stored) rfl rfl rfl rfl
            obtain ⟨abstracts, events, air⟩ := lossy.told tells
            rw [List.map_nil, Duplex.put_same] at abstracts
            refine ⟨abstracts, by simpa [events] using h.stage, fun y sent => h.silent y ?_⟩
            rw [air] at sent
            rcases Side.eq_or_other x.other y with rfl | rfl
            · exact there
            · simpa [Net.takeLossy] using sent
          · exact (refused connected).elim

/-- Every step of an undisturbed handshake leads on, and the moves of the handshake lead
closer to its end. -/
theorem Net.InStage.step (h : n.InStage V k d) {move : Move} (input : HandshakeInput V (E, move))
    (asked : n.hasty move = false) (ordered : n.overtakes move = false)
    (taken : n.step (E, move) = some n') :
    ∃ k' d', n'.InStage V k' d' ∧ k' + (if move.advances then 1 else 0) ≤ k := by
  cases input with
  | deliver judges =>
      obtain ⟨k', less, d', stage⟩ := h.deliver judges taken
      exact ⟨k', d', stage, less⟩
  | deliverLossy judges i => exact ⟨k, d, h.deliverLossy judges ordered taken, Nat.le_refl _⟩
  | iterate judges framed => exact ⟨k, d, h.iterate judges framed taken, Nat.le_refl _⟩
  | accept judges =>
      obtain ⟨n'', taken', k', less, d', stage⟩ := h.accept judges (by simpa [Net.hasty] using asked)
      rw [taken] at taken'
      cases taken'
      exact ⟨k', d', stage, less⟩

end

/-! ## The end of the search -/

/-- The devices know which subnets are in use on either side. -/
def Verdicts.exact (U : Side → Set UInt8) : Verdicts where
  used x s := s ∈ U x
  unused x s := s ∉ U x

/-- The handshake is over: both sides are on the least subnet that neither uses, or
both have given up. -/
structure Net.Negotiated (n : Net) (U : Side → Set UInt8) : Prop where
  found : (∃ s, s ∉ U .a ∧ s ∉ U .b) → ∃ s, IsLeast {s | s ∉ U .a ∧ s ∉ U .b} s ∧
    n.address .a = some (.connected, some (s, 1)) ∧ n.address .b = some (.connected, some (s, 2)) ∧
    n.events .a = [.connectionAccepted] ∧ n.events .b = [.connectionRequested, .connectionAccepted]
  none : (¬ ∃ s, s ∉ U .a ∧ s ∉ U .b) → n.connection .a = none ∧ n.connection .b = none ∧
    n.events .a = [.connectionClosed] ∧ n.events .b = [.connectionRequested, .connectionClosed]

section
variable {n n' : Net} {V : Verdicts} {k : Nat} {d : Duplex Party Letter} {E : Env} {x : Side}

theorem Net.asked_inStage {friend : Side → UInt32} (judges : E.Judges V .a)
    (asked : (Net.start friend).step (E, .sendConnectionRequest .a) = some n) :
    ∃ d, n.InStage V 516 d := by
  have start := Net.start_abstracts friend
  rw [Net.step_eq judges.passive start.registered] at asked
  simp only [Net.turn, Option.bind_some] at asked
  obtain ⟨r, reply, rfl⟩ := Option.map_eq_some_iff.mp asked
  change some (if E.tunOpens 0 = true ∧ E.sends 1 = true then _ else _) = some r at reply
  rw [if_pos ⟨judges.opens 0, judges.sends 1⟩, Option.some.injEq] at reply
  subst reply
  have tells : Reply.Tells ⟨some (Connection.initial true),
      [Data.fromPacketId .connectionRequest], []⟩ (Duplex.start.party .a)
      ⟨some .ownRequestPending, 1, 0⟩ [.request] [] :=
    Reply.tells (.some ⟨rfl, rfl⟩ Fragments.ofData_empty) rfl rfl rfl rfl
  obtain ⟨abstracts, events, air⟩ := start.told tells
  refine ⟨_, abstracts, ?_, fun y sent => ?_⟩
  · simp only [Duplex.put, events]
    exact Stage.asked
  · rw [air] at sent
    exact (sent rfl).elim

theorem receive_isSome (E : Env) (c : Option Connection) (m : Msg) :
    (E.receive c m.data).isSome = true := by
  cases c with
  | none => rfl
  | some c => rw [receive_message]; rfl

theorem Stage.waits {pa pb : Option Phase} {ab ba : List Msg} {ea eb : List Event}
    (stage : Stage V k pa pb ab ba ea eb) (unfinished : k ≠ 0) :
    ab ≠ [] ∨ ba ≠ [] ∨ pb = some .friendsRequestPending := by
  cases stage <;> simp_all

/-- Some move of the handshake can be made, whatever the environment. -/
def Net.GoesOn (n : Net) (V : Verdicts) : Prop :=
  ∃ x move, move.advances = true ∧ ∀ E : Env, E.Judges V x →
    HandshakeInput V (E, move) ∧ n.hasty move = false ∧ n.overtakes move = false ∧
      (n.step (E, move)).isSome = true

theorem Net.InStage.goesOn (h : n.InStage V k d) (unfinished : k ≠ 0) : n.GoesOn V := by
  have deliver (x : Side) (waits : (d.wire x.other).map Letter.msg ≠ []) : n.GoesOn V := by
    cases next : d.wire x.other with
    | nil => simp [next] at waits
    | cons l rest =>
        refine ⟨x, .deliver x, rfl, fun E judges => ⟨.deliver judges, rfl, rfl, ?_⟩⟩
        rw [h.abstracts.deliver_eq judges.toReliable next, Option.isSome_map]
        exact receive_isSome E _ _
  rcases h.stage.waits unfinished with ab | ba | ringing
  · exact deliver .b ab
  · exact deliver .a ba
  · have shown := h.abstracts.shown .b
    rw [ringing] at shown
    have rings : n.rings .b = true := by
      rw [Net.rings_iff]
      generalize n.connection .b = c at shown ⊢
      cases shown with
      | some shows => exact ⟨_, rfl, shows.1⟩
    refine ⟨.b, .acceptConnection .b, rfl, fun E judges =>
      ⟨.accept judges, by simp [Net.hasty, rings], rfl, ?_⟩⟩
    obtain ⟨n', taken, -⟩ := h.accept judges rings
    rw [taken]
    rfl

theorem Net.Abstracts.address_of {phase : Phase} (h : n.Abstracts d)
    (linked : (d.party x).phase = some phase) :
    ∃ c : Connection, n.connection x = some c ∧ c.Shows phase := by
  have shown := h.shown x
  rw [linked] at shown
  generalize n.connection x = c at shown
  cases shown with
  | some shows => exact ⟨_, rfl, shows⟩

theorem Net.Abstracts.connection_none (h : n.Abstracts d) (free : (d.party x).phase = none) :
    n.connection x = none := by
  have shown := h.shown x
  rw [free] at shown
  generalize n.connection x = c at shown
  cases shown
  rfl

end

theorem Net.InStage.negotiated {U : Side → Set UInt8} {n : Net} {d : Duplex Party Letter}
    (h : n.InStage (.exact U) 0 d) : n.Negotiated U := by
  have stage := h.stage
  generalize phase : (d.party .a).phase = pa at stage
  generalize phase' : (d.party .b).phase = pb at stage
  generalize (d.wire .a).map Letter.msg = ab at stage
  generalize (d.wire .b).map Letter.msg = ba at stage
  generalize events : n.events .a = ea at stage
  generalize events' : n.events .b = eb at stage
  generalize finished : 0 = k at stage
  cases stage with
  | connected s tried free =>
      obtain ⟨c, linked, connected, -, -, ip⟩ := h.abstracts.address_of phase
      obtain ⟨c', linked', connected', -, ip'⟩ := h.abstracts.address_of phase'
      have least : IsLeast {s | s ∉ U .a ∧ s ∉ U .b} s := by
        refine ⟨⟨free .a, free .b⟩, fun t ⟨ha, hb⟩ => UInt8.not_lt.mp fun below => ?_⟩
        rcases tried t below with used | used
        · exact ha used
        · exact hb used
      refine ⟨fun _ => ⟨s, least, ?_, ?_, events, events'⟩, fun none => (none ⟨s, least.1⟩).elim⟩
      · rw [Net.address, linked, Option.map_some, connected, ip]
      · rw [Net.address, linked', Option.map_some, connected', ip']
  | closed tried =>
      refine ⟨fun ⟨s, ha, hb⟩ => ?_, fun _ => ⟨h.abstracts.connection_none phase,
        h.abstracts.connection_none phase', events, events'⟩⟩
      rcases tried s with used | used
      · exact (ha used).elim
      · exact (hb used).elim
  | declined s tried =>
      have := s.toNat_lt
      omega
  | asked | ringing | accepted | proposed s tried free | agreed s tried free | exhausted tried => omega

/-- Whatever addresses are in use, the search for a subnet ends: a run has at most 516
moves of the handshake, and where none can be made it has ended as it should. -/
theorem negotiation_ends {U : Side → Set UInt8} {friend : Side → UInt32} {E : Env}
    (judges : E.Judges (.exact U) .a) {n₀ : Net}
    (asked : (Net.start friend).step (E, .sendConnectionRequest .a) = some n₀)
    {inputs : List (Env × Move)} {n : Net}
    (runs : Runs Net.step (fun n i => HandshakeInput (.exact U) i ∧
      !n.hasty i.2 && !n.overtakes i.2) n₀ inputs n) :
    inputs.countP (fun i => i.2.advances) ≤ 516 ∧ (n.Negotiated U ∨ n.GoesOn (.exact U)) := by
  obtain ⟨k, ⟨d, stage⟩, bound⟩ := runs.bounded (I := fun k n => ∃ d, n.InStage (.exact U) k d)
    (fun i => i.2.advances) (Net.asked_inStage judges asked) (by
      rintro k n ⟨E, move⟩ n' ⟨d, stage⟩ ⟨input, orderly⟩ taken
      simp only [Bool.and_eq_true, Bool.not_eq_true'] at orderly
      obtain ⟨k', d', stage', less⟩ := stage.step input orderly.1 orderly.2 taken
      exact ⟨k', ⟨d', stage'⟩, less⟩)
  refine ⟨by omega, ?_⟩
  by_cases finished : k = 0
  · subst finished
    exact .inl stage.negotiated
  · exact .inr (stage.goesOn finished)

/-- The subnets of the addresses in use. -/
def subnets (usedIps : List Ip4) : Set UInt8 :=
  {s | ∃ addr ∈ usedIps, addr.1 = 192 ∧ addr.2.1 = 168 ∧ addr.2.2.1 = s}

theorem addrspaceUnused_iff (usedIps : List Ip4) (s : UInt8) :
    addrspaceUnused usedIps s = true ↔ s ∉ subnets usedIps := by
  simp only [addrspaceUnused, Bool.not_eq_true', List.any_eq_false, Bool.and_eq_true, beq_iff_eq,
    subnets, Set.mem_ofPred_eq, not_exists, not_and, and_imp]

/-- Queries that succeed and list the same addresses every time are exact verdicts. -/
theorem Env.judges_obliging {usedIps : List Ip4} {U : Side → Set UInt8} {x : Side}
    (inUse : U x = subnets usedIps) : (Env.obliging fun _ => some usedIps).Judges (.exact U) x := by
  have verdict (clock : Nat) (s : UInt8) :
      (Env.obliging fun _ => some usedIps).unusedAt clock s = true ↔ s ∉ U x :=
    inUse ▸ addrspaceUnused_iff usedIps s
  refine ⟨⟨Env.obliging_reliable _, (by decide : 10 ≤ 1373)⟩, fun _ => rfl,
    fun clock s refused => ?_, fun clock s => (verdict clock s).mp⟩
  by_contra free
  rw [(verdict clock s).mpr free] at refused
  cases refused

/-- Both sides use the first subnet. -/
theorem negotiation_ends_second :
    let U : Side → Set UInt8 := fun _ => subnets [(192, 168, 0, 9)]
    let E := Env.obliging fun _ => some [(192, 168, 0, 9)]
    ∃ n₀ inputs n, (Net.start fun _ => 7).step (E, .sendConnectionRequest .a) = some n₀ ∧
      Runs Net.step (fun n i => HandshakeInput (.exact U) i ∧ !n.hasty i.2 && !n.overtakes i.2)
        n₀ inputs n ∧ n.address .a = some (.connected, some (1, 1)) ∧
      inputs.countP (fun i => i.2.advances) ≤ 516 ∧ (n.Negotiated U ∨ n.GoesOn (.exact U)) := by
  intro U E
  have judges (x : Side) : E.Judges (.exact U) x := Env.judges_obliging rfl
  let test := fun (n : Net) (i : Env × Move) => !n.hasty i.2 && !n.overtakes i.2
  let inputs : List (Env × Move) := [(E, .deliver .b), (E, .acceptConnection .b), (E, .deliver .a),
    (E, .deliver .b), (E, .deliver .a)]
  obtain ⟨n₀, asked, rest⟩ := exists_run Net.step (Net.start fun _ => 7)
    [(E, .sendConnectionRequest .a)]
    (P := fun n₀ => (run (guarded test Net.step) n₀ inputs).any (fun n =>
      decide (n.address .a = some (.connected, some (1, 1)))) = true) (by decide +kernel)
  obtain ⟨n, taken, connected⟩ := exists_run _ _ _ rest
  have runs := Runs.of_guarded_run (P := HandshakeInput (.exact U)) taken (by
    simp only [inputs, List.forall_mem_cons]
    exact ⟨.deliver (judges .b), .accept (judges .b), .deliver (judges .a), .deliver (judges .b),
      .deliver (judges .a), nofun⟩)
  have asked : (Net.start fun _ => 7).step (E, .sendConnectionRequest .a) = some n₀ := by
    simpa [run] using asked
  exact ⟨n₀, inputs, n, asked, runs, connected, negotiation_ends (judges .a) asked runs⟩

end LibToxTun
