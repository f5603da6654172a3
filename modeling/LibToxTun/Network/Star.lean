import LibToxTun.Core.Evolution
import LibToxTun.Network.Machine

/-! # One core and its friends

The sessions of a core with any number of friends: each is a net of its own whose
first endpoint is the core, and all share its table. The host of the core answers
every query for the addresses in use with those of its other interfaces and those
set on the devices of live connections.

A subnet is checked when it is proposed and given when the proposal is confirmed.
Two sessions can propose the same one in between, and the second confirmation gives
a subnet that the first one has taken. Nothing else gives a subnet twice.
-/

namespace LibToxTun

open Foundation

/-! ## The host -/

/-- The host of a core: the addresses of its other interfaces, and the friends. -/
structure Host where
  fixed : List Ip4
  friends : List UInt32

/-- The subnet given to a connection that is connected. -/
def Connection.given (c : Connection) : Option UInt8 :=
  if c.state = .connected then c.tun.ip.map Prod.fst else none

def ToxTunCore.given (core : ToxTunCore) (f : UInt32) : Option UInt8 :=
  (core.connections f).bind Connection.given

namespace Host

variable (h : Host)

def getUsedIp4Addresses (core : ToxTunCore) : List Ip4 :=
  h.fixed ++ h.friends.filterMap fun f => (core.connections f).bind fun c =>
    c.tun.ip.map fun ip => (192, 168, ip.1, ip.2)

/-- No operation queries the addresses after it has set one, so the answer is that of
the table in which it starts. -/
def env (core : ToxTunCore) (E : Env) : Env :=
  { E with usedIp4 := fun _ => some (h.getUsedIp4Addresses core) }

/-- No subnet is given to two connections, and none is one of the other interfaces. -/
structure Separate (core : ToxTunCore) : Prop where
  apart : ∀ f g subnet, core.given f = some subnet → core.given g = some subnet → f = g
  free : ∀ f subnet, core.given f = some subnet → addrspaceUnused h.fixed subnet = true

/-- A proposal is confirmed although another connection has been given the subnet. -/
def clashes (core : ToxTunCore) (f : UInt32) : Call → Bool
  | .receive dataRaw =>
      match core.connections f with
      | some c =>
          match c.fragments.arrival (Data.fromToxData dataRaw) with
          | .packet d _ _ => PacketId.ofByte d.header = .ipAccept &&
              c.state = .expectingIpConfirmation &&
                h.friends.any fun g => g ≠ f && core.given g = some (UInt8.ofInt c.subnet)
          | _ => false
      | none => false
  | _ => false

end Host

/-! ## The sessions -/

def Move.side : Move → Side
  | .iterate x _ => x
  | .sendConnectionRequest x => x
  | .acceptConnection x => x
  | .rejectConnection x => x
  | .closeConnection x => x
  | .deliver x => x
  | .deliverLossy x _ => x

structure Star where
  hub : ToxTunCore
  /-- The session with a friend, but for the table of the first endpoint. -/
  session : UInt32 → Net

namespace Star

/-- No connections yet. The friends know the core under numbers of their own. -/
def start (number : UInt32 → UInt32) : Star where
  hub := ToxTunCore.empty true
  session f := Net.start fun
    | .a => f
    | .b => number f

def net (s : Star) (f : UInt32) : Net :=
  { s.session f with core := Function.update (s.session f).core .a s.hub }

/-- A move in the session of a friend. -/
def step (h : Host) (s : Star) (input : UInt32 × Env × Move) : Option Star :=
  let (f, E, move) := input
  let E' := match move.side with
    | .a => h.env s.hub E
    | .b => E
  ((s.net f).step (E', move)).map fun n => ⟨n.core .a, Function.update s.session f n⟩

def clashes (h : Host) (s : Star) (input : UInt32 × Env × Move) : Bool :=
  match (s.net input.1).turn input.2.2 with
  | some (.a, call, _) => h.clashes s.hub input.1 call
  | _ => false

end Star

/-- A move in the session of a friend; the callback of the core does not re-enter it. -/
def SessionInput (h : Host) (input : UInt32 × Env × Move) : Prop :=
  input.1 ∈ h.friends ∧ (input.2.2.side = .a → input.2.1.Passive)

/-! ## The table -/

namespace Host

variable {h : Host} {core : ToxTunCore} {f : UInt32}

theorem mem_getUsedIp4Addresses {g : UInt32} (friend : g ∈ h.friends) {c : Connection}
    (found : core.connections g = some c) {subnet ipPostfix : UInt8}
    (address : c.tun.ip = some (subnet, ipPostfix)) :
    ((192, 168, subnet, ipPostfix) : Ip4) ∈ h.getUsedIp4Addresses core := by
  refine List.mem_append_right _ (List.mem_filterMap.mpr ⟨g, friend, ?_⟩)
  simp [found, address]

/-- A subnet that a query lets pass is none of the other interfaces, and no device in
the table has it. -/
theorem unused_iff_of_friend {subnet : UInt8}
    (unused : addrspaceUnused (h.getUsedIp4Addresses core) subnet = true) :
    addrspaceUnused h.fixed subnet = true ∧ ∀ g ∈ h.friends, core.given g ≠ some subnet := by
  simp only [addrspaceUnused, Bool.not_eq_true', List.any_eq_false, Bool.and_eq_true,
    beq_iff_eq] at unused ⊢
  refine ⟨fun addr mem => unused addr (List.mem_append_left _ mem), fun g friend given => ?_⟩
  simp only [ToxTunCore.given, Option.bind_eq_some_iff, Connection.given,
    Option.ite_none_right_eq_some, Option.map_eq_some_iff] at given
  obtain ⟨c, found, -, ⟨s, p⟩, address, rfl⟩ := given
  exact unused _ (mem_getUsedIp4Addresses friend found address) ⟨⟨rfl, rfl⟩, rfl⟩

theorem env_unusedAt {E : Env} {k : Nat} {subnet : UInt8}
    (unused : (h.env core E).unusedAt k subnet = true) :
    addrspaceUnused h.fixed subnet = true ∧ ∀ g ∈ h.friends, core.given g ≠ some subnet :=
  unused_iff_of_friend unused

/-- What holds of the table of the core after every move. -/
structure Sound (h : Host) (core : ToxTunCore) : Prop where
  registered : core.callbackFunction = true
  known : ∀ g c, core.connections g = some c → g ∈ h.friends
  separate : h.Separate core
  proposed : ∀ g c, core.connections g = some c → c.state = .expectingIpConfirmation →
    addrspaceUnused h.fixed (UInt8.ofInt c.subnet) = true

variable {E : Env} {call : Call} {entry : Option Connection}

/-- A subnet is given to a connection that had it before, or to no other one. -/
theorem Sound.given (sound : h.Sound core)
    (evolves : (h.env core E).Evolves (core.connections f) call entry)
    (spared : h.clashes core f call = false) (subnet : UInt8)
    (given : entry.bind Connection.given = some subnet) :
    addrspaceUnused h.fixed subnet = true ∧ ∀ g, g ≠ f → core.given g ≠ some subnet := by
  have known {g : UInt32} {s : UInt8} (given : core.given g = some s) : g ∈ h.friends := by
    obtain ⟨c, found, -⟩ := Option.bind_eq_some_iff.mp given
    exact sound.known g c found
  generalize before : core.connections f = start at evolves
  cases evolves with
  | gone => cases given
  | fresh initiate => cases initiate <;> simp [Connection.given, Connection.initial] at given
  | @kept c c' call state tun same =>
      have old : core.given f = some subnet := by
        simpa [ToxTunCore.given, before, Connection.given, state, tun] using given
      exact ⟨sound.separate.free f subnet old, fun g other theirs =>
        other (sound.separate.apart g f subnet theirs old)⟩
  | accepted ringing => simp [Connection.given] at given
  | proposed state unused => simp [Connection.given, state] at given
  | @taken c c' call s p state tun unused =>
      obtain ⟨free, apart⟩ := env_unusedAt unused
      simp only [Option.bind_some, Connection.given, state, if_true, tun, Option.map_some,
        Option.some.injEq] at given
      subst given
      exact ⟨free, fun g _ theirs => apart g (known theirs) theirs⟩
  | @confirmed c c' dataRaw d joins fs arrival header expecting state tun =>
      simp only [Option.bind_some, Connection.given, state, if_true, tun, Option.map_some,
        Option.some.injEq] at given
      subst given
      refine ⟨sound.proposed f c before expecting, fun g other theirs => ?_⟩
      simp only [clashes, before, arrival, header, expecting, decide_true, Bool.true_and,
        List.any_eq_false, Bool.and_eq_true, decide_eq_true_eq] at spared
      exact spared g (known theirs) ⟨other, theirs⟩

/-- A subnet that is proposed is none of the other interfaces. -/
theorem Sound.proposes (sound : h.Sound core)
    (evolves : (h.env core E).Evolves (core.connections f) call entry) {c' : Connection}
    (after : entry = some c') (expecting : c'.state = .expectingIpConfirmation) :
    addrspaceUnused h.fixed (UInt8.ofInt c'.subnet) = true := by
  generalize before : core.connections f = start at evolves
  cases evolves with
  | gone => cases after
  | fresh initiate =>
      cases after
      cases initiate <;> simp [Connection.initial] at expecting
  | @kept c c'' call state tun same =>
      cases after
      rw [same]
      exact sound.proposed f c before (state ▸ expecting)
  | accepted ringing =>
      cases after
      cases expecting
  | proposed state unused =>
      cases after
      exact (env_unusedAt unused).1
  | taken state tun unused =>
      cases after
      cases state.symm.trans expecting
  | confirmed arrival header waiting state tun =>
      cases after
      cases state.symm.trans expecting

theorem given_put (g : UInt32) : (core.put f entry).given g =
    if g = f then entry.bind Connection.given else core.given g := by
  unfold ToxTunCore.given
  split
  · next same => rw [same, ToxTunCore.put_self]
  · next other => rw [ToxTunCore.put_other _ _ _ other]

theorem Sound.put (sound : h.Sound core) (friend : f ∈ h.friends)
    (evolves : (h.env core E).Evolves (core.connections f) call entry)
    (spared : h.clashes core f call = false) : h.Sound (core.put f entry) := by
  have own (subnet : UInt8) := sound.given evolves spared subnet
  refine ⟨sound.registered, ?known, ⟨?apart, ?free⟩, ?proposed⟩
  case known =>
    intro g c found
    by_cases same : g = f
    · exact same ▸ friend
    · exact sound.known g c (by rwa [ToxTunCore.put_other _ _ _ same] at found)
  case apart =>
    intro g g' subnet mine theirs
    rw [given_put] at mine theirs
    split at mine <;> split at theirs
    · next same same' => exact same.trans same'.symm
    · next other => exact ((own subnet mine).2 g' other theirs).elim
    · next other _ => exact ((own subnet theirs).2 g other mine).elim
    · exact sound.separate.apart g g' subnet mine theirs
  case free =>
    intro g subnet mine
    rw [given_put] at mine
    split at mine
    · exact (own subnet mine).1
    · exact sound.separate.free g subnet mine
  case proposed =>
    intro g c found expecting
    by_cases same : g = f
    · rw [same, ToxTunCore.put_self] at found
      exact sound.proposes evolves found expecting
    · exact sound.proposed g c (by rwa [ToxTunCore.put_other _ _ _ same] at found) expecting

/-- A confirmation that clashes gives a subnet to a second connection. -/
theorem not_separate_of_clashes {r : Reply}
    (reply : (h.env core E).reply (core.connections f) call = some r)
    (clashes : h.clashes core f call = true) : ¬ h.Separate (core.put f r.connection) := by
  intro separate
  unfold Host.clashes at clashes
  split at clashes
  · next dataRaw =>
      split at clashes
      · next c found =>
          split at clashes
          · next d joins fs arrival =>
              simp only [Bool.and_eq_true, decide_eq_true_eq, List.any_eq_true] at clashes
              obtain ⟨⟨header, expecting⟩, g, -, other, theirs⟩ := clashes
              simp only [found, Env.reply, Env.receive, arrival, Env.respond, header, expecting,
                if_true, Option.some.injEq] at reply
              subst reply
              have mine : (core.put f (some { c with
                  tun := ⟨some (UInt8.ofInt c.subnet, 1)⟩, state := .connected,
                  fragments := fs })).given f = some (UInt8.ofInt c.subnet) := by
                rw [given_put, if_pos rfl]
                rfl
              refine other (separate.apart g f _ ?_ mine)
              rw [given_put, if_neg other]
              exact theirs
          · cases clashes
      · cases clashes
  · cases clashes

end Host

/-! ## Runs -/

namespace Star

variable {h : Host} {s s' : Star} {f : UInt32} {E : Env} {move : Move}

/-- The numbers under which the core knows its friends, and its table. -/
structure Sound (h : Host) (s : Star) : Prop where
  numbers : ∀ f, (s.session f).friend .a = f
  hub : h.Sound s.hub

theorem turn_side {n m : Net} {x : Side} {call : Call} (turn : n.turn move = some (x, call, m)) :
    move.side = x := by
  cases move with
  | deliver y | deliverLossy y i =>
      simp only [Net.turn] at turn
      split at turn <;> cases turn
      rfl
  | _ => cases turn; rfl

theorem step_cases (registered : s.hub.callbackFunction = true)
    (numbers : ∀ f, (s.session f).friend .a = f)
    (input : SessionInput h (f, E, move)) (taken : s.step h (f, E, move) = some s') :
    (∀ f, (s'.session f).friend .a = f) ∧
      ((s'.hub = s.hub ∧ s.clashes h (f, E, move) = false) ∨
        ∃ call r, s.clashes h (f, E, move) = h.clashes s.hub f call ∧
          (h.env s.hub E).reply (s.hub.connections f) call = some r ∧
          s'.hub = s.hub.put f r.connection) := by
  obtain ⟨n, moved, rfl⟩ := Option.map_eq_some_iff.mp taken
  obtain ⟨x, call, m, core, turn, after, tables, friend⟩ := Net.step_turn moved
  refine ⟨fun g => ?_, ?_⟩
  · by_cases same : g = f
    · subst same
      simp only [Function.update_self, friend]
      exact numbers g
    · simp only [Function.update_of_ne same]
      exact numbers g
  · cases x with
    | b =>
        refine .inl ⟨?_, by simp [clashes, turn]⟩
        simp [tables, net]
    | a =>
        refine .inr ⟨call, ?_⟩
        have side := turn_side turn
        have answers := step_reply (E := h.env s.hub E) (f := f)
          (fun event fr => input.2 side event fr) registered call
        have friend : (s.net f).friend .a = f := numbers f
        have table : (s.net f).core .a = s.hub := by simp [net]
        simp only [side, table, friend] at after
        cases reply : (h.env s.hub E).reply (s.hub.connections f) call with
        | none =>
            rw [reply] at answers
            cases answers.symm.trans after
        | some r =>
            rw [reply] at answers
            cases answers.after.symm.trans after
            exact ⟨r, by simp [clashes, turn], rfl, by simp [tables]; rfl⟩

theorem Sound.step (sound : s.Sound h) (input : SessionInput h (f, E, move))
    (spared : s.clashes h (f, E, move) = false) (taken : s.step h (f, E, move) = some s') :
    s'.Sound h := by
  obtain ⟨numbers, ⟨same, -⟩ | ⟨call, r, clashes, reply, hub⟩⟩ :=
    step_cases sound.hub.registered sound.numbers input taken
  · exact ⟨numbers, same ▸ sound.hub⟩
  · refine ⟨numbers, hub ▸ sound.hub.put input.1 (reply_evolves reply) ?_⟩
    rw [← clashes, spared]

theorem start_sound (h : Host) (number : UInt32 → UInt32) : (start number).Sound h :=
  ⟨fun _ => rfl, rfl, fun _ _ => nofun, ⟨fun _ _ _ => nofun, fun _ _ => nofun⟩, fun _ _ => nofun⟩

end Star

/-- As long as no proposal is confirmed whose subnet another connection has been given
meanwhile, no subnet is given twice; and the next confirmation like that gives one twice. -/
theorem subnets_separate {h : Host} {number : UInt32 → UInt32} {s : Star}
    (reached : Reach (Star.step h) (fun s i => SessionInput h i ∧ s.clashes h i = false)
      (Star.start number) s) :
    h.Separate s.hub ∧ ∀ i s', SessionInput h i → s.step h i = some s' →
      (h.Separate s'.hub ↔ s.clashes h i = false) := by
  have sound : s.Sound h := reached.invariant (Star.start_sound h number)
    fun t i u sound allowed taken => sound.step allowed.1 allowed.2 taken
  refine ⟨sound.hub.separate, fun i s' input taken => ⟨fun separate => ?_, fun spared => ?_⟩⟩
  · obtain ⟨-, ⟨-, spared⟩ | ⟨call, r, clashes, reply, hub⟩⟩ :=
      Star.step_cases sound.hub.registered sound.numbers input taken
    · exact spared
    · rw [clashes]
      by_contra clash
      rw [hub] at separate
      exact Host.not_separate_of_clashes reply (by simpa using clash) separate
  · exact (sound.step input spared taken).hub.separate

/-- The moves of a session that the core asks for. -/
def sessionMoves : List Move :=
  [.sendConnectionRequest .a, .deliver .b, .acceptConnection .b, .deliver .a, .deliver .b,
    .deliver .a]

/-- A host with an interface in the first subnet, and two sessions one after the other. -/
theorem subnets_separate_successive : ∃ s : Star, s.hub.given 1 = some 1 ∧ s.hub.given 2 = some 2 ∧
    Host.Separate ⟨[(192, 168, 0, 9)], [1, 2]⟩ s.hub := by
  let h : Host := ⟨[(192, 168, 0, 9)], [1, 2]⟩
  let E := Env.obliging fun _ => some []
  let session (f : UInt32) : List (UInt32 × Env × Move) := sessionMoves.map fun move => (f, E, move)
  obtain ⟨s, taken, first, second⟩ := exists_run
    (guarded (fun s i => !s.clashes h i) (Star.step h)) (Star.start fun _ => 7)
    (session 1 ++ session 2)
    (P := fun s => s.hub.given 1 = some 1 ∧ s.hub.given 2 = some 2) (by decide +kernel)
  have reached := Reach.of_guarded_run (P := SessionInput h) taken (by
    simp [session, sessionMoves, SessionInput, h, E, Env.obliging_passive])
  exact ⟨s, first, second, (subnets_separate (reached.mono (by simp))).1⟩

/-- Both sessions are asked for before either is confirmed: both friends accept, both are
proposed the first subnet, and both confirm it. -/
theorem concurrent_proposals_clash : ∃ s, Reach (Star.step ⟨[], [1, 2]⟩)
      (fun _ => SessionInput ⟨[], [1, 2]⟩) (Star.start fun _ => 7) s ∧
    ¬ Host.Separate ⟨[], [1, 2]⟩ s.hub := by
  let E := Env.obliging fun _ => some []
  obtain ⟨s, taken, first, second⟩ := exists_run (Star.step ⟨[], [1, 2]⟩)
    (Star.start fun _ => 7)
    (sessionMoves.flatMap fun move => [(1, E, move), (2, E, move)])
    (P := fun s => s.hub.given 1 = some 0 ∧ s.hub.given 2 = some 0) (by decide +kernel)
  refine ⟨s, Reach.of_run taken (by simp [sessionMoves, SessionInput, E, Env.obliging_passive]), ?_⟩
  exact fun separate => absurd (separate.apart 1 2 0 first second) (by decide)

end LibToxTun
