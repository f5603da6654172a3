import Mathlib.Algebra.Order.BigOperators.Group.List
import LibToxTun.Core.Steps

/-! # The size of the store

The store is meant to hold the fragments of packets that are not complete. A set is
joined when its length equals the count that its newest fragment announces, and a
fragment that misses this mark is stored whatever it announces. The store stays
bounded exactly as long as no such fragment arrives.
-/

namespace LibToxTun

namespace Fragments

/-- Every set is shorter than each of its fragments announces. -/
def Incomplete (fs : Fragments) : Prop := ∀ k, ∀ g ∈ fs k, (fs k).length < g.count.toNat

def retained (fs : Fragments) : Nat := ((List.range 256).map fun k => (fs (UInt8.ofNat k)).length).sum

/-- The fragment a packet brings to the store in the end, with the store it meets. -/
def landing : Nat → Fragments → Data → Option (Fragment × Fragments)
  | 0, _, _ => none
  | fuel + 1, fs, d =>
      if PacketId.ofByte d.header ≠ .fragment then none
      else if valid : d.isValidFragment = true then
        let f : Fragment := ⟨d, valid⟩
        let set := f :: fs f.setIndex
        if set.length = f.count.toNat then
          if WellFormedSet set then landing fuel ((fs.push f).joinedAt f.setIndex) (joined set)
          else none
        else some (f, fs)
      else none

/-- The set has room for the fragment: together they are no more than the fragment
announces, and no other fragment of the set announces just as many. -/
def HasRoom (fs : Fragments) (g : Fragment) : Prop :=
  (fs g.setIndex).length + 1 ≤ g.count.toNat ∧
    ∀ h ∈ fs g.setIndex, h.count.toNat ≠ (fs g.setIndex).length + 1

theorem Incomplete.length_le {fs : Fragments} (h : fs.Incomplete) (k : UInt8) :
    (fs k).length ≤ 254 := by
  cases set : fs k with
  | nil => exact Nat.zero_le 254
  | cons g rest =>
      have short := h k g (by simp [set])
      have byte := g.count.toNat_lt
      rw [set] at short
      omega

theorem Incomplete.retained_le {fs : Fragments} (h : fs.Incomplete) : fs.retained ≤ 256 * 254 := by
  unfold retained
  have bound := List.sum_le_card_nsmul
    ((List.range 256).map fun k => (fs (UInt8.ofNat k)).length) 254 (by
      intro n hn
      obtain ⟨k, -, rfl⟩ := List.mem_map.mp hn
      exact h.length_le _)
  simpa using bound

theorem incomplete_empty : Incomplete fun _ => [] := fun _ _ h => by cases h

/-- A fragment that does not complete its set keeps the store bounded exactly when
there is room for it. -/
theorem push_incomplete {fs : Fragments} (h : fs.Incomplete) {g : Fragment}
    (unfinished : (fs g.setIndex).length + 1 ≠ g.count.toNat) :
    (fs.push g).Incomplete ↔ fs.HasRoom g := by
  constructor
  · intro incomplete
    have here := incomplete g.setIndex
    rw [push_self] at here
    refine ⟨Nat.le_of_lt (here g List.mem_cons_self), fun other member => ?_⟩
    have short := here other (List.mem_cons_of_mem _ member)
    rw [List.length_cons] at short
    omega
  · intro room k other member
    by_cases same : k = g.setIndex
    · subst same
      rw [push_self] at member ⊢
      rw [List.length_cons]
      rcases List.mem_cons.mp member with rfl | old
      · have enough := room.1
        omega
      · have short := h g.setIndex other old
        have different := room.2 other old
        omega
    · have untouched : fs.push g k = fs k := Function.update_of_ne same ..
      rw [untouched] at member ⊢
      exact h k other member

/-- A join leaves sets as they were or empties them. -/
theorem Incomplete.joinedAt {fs : Fragments} (h : fs.Incomplete) (f : Fragment) :
    ((fs.push f).joinedAt f.setIndex).Incomplete := by
  intro k g member
  rcases joinedAt_push fs f k with empty | same
  · rw [empty] at member
    cases member
  · rw [same] at member ⊢
    exact h k g member

theorem arrive_packet_incomplete {fuel : Nat} {fs : Fragments} {d d' : Data} {joins : Nat}
    {fs' : Fragments} (h : fs.Incomplete) (arrival : fs.arrive fuel d = .packet d' joins fs') :
    fs'.Incomplete := by
  have rounds := arrival ▸ arrives fuel fs d
  clear arrival
  generalize last : Arrival.packet d' joins fs' = a at rounds
  induction rounds generalizing joins with
  | starved => cases last
  | whole =>
      cases last
      exact h
  | invalid => cases last
  | stored => cases last
  | corrupted => cases last
  | @joined _ _ f _ _ _ _ ih =>
      obtain ⟨joins, rfl⟩ := Arrival.deeper_packet last.symm
      exact ih (h.joinedAt f) rfl

section
variable {fuel : Nat} {fs : Fragments} {f : Fragment}

theorem landing_stored (incomplete : (f :: fs f.setIndex).length ≠ f.count.toNat) :
    fs.landing (fuel + 1) f.data = some (f, fs) := by
  simp only [landing, f.ofByte_header, ne_eq, not_true_eq_false, if_false, f.valid, dif_pos,
    if_neg incomplete]

theorem landing_joined (complete : (f :: fs f.setIndex).length = f.count.toNat)
    (wellFormed : WellFormedSet (f :: fs f.setIndex)) :
    fs.landing (fuel + 1) f.data =
      landing fuel ((fs.push f).joinedAt f.setIndex) (joined (f :: fs f.setIndex)) := by
  simp only [landing, f.ofByte_header, ne_eq, not_true_eq_false, if_false, f.valid, dif_pos,
    if_pos complete, if_pos wellFormed]

theorem landing_corrupted (complete : (f :: fs f.setIndex).length = f.count.toNat)
    (malformed : ¬ WellFormedSet (f :: fs f.setIndex)) : fs.landing (fuel + 1) f.data = none := by
  simp only [landing, f.ofByte_header, ne_eq, not_true_eq_false, if_false, f.valid, dif_pos,
    if_pos complete, if_neg malformed]

end

/-- Where a packet is dispatched or a set does not join, no fragment lands. -/
theorem landing_kept {fuel : Nat} {fs met : Fragments} {d : Data} {g : Fragment}
    (lands : fs.landing fuel d = some (g, met)) : fs.arrive fuel d = .kept (met.push g) := by
  have rounds := arrives fuel fs d
  generalize fs.arrive fuel d = a at rounds ⊢
  induction rounds with
  | starved => cases lands
  | whole whole => simp [landing, whole] at lands
  | invalid fragment invalid => simp [landing, fragment, invalid] at lands
  | stored incomplete =>
      rw [landing_stored incomplete] at lands
      cases lands
      rfl
  | corrupted complete malformed =>
      rw [landing_corrupted complete malformed] at lands
      cases lands
  | joined complete wellFormed _ ih =>
      rw [landing_joined complete wellFormed] at lands
      exact Arrival.deeper_kept.mpr (ih lands)

theorem landing_none {fuel joins : Nat} {fs fs' : Fragments} {d d' : Data}
    (arrival : fs.arrive fuel d = .packet d' joins fs') : fs.landing fuel d = none := by
  cases lands : fs.landing fuel d with
  | none => rfl
  | some landed =>
      rw [landing_kept (show fs.landing fuel d = some (landed.1, landed.2) from lands)] at arrival
      cases arrival

/-- The fragment that lands decides whether the store stays bounded. -/
theorem arrive_kept_incomplete {fuel : Nat} {fs : Fragments} {d : Data} {fs' : Fragments}
    (h : fs.Incomplete) (arrival : fs.arrive fuel d = .kept fs') :
    fs'.Incomplete ↔ ∀ g met, fs.landing fuel d = some (g, met) → met.HasRoom g := by
  have rounds := arrival ▸ arrives fuel fs d
  clear arrival
  generalize last : Arrival.kept fs' = a at rounds
  induction rounds with
  | starved => cases last
  | whole => cases last
  | invalid fragment invalid =>
      cases last
      simp [landing, fragment, invalid, h]
  | stored incomplete =>
      cases last
      rw [landing_stored incomplete, push_incomplete h incomplete]
      simp
  | corrupted => cases last
  | @joined _ _ f _ complete wellFormed _ ih =>
      obtain rfl := Arrival.deeper_kept.mp last.symm
      rw [landing_joined complete wellFormed]
      exact ih (h.joinedAt f) rfl

end Fragments

/-! ## Runs -/

namespace Transition

/-- Every store is bounded after the step. -/
def Retains (t : Transition) : Prop :=
  ∀ next, t.after = some next → ∀ f c, next.connections f = some c →
    c.fragments.Incomplete ∧ c.fragments.retained ≤ 256 * 254

/-- A received fragment that is stored finds room. -/
def StoresWithRoom (t : Transition) : Prop :=
  ∀ f dataRaw c, t.op = .receive f dataRaw → t.before.connections f = some c →
    ∀ g met, c.fragments.landing (c.fragments.fuel (Data.fromToxData dataRaw))
      (Data.fromToxData dataRaw) = some (g, met) → met.HasRoom g

end Transition

def ToxTunCore.Bounded (core : ToxTunCore) : Prop :=
  ∀ f c, core.connections f = some c → c.fragments.Incomplete

theorem bounded_empty (callback : Bool) : (ToxTunCore.empty callback).Bounded :=
  fun _ _ found => by cases found

section
variable {E : Env}

theorem propose_fragments {c c' : Connection} (h : (E.propose c).connection = some c') :
    c'.fragments = c.fragments := by
  unfold Env.propose at h
  split at h
  · split at h
    · cases h
      rfl
    · cases h
  · cases h
  · cases h
    rfl

theorem consider_fragments {c c' : Connection} {subnet ipPostfix : UInt8}
    (h : (E.consider c subnet ipPostfix).connection = some c') : c'.fragments = c.fragments := by
  unfold Env.consider at h
  split at h
  · split at h
    · cases h
      rfl
    · cases h
  · split at h
    · cases h
      rfl
    · cases h

theorem respond_fragments {c c' : Connection} {d : Data} (h : (E.respond c d).connection = some c') :
    c'.fragments = c.fragments := by
  have kept (h : some c = some c') : c'.fragments = c.fragments := by
    cases h
    rfl
  unfold Env.respond at h
  cases header : PacketId.ofByte d.header <;> simp only [header] at h
  case connectionRequest => exact kept h
  case connectionAccept =>
    split at h
    · exact propose_fragments (c := { c with state := .expectingIpConfirmation }) h
    · cases h
  case connectionReject => split at h <;> cases h
  case connectionClose => split at h <;> cases h
  case connectionReset => cases h
  case ipProposal =>
    split at h
    · split at h
      · exact consider_fragments h
      · exact kept h
    · cases h
  case ipAccept =>
    split at h
    · cases h
      rfl
    · cases h
  case ipReject =>
    split at h
    · exact propose_fragments h
    · cases h
  case data =>
    split at h
    · exact kept h
    · cases h
  case fragment => exact kept h
  case unnamed => exact kept h

/-- The calls of the user do not change the store of a connection; a new one is empty. -/
theorem call_fragments {entry : Option Connection} {call : Call} {r : Reply} {c' : Connection}
    (reply : E.reply entry call = some r) (user : ∀ dataRaw, call ≠ .receive dataRaw)
    (h : r.connection = some c') :
    (c'.fragments = fun _ => []) ∨ ∃ c, entry = some c ∧ c'.fragments = c.fragments := by
  cases entry with
  | none =>
      cases call with
      | receive dataRaw => exact (user dataRaw rfl).elim
      | sendConnectionRequest =>
          simp only [Env.reply, Option.some.injEq] at reply
          subst reply
          split at h
          · cases h
            exact .inl rfl
          · cases h
      | iterate reads | acceptConnection | rejectConnection | closeConnection =>
          cases reply
          cases h
  | some c =>
      refine .inr ⟨c, rfl, ?_⟩
      cases call with
      | receive dataRaw => exact (user dataRaw rfl).elim
      | iterate reads =>
          obtain ⟨⟨⟩, -⟩ | ⟨c₀, entry, -, rfl⟩ | ⟨c₀, entry, -, -, rfl⟩ := Env.reply_iterate reply
          · cases entry
            cases h
            rfl
          · cases entry
            obtain ⟨index, same⟩ := E.forward_connection 0 c reads
            cases h
            rw [same]
      | sendConnectionRequest =>
          cases reply
          cases h
          rfl
      | acceptConnection =>
          simp only [Env.reply, Option.some.injEq] at reply
          subst reply
          split at h
          · split at h
            · cases h
              rfl
            · cases h
          · rw [E.dismiss_connection] at h
            cases h
      | rejectConnection | closeConnection =>
          cases reply
          rw [E.dismiss_connection] at h
          cases h

theorem greet_fragments {d : Data} {c' : Connection} (h : (E.greet d).connection = some c') :
    c'.fragments = fun _ => [] := by
  unfold Env.greet at h
  split at h
  · split at h
    · cases h
      rfl
    · cases h
  · cases h
  · cases h

/-- What a received packet makes of the store of a connection. -/
theorem receive_fragments {c c' : Connection} {d : Data} {r : Reply} (bounded : c.fragments.Incomplete)
    (reply : E.receive (some c) d = some r) (h : r.connection = some c') :
    c'.fragments.Incomplete ↔ ∀ g met, c.fragments.landing (c.fragments.fuel d) d = some (g, met) →
      met.HasRoom g := by
  simp only [Env.receive] at reply
  cases arrival : c.fragments.arrival d with
  | packet d' joins fs =>
      simp only [arrival, Option.some.injEq] at reply
      subst reply
      have same : c'.fragments = fs := respond_fragments (c := { c with fragments := fs }) h
      rw [same]
      have nothing := Fragments.landing_none arrival
      refine ⟨fun _ g met lands => ?_, fun _ => Fragments.arrive_packet_incomplete bounded arrival⟩
      rw [nothing] at lands
      cases lands
  | kept fs =>
      simp only [arrival, Option.some.injEq] at reply
      subst reply
      cases h
      exact Fragments.arrive_kept_incomplete bounded arrival
  | corrupted =>
      rw [arrival] at reply
      cases reply
  | unfinished =>
      rw [arrival] at reply
      cases reply

theorem receive_lands {c : Connection} {d : Data} {r : Reply} {g : Fragment} {met : Fragments}
    (reply : E.receive (some c) d = some r)
    (lands : c.fragments.landing (c.fragments.fuel d) d = some (g, met)) :
    ∃ c', r.connection = some c' := by
  have arrival : c.fragments.arrival d = .kept (met.push g) := Fragments.landing_kept lands
  simp only [Env.receive, arrival, Option.some.injEq] at reply
  subst reply
  exact ⟨_, rfl⟩

end

section
variable {E : Env} {core : ToxTunCore}

namespace Transition

theorem Answers.retains {t : Transition} {f : UInt32} {r : Reply} (answers : t.Answers f r)
    (bounded : t.before.Bounded) :
    t.Retains ↔ ∀ c, r.connection = some c → c.fragments.Incomplete := by
  constructor
  · intro retains c found
    exact (retains _ answers.after f c (by rw [ToxTunCore.put_self, found])).1
  · intro incomplete next after g c found
    rw [answers.after] at after
    cases after
    suffices h : c.fragments.Incomplete from ⟨h, h.retained_le⟩
    by_cases same : g = f
    · subst same
      rw [ToxTunCore.put_self] at found
      exact incomplete c found
    · rw [ToxTunCore.put_other _ _ _ same] at found
      exact bounded g c found

end Transition

theorem storesWithRoom_of_call {op : Op} (call : ∀ f dataRaw, op ≠ .receive f dataRaw) :
    (step core (E, op)).StoresWithRoom :=
  fun f dataRaw _ received => (call f dataRaw received).elim

theorem receive_retains (bounded : core.Bounded) {f : UInt32} {dataRaw : List UInt8} {r : Reply}
    (answer : E.answer core.callbackFunction (core.connections f) (.receive dataRaw) = some r)
    (answers : (step core (E, .receive f dataRaw)).Answers f r) :
    (step core (E, .receive f dataRaw)).Retains ↔ (step core (E, .receive f dataRaw)).StoresWithRoom := by
  rw [answers.retains bounded]
  cases found : core.connections f with
  | none =>
      rw [found] at answer
      refine ⟨fun _ g data c same found' => ?_, fun _ c' kept => ?_⟩
      · cases same
        rw [show (step core (E, .receive f dataRaw)).before = core from rfl, found] at found'
        cases found'
      · rcases Env.answer_cases answer with ⟨-, -, ignored⟩ | reply
        · rw [ignored] at kept
          cases kept
        · cases reply
          rw [greet_fragments kept]
          exact Fragments.incomplete_empty
  | some c =>
      rw [found] at answer
      have reply : E.receive (some c) (Data.fromToxData dataRaw) = some r :=
        Env.reply_of_answer rfl answer
      constructor
      · intro incomplete g data c' same found' landed met lands
        cases same
        rw [show (step core (E, .receive f dataRaw)).before = core from rfl, found] at found'
        cases found'
        obtain ⟨c', kept⟩ := receive_lands reply lands
        exact (receive_fragments (bounded f c found) reply kept).mp (incomplete c' kept) landed met lands
      · intro room c' kept
        exact (receive_fragments (bounded f c found) reply kept).mpr
          (room f dataRaw c rfl found)

theorem call_retains (bounded : core.Bounded) {f : UInt32} {call : Call} {r : Reply}
    (user : ∀ dataRaw, call ≠ .receive dataRaw) (op : ∀ g dataRaw, call.op f ≠ .receive g dataRaw)
    (answer : E.answer core.callbackFunction (core.connections f) call = some r)
    (answers : (step core (E, call.op f)).Answers f r) :
    (step core (E, call.op f)).Retains ↔ (step core (E, call.op f)).StoresWithRoom := by
  refine ⟨fun _ => storesWithRoom_of_call op, fun _ => (answers.retains bounded).mpr fun c kept => ?_⟩
  rcases Env.answer_cases answer with ⟨-, -, ignored⟩ | reply
  · rw [ignored] at kept
    cases kept
  · rcases call_fragments reply user kept with empty | ⟨c', found, same⟩
    · rw [empty]
      exact Fragments.incomplete_empty
    · rw [same]
      exact bounded f c' found

theorem receive_lands_after {f : UInt32} {c : Connection} (found : core.connections f = some c)
    {dataRaw : List UInt8} {g : Fragment} {met : Fragments}
    (lands : c.fragments.landing (c.fragments.fuel (Data.fromToxData dataRaw))
      (Data.fromToxData dataRaw) = some (g, met)) :
    (step core (E, .receive f dataRaw)).after ≠ none := by
  have arrival : c.fragments.arrival (Data.fromToxData dataRaw) = .kept (met.push g) :=
    Fragments.landing_kept lands
  have reception : (step core (E, .receive f dataRaw)).reception = some (f, c, .kept (met.push g)) := by
    simp [Transition.reception, step, found, arrival]
  obtain ⟨-, -, o, ho, outcome⟩ := step_reception reception
  rw [Transition.after, outcome, ho]
  simp

/-- From a core with bounded stores, a step keeps them bounded exactly when the
fragment that it stores finds room. -/
theorem step_retains (passive : E.Passive) (bounded : core.Bounded) (op : Op) :
    (step core (E, op)).Retains ↔ (step core (E, op)).StoresWithRoom := by
  cases after : (step core (E, op)).after with
  | none =>
      refine ⟨fun _ f dataRaw c received found g met lands => ?_, fun _ next after' => ?_⟩
      · cases received
        exact (receive_lands_after found lands after).elim
      · rw [after] at after'
        cases after'
  | some next =>
      rcases step_cases passive after with ⟨same, answer, answers⟩ | ⟨same, answers⟩ | ⟨same, after', -⟩
      · next f call r =>
          change op = call.op f at same
          subst same
          cases call with
          | receive dataRaw => exact receive_retains bounded answer answers
          | iterate reads => exact call_retains bounded (by simp) (by simp [Call.op]) answer answers
          | sendConnectionRequest =>
              exact call_retains bounded (by simp) (by simp [Call.op]) answer answers
          | acceptConnection =>
              exact call_retains bounded (by simp) (by simp [Call.op]) answer answers
          | rejectConnection =>
              exact call_retains bounded (by simp) (by simp [Call.op]) answer answers
          | closeConnection =>
              exact call_retains bounded (by simp) (by simp [Call.op]) answer answers
      · next f reads index ps =>
          change op = .iterate f reads at same
          subst same
          refine ⟨fun _ => storesWithRoom_of_call fun _ _ h => (by cases h), fun _ => ?_⟩
          refine (answers.retains bounded).mpr fun c kept => ?_
          simp only [Option.map_eq_some_iff] at kept
          obtain ⟨c', found, rfl⟩ := kept
          exact bounded f c' found
      · next callback =>
          change op = .setCallback callback at same
          subst same
          refine ⟨fun _ => storesWithRoom_of_call fun _ _ h => (by cases h), fun _ next h f c found => ?_⟩
          rw [after'] at h
          cases h
          exact ⟨bounded f c found, (bounded f c found).retained_le⟩

end

/-- In every run, the stores stay bounded exactly as long as every fragment that is
stored finds room in its set. -/
theorem retains_iff (core : ToxTunCore) (bounded : core.Bounded) (inputs : List (Env × Op))
    (passive : ∀ input ∈ inputs, input.1.Passive) :
    (∀ t ∈ transitions core inputs, t.Retains) ↔ ∀ t ∈ transitions core inputs, t.StoresWithRoom := by
  induction inputs generalizing core with
  | nil => simp [transitions]
  | cons input inputs ih =>
      obtain ⟨E, op⟩ := input
      have here := step_retains (passive _ List.mem_cons_self) bounded op
      simp only [transitions, List.forall_mem_cons]
      rw [here]
      refine and_congr_right fun room => ?_
      cases after : (step core (E, op)).after with
      | none => simp
      | some next =>
          exact ih next (fun f c found => (here.mpr room next after f c found).1)
            fun input hmem => passive input (List.mem_cons_of_mem _ hmem)

/-- A friend asks for a connection and sends a fragment that announces no fragments. -/
def unannounced : List (Env × Op) :=
  [(.obliging fun _ => some [], .receive 7 [160]),
    (.obliging fun _ => some [], .receive 7 [201, 0, 0, 0, 1])]

theorem unannounced_retains_iff :
    (∀ t ∈ transitions (ToxTunCore.empty true) unannounced, t.Retains) ↔
      ∀ t ∈ transitions (ToxTunCore.empty true) unannounced, t.StoresWithRoom :=
  retains_iff (ToxTunCore.empty true) (bounded_empty true) unannounced (by
    simp [unannounced, Env.Passive, Env.obliging])

/-- The fragment stays in the store for good. -/
theorem unannounced_retained :
    ¬ ∀ t ∈ transitions (ToxTunCore.empty true) unannounced, t.Retains := by
  intro retains
  have stored : ((transitions (ToxTunCore.empty true) unannounced).any fun t =>
      t.after.any fun next => (next.connections 7).any fun c =>
        (c.fragments 0).any fun g => decide ((c.fragments 0).length = 1 ∧ g.count = 0)) = true := by
    decide +kernel
  simp only [List.any_eq_true, Option.any_eq_true, decide_eq_true_eq] at stored
  obtain ⟨t, ht, next, after, c, found, g, member, length, count⟩ := stored
  have short := (retains t ht next after 7 c found).1 0 g member
  rw [length, count] at short
  exact absurd short (by decide)

end LibToxTun
