import LibToxTun.Connection.Offering
import LibToxTun.Core.Steps

/-! # Which operations propose

An operation proposes a subnet only when the packet it receives makes a connection
search for one, and then what the search ends with.
-/

namespace LibToxTun

open Foundation Foundation.Action

/-- The frames that `iterate` forwards are read from the device. -/
def Op.FromDevice (op : Op) : Prop :=
  ∀ f reads, op = .iterate f reads → ∀ d, .ok d ∈ reads → ∃ buffer, d = Data.tunData buffer

theorem tunData_other (buffer : List UInt8) :
    PacketId.ofByte (Data.tunData buffer).header ≠ .ipProposal := by
  show PacketId.ofByte 200 ≠ .ipProposal
  decide

/-- The subnets handed to tox as proposals, whether or not tox took them. -/
def Transition.offers (f : UInt32) (t : Transition) : List Data :=
  t.effects.filterMap (Effect.offerTo f)

/-- The counter from which a received packet makes the connection of a friend search. -/
def Transition.seeksFrom (f : UInt32) (t : Transition) : Option Int :=
  match t.reception with
  | some (g, c, .packet d _ _) => if g = f ∧ c.Seeks d then some c.subnet else none
  | _ => none

theorem seeksFrom_some {f : UInt32} {t : Transition} {counter : Int}
    (h : t.seeksFrom f = some counter) : ∃ c d joins fs,
      t.reception = some (f, c, .packet d joins fs) ∧ c.Seeks d ∧ counter = c.subnet := by
  unfold Transition.seeksFrom at h
  split at h
  · next g c d joins fs reception =>
      split at h
      · next sought =>
          obtain ⟨rfl, seeks⟩ := sought
          exact ⟨c, d, joins, fs, reception, seeks, (Option.some.inj h).symm⟩
      · cases h
  · cases h

/-- The connection that searches is that of the friend of the operation. -/
theorem seeksFrom_other {E : Env} {core : ToxTunCore} {op : Op} {f g : UInt32}
    (friend : op.friend = some g) (other : f ≠ g) : (step core (E, op)).seeksFrom f = none := by
  cases op with
  | receive h dataRaw =>
      cases friend
      cases seeks : (step core (E, .receive g dataRaw)).seeksFrom f with
      | none => rfl
      | some counter =>
          obtain ⟨c, d, joins, fs, reception, -, -⟩ := seeksFrom_some seeks
          simp only [Transition.reception, step, Option.map_eq_some_iff, Prod.mk.injEq] at reception
          obtain ⟨-, -, own, -, -⟩ := reception
          exact (other own.symm).elim
  | _ => rfl

section
variable {f : UInt32} {E : Env} (passive : E.Passive)

include passive

theorem walksErasure_sameOffers : E.WalksErasure (OverWorld (SameOffers f)) fun _ => SameOffers f where
  leave _ _ _ fr inner :=
    IsTrans.trans (r := SameOffers f) _ _ _ inner (sameOffers_of_trace fr.leave_trace)
  abandoned _ _ _ _ inner := inner
  asked _ _ := rfl
  resetFriend := sameOffers_resetFriend
  requests := silent_sendToTox E (by decide)
  requested := silent_callback passive _
  eraseSelf := silent_eraseSelf passive
  accepts := silent_acceptConnection passive

/-! ## Operations -/

theorem exec_sameOffers {op : Op} (device : op.FromDevice) {w : World}
    (absent : ∀ g dataRaw, op = .receive g dataRaw → w.core.connections g = none) :
    SameOffers f w (exec E op w).state := by
  cases friend : op.friend with
  | some g =>
      refine (walksErasure_sameOffers passive).exec friend (fun reads read => ?_)
        fun dataRaw c received found => ?_
      · refine silent_iterate E fun d mem => ?_
        obtain ⟨buffer, rfl⟩ := device g reads read d mem
        exact tunData_other buffer
      · cases (absent g dataRaw received).symm.trans found
  | none =>
      cases op with
      | setCallback callback => rfl
      | _ => cases friend

theorem offers_other {core : ToxTunCore} {op : Op} {g : UInt32} (friend : op.friend = some g)
    (other : f ≠ g) : (step core (E, op)).offers f = [] := by
  rw [Transition.offers, List.filterMap_eq_nil_iff]
  intro e he
  have about := effects_friend passive core friend e he
  cases e with
  | sent h d status =>
      have same : h = g := about
      have elsewhere : h ≠ f := fun own => other (own.symm.trans same)
      simp [Effect.offerTo, elsewhere]
  | _ => rfl

omit passive in
theorem silent_unwound (joins : Nat) :
    Silent f (modify fun fr => fr.unwound joins : Code Frame Unit) := by
  induction joins with
  | zero => exact respects_pure ()
  | succ joins ih =>
      intro fr
      change SameOffers f fr.world (fr.unwound (joins + 1)).world
      rw [Frame.unwound, Function.iterate_succ_apply']
      have unwound : SameOffers f fr.world (fr.unwound joins).world := ih fr
      have nested := ((silent_touch (f := f) .connectedFriend).bind fun _ => silent_touch .fragments)
        (fr.unwound joins)
      exact IsTrans.trans (r := SameOffers f) _ _ _ unwound nested

/-- The packet that a received one arrives as makes the connection propose, or nothing does. -/
theorem reception_offers {core : ToxTunCore} {op : Op} {c : Connection} {a : Arrival}
    (h : (step core (E, op)).reception = some (f, c, a)) :
    (step core (E, op)).offers f =
      ((step core (E, op)).seeksFrom f).elim [] fun counter => E.proposalFrom counter 0 := by
  obtain ⟨found, -, o, arrived, outcome⟩ := step_reception h
  let fr := (step core (E, op)).frame f c
  have effects : (step core (E, op)).offers f = o.state.world.offers f :=
    congrArg (List.filterMap (Effect.offerTo f)) (effects_of_outcome outcome)
  rw [effects, Transition.seeksFrom, h]
  cases a with
  | packet d joins fs =>
      obtain ⟨set, whole⟩ := reception_packet h
      have handled : (handleDataFuel E 1 d (fr.withFragments fs)).state.world.offers f =
          if c.Seeks d then E.proposalFrom c.subnet 0 else [] :=
        handleDataFuel_offers (show (fr.withFragments fs).alive = true from rfl) passive set whole
      have same : o.state.world.offers f =
          (handleDataFuel E 1 d (fr.withFragments fs)).state.world.offers f := by
        rw [show o = (handleDataFuel E 1 d (fr.withFragments fs)).andThen _ from arrived]
        exact (silent_unwound joins).andThen _
      rw [same, handled]
      by_cases seeks : c.Seeks d <;> simp [seeks]
  | kept fs => rw [show o = _ from arrived]; rfl
  | corrupted => obtain ⟨fs, rfl⟩ := arrived; rfl
  | unfinished => obtain ⟨fs, rfl⟩ := arrived; rfl

theorem exhausted_resets {core : ToxTunCore} {op : Op} {counter subnet : Int} {clock : Nat}
    (seeks : (step core (E, op)).seeksFrom f = some counter)
    (search : E.search (2 ^ 16) counter 0 = some (subnet, clock, false)) :
    Effect.sent f (Data.fromPacketId .connectionReset) (E.sends clock) ∈
      (step core (E, op)).effects := by
  obtain ⟨c, d, joins, fs, reception, sought, rfl⟩ := seeksFrom_some seeks
  obtain ⟨-, -, o, arrived, outcome⟩ := step_reception reception
  let fr := ((step core (E, op)).frame f c).withFragments fs
  obtain ⟨set, -⟩ := reception_packet reception
  have resets := handleDataFuel_resets (show fr.alive = true from rfl) passive set sought search
  have unwinds : Respects (OverWorld (Emits fun _ => True))
      (modify fun fr => fr.unwound joins : Code Frame Unit) :=
    fun fr => unwound_emits (fun _ _ => trivial) fr joins
  rw [effects_of_outcome outcome, show o = (handleDataFuel E 1 d fr).andThen _ from arrived]
  exact Emits.mem (unwinds.andThen _) resets

theorem step_offers {core : ToxTunCore} {op : Op} (device : op.FromDevice) :
    (step core (E, op)).offers f =
      ((step core (E, op)).seeksFrom f).elim [] fun counter => E.proposalFrom counter 0 := by
  have quiet (absent : ∀ g dataRaw, op = .receive g dataRaw → core.connections g = none)
      (idle : (step core (E, op)).seeksFrom f = none) : (step core (E, op)).offers f =
        ((step core (E, op)).seeksFrom f).elim [] fun counter => E.proposalFrom counter 0 := by
    rw [idle]
    exact exec_sameOffers passive device absent
  cases op with
  | receive g dataRaw =>
      cases found : core.connections g with
      | none =>
          have none : (step core (E, .receive g dataRaw)).reception = none := by
            simp [Transition.reception, step, found]
          exact quiet (fun h raw same => by cases same; exact found)
            (by rw [Transition.seeksFrom, none])
      | some c =>
          have reception : (step core (E, .receive g dataRaw)).reception =
              some (g, c, c.fragments.arrival (Data.fromToxData dataRaw)) := by
            simp [Transition.reception, step, found]
          by_cases own : g = f
          · subst own
            exact reception_offers passive reception
          · rw [offers_other passive rfl (Ne.symm own), seeksFrom_other rfl (Ne.symm own)]
            rfl
  | _ => exact quiet (fun _ _ same => by cases same) rfl

end

end LibToxTun
