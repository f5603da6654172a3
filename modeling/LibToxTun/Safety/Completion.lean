import LibToxTun.Core.Reception

/-! # Received packets and `noexcept`

The handlers of received packets are declared `noexcept`. With a callback
registered only the join of a completed set of fragments can throw inside them:
a packet is processed to its end exactly when every set it completes, also on the
way through nested reassembly, is well formed.
-/

namespace LibToxTun

open Foundation

namespace Transition

/-- A received packet is processed to the end. -/
def Completes (t : Transition) : Prop :=
  ∀ f dataRaw, t.op = .receive f dataRaw → ∃ w, t.outcome = .returned () w

/-- Every set of fragments that a received packet completes is well formed. -/
def Joinable (t : Transition) : Prop :=
  ∀ f c, t.reception ≠ some (f, c, .corrupted)

end Transition

section
variable {core : ToxTunCore} {input : Env × Op}

theorem step_completes (registered : core.callbackFunction = true)
    (keeps : input.1.KeepsCallback) :
    (step core input).Completes ↔ (step core input).Joinable := by
  constructor
  · intro completes f c reception
    obtain ⟨-, -, o, ⟨fs, rfl⟩, outcome⟩ := step_reception reception
    obtain ⟨E, op⟩ := input
    cases op with
    | receive f' dataRaw =>
        obtain ⟨w, returned⟩ := completes f' dataRaw rfl
        rw [outcome] at returned
        cases returned
    | _ => cases reception
  · intro joinable f dataRaw received
    obtain ⟨E, op⟩ := input
    cases received
    cases found : core.connections f with
    | none =>
        obtain ⟨w, handled⟩ := ToxTunCore.handleData_absent E (w := ⟨core, 0, []⟩) registered
          (Data.fromToxData_toxHeaderSet dataRaw) found
        exact ⟨w, by simp [step, exec, ToxTunCore.toxPacketCallback, handled]⟩
    | some c =>
        have reception : (step core (E, .receive f dataRaw)).reception =
            some (f, c, c.fragments.arrival (Data.fromToxData dataRaw)) := by
          simp [Transition.reception, step, found]
        have sound := joinable f c
        rw [reception] at sound
        obtain ⟨-, finishes, o, ho, outcome⟩ := step_reception reception
        rw [outcome]
        cases arrival : c.fragments.arrival (Data.fromToxData dataRaw) with
        | packet d joins fs =>
            rw [arrival] at ho reception
            obtain ⟨set, whole⟩ := reception_packet reception
            let fr := ((step core (E, .receive f dataRaw)).frame f c).withFragments fs
            have alive : fr.alive = true := rfl
            have dispatch := handleDataFuel_eq E alive registered keeps set whole 0
            rw [ho, dispatch]
            exact ⟨_, rfl⟩
        | kept fs =>
            rw [arrival] at ho
            rw [ho]
            exact ⟨_, rfl⟩
        | corrupted => exact (sound (by rw [arrival])).elim
        | unfinished => exact (finishes arrival).elim

end

/-- In every run with a registered callback, received packets are processed to
the end exactly when all sets of fragments that they complete are well formed. -/
theorem completes_iff {core : ToxTunCore} (registered : core.callbackFunction = true)
    (inputs : List (Env × Op))
    (keeps : ∀ input ∈ inputs, input.1.KeepsCallback ∧ input.2 ≠ .setCallback false) :
    (∀ t ∈ transitions core inputs, t.Completes) ↔ ∀ t ∈ transitions core inputs, t.Joinable := by
  refine forall₂_congr fun t ht => ?_
  obtain ⟨before, inv, input, hmem, rfl⟩ :=
    mem_transitions (I := fun core => core.callbackFunction = true) registered
      (fun before inv input hmem next after =>
        step_registered inv (keeps input hmem).1 (keeps input hmem).2 after) ht
  exact step_completes inv (keeps input hmem).1

/-- A friend that was sent a request answers with a fragment, the only one of its
set, whose index byte is not zero. -/
def strayFragment : List (Env × Op) :=
  [(.obliging fun _ => some [], .sendConnectionRequest 7),
    (.obliging fun _ => some [], .receive 7 [201, 0, 5, 1, 9])]

theorem strayFragment_completes_iff :
    (∀ t ∈ transitions (ToxTunCore.empty true) strayFragment, t.Completes) ↔
      ∀ t ∈ transitions (ToxTunCore.empty true) strayFragment, t.Joinable :=
  completes_iff rfl strayFragment (by
    simp [strayFragment, (Env.obliging_passive _).keepsCallback])

theorem strayFragment_terminates :
    ¬ ∀ t ∈ transitions (ToxTunCore.empty true) strayFragment, t.Completes := by
  have ends : ((transitions (ToxTunCore.empty true) strayFragment).any fun t =>
      t.reception.isSome && t.after.isNone) = true := by decide +kernel
  obtain ⟨t, ht, stops⟩ := List.any_eq_true.mp ends
  intro completes
  cases op : t.op with
  | receive f dataRaw =>
      obtain ⟨w, returned⟩ := completes t ht f dataRaw op
      simp [Transition.after, returned] at stops
  | _ => simp [Transition.reception, op] at stops

end LibToxTun
