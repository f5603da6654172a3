import LibToxTun.Network.Negotiation

/-! # Frames that overtake the handshake

The side that accepts an address starts to send frames at once, and a frame may come
before the acceptance. The other side is not connected then and ends the connection.
This is the only way in which an undisturbed handshake fails.
-/

namespace LibToxTun

open Foundation

/-- One subnet passes whenever it is asked for; the others may or may not. -/
def Verdicts.common (s : UInt8) : Verdicts where
  used _ t := t ≠ s
  unused _ _ := True

/-- A packet that resets a connection. -/
def Data.isReset (d : Data) : Bool := PacketId.ofByte d.header = .connectionReset

section
variable {s : UInt8} {k : Nat} {pa pb : Option Phase} {ab ba : List Msg} {ea eb : List Event}

/-- With a common subnet the search does not fail, and the side that was asked has no
connection only before it hears the request. -/
theorem Stage.kept (stage : Stage (.common s) k pa pb ab ba ea eb) :
    (∀ m ∈ ab ++ ba, m ≠ .bye .reset) ∧ pa ≠ none ∧ (pb ≠ none ↔ k < 516) := by
  have fails (tried : ∀ t, (Verdicts.common s).used .a t ∨ (Verdicts.common s).used .b t) : False :=
    (tried s).elim (fun h => h rfl) fun h => h rfl
  cases stage with
  | exhausted tried => exact (fails tried).elim
  | closed tried => exact (fails tried).elim
  | proposed t tried free =>
      refine ⟨by simp, by simp, ?_⟩
      simp only [ne_eq, reduceCtorEq, not_false_eq_true, true_iff]
      omega
  | declined t tried =>
      refine ⟨by simp, by simp, ?_⟩
      simp only [ne_eq, reduceCtorEq, not_false_eq_true, true_iff]
      omega
  | asked | ringing | accepted | agreed t tried free | connected t tried free => simp

end

theorem Msg.data_isReset {m : Msg} (reset : m.data.isReset = true) : m = .bye .reset := by
  cases m with
  | bye kind => cases kind <;> first | rfl | cases reset
  | proposal subnet => simp [data, Data.isReset, Data.fromIpPostfix, Data.setToxHeader,
      PacketId.toByte, PacketId.ofByte] at reset
  | _ => cases reset

theorem Net.InStage.no_reset {s : UInt8} {n : Net} {k : Nat} {d : Duplex Party Letter}
    (h : n.InStage (.common s) k d) (x : Side) : ∀ p ∈ n.wire x, p.data.isReset = false := by
  intro p hp
  rw [h.abstracts.wire] at hp
  obtain ⟨l, hl, rfl⟩ := List.mem_map.mp hp
  by_contra reset
  refine h.stage.kept.1 l.msg ?_ (Msg.data_isReset (by simpa [Letter.parcel] using reset))
  cases x with
  | a => exact List.mem_append_left _ (List.mem_map_of_mem hl)
  | b => exact List.mem_append_right _ (List.mem_map_of_mem hl)

/-- Unless a frame overtakes the acceptance of the address, no side of the handshake
resets its connection or loses it. -/
theorem handshake_kept {s : UInt8} {friend : Side → UInt32} {E : Env}
    (judges : E.Judges (.common s) .a) {n₀ : Net}
    (asked : (Net.start friend).step (E, .sendConnectionRequest .a) = some n₀) {n : Net}
    (reached : Reach Net.step (fun n i => HandshakeInput (.common s) i ∧
      !n.hasty i.2 && !n.overtakes i.2) n₀ n) :
    (∀ x, ∀ p ∈ n.wire x, p.data.isReset = false) ∧
      ∀ i n', HandshakeInput (.common s) i → n.hasty i.2 = false → n.overtakes i.2 = false →
        n.step i = some n' → ∀ x, (n.connection x).isSome = true → (n'.connection x).isSome = true := by
  obtain ⟨k, d, stage⟩ := reached.invariant (I := fun n => ∃ k d, n.InStage (.common s) k d)
    ⟨516, Net.asked_inStage judges asked⟩ (by
      rintro n ⟨E, move⟩ n' ⟨k, d, stage⟩ ⟨input, orderly⟩ taken
      simp only [Bool.and_eq_true, Bool.not_eq_true'] at orderly
      obtain ⟨k', d', stage', -⟩ := stage.step input orderly.1 orderly.2 taken
      exact ⟨k', d', stage'⟩)
  refine ⟨stage.no_reset, fun ⟨E, move⟩ n' input prompt ordered taken x linked => ?_⟩
  obtain ⟨k', d', stage', less⟩ := stage.step input prompt ordered taken
  obtain ⟨-, asking, later⟩ := stage'.stage.kept
  rw [stage'.abstracts.isSome_iff]
  cases x with
  | a => exact asking
  | b =>
      have earlier := stage.stage.kept.2.2.mp ((stage.abstracts.isSome_iff .b).mp linked)
      exact later.mpr (by omega)

theorem Env.judges_common (s : UInt8) (x : Side) :
    (Env.obliging fun _ => some []).Judges (.common s) x :=
  ⟨⟨Env.obliging_reliable _, (by decide : 10 ≤ 1373)⟩, fun _ => rfl, fun _ _ => nofun, fun _ _ _ => trivial⟩

/-- The side that was asked accepts the address and sends a frame at once. -/
theorem overtaken_acceptance_resets :
    let E := Env.obliging fun _ => some []
    ∃ n₀ n, (Net.start fun _ => 7).step (E, .sendConnectionRequest .a) = some n₀ ∧
      Reach Net.step (fun n i => HandshakeInput (.common 0) i ∧ !n.hasty i.2) n₀ n ∧
      n.connection .a = none ∧ ∃ p ∈ n.wire .a, p.data.isReset = true := by
  intro E
  have judges (x : Side) : E.Judges (.common 0) x := Env.judges_common 0 x
  let test := fun (n : Net) (i : Env × Move) => !n.hasty i.2
  let inputs : List (Env × Move) := [(E, .deliver .b), (E, .acceptConnection .b), (E, .deliver .a),
    (E, .deliver .b), (E, .iterate .b [some [1, 2, 3]]), (E, .deliverLossy .a 0)]
  obtain ⟨n₀, asked, rest⟩ := exists_run Net.step (Net.start fun _ => 7)
    [(E, .sendConnectionRequest .a)]
    (P := fun n₀ => (run (guarded test Net.step) n₀ inputs).any (fun n => decide
      ((n.connection .a).isNone = true ∧ (n.wire .a).any (fun p => p.data.isReset) = true)) = true)
    (by decide +kernel)
  obtain ⟨n, taken, gone, reset⟩ := exists_run _ _ _ rest
  have reached := Reach.of_guarded_run (P := HandshakeInput (.common 0)) taken (by
    simp only [inputs, List.forall_mem_cons]
    exact ⟨.deliver (judges .b), .accept (judges .b), .deliver (judges .a), .deliver (judges .b),
      .iterate (judges .b) (by simp [Move.Framed]), .deliverLossy (judges .a) 0, nofun⟩)
  exact ⟨n₀, n, by simpa [run] using asked, reached, Option.isNone_iff_eq_none.mp gone,
    List.any_eq_true.mp reset⟩

/-- The frame waits for the acceptance. -/
theorem handshake_kept_in_order :
    let E := Env.obliging fun _ => some []
    ∃ n₀ n, (Net.start fun _ => 7).step (E, .sendConnectionRequest .a) = some n₀ ∧
      Reach Net.step (fun n i => HandshakeInput (.common 0) i ∧ !n.hasty i.2 && !n.overtakes i.2)
        n₀ n ∧ n.address .a = some (.connected, some (0, 1)) ∧
      (∀ x, ∀ p ∈ n.wire x, p.data.isReset = false) ∧
      ∀ i n', HandshakeInput (.common 0) i → n.hasty i.2 = false → n.overtakes i.2 = false →
        n.step i = some n' → ∀ x, (n.connection x).isSome = true → (n'.connection x).isSome = true := by
  intro E
  have judges (x : Side) : E.Judges (.common 0) x := Env.judges_common 0 x
  let test := fun (n : Net) (i : Env × Move) => !n.hasty i.2 && !n.overtakes i.2
  let inputs : List (Env × Move) := [(E, .deliver .b), (E, .acceptConnection .b), (E, .deliver .a),
    (E, .deliver .b), (E, .iterate .b [some [1, 2, 3]]), (E, .deliver .a), (E, .deliverLossy .a 0)]
  obtain ⟨n₀, asked, rest⟩ := exists_run Net.step (Net.start fun _ => 7)
    [(E, .sendConnectionRequest .a)]
    (P := fun n₀ => (run (guarded test Net.step) n₀ inputs).any (fun n => decide
      (n.address .a = some (.connected, some (0, 1)))) = true) (by decide +kernel)
  obtain ⟨n, taken, connected⟩ := exists_run _ _ _ rest
  have reached := Reach.of_guarded_run (P := HandshakeInput (.common 0)) taken (by
    simp only [inputs, List.forall_mem_cons]
    exact ⟨.deliver (judges .b), .accept (judges .b), .deliver (judges .a), .deliver (judges .b),
      .iterate (judges .b) (by simp [Move.Framed]), .deliver (judges .a),
      .deliverLossy (judges .a) 0, nofun⟩)
  have asked : (Net.start fun _ => 7).step (E, .sendConnectionRequest .a) = some n₀ := by
    simpa [run] using asked
  exact ⟨n₀, n, asked, reached, connected, handshake_kept (judges .a) asked reached⟩

end LibToxTun
