import LibToxTun.Core.Reception

/-! # Deleted connections

`deleteConnection` destroys the object its caller runs on. Three handlers go on
afterwards: `sendToTun` writes to the device after the reset, `handleIpProposal`
sets the address although the acceptance could not be sent, and `handleFragment`
reads two members after a nested call that deleted the connection. In every other
case nothing touches a connection that is gone, whatever packets come in and
whichever sends fail.
-/

namespace LibToxTun

open Foundation

namespace Effect

/-- The connection is given up. -/
def farewell : Effect → Prop
  | .entered _ s => s = .deleting
  | .destroyed _ => True
  | _ => False

/-- The effect uses the connection of a friend. -/
def uses (f : UInt32) : Effect → Prop
  | .sent _ _ _ => False
  | .raised _ g => g = f
  | .entered g _ => g = f
  | .ipSet g _ _ => g = f
  | .tunWrite g _ _ => g = f
  | .destroyed _ => False
  | .dangling g _ => g = f

end Effect

/-- Nothing uses a connection after it was destroyed, and its last state is `deleting`. -/
structure Untouched (es : List Effect) : Prop where
  destroyed : es.Pairwise fun earlier later => ∀ f, earlier = .destroyed f → ¬ later.uses f
  deleting : es.Pairwise fun earlier later =>
    ∀ f s, earlier = .entered f .deleting → later ≠ .entered f s

/-- The effects of a step that gives a connection up at its very end, if at all. -/
inductive Closing : List Effect → Prop
  | kept {es : List Effect} (h : ∀ e ∈ es, ¬ e.farewell) : Closing es
  | erased {es : List Effect} (h : ∀ e ∈ es, ¬ e.farewell) (f : UInt32) :
      Closing (es ++ [.destroyed f])
  | deleted {es : List Effect} (h : ∀ e ∈ es, ¬ e.farewell) (f : UInt32) :
      Closing (es ++ [.entered f .deleting, .destroyed f])

theorem pairwise_of_no_farewell {es : List Effect} (h : ∀ e ∈ es, ¬ e.farewell)
    {R : Effect → Effect → Prop} (onlyFarewell : ∀ e e', ¬ e.farewell → R e e') : es.Pairwise R :=
  List.pairwise_of_forall_mem_list fun e he e' _ => onlyFarewell e e' (h e he)

theorem Closing.untouched {es : List Effect} (closing : Closing es) : Untouched es := by
  have destroyed : ∀ e e' : Effect, ¬ e.farewell → ∀ f, e = .destroyed f → ¬ e'.uses f := by
    rintro e e' plain f rfl
    exact (plain trivial).elim
  have deleting : ∀ e e' : Effect, ¬ e.farewell → ∀ f s, e = .entered f .deleting →
      e' ≠ .entered f s := by
    rintro e e' plain f s rfl
    exact (plain rfl).elim
  cases closing with
  | kept h => exact ⟨pairwise_of_no_farewell h destroyed, pairwise_of_no_farewell h deleting⟩
  | erased h f =>
      constructor
      · refine List.pairwise_append.mpr ⟨pairwise_of_no_farewell h destroyed, by simp, ?_⟩
        exact fun e he e' _ => destroyed e e' (h e he)
      · refine List.pairwise_append.mpr ⟨pairwise_of_no_farewell h deleting, by simp, ?_⟩
        exact fun e he e' _ => deleting e e' (h e he)
  | deleted h f =>
      constructor
      · refine List.pairwise_append.mpr ⟨pairwise_of_no_farewell h destroyed, by simp, ?_⟩
        exact fun e he e' _ => destroyed e e' (h e he)
      · refine List.pairwise_append.mpr ⟨pairwise_of_no_farewell h deleting, by simp, ?_⟩
        exact fun e he e' _ => deleting e e' (h e he)

/-! ## Frames -/

namespace Frame

/-- The object is intact and nothing was given up since. -/
structure Intact (fr fr' : Frame) : Prop where
  alive : fr'.alive = true
  linked : fr'.linked = true
  friend : fr'.connectedFriend = fr.connectedFriend
  registered : fr'.world.core.callbackFunction = fr.world.core.callbackFunction
  emits : Emits (fun e => ¬ e.farewell) fr.world fr'.world

/-- The object was deleted, and nothing happened since. -/
structure Deleted (fr fr' : Frame) : Prop where
  dead : fr'.alive = false
  friend : fr'.connectedFriend = fr.connectedFriend
  effects : ∃ es, (∀ e ∈ es, ¬ e.farewell) ∧ fr'.world.trace = fr.world.trace ++
    (es ++ [.entered fr.connectedFriend .deleting, .destroyed fr.connectedFriend])

section
variable {E : Env} (passive : E.Passive) {fr fr' fr'' : Frame}

theorem Intact.refl (alive : fr.alive = true) (linked : fr.linked = true) : fr.Intact fr :=
  ⟨alive, linked, rfl, rfl, Std.Refl.refl _⟩

theorem Intact.log (h : fr.Intact fr') {e : Effect} (he : ¬ e.farewell) : fr.Intact (fr'.log e) :=
  ⟨h.alive, h.linked, h.friend, h.registered, h.emits.log he⟩

theorem Intact.sent (h : fr.Intact fr') (d : Data) (b : Bool) : fr.Intact (fr'.sent d b) := by
  have step := h.log (e := .sent fr'.connectedFriend d b) id
  exact ⟨step.alive, step.linked, step.friend, step.registered,
    IsTrans.trans (r := Emits _) _ _ _ step.emits (.of_trace_eq rfl)⟩

theorem Intact.enterState (h : fr.Intact fr') {s : State} (kept : s ≠ .deleting) :
    fr.Intact (fr'.enterState s) := by
  have step := h.log (e := .entered fr'.connectedFriend s) kept
  have same : (fr'.enterState s).world = (fr'.log (.entered fr'.connectedFriend s)).world := by
    simp only [Frame.enterState, touch_of_alive h.alive]
    rfl
  exact ⟨by simpa using h.alive, by simpa using h.linked, by simpa using h.friend,
    by simpa using h.registered, same ▸ step.emits⟩

theorem Intact.world (h : fr.Intact fr') {c : Connection} {w : World}
    (core : w.core = fr'.world.core) (trace : w.trace = fr'.world.trace) :
    fr.Intact { fr' with self := c, world := w } :=
  ⟨h.alive, h.linked, h.friend, core ▸ h.registered,
    IsTrans.trans (r := Emits _) _ _ _ h.emits (.of_trace_eq trace)⟩

theorem Intact.buried (h : fr.Intact fr') : fr.Deleted fr'.buried := by
  obtain ⟨es, trace, plain⟩ := h.emits
  refine ⟨?_, ?_, es, plain, ?_⟩
  · simp [Frame.buried, h.linked, freed]
  · simp [Frame.buried, h.linked, freed, h.friend]
  · simp [Frame.buried, h.linked, freed, Frame.enterState, Frame.touch, h.alive, World.setConnection,
      trace, h.friend, Frame.log, World.log]

theorem Intact.closing (h : fr.Intact fr') (start : fr.world.trace = []) :
    Closing fr'.world.trace :=
  .kept (h.emits.forall_mem start)

theorem Deleted.closing (h : fr.Deleted fr') (start : fr.world.trace = []) :
    Closing fr'.world.trace := by
  obtain ⟨es, plain, trace⟩ := h.effects
  rw [trace, start]
  exact .deleted plain _

include passive

theorem Intact.raise (h : fr.Intact fr') (event : Event) : fr.Intact (fr'.raise E event) := by
  rw [Frame.raise, passive]
  exact h.log id

theorem Intact.killed (h : fr.Intact fr') : fr.Deleted (fr'.killed E) :=
  ((h.sent _ _).raise passive _).buried

end

end Frame

/-! ## Packets that end a connection -/

/-- The search of `sendIp` finds no subnet, or its proposal is not sent. -/
def Env.ProposalFails (E : Env) (fr : Frame) : Prop :=
  ∀ subnet clock, E.search (2 ^ 16) fr.self.subnet fr.world.clock = some (subnet, clock, true) →
    E.sends clock = false

/-- The packet makes its handler delete the connection. -/
def Frame.Ends (E : Env) (fr : Frame) (d : Data) : Prop :=
  match PacketId.ofByte d.header with
  | .connectionRequest => False
  | .connectionAccept => fr.self.state = .ownRequestPending → E.ProposalFails fr
  | .connectionReject => True
  | .connectionClose => True
  | .connectionReset => True
  | .ipProposal => fr.self.state = .expectingIpPacket →
      (∃ bytes, proposalBytes d = .ok bytes) ∧ E.sends (fr.world.clock + 1) = false
  | .ipAccept => fr.self.state ≠ .expectingIpConfirmation
  | .ipReject => fr.self.state = .expectingIpConfirmation → E.ProposalFails fr
  | .data => fr.self.state ≠ .connected
  | .fragment => False
  | .unnamed _ => False

/-- The handler of the packet goes on with the connection it deleted. -/
def Frame.GoesOn (E : Env) (fr : Frame) (d : Data) : Prop :=
  (PacketId.ofByte d.header = .data ∧ fr.self.state ≠ .connected) ∨
  (PacketId.ofByte d.header = .ipProposal ∧ fr.self.state = .expectingIpPacket ∧
    ∃ subnet ipPostfix, proposalBytes d = .ok (subnet, ipPostfix) ∧
      E.unusedAt fr.world.clock subnet = true ∧ E.sends (fr.world.clock + 1) = false)

namespace Frame

section
variable {E : Env} (passive : E.Passive) {fr fr' : Frame}
include passive

theorem Intact.proposed (h : fr.Intact fr') :
    (E.ProposalFails fr' → fr.Deleted (fr'.proposed E)) ∧
      (¬ E.ProposalFails fr' → fr.Intact (fr'.proposed E)) := by
  obtain ⟨⟨subnet, clock, found⟩, search⟩ := search_total E fr'.self.subnet fr'.world.clock
  have searched : fr.Intact (fr'.searched subnet clock) := h.world rfl rfl
  simp only [Env.ProposalFails, Frame.proposed, search, Option.some.injEq, Prod.mk.injEq]
  cases found with
  | false =>
      refine ⟨fun _ => searched.killed passive, fun succeeds => ?_⟩
      exact (succeeds fun _ _ same => absurd same.2.2 (by decide)).elim
  | true =>
      cases sends : E.sends clock with
      | true =>
          refine ⟨fun fails => ?_, fun _ => ?_⟩
          · exact absurd (fails subnet clock ⟨rfl, rfl, rfl⟩) (by simp [sends])
          · simp only [sends, if_true]
            exact searched.sent _ _
      | false =>
          refine ⟨fun _ => ?_, fun succeeds => ?_⟩
          · simp only [sends, Bool.false_eq_true, if_false]
            exact (searched.sent _ _).killed passive
          · exact (succeeds fun s c same => same.2.1 ▸ sends).elim

theorem Intact.ipSet (h : fr.Intact fr') (subnet ipPostfix : UInt8) :
    fr.Intact (fr'.ipSet E subnet ipPostfix) := by
  have device : fr.Intact ({ fr' with
      self := { fr'.self with tun := ⟨some (subnet, ipPostfix)⟩ } } : Frame) := h.world rfl rfl
  have entered := (device.log (e := .ipSet fr'.connectedFriend subnet ipPostfix) id).enterState
    (s := .connected) (by decide)
  rw [Frame.ipSet, touch_of_alive h.alive, touch_of_alive entered.alive]
  exact entered.raise passive _

theorem Intact.answered (h : fr.Intact fr') (subnet ipPostfix : UInt8)
    (accepted : E.unusedAt fr'.world.clock subnet = true → E.sends (fr'.world.clock + 1) = true) :
    (E.sends (fr'.world.clock + 1) = false → fr.Deleted (fr'.answered E subnet ipPostfix)) ∧
      (E.sends (fr'.world.clock + 1) = true → fr.Intact (fr'.answered E subnet ipPostfix)) := by
  have ticked : fr.Intact fr'.ticked := h.world rfl rfl
  have clock : fr'.ticked.world.clock = fr'.world.clock + 1 := rfl
  simp only [Frame.answered, clock]
  constructor
  · intro failed
    have used : ¬ E.unusedAt fr'.world.clock subnet = true := fun unused => by
      simp [accepted unused] at failed
    simp only [failed, if_neg used, Bool.false_eq_true, if_false]
    exact (ticked.sent _ _).killed passive
  · intro sends
    simp only [sends, if_true]
    split
    · exact (ticked.sent _ _).ipSet passive _ _
    · exact ticked.sent _ _

omit passive in
theorem Intact.written (h : fr.Intact fr') (d : Data) : fr.Intact (fr'.written d) := by
  have write := h.log (e := .tunWrite fr'.connectedFriend fr'.self.state d) id
  rw [Frame.written, touch_of_alive h.alive]
  split
  · exact write
  · exact write.world rfl rfl

end

section
variable {E : Env} (passive : E.Passive) {fr : Frame} (alive : fr.alive = true)
  (linked : fr.linked = true)
include passive alive linked

/-- Unless its handler goes on, a packet deletes the connection last of all or
leaves it intact. -/
theorem handled_cases {d : Data} (stops : ¬ fr.GoesOn E d) :
    (fr.Ends E d → fr.Deleted (fr.handled E d)) ∧ (¬ fr.Ends E d → fr.Intact (fr.handled E d)) := by
  have start : fr.Intact fr := .refl alive linked
  have killed := start.killed passive
  simp only [Ends, GoesOn, handled] at stops ⊢
  cases header : PacketId.ofByte d.header with
  | connectionRequest => exact ⟨False.elim, fun _ => start⟩
  | connectionAccept =>
      dsimp only [afterAccept]
      split
      · next pending =>
          have propose := (start.enterState (s := .expectingIpConfirmation) (by decide)).proposed passive
          simpa [pending, Env.ProposalFails] using propose
      · next other =>
          exact ⟨fun _ => killed, fun ends => (ends fun pending => (other pending).elim).elim⟩
  | connectionReject =>
      refine ⟨fun _ => ?_, fun ends => (ends trivial).elim⟩
      dsimp only [afterReject]
      split
      · exact (start.raise passive _).buried
      · exact killed
  | connectionClose =>
      refine ⟨fun _ => ?_, fun ends => (ends trivial).elim⟩
      dsimp only [afterClose]
      split
      · have raised := start.raise passive .connectionClosed
        rw [touch_of_alive raised.alive]
        exact raised.buried
      · exact killed
  | connectionReset =>
      exact ⟨fun _ => (start.raise passive _).buried, fun ends => (ends trivial).elim⟩
  | ipProposal =>
      simp only [header, true_and, reduceCtorEq, false_and, false_or] at stops
      dsimp only [afterProposal]
      split
      · next expecting =>
          simp only [expecting, true_and, true_implies] at stops ⊢
          cases bytes : proposalBytes d with
          | error e => exact ⟨fun ends => by simp at ends, fun _ => start⟩
          | ok pair =>
              have answered := start.answered passive pair.1 pair.2 fun unused => by
                by_contra failed
                exact stops ⟨pair.1, pair.2, bytes, unused, by simpa using failed⟩
              simpa using answered
      · next other =>
          exact ⟨fun _ => killed, fun ends => (ends fun expecting => (other expecting).elim).elim⟩
  | ipAccept =>
      dsimp only [afterIpAccept]
      split
      · next expecting => exact ⟨fun ends => (ends expecting).elim, fun _ => start.ipSet passive _ _⟩
      · next other => exact ⟨fun _ => killed, fun ends => (ends other).elim⟩
  | ipReject =>
      dsimp only [afterIpReject]
      split
      · next expecting => simpa [expecting] using start.proposed passive
      · next other =>
          exact ⟨fun _ => killed, fun ends => (ends fun pending => (other pending).elim).elim⟩
  | data =>
      simp only [header, true_and, reduceCtorEq, false_and, or_false, not_not] at stops
      refine ⟨fun refused => (refused stops).elim, fun _ => ?_⟩
      simp only [afterData, stops, if_true]
      exact start.written d
  | fragment => exact ⟨False.elim, fun _ => start⟩
  | unnamed b => exact ⟨False.elim, fun _ => start⟩

omit alive linked in
theorem ipSet_emits (fr : Frame) (subnet ipPostfix : UInt8) :
    Emits (fun _ => True) (fr.touch .tun).world (fr.ipSet E subnet ipPostfix).world := by
  have start : Emits (fun _ => True) (fr.touch .tun).world (fr.touch .tun).world := Std.Refl.refl _
  let device : Frame := { fr.touch .tun with
    self := { fr.self with tun := ⟨some (subnet, ipPostfix)⟩ } }.log
      (.ipSet fr.connectedFriend subnet ipPostfix)
  have set : Emits (fun _ => True) (fr.touch .tun).world device.world := start.log trivial
  have entered : Emits (fun _ => True) (fr.touch .tun).world (device.enterState .connected).world :=
    (set.touch .state trivial).log trivial
  rw [Frame.ipSet, Frame.raise, passive]
  exact (entered.touch .connectedFriend trivial).log trivial

theorem handled_goesOn {d : Data} (goesOn : fr.GoesOn E d) :
    ∃ fr' field, fr.Deleted fr' ∧
      Emits (fun _ => True) (fr'.touch field).world (fr.handled E d).world := by
  have start : fr.Intact fr := .refl alive linked
  rcases goesOn with ⟨header, refused⟩ | ⟨header, expecting, subnet, ipPostfix, bytes, unused, failed⟩
  · refine ⟨fr.killed E, .tun, start.killed passive, ?_⟩
    simp only [handled, header, afterData, if_neg refused, Frame.written]
    have write : Emits (fun _ => True) ((fr.killed E).touch .tun).world
        (((fr.killed E).touch .tun).log
          (.tunWrite (fr.killed E).connectedFriend (fr.killed E).self.state d)).world :=
      Emits.log (Std.Refl.refl _) trivial
    split
    · exact write
    · exact IsTrans.trans (r := Emits _) _ _ _ write (.of_trace_eq rfl)
  · let fr' := (fr.ticked.sent (Data.fromPacketId .ipAccept) false).killed E
    have ticked : fr.Intact fr.ticked := start.world rfl rfl
    refine ⟨fr', .tun, (ticked.sent _ _).killed passive, ?_⟩
    have clock : fr.ticked.world.clock = fr.world.clock + 1 := rfl
    simp only [handled, header, afterProposal, expecting, if_true, bytes, answered, unused, clock,
      failed, Bool.false_eq_true, if_false]
    exact ipSet_emits passive fr' subnet ipPostfix

end

end Frame

/-- What happens to a connection after it was deleted is seen in the trace. -/
theorem deleted_touched {fr fr' : Frame} (start : fr.world.trace = []) (deleted : fr.Deleted fr')
    {field : Field} {w : World} (touched : Emits (fun _ => True) (fr'.touch field).world w) :
    ¬ Untouched w.trace := by
  intro untouched
  obtain ⟨es, -, trace⟩ := deleted.effects
  obtain ⟨rest, extended, -⟩ := touched
  have dangling : (fr'.touch field).world.trace =
      fr'.world.trace ++ [.dangling fr'.connectedFriend field] := by
    simp [Frame.touch, deleted.dead, Frame.log, World.log]
  rw [extended, dangling, trace, start] at untouched
  have pairs := (List.pairwise_append.mp (List.pairwise_append.mp untouched.destroyed).1).2.2
  exact pairs (.destroyed fr.connectedFriend) (by simp) _ (List.mem_singleton_self _) _ rfl
    deleted.friend

end LibToxTun
