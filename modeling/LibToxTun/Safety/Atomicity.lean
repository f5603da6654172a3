import LibToxTun.Core.Mute

/-! # Calls that throw

A request that cannot be made leaves no trace in the table. An acceptance is
different: where there is a connection that does not wait for it, the core drops
that connection before it passes the error on, and its destructor tells the friend.
-/

namespace LibToxTun

open Foundation

/-- The packet with which the destructor takes leave of the friend. -/
def State.goodbye : State → Option PacketId
  | .friendsRequestPending => some .connectionReject
  | .ownRequestPending => some .connectionReset
  | .expectingIpPacket => some .connectionReset
  | .expectingIpConfirmation => some .connectionReset
  | .connected => some .connectionClose
  | .deleting => none

namespace Transition

def throws (t : Transition) : Bool :=
  match t.outcome with
  | .thrown _ _ => true
  | _ => false

/-- The table is as it was, and tox took no packet for the friend. -/
structure Unchanged (t : Transition) (f : UInt32) : Prop where
  after : t.after = some t.before
  silent : t.effects.filterMap (Effect.packetTo f) = []

/-- The connection to the friend is gone and no other; the friend was told. -/
structure Drops (t : Transition) (f : UInt32) (s : State) : Prop where
  after : t.after = some (t.before.put f none)
  goodbye : t.effects.filterMap (Effect.packetTo f) =
    s.goodbye.toList.flatMap fun packetId => t.env.taken 0 (Data.fromPacketId packetId)

theorem throws_outcome {t : Transition} (h : t.throws = true) : ∃ e w, t.outcome = .thrown e w := by
  unfold throws at h
  split at h
  · next e w outcome => exact ⟨e, w, outcome⟩
  · cases h

end Transition

section
variable {E : Env} {core : ToxTunCore} {f : UInt32}

theorem Transition.Answers.unchanged {t : Transition} {c : Option Connection} {es : List Event}
    (h : t.Answers f ⟨c, [], es⟩) (same : t.before.connections f = c) : t.Unchanged f :=
  ⟨h.after.trans (congrArg some (ToxTunCore.put_eq_self same)), h.packets⟩

theorem acceptConnection_refuses {c : Connection} (found : core.connections f = some c)
    (throws : (step core (E, .acceptConnection f)).throws = true) :
    c.state ≠ .friendsRequestPending := by
  intro ringing
  let fr := Frame.enter f c ⟨core, 0, []⟩
  have alive : fr.alive = true := rfl
  obtain ⟨e, w, thrown⟩ := Transition.throws_outcome throws
  change ToxTunCore.acceptConnection E f ⟨core, 0, []⟩ = _ at thrown
  cases registered : core.callbackFunction with
  | true =>
      have accepted := acceptConnection_eq E alive registered ringing
      rw [acceptConnection_found found accepted] at thrown
      cases thrown
  | false =>
      have accepted := acceptConnection_unregistered E alive ringing registered
      dsimp only at accepted
      split at accepted
      · rw [acceptConnection_found found accepted] at thrown
        cases thrown
      · rw [acceptConnection_ended found accepted] at thrown
        cases thrown

end

namespace Transition

end Transition

end LibToxTun
