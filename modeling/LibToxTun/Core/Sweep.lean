import LibToxTun.Core.Isolation
import LibToxTun.Foundation.Traversal

/-! # One call of `iterate`

`ToxTunCore::iterate` goes through the map of connections and lets every one of them forward
what its device has. No connection is added or removed under the iterator, so the call is
the operations `iterate` on the friends one after the other, of which an empty frame ends
the process.
-/

namespace LibToxTun

open Foundation

instance UInt32.strictTotalOrder : IsStrictTotalOrder UInt32 (· < ·) where
  irrefl f := UInt32.lt_irrefl f
  trans _ _ _ := UInt32.lt_trans
  trichotomous _ _ above below := UInt32.le_antisymm (UInt32.not_lt.mp below) (UInt32.not_lt.mp above)

namespace ToxTunCore

/-- The share of one connection: the answers that it gets from tox, and what its device yields. -/
structure Share where
  env : Env
  reads : List (Option (List UInt8))

def Share.input (f : UInt32) (share : Share) : Env × Op := (share.env, (Call.iterate share.reads).op f)

/-- `connection.second.iterate(timePerConnection)`. -/
def iterateOne (shares : UInt32 → Share) (core : ToxTunCore) (f : UInt32) : Option ToxTunCore :=
  afterStep core ((shares f).input f)

variable {shares : UInt32 → Share}

theorem iterateOne_isSome_iff {core : ToxTunCore} {f : UInt32} :
    (iterateOne shares core f).isSome = true ↔
      ∀ c, core.connections f = some c → c.state = .connected → some [] ∉ (shares f).reads := by
  have answers := iterate_answers (E := (shares f).env) (f := f) core (shares f).reads
  simp only [iterateOne, afterStep, Share.input]
  cases reply : (shares f).env.reply (core.connections f) (.iterate (shares f).reads) with
  | none =>
      rw [reply] at answers
      obtain ⟨c, dataRaw, -, ⟨⟩, -⟩ | ⟨c, reads, found, same, connected, empty⟩ := Env.reply_none reply
      cases same
      refine iff_of_false (by simp [answers]) fun framed => ?_
      exact framed c found connected empty
  | some r =>
      rw [reply] at answers
      refine iff_of_true (by simp [answers.after]) fun c found connected => ?_
      obtain ⟨absent, -⟩ | ⟨c', found', idle, -⟩ | ⟨c', -, -, frames, -⟩ := Env.reply_iterate reply
      · cases absent.symm.trans found
      · cases found'.symm.trans found
        exact (idle connected).elim
      · exact frames

theorem iterateOne_other {core next : ToxTunCore} {f g : UInt32}
    (body : iterateOne shares core f = some next) (other : g ≠ f) :
    next.connections g = core.connections g := by
  obtain ⟨r, -, answers⟩ := iterate_replied (E := (shares f).env) body
  cases body.symm.trans answers.after
  exact ToxTunCore.put_other _ _ _ other

end ToxTunCore

namespace ToxTunCore

/-- What a friend is sent when its connection gets its share. -/
def Share.packets (share : Share) (c : Connection) : List Data :=
  if c.state = .connected then (share.env.forward 0 c share.reads).2 else []

variable {shares : UInt32 → Share}

/-- The visits come to their end when no device of a connection that is up yields an empty
frame. -/
theorem run_isSome_iff {friends : List UInt32} (once : friends.Nodup) {core : ToxTunCore} :
    (run (iterateOne shares) core friends).isSome = true ↔ ∀ f ∈ friends, ∀ c,
      core.connections f = some c → c.state = .connected → some [] ∉ (shares f).reads := by
  induction friends generalizing core with
  | nil => simp [run]
  | cons g friends ih =>
      obtain ⟨unlisted, later⟩ := List.nodup_cons.mp once
      have here := @iterateOne_isSome_iff shares core g
      rw [List.forall_mem_cons, ← here, run]
      cases body : iterateOne shares core g with
      | none => simp
      | some next =>
          rw [Option.bind_some, ih later]
          refine ⟨fun framed => ⟨rfl, fun f mem => ?_⟩, fun framed f mem => ?_⟩ <;>
            have other : f ≠ g := fun same => unlisted (same ▸ mem)
          · rw [← iterateOne_other body other]
            exact framed f mem
          · rw [iterateOne_other body other]
            exact framed.2 f mem

end ToxTunCore

end LibToxTun
