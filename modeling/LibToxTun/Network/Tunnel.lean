import Mathlib.Data.List.ReduceOption
import LibToxTun.Core.Manners
import LibToxTun.Core.Polling
import LibToxTun.Network.Machine
import LibToxTun.Safety.DeviceWrites

/-! # The tunnel

What two endpoints are for: the frames that one of them reads from its device are handed
to the device of the other. A ledger is kept beside the net, of the frames read, refused
by tox, written, and lost because no connection was there to take them. Frames that fit
in a packet, as they do with the MTU of the device, are neither changed nor invented nor
doubled, whatever comes in between: other sessions, lost packets, packets that overtake
each other.
-/

namespace LibToxTun

open Foundation

/-! ## What a step hands to a device -/

/-- The frame that a packet handed to a device holds. -/
def Effect.written : Effect → Option (List UInt8)
  | .tunWrite _ _ d => some d.body
  | _ => none

def Effect.Unwritten (e : Effect) : Prop := e.written = none

section
variable {E : Env} (passive : E.Passive)
include passive

theorem preservesErasure_unwritten : E.PreservesErasure (Emits Effect.Unwritten) :=
  preservesErasure_emits (fun e others => by
    cases e with
    | tunWrite f s d => exact (others f s d rfl).elim
    | _ => rfl) fun event fr => by
      rw [passive event fr]
      exact Std.Refl.refl _

/-- Only a packet that arrives as a data packet reaches a device. -/
theorem step_unwritten {core : ToxTunCore} {op : Op}
    (other : ∀ f c d, (step core (E, op)).Dispatches f c d → PacketId.ofByte d.header ≠ .data) :
    (step core (E, op)).effects.filterMap Effect.written = [] := by
  rw [List.filterMap_eq_nil_iff]
  exact step_emits (preservesErasure_unwritten passive) (fun _ _ => rfl) fun f c d dispatches data =>
    absurd data (other f c d dispatches)

/-- The deleted connection of a packet that comes in another state shows no write. -/
theorem killed_unwritten {fr : Frame} (alive : fr.alive = true)
    (registered : fr.world.core.callbackFunction = true) :
    Emits Effect.Unwritten fr.world (fr.killed E).world := by
  have walk := (preservesErasure_unwritten passive).toPreservesDeletion.carries.resetAndDeleteConnection fr
  rwa [resetAndDeleteConnection_eq E alive registered] at walk

omit passive in
theorem written_trace (fr : Frame) (d : Data) : (fr.written d).world.trace.filterMap Effect.written =
    fr.world.trace.filterMap Effect.written ++ [d.body] := by
  unfold Frame.written Frame.touch
  split <;> split <;> simp [Frame.log, World.log, Frame.ticked, World.tick] <;> rfl

/-- A data packet for a connection is handed to its device, once and as it is. -/
theorem receive_written {core : ToxTunCore} (registered : core.callbackFunction = true) {f : UInt32}
    {c : Connection} (found : core.connections f = some c) (frame : List UInt8) :
    (step core (E, .receive f (Data.tunData frame).bytes)).effects.filterMap Effect.written =
      [frame] := by
  let d := Data.tunData frame
  have data : PacketId.ofByte d.header = .data := rfl
  have whole : PacketId.ofByte d.header ≠ .fragment := by simp [data]
  have arrives : c.fragments.arrival d = .packet d 0 c.fragments := Fragments.arrive_whole whole
  have reception : (step core (E, .receive f d.bytes)).reception =
      some (f, c, .packet d 0 c.fragments) := by
    simp only [Transition.reception, step, found, Option.map_some,
      Data.fromToxData_bytes (show d.toxHeaderSet = true from rfl), arrives]
  obtain ⟨-, -, o, ho, outcome⟩ := step_reception reception
  let fr := ((step core (E, .receive f d.bytes)).frame f c).withFragments c.fragments
  have alive : fr.alive = true := rfl
  have handled : handleDataFuel E 1 d fr = .returned () (fr.afterData E d) := by
    simp only [handleDataFuel, Action.noexcept_apply, Action.bind_apply,
      Data.getToxHeader_of_set (show d.toxHeaderSet = true from rfl), Action.ofExcept_ok,
      Outcome.andThen_returned, data, sendToTun_eq E alive registered d, Outcome.guarded_returned]
  have before : (if fr.self.state = .connected then fr else fr.killed E).world.trace.filterMap
      Effect.written = [] := by
    rw [List.filterMap_eq_nil_iff]
    split
    · exact List.forall_mem_nil _
    · exact (killed_unwritten passive alive registered).forall_mem rfl
  rw [effects_of_outcome outcome, ho]
  change ((handleDataFuel E 1 d fr).andThen fun _ =>
    Action.modify fun fr => fr.unwound 0).state.world.trace.filterMap Effect.written = [frame]
  rw [handled]
  exact (written_trace _ d).trans (by rw [before]; rfl)

end

/-! ## What is sent of the frames that were read -/

/-- The frame of a packet that tox was given, and whether it took the packet. -/
structure Offer where
  frame : List UInt8
  status : Bool

def Offer.effect (f : UInt32) (o : Offer) : Effect := .sent f (Data.tunData o.frame) o.status

/-- The frames read fit in a packet. -/
def Env.Fits (E : Env) (reads : List (Option (List UInt8))) : Prop :=
  ∀ frame, some frame ∈ reads → frame.length + 1 ≤ E.maxPacketSize

section
variable {E : Env}

theorem pass_fits {frame : List UInt8} (fits : frame.length + 1 ≤ E.maxPacketSize) {fr : Frame}
    (alive : fr.alive = true) : forwardRead E (.ok (Data.tunData frame)) fr =
      .returned () (fr.sent (Data.tunData frame) (E.sends fr.world.clock)) := by
  have short : (Data.tunData frame).getToxDataLen ≤ E.maxPacketSize := by
    simpa [Data.getToxDataLen, Data.tunData, Data.setToxHeader] using fits
  have lossy : (Data.tunData frame).getSendTox = .ok .lossy := rfl
  simp only [forwardRead, catchToxTunError, Action.noexcept_apply, Action.tryCatch_apply, sendToTox,
    Action.bind_apply, getFriend_apply, getMember_apply, Frame.touch_of_alive alive,
    Outcome.andThen_returned, short, not_true_eq_false, if_false, onWorld, Action.zoom_apply,
    sendToToxIndexed, toxPackets, if_true, sendAll, lossy, Action.ofExcept_ok, toxFriendSend]
  cases E.sends fr.world.clock <;> rfl

/-- Every frame is offered to tox once, whole and in its turn. -/
theorem iterate_offers {fr : Frame} (alive : fr.alive = true) (connected : fr.self.state = .connected)
    {reads : List (Option (List UInt8))} (fits : E.Fits reads) (frames : some [] ∉ reads) :
    ∃ (fr' : Frame) (offers : List Offer), offers.map Offer.frame = reads.reduceOption ∧
      LibToxTun.iterate E (reads.map Data.ofRead) fr = .returned () fr' ∧
      fr'.world.trace = fr.world.trace ++ offers.map (Offer.effect fr.connectedFriend) := by
  induction reads generalizing fr with
  | nil => exact ⟨fr, [], rfl, rfl, by simp⟩
  | cons read reads ih =>
      have later : E.Fits reads := fun frame h => fits frame (List.mem_cons_of_mem _ h)
      obtain ⟨bytes, rest⟩ := List.ne_and_not_mem_of_not_mem_cons frames
      rw [List.map_cons, iterate_cons alive connected]
      cases read with
      | none =>
          obtain ⟨fr', offers, frames, run, trace⟩ := ih alive connected later rest
          exact ⟨fr', offers, by rwa [List.reduceOption_cons_of_none], run, trace⟩
      | some frame =>
          let next := fr.sent (Data.tunData frame) (E.sends fr.world.clock)
          have up : next.self.state = .connected := connected
          have whole : frame ≠ [] := fun empty => bytes (congrArg some empty.symm)
          obtain ⟨fr', offers, frames, run, trace⟩ := ih (show next.alive = true from alive) up later rest
          refine ⟨fr', ⟨frame, E.sends fr.world.clock⟩ :: offers, ?_, ?_, ?_⟩
          · rw [List.map_cons, frames, List.reduceOption_cons_of_some]
          · rw [Data.ofRead, Data.fromTunData_of_ne_nil whole,
              pass_fits (fits frame List.mem_cons_self) alive, Outcome.andThen_returned, run]
          · rw [trace, Frame.sent_trace, List.append_assoc]
            rfl

end

/-! ## The ledger -/

/-- The frame of a packet that tox has refused. -/
def Effect.refused : Effect → Option (List UInt8)
  | .sent _ d false => some d.body
  | _ => none

namespace Net

def framesRead (n : Net) : Move → List (List UInt8)
  | .iterate x reads =>
      match n.connection x with
      | some c => if c.state = .connected then reads.reduceOption else []
      | none => []
  | _ => []

/-- The frames of a lossy packet that comes to an endpoint without a connection. -/
def framesLost (n : Net) : Move → List (List UInt8)
  | .deliverLossy x i =>
      match n.connection x with
      | some _ => []
      | none => ((n.air x.other)[i]?).toList.map Data.body
  | _ => []

end Net

structure Ledger where
  net : Net
  /-- The frames read from the device of an endpoint. -/
  read : Side → List (List UInt8)
  /-- The frames of an endpoint that its tox refused. -/
  refused : Side → List (List UInt8)
  /-- The frames handed to the device of an endpoint. -/
  written : Side → List (List UInt8)
  /-- The frames that found no connection at an endpoint. -/
  lost : Side → List (List UInt8)

namespace Ledger

def start (friend : Side → UInt32) : Ledger where
  net := Net.start friend
  read _ := []
  refused _ := []
  written _ := []
  lost _ := []

/-- A list of an endpoint grows at its end. -/
def enter (list : Side → List (List UInt8)) (x : Side) (frames : List (List UInt8)) :
    Side → List (List UInt8) := Function.update list x (list x ++ frames)

def step (l : Ledger) (input : Env × Move) : Option Ledger :=
  match l.net.transition input, l.net.step input with
  | some (x, _, t), some n => some
      { net := n
        read := enter l.read x (l.net.framesRead input.2)
        refused := enter l.refused x (if t.polls then t.effects.filterMap Effect.refused else [])
        written := enter l.written x (t.effects.filterMap Effect.written)
        lost := enter l.lost x (l.net.framesLost input.2) }
  | _, _ => none

/-- The callbacks do not re-enter the library, and the frames read fit in a packet. -/
def Carries (input : Env × Move) : Prop :=
  input.1.Passive ∧ ∀ x reads, input.2 = .iterate x reads → input.1.Fits reads

/-- The frames in the air from an endpoint. -/
def flying (l : Ledger) (x : Side) : List (List UInt8) := (l.net.air x).map Data.body

/-- What becomes of the frames read at an endpoint. -/
def fates (l : Ledger) (x : Side) : List (List UInt8) :=
  l.refused x ++ l.flying x ++ l.written x.other ++ l.lost x.other

end Ledger

/-! ## The books of a step -/

theorem Data.control_of_isLossless {d : Data} (lossless : d.isLossless = true) :
    d.toxHeaderSet = true ∧ PacketId.ofByte d.header ≠ .data ∧ PacketId.ofByte d.header ≠ .fragment := by
  obtain ⟨header, body, set⟩ := d
  cases set with
  | false => simp [isLossless, getSendTox, getToxHeader, bind, Except.bind] at lossless
  | true =>
      refine ⟨rfl, ?_, ?_⟩
      · intro data
        simp [isLossless, getSendTox, data, PacketId.toByte, bind, Except.bind] at lossless
      · intro fragment
        simp [isLossless, getSendTox, fragment, PacketId.toByte, bind, Except.bind] at lossless

/-- Lossy packets arrive in the order in which they were sent. -/
def Move.InOrder : Move → Prop
  | .deliverLossy _ i => i = 0
  | _ => True

/-- What a move of an endpoint does with frames: those that it reads are refused or sent, in
their order; one in the air from the other endpoint is written or lost. -/
structure Books (n m : Net) (move : Move) (x : Side) (sent : List Data)
    (refused written : List (List UInt8)) : Prop where
  frames : ∀ d ∈ sent.filter Data.isLossy, ∃ frame, d = Data.tunData frame
  outgoing : (n.framesRead move).Perm (refused ++ (sent.filter Data.isLossy).map Data.body)
  ordered : ((sent.filter Data.isLossy).map Data.body).Sublist (n.framesRead move)
  incoming : ∃ before after,
    (n.air x.other).map Data.body = before ++ (written ++ n.framesLost move) ++ after ∧
    (m.air x.other).map Data.body = before ++ after ∧ (move.InOrder → before = [])

section
variable {E : Env}

theorem offer_sent (f : UInt32) (offers : List Offer) :
    (offers.map (Offer.effect f)).filterMap (Effect.packetTo f) =
      (offers.filter Offer.status).map fun o => Data.tunData o.frame := by
  induction offers with
  | nil => rfl
  | cons o offers ih =>
      obtain ⟨frame, status⟩ := o
      rw [List.map_cons]
      cases status with
      | false => exact (List.filterMap_cons_none rfl).trans ih
      | true =>
          have taken : Effect.packetTo f (Offer.effect f ⟨frame, true⟩) =
            some (Data.tunData frame) := if_pos rfl
          rw [List.filterMap_cons_some taken, ih]
          rfl

theorem offer_refused (f : UInt32) (offers : List Offer) :
    (offers.map (Offer.effect f)).filterMap Effect.refused =
      (offers.filter fun o => !o.status).map Offer.frame := by
  induction offers with
  | nil => rfl
  | cons o offers ih =>
      obtain ⟨frame, status⟩ := o
      rw [List.map_cons]
      cases status with
      | false =>
          have refused : Effect.refused (Offer.effect f ⟨frame, false⟩) = some frame := rfl
          rw [List.filterMap_cons_some refused, ih]
          rfl
      | true => exact (List.filterMap_cons_none rfl).trans ih

theorem offer_written (f : UInt32) (offers : List Offer) :
    (offers.map (Offer.effect f)).filterMap Effect.written = [] := by
  simp [List.filterMap_map, Offer.effect, Effect.written, Function.comp_def]

theorem iterate_books {n : Net} {x : Side} {reads : List (Option (List UInt8))} (fits : E.Fits reads)
    (frames : ∀ c, n.connection x = some c → c.state = .connected → some [] ∉ reads) :
    let t := LibToxTun.step (n.core x) (E, (Call.iterate reads).op (n.friend x))
    Books n n (.iterate x reads) x (t.effects.filterMap (Effect.packetTo (n.friend x)))
      (t.effects.filterMap Effect.refused) (t.effects.filterMap Effect.written) := by
  intro t
  have nothing (silent : t.effects = []) (unread : n.framesRead (.iterate x reads) = []) :
      Books n n (.iterate x reads) x (t.effects.filterMap (Effect.packetTo (n.friend x)))
        (t.effects.filterMap Effect.refused) (t.effects.filterMap Effect.written) := by
    rw [silent]
    exact ⟨List.forall_mem_nil _, by rw [unread]; rfl, List.nil_sublist _,
      [], (n.air x.other).map Data.body, rfl, rfl, fun _ => rfl⟩
  cases found : n.connection x with
  | none =>
      refine nothing ?_ (by simp [Net.framesRead, found])
      exact iterate_absent found _
  | some c =>
      have trace : t.effects = _ := iterate_trace found _
      have alive : (Frame.enter (n.friend x) c ⟨n.core x, 0, []⟩).alive = true := rfl
      by_cases connected : c.state = .connected
      · obtain ⟨fr, offers, frames, run, shown⟩ :=
          iterate_offers alive connected fits (frames c found connected)
        rw [run] at trace
        change t.effects = fr.world.trace at trace
        change fr.world.trace = [] ++ offers.map (Offer.effect (n.friend x)) at shown
        have read : n.framesRead (.iterate x reads) = offers.map Offer.frame := by
          simp only [Net.framesRead, found, connected, if_true, frames]
        rw [trace, shown, List.nil_append, offer_sent, offer_refused, offer_written]
        have sent : ((offers.filter Offer.status).map fun o => Data.tunData o.frame).filter
            Data.isLossy = (offers.filter Offer.status).map fun o => Data.tunData o.frame := by
          rw [List.filter_eq_self]
          intro d hd
          obtain ⟨o, -, rfl⟩ := List.mem_map.mp hd
          rfl
        have bodies : ((offers.filter Offer.status).map fun o => Data.tunData o.frame).map
            Data.body = (offers.filter Offer.status).map Offer.frame := by
          rw [List.map_map]
          rfl
        refine ⟨?_, ?_, ?_, [], (n.air x.other).map Data.body, rfl, rfl, fun _ => rfl⟩
        · rw [sent]
          intro d hd
          obtain ⟨o, -, rfl⟩ := List.mem_map.mp hd
          exact ⟨o.frame, rfl⟩
        · rw [sent, bodies, read, ← List.map_append]
          exact ((List.perm_append_comm.trans (List.filter_append_perm Offer.status offers)).map _).symm
        · rw [sent, bodies, read]
          exact List.filter_sublist.map _
      · rw [Polling.iterate_idle alive connected] at trace
        exact nothing trace (by simp [Net.framesRead, found, connected])

end

section
variable {E : Env} (passive : E.Passive)
include passive

theorem own_lossless (core : ToxTunCore) (f : UInt32) {call : Call} (own : ∀ reads, call ≠ .iterate reads) :
    ((LibToxTun.step core (E, call.op f)).effects.filterMap (Effect.packetTo f)).filter Data.isLossy =
      [] := by
  rw [List.filter_eq_nil_iff]
  intro d hd
  rcases step_packets passive core f own with none | ⟨r, reply, same⟩
  · rw [none] at hd
    cases hd
  · have control := (reply_brief own reply).control d (same ▸ hd)
    simp [Data.isLossy, control.lossless]

/-- An endpoint that does not read its device sends no frame. -/
theorem own_books {n m : Net} {move : Move} {x : Side} {call : Call} (own : ∀ reads, call ≠ .iterate reads)
    (unread : n.framesRead move = []) (written : List (List UInt8))
    (incoming : ∃ before after,
      (n.air x.other).map Data.body = before ++ (written ++ n.framesLost move) ++ after ∧
      (m.air x.other).map Data.body = before ++ after ∧ (move.InOrder → before = [])) :
    Books n m move x ((LibToxTun.step (n.core x) (E, call.op (n.friend x))).effects.filterMap
      (Effect.packetTo (n.friend x))) [] written := by
  have none := own_lossless passive (n.core x) (n.friend x) own
  refine ⟨?_, ?_, ?_, incoming⟩
  · rw [none]
    exact List.forall_mem_nil _
  · rw [none, unread]
    rfl
  · rw [none]
    exact List.nil_sublist _

theorem user_unwritten (core : ToxTunCore) (f : UInt32) {call : Call}
    (user : ∀ dataRaw, call ≠ .receive dataRaw) :
    (LibToxTun.step core (E, call.op f)).effects.filterMap Effect.written = [] := by
  refine step_unwritten passive fun g c d ⟨joins, fs, reception⟩ => ?_
  cases call with
  | receive dataRaw => exact (user dataRaw rfl).elim
  | _ => cases reception

theorem lossless_unwritten (core : ToxTunCore) (f : UInt32) {d : Data} (lossless : d.isLossless = true) :
    (LibToxTun.step core (E, .receive f d.bytes)).effects.filterMap Effect.written = [] := by
  obtain ⟨set, other, whole⟩ := d.control_of_isLossless lossless
  refine step_unwritten passive fun g c e ⟨joins, fs, reception⟩ => ?_
  cases found : core.connections f with
  | none => simp [Transition.reception, LibToxTun.step, found] at reception
  | some c' =>
      have arrives : c'.fragments.arrival d = .packet d 0 c'.fragments := Fragments.arrive_whole whole
      simp only [Transition.reception, LibToxTun.step, found, Option.map_some,
        Data.fromToxData_bytes set, arrives, Option.some.injEq, Prod.mk.injEq, Arrival.packet.injEq]
        at reception
      rw [← reception.2.2.1]
      exact other

theorem absent_unwritten {core : ToxTunCore} {f : UInt32} (absent : core.connections f = none)
    (dataRaw : List UInt8) :
    (LibToxTun.step core (E, .receive f dataRaw)).effects.filterMap Effect.written = [] := by
  refine step_unwritten passive fun g c e ⟨joins, fs, reception⟩ => ?_
  simp [Transition.reception, LibToxTun.step, absent] at reception

/-- A frame from the air is written where a connection takes it, and lost elsewhere. -/
theorem lossy_books {n : Net} {x : Side} {i : Nat} {frame : List UInt8}
    (registered : ∀ x, (n.core x).callbackFunction = true)
    (found : (n.air x.other)[i]? = some (Data.tunData frame)) :
    let t := LibToxTun.step (n.core x) (E, .receive (n.friend x) (Data.tunData frame).bytes)
    Books n (n.takeLossy x i) (.deliverLossy x i) x
      (t.effects.filterMap (Effect.packetTo (n.friend x))) [] (t.effects.filterMap Effect.written) := by
  intro t
  have goes : t.effects.filterMap Effect.written ++ n.framesLost (.deliverLossy x i) = [frame] := by
    cases connection : n.connection x with
    | some c =>
        have written := receive_written passive (registered x) connection frame
        rw [written]
        simp [Net.framesLost, connection]
    | none =>
        have unwritten := absent_unwritten passive connection (Data.tunData frame).bytes
        rw [unwritten]
        simp [Net.framesLost, connection, found, Data.tunData, Data.setToxHeader]
  obtain ⟨bound, here⟩ := List.getElem?_eq_some_iff.mp found
  have gone : (n.takeLossy x i).air x.other = (n.air x.other).eraseIdx i := Function.update_self ..
  have own : ∀ reads, Call.receive (Data.tunData frame).bytes ≠ .iterate reads := fun _ => by simp
  refine own_books passive own rfl _
    ⟨((n.air x.other).take i).map Data.body, ((n.air x.other).drop (i + 1)).map Data.body, ?_, ?_, ?_⟩
  · rw [goes, show [frame] = [Data.tunData frame].map Data.body from rfl, ← List.map_append,
      ← List.map_append, List.append_assoc, List.singleton_append, ← here, List.getElem_cons_drop,
      List.take_append_drop]
  · rw [gone, List.eraseIdx_eq_take_drop_succ, List.map_append]
  · rintro rfl
    rfl

theorem turn_books {n m : Net} {move : Move} {x : Side} {call : Call} {table : ToxTunCore}
    (turn : n.turn move = some (x, call, m)) (fits : ∀ x reads, move = .iterate x reads → E.Fits reads)
    (registered : ∀ x, (n.core x).callbackFunction = true)
    (letters : ∀ x, ∀ p ∈ n.wire x, p.data.isLossless = true)
    (frames : ∀ x, ∀ d ∈ n.air x, ∃ frame, d = Data.tunData frame)
    (after : (LibToxTun.step (n.core x) (E, call.op (n.friend x))).after = some table) :
    let t := LibToxTun.step (n.core x) (E, call.op (n.friend x))
    Books n m move x (t.effects.filterMap (Effect.packetTo (n.friend x)))
      (if t.polls then t.effects.filterMap Effect.refused else [])
      (t.effects.filterMap Effect.written) := by
  -- what leaves the air alone and writes nothing keeps the books
  have still {call : Call} (own : ∀ reads, call ≠ .iterate reads) (unread : n.framesRead move = [])
      (kept : n.framesLost move = []) (same : m.air = n.air)
      (unwritten : (LibToxTun.step (n.core x) (E, call.op (n.friend x))).effects.filterMap
        Effect.written = []) :
      Books n m move x ((LibToxTun.step (n.core x) (E, call.op (n.friend x))).effects.filterMap
        (Effect.packetTo (n.friend x))) []
        ((LibToxTun.step (n.core x) (E, call.op (n.friend x))).effects.filterMap Effect.written) := by
    rw [unwritten]
    exact own_books passive own unread [] ⟨[], _, by rw [kept]; rfl, by rw [same]; rfl, fun _ => rfl⟩
  cases move with
  | iterate y reads =>
      cases turn
      refine iterate_books (fits x reads rfl) fun c found connected => ?_
      obtain ⟨r, reply, -⟩ := iterate_replied after
      rcases Env.reply_iterate reply with ⟨absent, -⟩ | ⟨c', entry, down, -⟩ | ⟨-, -, -, whole, -⟩
      · cases absent.symm.trans found
      · cases entry.symm.trans found
        exact (down connected).elim
      · exact whole
  | sendConnectionRequest y | acceptConnection y | rejectConnection y | closeConnection y =>
      cases turn
      exact still (fun _ => by simp) rfl rfl rfl
        (user_unwritten passive _ _ fun _ => by simp)
  | deliver y =>
      simp only [Net.turn] at turn
      split at turn
      · cases turn
      · next p rest wire =>
          cases turn
          have lossless := letters x.other p (by rw [wire]; exact List.mem_cons_self)
          have own : ∀ reads, Call.receive p.data.bytes ≠ .iterate reads := fun _ => by simp
          exact still own rfl rfl rfl (lossless_unwritten passive _ _ lossless)
  | deliverLossy y i =>
      simp only [Net.turn] at turn
      split at turn
      · cases turn
      · next d found =>
          cases turn
          obtain ⟨frame, rfl⟩ := frames x.other d (List.mem_of_getElem? found)
          exact lossy_books passive registered found

end

/-! ## Runs -/

namespace Ledger

/-- What is known of the cores and the packets on their way. -/
structure Sound (l : Ledger) : Prop where
  registered : ∀ x, (l.net.core x).callbackFunction = true
  letters : ∀ x, ∀ p ∈ l.net.wire x, p.data.isLossless = true
  frames : ∀ x, ∀ d ∈ l.net.air x, ∃ frame, d = Data.tunData frame

theorem sound_start (friend : Side → UInt32) : (start friend).Sound :=
  ⟨fun _ => rfl, fun _ => List.forall_mem_nil _, fun _ => List.forall_mem_nil _⟩

/-- What a step enters in the ledger. -/
structure Enters (l : Ledger) (move : Move) (x : Side) (l' : Ledger) : Prop where
  books : ∃ m sent refused written, Books l.net m move x sent refused written ∧ m.air x = l.net.air x ∧
    l'.net.air = Function.update m.air x (m.air x ++ sent.filter Data.isLossy) ∧
    l'.refused = enter l.refused x refused ∧ l'.written = enter l.written x written
  read : l'.read = enter l.read x (l.net.framesRead move)
  lost : l'.lost = enter l.lost x (l.net.framesLost move)

end Ledger

theorem Net.turn_takes {n m : Net} {move : Move} {x : Side} {call : Call}
    (turn : n.turn move = some (x, call, m)) :
    m.air x = n.air x ∧ ∀ y, m.air y ⊆ n.air y ∧ m.wire y ⊆ n.wire y := by
  cases move with
  | deliver y =>
      simp only [Net.turn] at turn
      split at turn
      · cases turn
      · next p rest wire =>
          cases turn
          refine ⟨rfl, fun y => ⟨List.Subset.refl _, ?_⟩⟩
          rcases Side.eq_or_other x y with rfl | rfl
          · simp [Net.take]
          · simp [Net.take, wire]
  | deliverLossy y i =>
      simp only [Net.turn] at turn
      split at turn
      · cases turn
      · cases turn
        refine ⟨by simp [Net.takeLossy], fun y => ⟨?_, List.Subset.refl _⟩⟩
        rcases Side.eq_or_other x y with rfl | rfl
        · simp [Net.takeLossy]
        · simpa [Net.takeLossy] using List.eraseIdx_subset
  | _ =>
      cases turn
      exact ⟨rfl, fun y => ⟨List.Subset.refl _, List.Subset.refl _⟩⟩

namespace Ledger

theorem step_sound {l l' : Ledger} (sound : l.Sound) {input : Env × Move} (ok : Carries input)
    (taken : l.step input = some l') : l'.Sound ∧ ∃ x, l.Enters input.2 x l' := by
  obtain ⟨E, move⟩ := input
  obtain ⟨passive, fits⟩ := ok
  cases turn : l.net.turn move with
  | none => simp [step, Net.transition, turn] at taken
  | some next =>
      obtain ⟨x, call, m⟩ := next
      obtain ⟨core, friend⟩ := Net.turn_core turn
      obtain ⟨aside, within⟩ := Net.turn_takes turn
      have transition : l.net.transition (E, move) =
          some (x, m, LibToxTun.step (l.net.core x) (E, call.op (l.net.friend x))) := by
        simp [Net.transition, turn, core, friend]
      cases stepped : l.net.step (E, move) with
      | none => simp [step, stepped] at taken
      | some n =>
          simp only [step, transition, stepped, Option.some.injEq] at taken
          subst taken
          obtain ⟨x', call', m', r, turn', -, answer⟩ := Net.step_answer passive sound.registered stepped
          cases turn.symm.trans turn'
          simp only [Net.step, transition, Option.map_eq_some_iff] at stepped
          obtain ⟨table, after, stepped⟩ := stepped
          have books := turn_books passive turn fits sound.registered sound.letters sound.frames after
          have air : n.air = Function.update m.air x (m.air x ++ ((LibToxTun.step (l.net.core x)
              (E, call.op (l.net.friend x))).effects.filterMap
                (Effect.packetTo (l.net.friend x))).filter Data.isLossy) := by
            rw [← stepped, friend]
            rfl
          refine ⟨⟨fun y => ?_, fun y p hp => ?_, fun y d hd => ?_⟩, x,
            ⟨m, _, _, _, books, aside, air, rfl, rfl⟩, rfl, rfl⟩
          · change (n.core y).callbackFunction = true
            rw [answer]
            rcases Side.eq_or_other x y with rfl | rfl
            · simp [Net.answer, Net.advance, core, sound.registered]
            · simp [Net.answer, Net.advance, core, sound.registered]
          · change p ∈ n.wire y at hp
            rw [← stepped] at hp
            rcases Side.eq_or_other x y with rfl | rfl
            · simp only [Net.advance, Function.update_self, List.mem_append, List.mem_map,
                List.mem_filter] at hp
              rcases hp with waiting | ⟨d, ⟨-, lossless⟩, rfl⟩
              · exact sound.letters _ p ((within _).2 waiting)
              · exact lossless
            · simp only [Net.advance, Function.update_of_ne (Side.other_ne x)] at hp
              exact sound.letters _ p ((within _).2 hp)
          · change d ∈ n.air y at hd
            rw [air] at hd
            rcases Side.eq_or_other x y with rfl | rfl
            · rw [Function.update_self, List.mem_append] at hd
              rcases hd with waiting | sent
              · exact sound.frames _ d ((within _).1 waiting)
              · exact books.frames d sent
            · rw [Function.update_of_ne (Side.other_ne x)] at hd
              exact sound.frames _ d ((within _).1 hd)

@[simp] theorem enter_self (list : Side → List (List UInt8)) (x : Side) (frames : List (List UInt8)) :
    enter list x frames x = list x ++ frames := Function.update_self ..

@[simp] theorem enter_other (list : Side → List (List UInt8)) (x : Side) (frames : List (List UInt8)) :
    enter list x frames x.other = list x.other := Function.update_of_ne (Side.other_ne x) ..

/-- Every frame read has one fate. -/
def Balanced (l : Ledger) : Prop := ∀ x, (l.read x).Perm (l.fates x)

/-- What is written or still in the air is a part of what was read, in its order. -/
def Ordered (l : Ledger) : Prop := ∀ x, (l.written x.other ++ l.flying x).Sublist (l.read x)

variable {l l' : Ledger} {move : Move} {x : Side}

theorem Enters.balanced (enters : l.Enters move x l') (balanced : l.Balanced) : l'.Balanced := by
  obtain ⟨⟨m, sent, refused, written, books, aside, air, hrefused, hwritten⟩, hread, hlost⟩ := enters
  obtain ⟨before, after, there, here, -⟩ := books.incoming
  intro y
  rw [List.perm_iff_count]
  intro frame
  have old := (balanced y).count_eq frame
  rcases Side.eq_or_other x y with rfl | rfl
  · have out := books.outgoing.count_eq frame
    simp only [fates, flying, air, hread, hrefused, hwritten, hlost, enter_self, enter_other,
      Function.update_self, aside, List.map_append, List.count_append] at old out ⊢
    omega
  · simp only [fates, flying, air, hread, hrefused, hwritten, hlost, enter_self, enter_other,
      Function.update_of_ne (Side.other_ne _), Side.other_other, there, here, List.count_append] at old ⊢
    omega

theorem Enters.ordered (enters : l.Enters move x l') (inOrder : move.InOrder) (ordered : l.Ordered) :
    l'.Ordered := by
  obtain ⟨⟨m, sent, refused, written, books, aside, air, hrefused, hwritten⟩, hread, hlost⟩ := enters
  obtain ⟨before, after, there, here, first⟩ := books.incoming
  cases first inOrder
  intro y
  have old := ordered y
  rcases Side.eq_or_other x y with rfl | rfl
  · simp only [flying, air, hread, hwritten, enter_self, enter_other, Function.update_self, aside,
      List.map_append] at old ⊢
    rw [← List.append_assoc]
    exact old.append books.ordered
  · simp only [flying, air, hread, hwritten, enter_self, enter_other,
      Function.update_of_ne (Side.other_ne _), Side.other_other, there, here, List.nil_append,
      List.append_assoc] at old ⊢
    refine List.Sublist.trans ?_ old
    exact ((List.sublist_append_right _ _).append_left _).append_left _

end Ledger

/-- Whatever happens, frames that fit in a packet are neither invented nor changed nor doubled:
what was read at an endpoint is what tox refused, what is in the air, what was written at the
other endpoint and what found no connection there, frame by frame. -/
theorem tunnel_conserves {friend : Side → UInt32} {l : Ledger}
    (reached : Reach Ledger.step (fun _ => Ledger.Carries) (Ledger.start friend) l) (x : Side) :
    (l.read x).Perm (l.refused x ++ l.flying x ++ l.written x.other ++ l.lost x.other) ∧
      (l.written x.other).Subperm (l.read x) := by
  have invariant : l.Sound ∧ l.Balanced :=
    Reach.invariant (I := fun l => l.Sound ∧ l.Balanced) reached
      ⟨Ledger.sound_start friend, fun _ => List.Perm.refl []⟩
      fun _ _ _ ⟨sound, balanced⟩ ok taken => by
        obtain ⟨sound', x, enters⟩ := Ledger.step_sound sound ok taken
        exact ⟨sound', enters.balanced balanced⟩
  have balance := invariant.2 x
  refine ⟨balance, List.Subperm.trans ?_ balance.symm.subperm⟩
  have part : (l.written x.other).Sublist (l.fates x) := by
    rw [Ledger.fates, List.append_assoc]
    exact (List.sublist_append_left _ _).trans (List.sublist_append_right _ _)
  exact part.subperm

/-- The endpoints connect. -/
def Ledger.handshake (E : Env) : List (Env × Move) :=
  [(E, .sendConnectionRequest .a), (E, .deliver .b), (E, .acceptConnection .b), (E, .deliver .a),
    (E, .deliver .b), (E, .deliver .a)]

/-- Of three frames tox takes two; the second one overtakes the first, which comes after the
connection was closed. -/
theorem tunnel_conserves_closed : ∃ l : Ledger,
    (l.read .a = [[1], [2], [3]] ∧ l.refused .a = [[3]] ∧ l.written .b = [[2]] ∧ l.lost .b = [[1]]) ∧
    (l.read .a).Perm (l.refused .a ++ l.flying .a ++ l.written .b ++ l.lost .b) ∧
    (l.written .b).Subperm (l.read .a) := by
  let E := Env.obliging fun _ => some []
  let busy : Env := { E with sends := fun clock => decide (clock < 2) }
  let inputs := Ledger.handshake E ++ [(busy, .iterate .a [some [1], none, some [2], some [3]]),
    (E, .deliverLossy .b 1), (E, .closeConnection .a), (E, .deliver .b), (E, .deliverLossy .b 0)]
  obtain ⟨l, taken, history⟩ := exists_run Ledger.step (Ledger.start fun _ => 7) inputs
    (P := fun l => l.read .a = [[1], [2], [3]] ∧ l.refused .a = [[3]] ∧ l.written .b = [[2]] ∧
      l.lost .b = [[1]]) (by decide +kernel)
  have carried : ∀ input ∈ inputs, Ledger.Carries input := by
    simp [inputs, Ledger.handshake, Ledger.Carries, Env.Fits, Env.Passive, E, busy, Env.obliging]
  exact ⟨l, history, tunnel_conserves (Reach.of_run taken carried) .a⟩

/-- Where lossy packets do not overtake each other, frames are written in the order in which
they were read, and without a gap where none is refused or lost. -/
theorem tunnel_orders {friend : Side → UInt32} {l : Ledger}
    (reached : Reach Ledger.step (fun _ input => Ledger.Carries input ∧ input.2.InOrder)
      (Ledger.start friend) l) (x : Side) :
    (l.written x.other ++ l.flying x).Sublist (l.read x) ∧
      (l.refused x = [] → l.lost x.other = [] → l.written x.other ++ l.flying x = l.read x) := by
  have invariant : l.Sound ∧ l.Balanced ∧ l.Ordered :=
    Reach.invariant (I := fun l => l.Sound ∧ l.Balanced ∧ l.Ordered) reached
      ⟨Ledger.sound_start friend, fun _ => List.Perm.refl [], fun _ => List.Sublist.refl []⟩
      fun _ _ _ ⟨sound, balanced, ordered⟩ ok taken => by
        obtain ⟨sound', x, enters⟩ := Ledger.step_sound sound ok.1 taken
        exact ⟨sound', enters.balanced balanced, enters.ordered ok.2 ordered⟩
  obtain ⟨-, balanced, ordered⟩ := invariant
  refine ⟨ordered x, fun refused lost => (ordered x).eq_of_length ?_⟩
  have length := (balanced x).length_eq
  simp only [Ledger.fates, refused, lost, List.length_append, List.length_nil] at length ⊢
  omega

theorem tunnel_orders_half : ∃ l : Ledger, (l.written .b = [[1]] ∧ l.flying .a = [[2]]) ∧
    (l.written .b ++ l.flying .a).Sublist (l.read .a) ∧
      (l.refused .a = [] → l.lost .b = [] → l.written .b ++ l.flying .a = l.read .a) := by
  let E := Env.obliging fun _ => some []
  let inputs := Ledger.handshake E ++ [(E, .iterate .a [some [1], some [2]]), (E, .deliverLossy .b 0)]
  obtain ⟨l, taken, history⟩ := exists_run Ledger.step (Ledger.start fun _ => 7) inputs
    (P := fun l => l.written .b = [[1]] ∧ l.flying .a = [[2]]) (by decide +kernel)
  have carried : ∀ input ∈ inputs, Ledger.Carries input ∧ input.2.InOrder := by
    simp [inputs, Ledger.handshake, Ledger.Carries, Env.Fits, Env.Passive, E, Env.obliging, Move.InOrder]
  exact ⟨l, history, tunnel_orders (Reach.of_run taken carried) .a⟩

end LibToxTun
