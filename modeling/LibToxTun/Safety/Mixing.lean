import LibToxTun.Core.Endpoint
import LibToxTun.Foundation.Run

/-! # Reassembly of what a peer split

A connection numbers the packets it splits with a byte that wraps around, and a set
of fragments that stays incomplete is dropped only when a set half a cycle away is
completed. A fragment can therefore meet the rest of a packet that was split 256
packets before it. As long as that does not happen, every packet that is
reassembled is one of those that were split, whichever fragments are lost.
-/

namespace LibToxTun

open Foundation

/-! ## The sender -/

/-- A fragment on its way, with the packet it was cut from and the index of the split. -/
structure Sent where
  packet : Data
  index : UInt8
  fragment : Data
deriving DecidableEq

/-- The wrapping count of `nextFragmentIndex`. -/
def nextSplit (index : UInt8) : UInt8 := if index = 255 then 0 else index + 1

namespace Env

variable (E : Env)

def fragmentsOf (d : Data) (index : UInt8) : List Sent :=
  (toxPackets E d index).map fun p => ⟨d, index, p⟩

/-- The fragments of packets that one connection splits, in the order they are sent. -/
def fragmentsSent : UInt8 → List Data → List Sent
  | _, [] => []
  | index, d :: rest => E.fragmentsOf d index ++ fragmentsSent (nextSplit index) rest

/-- The packet is too long for tox, and its fragments can be counted in a byte. -/
structure Splits (d : Data) : Prop where
  oversized : E.maxPacketSize < d.getToxDataLen
  few : (d.getSplitted E.maxPacketSize 0).length ≤ 255

variable {E}

/-- Of these fragments a connection sends what tox takes. -/
theorem forward_fragmentsSent {buffers : List (List UInt8)}
    (oversized : ∀ b ∈ buffers, E.maxPacketSize < (Data.tunData b).getToxDataLen)
    (clock : Nat) (c : Connection) : (E.forward clock c (buffers.map some)).2.Sublist
      ((E.fragmentsSent c.nextFragmentIndex (buffers.map Data.tunData)).map Sent.fragment) := by
  induction buffers generalizing clock c with
  | nil => exact List.Sublist.refl _
  | cons b rest ih =>
      have long := Nat.not_le.mpr (oversized b List.mem_cons_self)
      have later := fun clock => ih (fun b hb => oversized b (List.mem_cons_of_mem _ hb)) clock
        { c with nextFragmentIndex := nextSplit c.nextFragmentIndex }
      have sent := E.sendList_sublist clock (toxPackets E (Data.tunData b) c.nextFragmentIndex)
      simp only [List.map_cons, forward, if_neg long, fragmentsSent, fragmentsOf, List.map_append,
        List.map_map]
      refine List.Sublist.append (sent.trans ?_) (later _)
      exact (List.map_id _).symm ▸ List.Sublist.refl _

theorem mem_fragmentsSent {index : UInt8} {packets : List Data} {s : Sent}
    (h : s ∈ E.fragmentsSent index packets) :
    s.packet ∈ packets ∧ s.fragment ∈ toxPackets E s.packet s.index := by
  induction packets generalizing index with
  | nil => cases h
  | cons d rest ih =>
      rcases List.mem_append.mp h with here | later
      · obtain ⟨p, hp, rfl⟩ := List.mem_map.mp here
        exact ⟨List.mem_cons_self, hp⟩
      · exact ⟨List.mem_cons_of_mem _ (ih later).1, (ih later).2⟩

theorem fragmentsSent_append (index : UInt8) (packets rest : List Data) :
    E.fragmentsSent index (packets ++ rest) = E.fragmentsSent index packets ++
      E.fragmentsSent (nextSplit^[packets.length] index) rest := by
  induction packets generalizing index with
  | nil => rfl
  | cons d packets ih =>
      rw [List.cons_append, fragmentsSent, ih, fragmentsSent, List.append_assoc, List.length_cons,
        Function.iterate_succ_apply]

end Env

/-! ## The receiver -/

/-- A fragment arrives from a friend. -/
def arrives (f : UInt32) (core : ToxTunCore) (input : Env × Sent) : Transition :=
  step core (input.1, .receive f input.2.fragment.bytes)

def deliver (f : UInt32) (core : ToxTunCore) (input : Env × Sent) : Option ToxTunCore :=
  (arrives f core input).after

/-- What was sent of the same packet before a fragment. -/
def Sent.earlier (sender : Env) (s : Sent) : List Data :=
  (toxPackets sender s.packet s.index).takeWhile fun p => p ≠ s.fragment

/-- The set that a fragment is added to holds fragments of the same packet only, all of
them sent before it. -/
def unmixed (sender : Env) (f : UInt32) (core : ToxTunCore) (s : Sent) : Bool :=
  match core.connections f with
  | some c => (c.fragments s.index).all fun g => g.data ∈ s.earlier sender
  | none => true

/-- No reassembly fails, and what is reassembled is a packet that was split. -/
structure Transition.Reassembles (packets : List Data) (t : Transition) : Prop where
  finishes : t.after ≠ none
  reassembled : ∀ f c d joins fs, t.reception = some (f, c, .packet d joins fs) →
    d ∈ packets ∧ joins = 1
  written : ∀ f s d, .tunWrite f s d ∈ t.effects → d ∈ packets

/-! ## The store -/

/-- The newest fragment of a set comes first and has the lowest index byte. -/
def Fragments.Ordered (fs : Fragments) : Prop :=
  ∀ key, (fs key).Pairwise fun f g => f.index < g.index

namespace Fragments

theorem Ordered.push {fs : Fragments} (h : fs.Ordered) {f : Fragment}
    (lowest : ∀ g ∈ fs f.setIndex, f.index < g.index) : (fs.push f).Ordered := by
  intro key
  by_cases own : key = f.setIndex
  · rw [own, push_self]
    exact List.pairwise_cons.mpr ⟨lowest, h _⟩
  · rw [Fragments.push, Function.update_of_ne own]
    exact h key

theorem Ordered.joinedAt {fs : Fragments} (h : fs.Ordered) (f : Fragment) :
    ((fs.push f).joinedAt f.setIndex).Ordered := by
  intro key
  rcases joinedAt_push fs f key with empty | same
  · rw [empty]
    exact .nil
  · rw [same]
    exact h key

end Fragments

theorem rel_of_mem_takeWhile {α : Type} [DecidableEq α] {R : α → α → Prop} {l : List α}
    (related : l.Pairwise R) {x y : α} (mem : y ∈ l) (before : x ∈ l.takeWhile fun z => z ≠ y) :
    R x y := by
  induction l with
  | nil => cases mem
  | cons z rest ih =>
      obtain ⟨first, related⟩ := List.pairwise_cons.mp related
      by_cases same : z = y
      · simp [same] at before
      · have later : y ∈ rest := (List.mem_cons.mp mem).resolve_left (Ne.symm same)
        rw [List.takeWhile_cons_of_pos (by simpa using same)] at before
        rcases List.mem_cons.mp before with rfl | before
        · exact first y later
        · exact ih related later before

section
variable {sender : Env} {s : Sent} (splits : sender.Splits s.packet)
  (cut : s.fragment ∈ toxPackets sender s.packet s.index)
include splits

theorem Env.Splits.pieces : (s.packet.splitPieces sender.maxPacketSize).length ≤ 255 := by
  have few := splits.few
  rwa [Data.getSplitted_eq, List.length_reverse, List.length_map, Data.split_length] at few

theorem Env.Splits.toxPackets_eq : toxPackets sender s.packet s.index =
    ((s.packet.split sender.maxPacketSize s.index).map Fragment.data).reverse := by
  rw [toxPackets, if_neg (Nat.not_le.mpr splits.oversized), Data.getSplitted_eq]

include cut

/-- The fragment that arrives, and what the set it is added to may hold. -/
theorem Env.Splits.fragment : ∃ f ∈ s.packet.split sender.maxPacketSize s.index,
    f.data = s.fragment ∧ f.setIndex = s.index ∧ ∀ g : Fragment, g.data ∈ s.earlier sender →
      g ∈ s.packet.split sender.maxPacketSize s.index ∧ f.index < g.index := by
  have mem {p : Data} (hp : p ∈ toxPackets sender s.packet s.index) :
      ∃ g ∈ s.packet.split sender.maxPacketSize s.index, g.data = p := by
    rw [splits.toxPackets_eq] at hp
    simpa using hp
  obtain ⟨f, hf, data⟩ := mem cut
  refine ⟨f, hf, data, (s.packet.mem_split _ _ hf).1, fun g earlier => ⟨?_, ?_⟩⟩
  · obtain ⟨g', hg', same⟩ := mem (List.takeWhile_subset _ earlier)
    cases g
    cases g'
    cases same
    exact hg'
  · have falling : (toxPackets sender s.packet s.index).Pairwise
        fun p q => q.fragmentIndex < p.fragmentIndex := by
      rw [splits.toxPackets_eq, List.pairwise_reverse, List.pairwise_map]
      exact s.packet.split_pairwise _ _ splits.pieces
    have less := rel_of_mem_takeWhile falling cut earlier
    rw [← data] at less
    exact less

end

/-! ## One arrival -/

/-- No packet but the given one is handed to a device. -/
def Effect.writesOnly (d : Data) : Effect → Prop
  | .tunWrite _ _ d' => d' = d
  | _ => True

namespace Frame

section
variable {E : Env} (passive : E.Passive) (fr : Frame) (d : Data)

theorem written_emits : Emits (Effect.writesOnly d) fr.world (fr.written d).world := by
  have touched : Emits (Effect.writesOnly d) fr.world (fr.touch .tun).world :=
    Emits.touch (Std.Refl.refl _) .tun trivial
  have write := touched.log (e := .tunWrite fr.connectedFriend fr.self.state d) rfl
  rw [Frame.written]
  split
  · exact write
  · exact IsTrans.trans (r := Emits _) _ _ _ write (.of_trace_eq rfl)

include passive

theorem killed_emits : Emits (Effect.writesOnly d) fr.world (fr.killed E).world := by
  have reset : Emits (Effect.writesOnly d) fr.world
      (fr.sent (Data.fromPacketId .connectionReset) (E.sends fr.world.clock)).world :=
    IsTrans.trans (r := Emits _) _ _ _
      (Emits.log (Std.Refl.refl fr.world) (e := .sent fr.connectedFriend _ _) trivial)
      (.of_trace_eq rfl)
  rw [Frame.killed, Frame.raise, passive]
  exact IsTrans.trans (r := Emits _) _ _ _
    (reset.log (e := .raised .connectionClosed fr.connectedFriend) trivial)
    (buried_emits _ (fun _ _ => trivial) (fun _ => trivial) fun _ => trivial)

theorem afterData_emits : Emits (Effect.writesOnly d) fr.world (fr.afterData E d).world := by
  rw [Frame.afterData]
  split
  · exact written_emits fr d
  · exact IsTrans.trans (r := Emits _) _ _ _ (killed_emits passive fr d) (written_emits _ d)

end

end Frame

/-- A fragment that completes its set is followed by the dispatch of the packet. -/
theorem Fragments.arrival_joined {fs : Fragments} {f : Fragment}
    (complete : (f :: fs f.setIndex).length = f.count.toNat)
    (wellFormed : WellFormedSet (f :: fs f.setIndex))
    (whole : PacketId.ofByte (joined (f :: fs f.setIndex)).header ≠ .fragment) :
    fs.arrival f.data =
      .packet (joined (f :: fs f.setIndex)) 1 ((fs.push f).joinedAt f.setIndex) := by
  have rounds : (fs.storedBytes + f.data.size) / 4 =
      (fs.storedBytes + f.data.size) / 4 - 1 + 1 := by
    have := f.size_eq
    omega
  rw [Fragments.arrival, Fragments.fuel, arrive_joined complete wellFormed, rounds]
  exact congrArg Arrival.deeper (arrive_whole whole)

theorem Fragments.arrival_stored {fs : Fragments} {f : Fragment}
    (incomplete : (f :: fs f.setIndex).length ≠ f.count.toNat) :
    fs.arrival f.data = .kept (fs.push f) :=
  arrive_stored incomplete

/-- A core that takes fragments of a friend. -/
structure Receiving (f : UInt32) (core : ToxTunCore) : Prop where
  registered : core.callbackFunction = true
  ordered : ∀ c, core.connections f = some c → c.fragments.Ordered

theorem Receiving.put {f : UInt32} {core : ToxTunCore} (h : Receiving f core)
    {c : Option Connection} (ordered : ∀ c' ∈ c, c'.fragments.Ordered) :
    Receiving f (core.put f c) :=
  ⟨h.registered, fun c' found => ordered c' (by rwa [ToxTunCore.put_self] at found)⟩

/-- What an arriving fragment leads to. -/
structure Taken (f : UInt32) (packets : List Data) (t : Transition) : Prop where
  after : ∃ c, t.after = some (t.before.put f c) ∧ ∀ c' ∈ c, c'.fragments.Ordered
  reassembled : ∀ g c d joins fs, t.reception = some (g, c, .packet d joins fs) →
    d ∈ packets ∧ joins = 1
  written : ∀ g s d, .tunWrite g s d ∈ t.effects → d ∈ packets

section
variable {E : Env} {f : UInt32} {core : ToxTunCore} {g : Fragment} {packets : List Data}

theorem arrives_absent (absent : core.connections f = none) :
    Taken f packets (step core (E, .receive f g.data.bytes)) := by
  have received := Data.fromToxData_bytes g.toxHeaderSet
  have outcome : (step core (E, .receive f g.data.bytes)).outcome = .returned ()
      ((World.mk core 0 []).log (.sent f (Data.fromPacketId .connectionReset) (E.sends 0))).tick := by
    simp only [step, exec, ToxTunCore.toxPacketCallback, ToxTunCore.handleData, received,
      Action.noexcept_apply, Action.bind_apply, ToxTunCore.connection, Action.read_apply,
      Outcome.andThen_returned, absent, Data.getToxHeader_of_set g.toxHeaderSet,
      Action.ofExcept_ok, g.ofByte_header, resetFriend_eq, Outcome.guarded_returned]
  refine ⟨⟨none, ?_, by simp⟩, ?_, ?_⟩
  · rw [Transition.after, outcome]
    exact congrArg some (ToxTunCore.put_eq_self absent).symm
  · simp [Transition.reception, step, absent]
  · simp [Transition.effects, outcome, World.log, World.tick]

variable {c : Connection} (found : core.connections f = some c)
include found

theorem reception_fragment : (step core (E, .receive f g.data.bytes)).reception =
    some (f, c, c.fragments.arrival g.data) := by
  simp [Transition.reception, step, found, Data.fromToxData_bytes g.toxHeaderSet]

theorem arrives_stored (ordered : (c.fragments.push g).Ordered)
    (incomplete : (g :: c.fragments g.setIndex).length ≠ g.count.toNat) :
    Taken f packets (step core (E, .receive f g.data.bytes)) := by
  have reception := reception_fragment (E := E) (g := g) found
  rw [Fragments.arrival_stored incomplete] at reception
  obtain ⟨-, -, o, rfl, outcome⟩ := step_reception reception
  refine ⟨⟨some { c with fragments := c.fragments.push g }, ?_, by simpa using ordered⟩, ?_, ?_⟩
  · rw [Transition.after, outcome]
    rfl
  · simp [reception]
  · rw [effects_of_outcome outcome]
    simp [Frame.withFragments, Transition.frame, Frame.enter]

theorem arrives_joined (receiving : Receiving f core) (passive : E.Passive)
    (complete : (g :: c.fragments g.setIndex).length = g.count.toNat)
    (wellFormed : WellFormedSet (g :: c.fragments g.setIndex))
    (data : (joined (g :: c.fragments g.setIndex)).header = 200)
    (split : joined (g :: c.fragments g.setIndex) ∈ packets) :
    Taken f packets (step core (E, .receive f g.data.bytes)) := by
  have header : PacketId.ofByte (joined (g :: c.fragments g.setIndex)).header = .data := by
    rw [data]
    rfl
  have whole : PacketId.ofByte (joined (g :: c.fragments g.setIndex)).header ≠ .fragment := by
    simp [header]
  have arrival := Fragments.arrival_joined complete wellFormed whole
  have reception := reception_fragment (E := E) (g := g) found
  have answers := receive_answers passive receiving.registered (f := f) g.data.bytes
  rw [arrival] at reception
  simp only [found, Data.fromToxData_bytes g.toxHeaderSet, Env.receive, arrival, Env.respond,
    header] at answers
  refine ⟨⟨_, answers.after, ?_⟩, ?_, ?_⟩
  · have ordered := (receiving.ordered c found).joinedAt g
    split
    · simpa [Reply.kept] using ordered
    · simp [Env.killedAt]
  · simp only [reception, Option.some.injEq, Prod.mk.injEq, Arrival.packet.injEq]
    rintro _ _ _ _ _ ⟨-, -, rfl, rfl, -⟩
    exact ⟨split, rfl⟩
  · obtain ⟨-, -, o, ho, outcome⟩ := step_reception reception
    let d := joined (g :: c.fragments g.setIndex)
    let fr := ((step core (E, .receive f g.data.bytes)).frame f c).withFragments
      ((c.fragments.push g).joinedAt g.setIndex)
    have dispatch : handleDataFuel E 1 d fr = .returned () (fr.afterData E d) := by
      rw [handleDataFuel_eq E rfl receiving.registered passive.keepsCallback
        (joined_toxHeaderSet _) whole, Frame.handled, header]
    have emits : Emits (Effect.writesOnly d) fr.world ((fr.afterData E d).unwound 1).world :=
      IsTrans.trans (r := Emits _) _ _ _ (Frame.afterData_emits passive fr d)
        (unwound_emits (fun _ _ => trivial) _ 1)
    have final : o = .returned () ((fr.afterData E d).unwound 1) := by
      rw [ho]
      exact congrArg (fun o => o.andThen fun _ => Action.modify fun fr => fr.unwound 1) dispatch
    rw [effects_of_outcome outcome, final]
    intro h s d' write
    exact emits.forall_mem rfl _ write ▸ split

end

/-! ## Runs -/

section
variable {sender : Env} {buffers : List (List UInt8)}
  (splits : ∀ b ∈ buffers, sender.Splits (Data.tunData b)) {f : UInt32}
include splits

theorem arrives_unmixed {E : Env} (passive : E.Passive) {index : UInt8} {s : Sent}
    (sent : s ∈ sender.fragmentsSent index (buffers.map Data.tunData)) {core : ToxTunCore}
    (receiving : Receiving f core) (apart : unmixed sender f core s = true) :
    Taken f (buffers.map Data.tunData) (arrives f core (E, s)) := by
  obtain ⟨packet, cut⟩ := Env.mem_fragmentsSent sent
  obtain ⟨b, hb, frame⟩ := List.mem_map.mp packet
  have split : sender.Splits s.packet := frame ▸ splits b hb
  obtain ⟨g, hg, data, key, earlier⟩ := split.fragment cut
  simp only [arrives, ← data]
  cases found : core.connections f with
  | none => exact arrives_absent found
  | some c =>
      have stored : ∀ h ∈ c.fragments g.setIndex,
          h ∈ s.packet.split sender.maxPacketSize s.index ∧ g.index < h.index := by
        simp only [unmixed, found, List.all_eq_true, decide_eq_true_eq] at apart
        exact fun h hh => earlier h (apart h (key ▸ hh))
      have ordered := (receiving.ordered c found).push fun h hh => (stored h hh).2
      by_cases complete : (g :: c.fragments g.setIndex).length = g.count.toNat
      · have perm := s.packet.perm_split _ _ split.pieces
          (List.forall_mem_cons.mpr ⟨hg, fun h hh => (stored h hh).1⟩)
          (by simpa using ordered g.setIndex) List.mem_cons_self complete
        obtain ⟨wellFormed, whole⟩ := s.packet.joined_split _ _ sender.room split.pieces perm
        have same : joined (g :: c.fragments g.setIndex) = s.packet := by
          rw [whole, ← frame]
          rfl
        exact arrives_joined found receiving passive complete wellFormed
          (by rw [same, ← frame]; rfl) (same ▸ packet)
      · exact arrives_stored found ordered complete

/-- In every run in which fragments meet only what was sent of their packet before, no
reassembly fails and every packet that is reassembled is one that was split. -/
theorem reassembles_unmixed {core core' : ToxTunCore} (registered : core.callbackFunction = true)
    (fresh : ∀ c, core.connections f = some c → c.fragments = fun _ => []) {index : UInt8}
    (run : Reach (deliver f) (fun core input => (input.1.Passive ∧
      input.2 ∈ sender.fragmentsSent index (buffers.map Data.tunData)) ∧
        unmixed sender f core input.2 = true) core core')
    {E : Env} (passive : E.Passive) {s : Sent}
    (sent : s ∈ sender.fragmentsSent index (buffers.map Data.tunData))
    (apart : unmixed sender f core' s = true) :
    (arrives f core' (E, s)).Reassembles (buffers.map Data.tunData) := by
  have receiving : Receiving f core' := by
    refine run.invariant ⟨registered, fun c found key => ?_⟩ fun t input u receiving allowed taken => ?_
    · rw [fresh c found]
      exact .nil
    · obtain ⟨c, after, ordered⟩ :=
        (arrives_unmixed splits allowed.1.1 allowed.1.2 receiving allowed.2).after
      rw [deliver, after] at taken
      cases taken
      exact receiving.put ordered
  have taken := arrives_unmixed splits passive sent receiving apart
  obtain ⟨c, after, -⟩ := taken.after
  exact ⟨by simp [after], taken.reassembled, taken.written⟩

end

/-- Both fragments of a packet arrive, one after the other. -/
theorem reassembles_unmixed_pair : let E := Env.obliging fun _ => some []
    let frame := List.replicate 1373 1
    let sent := fun i => (⟨Data.tunData frame, 0,
      (toxPackets E (Data.tunData frame) 0).getD i (Data.tunData [])⟩ : Sent)
    ∃ core, Foundation.run (guarded (fun core input => unmixed E 7 core input.2) (deliver 7))
        ((ToxTunCore.empty true).put 7 (some (Connection.initial true))) [(E, sent 0)] = some core ∧
      (arrives 7 core (E, sent 1)).Reassembles [Data.tunData frame] := by
  intro E frame sent
  obtain ⟨core, taken, apart⟩ := exists_run
    (guarded (fun core input => unmixed E 7 core input.2) (deliver 7))
    ((ToxTunCore.empty true).put 7 (some (Connection.initial true))) [(E, sent 0)]
    (P := fun core => unmixed E 7 core (sent 1) = true) (by decide +kernel)
  have cut : ∀ i < 2, sent i ∈ E.fragmentsSent 0 ([frame].map Data.tunData) := by decide +kernel
  have splits : ∀ b ∈ [frame], E.Splits (Data.tunData b) := by
    simp only [List.mem_singleton, forall_eq]
    exact ⟨by decide +kernel, by decide +kernel⟩
  have reached := Reach.of_guarded_run (P := fun input => input.1.Passive ∧
    input.2 ∈ E.fragmentsSent 0 ([frame].map Data.tunData)) taken (by
      simpa using ⟨Env.obliging_passive _, cut 0 (by decide)⟩)
  refine ⟨core, taken, reassembles_unmixed splits rfl (fun c found => ?_) reached
    (Env.obliging_passive _) (cut 1 (by decide)) apart⟩
  rw [ToxTunCore.put_self] at found
  cases found
  rfl

/-! ## A full cycle of the index -/

/-- Frames of two fragments each: one packet, and as many others as the index counts. -/
def cycleFrames : List (List UInt8) :=
  List.replicate 1373 1 :: List.replicate 256 (List.replicate 1373 2)

/-- Only the last fragment of the first packet and the first one of the last arrive. -/
def cycleArrivals (sender : Env) : List Sent :=
  (sender.fragmentsOf (Data.tunData (List.replicate 1373 1)) 0).take 1 ++
    (sender.fragmentsOf (Data.tunData (List.replicate 1373 2)) 0).drop 1

/-- The receiver is connected when they do. -/
def cycleInputs (sender : Env) : List (Env × Op) :=
  [(sender, .receive 7 [160]), (sender, .acceptConnection 7), (sender, .receive 7 [165, 4, 2])] ++
    (cycleArrivals sender).map fun s => (sender, .receive 7 s.fragment.bytes)

theorem cycleArrivals_sublist (sender : Env) : (cycleArrivals sender).Sublist
    (sender.fragmentsSent 0 (cycleFrames.map Data.tunData)) := by
  let p := Data.tunData (List.replicate 1373 1)
  let q := Data.tunData (List.replicate 1373 2)
  have packets : cycleFrames.map Data.tunData = (p :: List.replicate 255 q) ++ [q] := by
    simp only [cycleFrames, List.map_cons, List.map_replicate, p, q, List.cons_append]
    rw [← List.replicate_succ']
  have cycle : nextSplit^[(p :: List.replicate 255 q).length] 0 = 0 := by
    rw [List.length_cons, List.length_replicate]
    decide +kernel
  rw [packets, Env.fragmentsSent_append, cycle]
  refine List.Sublist.append ?_ ?_
  · exact (List.take_sublist ..).trans (List.sublist_append_left ..)
  · exact (List.drop_sublist ..).trans (List.sublist_append_left ..)

/-- The set is completed with the fragments of two packets, and a packet that was
never sent is written to the device. -/
theorem cycle_mixes : let E := Env.obliging fun _ => some []
    (cycleArrivals E).Sublist (E.fragmentsSent 0 (cycleFrames.map Data.tunData)) ∧
      (∀ b ∈ cycleFrames, E.Splits (Data.tunData b)) ∧
      ∃ t ∈ transitions (ToxTunCore.empty true) (cycleInputs E),
        ¬ t.Reassembles (cycleFrames.map Data.tunData) := by
  intro E
  refine ⟨cycleArrivals_sublist E, ?_, ?_⟩
  · have splits {n : UInt8} (few : ((Data.tunData (List.replicate 1373 n)).getSplitted
        1373 0).length ≤ 255) : E.Splits (Data.tunData (List.replicate 1373 n)) := by
      refine ⟨?_, few⟩
      rw [Data.getToxDataLen, Data.tunData, Data.setToxHeader, Data.size_mk,
        List.length_replicate]
      decide
    simp only [cycleFrames, List.mem_cons, List.mem_replicate, forall_eq_or_imp]
    refine ⟨splits (by decide +kernel), ?_⟩
    rintro b ⟨-, rfl⟩
    exact splits (by decide +kernel)
  · have writes : ((transitions (ToxTunCore.empty true) (cycleInputs E)).any
        fun t => t.effects.any fun
          | .tunWrite _ _ d => d ≠ Data.tunData (List.replicate 1373 1) ∧
              d ≠ Data.tunData (List.replicate 1373 2)
          | _ => false) = true := by decide +kernel
    obtain ⟨t, ht, writes⟩ := List.any_eq_true.mp writes
    obtain ⟨e, he, foreign⟩ := List.any_eq_true.mp writes
    refine ⟨t, ht, fun reassembles => ?_⟩
    cases e with
    | tunWrite g s d =>
        have split := reassembles.written g s d he
        simp only [cycleFrames, List.map_cons, List.map_replicate, List.mem_cons,
          List.mem_replicate] at split
        simp only [decide_eq_true_eq] at foreign
        exact split.elim foreign.1 fun later => foreign.2 later.2
    | _ => cases foreign

end LibToxTun
