import Mathlib.Data.List.Perm.Subperm
import LibToxTun.Foundation.Delivery
import LibToxTun.Safety.Mixing

/-! # Complete reassembly

The sets of half a cycle away are dropped when a set is completed, and sets a whole
cycle apart share a key. Neither does harm while the packets that are under way lie
close together: then every packet is reassembled from its own fragments with the last
of them, and the store is empty in the end.
-/

namespace LibToxTun

open Foundation

/-! ## The fragments with the numbers of their packets -/

/-- A fragment on its way, with the number of its packet among those that were split. -/
structure Piece extends Sent where
  number : Nat
deriving DecidableEq

namespace Env

variable (E : Env)

def piecesOf (index : UInt8) (number : Nat) (d : Data) : List Piece :=
  (E.fragmentsOf d index).map fun s => ⟨s, number⟩

/-- The fragments of packets that one connection splits, numbered on. -/
def piecesSent : UInt8 → Nat → List Data → List Piece
  | _, _, [] => []
  | index, number, d :: rest =>
      E.piecesOf index number d ++ piecesSent (nextSplit index) (number + 1) rest

variable {E}

theorem piecesSent_sent (index : UInt8) (number : Nat) (packets : List Data) :
    (E.piecesSent index number packets).map Piece.toSent = E.fragmentsSent index packets := by
  induction packets generalizing index number with
  | nil => rfl
  | cons d rest ih =>
      rw [piecesSent, fragmentsSent, List.map_append, ih, piecesOf, List.map_map]
      exact congrArg (· ++ _) (List.map_id _)

/-- A connection whose sends succeed sends the pieces of the frames it reads. -/
theorem forward_piecesSent (sends : ∀ clock, E.sends clock = true) {buffers : List (List UInt8)}
    (oversized : ∀ b ∈ buffers, E.maxPacketSize < (Data.tunData b).getToxDataLen)
    (clock number : Nat) (c : Connection) : (E.forward clock c (buffers.map some)).2 =
      (E.piecesSent c.nextFragmentIndex number (buffers.map Data.tunData)).map
        fun p => p.fragment := by
  have taken (clock : Nat) (l : List Data) : (E.sendList clock l).1 = l := by
    induction l generalizing clock with
    | nil => rfl
    | cons p rest ih =>
        rw [sendList, if_pos (sends clock)]
        exact congrArg (p :: ·) (ih (clock + 1))
  induction buffers generalizing clock number c with
  | nil => rfl
  | cons b rest ih =>
      have long := Nat.not_le.mpr (oversized b List.mem_cons_self)
      simp only [List.map_cons, forward, if_neg long, piecesSent, List.map_append, taken]
      rw [ih (fun b hb => oversized b (List.mem_cons_of_mem _ hb)), piecesOf, fragmentsOf,
        List.map_map, List.map_map]
      exact congrArg (· ++ _) (List.map_id _).symm

theorem mem_piecesSent {index : UInt8} {number : Nat} {packets : List Data} {p : Piece}
    (h : p ∈ E.piecesSent index number packets) :
    ∃ k, p.number = number + k ∧ packets[k]? = some p.packet ∧ p.index = nextSplit^[k] index ∧
      p.fragment ∈ toxPackets E p.packet p.index := by
  induction packets generalizing index number with
  | nil => cases h
  | cons d rest ih =>
      rcases List.mem_append.mp h with here | later
      · simp only [piecesOf, fragmentsOf, List.map_map, List.mem_map, Function.comp_apply] at here
        obtain ⟨q, hq, rfl⟩ := here
        exact ⟨0, rfl, rfl, rfl, hq⟩
      · obtain ⟨k, same, packet, key, cut⟩ := ih later
        exact ⟨k + 1, by omega, packet, by rw [key, Function.iterate_succ_apply], cut⟩

theorem piecesSent_filter {index : UInt8} {number : Nat} {packets : List Data} {k : Nat} {d : Data}
    (packet : packets[k]? = some d) :
    (E.piecesSent index number packets).filter (fun p => decide (p.number = number + k)) =
      E.piecesOf (nextSplit^[k] index) (number + k) d := by
  have own (index : UInt8) (n m : Nat) (d : Data) :
      (E.piecesOf index n d).filter (fun p => decide (p.number = m)) =
        if n = m then E.piecesOf index n d else [] := by
    split
    · next same =>
        rw [List.filter_eq_self]
        intro p hp
        obtain ⟨s, -, rfl⟩ := List.mem_map.mp hp
        exact decide_eq_true same
    · next other =>
        rw [List.filter_eq_nil_iff]
        intro p hp
        obtain ⟨s, -, rfl⟩ := List.mem_map.mp hp
        simpa using other
  induction packets generalizing index number k with
  | nil => cases packet
  | cons d' rest ih =>
      rw [piecesSent, List.filter_append, own]
      cases k with
      | zero =>
          cases packet
          have none : (E.piecesSent (nextSplit index) (number + 1) rest).filter
              (fun p => decide (p.number = number + 0)) = [] := by
            rw [List.filter_eq_nil_iff]
            intro p hp
            obtain ⟨j, same, -⟩ := mem_piecesSent hp
            simp only [decide_eq_true_eq]
            omega
          rw [none, if_pos (by omega), List.append_nil]
          rfl
      | succ k =>
          rw [if_neg (by omega), List.nil_append, Function.iterate_succ_apply,
            show number + (k + 1) = number + 1 + k by omega]
          exact ih packet

end Env

theorem nextSplit_iterate (index : UInt8) (n : Nat) :
    (nextSplit^[n] index).toNat = (index.toNat + n) % 256 := by
  have once (i : UInt8) : (nextSplit i).toNat = (i.toNat + 1) % 256 := by
    unfold nextSplit
    split
    · next last => rw [last]; rfl
    · next inside =>
        rw [UInt8.toNat_add]
        rfl
  induction n generalizing index with
  | zero =>
      have byte := index.toNat_lt
      simp only [Function.iterate_zero, id_eq, Nat.add_zero]
      omega
  | succ n ih =>
      rw [Function.iterate_succ_apply, ih, once]
      omega

/-- The index byte under which a packet is split. -/
def splitKey (index : UInt8) (number : Nat) : UInt8 := nextSplit^[number] index

theorem splitKey_toNat (index : UInt8) (n : Nat) : (splitKey index n).toNat = (index.toNat + n) % 256 :=
  nextSplit_iterate index n

def parts (pieces : List Piece) (n : Nat) : Nat := (pieces.filter fun p => p.number = n).length

theorem parts_append (before after : List Piece) (n : Nat) :
    parts (before ++ after) n = parts before n + parts after n := by
  simp [parts]

theorem parts_eq_zero {pieces : List Piece} {n : Nat} :
    parts pieces n = 0 ↔ ∀ p ∈ pieces, p.number ≠ n := by
  simp [parts]

theorem parts_pos {pieces : List Piece} {n : Nat} :
    0 < parts pieces n ↔ ∃ p ∈ pieces, p.number = n := by
  rw [Nat.pos_iff_ne_zero, ne_eq, parts_eq_zero]
  simp

section
variable {sender : Env} {buffers : List (List UInt8)} {index : UInt8}

/-- A piece carries the frame of its number. -/
theorem piecesSent_frame {p : Piece}
    (hp : p ∈ sender.piecesSent index 0 (buffers.map Data.tunData)) :
    p.number < buffers.length ∧ p.packet = Data.tunData (buffers.getD p.number []) := by
  obtain ⟨k, number, packet, -⟩ := Env.mem_piecesSent hp
  rw [Nat.zero_add] at number
  subst number
  rw [List.getElem?_map, Option.map_eq_some_iff] at packet
  obtain ⟨b, found, same⟩ := packet
  obtain ⟨less, -⟩ := List.getElem?_eq_some_iff.mp found
  refine ⟨less, ?_⟩
  rw [List.getD_eq_getElem?_getD, found, ← same]
  rfl

variable (splits : ∀ b ∈ buffers, sender.Splits (Data.tunData b))
include splits

theorem parts_piecesSent {n : Nat} {d : Data}
    (packet : (buffers.map Data.tunData)[n]? = some d) :
    (sender.piecesSent index 0 (buffers.map Data.tunData)).filter (fun p => p.number = n) =
        sender.piecesOf (splitKey index n) n d ∧
      parts (sender.piecesSent index 0 (buffers.map Data.tunData)) n =
        (d.splitPieces sender.maxPacketSize).length := by
  obtain ⟨b, hb, rfl⟩ := List.mem_map.mp (List.mem_of_getElem? packet)
  have group : (sender.piecesSent index 0 (buffers.map Data.tunData)).filter
      (fun p => p.number = 0 + n) = sender.piecesOf (splitKey index n) (0 + n) (Data.tunData b) :=
    Env.piecesSent_filter packet
  rw [Nat.zero_add] at group
  refine ⟨group, ?_⟩
  have cut := Env.Splits.toxPackets_eq (s := ⟨Data.tunData b, splitKey index n, Data.tunData []⟩)
    (splits b hb)
  rw [parts, group, Env.piecesOf, Env.fragmentsOf, List.length_map, List.length_map]
  exact (congrArg List.length cut).trans (by simp)

theorem parts_filled {n : Nat} (less : n < buffers.length) :
    0 < parts (sender.piecesSent index 0 (buffers.map Data.tunData)) n := by
  have packet : (buffers.map Data.tunData)[n]? = some (Data.tunData buffers[n]) := by
    rw [List.getElem?_map, List.getElem?_eq_getElem less]
    rfl
  rw [(parts_piecesSent splits packet).2]
  exact Data.splitPieces_length_pos _ _ sender.room

end

/-! ## Packets under way -/

/-- At every arrival, the packets under way and that of the arriving fragment lie
within 126 consecutive ones. -/
def Near (order : List Piece) : Prop :=
  ∀ before p after, order = before ++ p :: after →
    ∃ first, ∀ n, n = p.number ∨ UnderWay Piece.number before (p :: after) n →
      first ≤ n ∧ n < first + 126

/-- The packets under way are close to that of the fragment. -/
def Close (before after : List Piece) (p : Piece) : Prop :=
  ∀ m, UnderWay Piece.number before (p :: after) m → m < p.number + 126 ∧ p.number < m + 126

theorem Near.close {before after : List Piece} {p : Piece} (h : Near (before ++ p :: after)) :
    Close before after p := by
  obtain ⟨first, near⟩ := h before p after rfl
  intro m way
  have here := near p.number (.inl rfl)
  have there := near m (.inr way)
  omega

section
variable {before after : List Piece} {p : Piece} (close : Close before after p) {index : UInt8}
include close

/-- Their keys are neither the key of the packet nor half a cycle away from it. -/
theorem Close.keys {m : Nat} (way : UnderWay Piece.number before (p :: after) m)
    (other : m ≠ p.number) : splitKey index m ≠ splitKey index p.number ∧
      ∀ j < 3, (splitKey index m).toNat ≠ ((splitKey index p.number).toNat + 128 + j) % 256 := by
  obtain ⟨behind, ahead⟩ := close m way
  constructor
  · intro same
    have bytes := congrArg UInt8.toNat same
    rw [splitKey_toNat, splitKey_toNat] at bytes
    omega
  · intro j less
    rw [splitKey_toNat, splitKey_toNat]
    omega

theorem Close.apart (index : UInt8) :
    Apart Piece.number (splitKey index) before (p :: after) p.number := by
  intro m way same
  by_contra other
  exact (close.keys way other).1 same

/-- A join of the packet leaves their sets as they were. -/
theorem Close.kept (fs : Fragments) {g : Fragment} (place : g.setIndex = splitKey index p.number)
    {m : Nat} (way : UnderWay Piece.number before (p :: after) m) (other : m ≠ p.number) :
    (fs.push g).joinedAt g.setIndex (splitKey index m) = fs (splitKey index m) := by
  obtain ⟨own, half⟩ := close.keys way other
  exact Fragments.joinedAt_kept (place ▸ own) (place ▸ half)

end

/-! ## A connection that is up -/

theorem Fragment.data_injective : Function.Injective Fragment.data := by
  intro f g same
  cases f
  cases g
  cases same
  rfl

/-- A write to the device shows in the trace only. -/
theorem Frame.written_of_alive {fr : Frame} (alive : fr.alive = true) (d : Data) :
    ∃ clock, fr.written d = { fr with world := ⟨fr.world.core, clock,
      fr.world.trace ++ [.tunWrite fr.connectedFriend fr.self.state d]⟩ } := by
  unfold Frame.written
  rw [touch_of_alive alive]
  split
  · exact ⟨_, rfl⟩
  · exact ⟨_, rfl⟩

section
variable {E : Env} {core : ToxTunCore} {f : UInt32} {c : Connection} {g : Fragment}
  (found : core.connections f = some c)
include found

theorem connected_stored (incomplete : (g :: c.fragments g.setIndex).length ≠ g.count.toNat) :
    let t := step core (E, .receive f g.data.bytes)
    t.reception = some (f, c, .kept (c.fragments.push g)) ∧
      t.after = some (core.put f (some { c with fragments := c.fragments.push g })) ∧ t.effects = [] := by
  intro t
  have reception := reception_fragment (E := E) (g := g) found
  rw [Fragments.arrival_stored incomplete] at reception
  obtain ⟨-, -, o, rfl, outcome⟩ := step_reception reception
  refine ⟨reception, ?_, ?_⟩
  · rw [Transition.after, outcome]
    rfl
  · rw [effects_of_outcome outcome]
    rfl

theorem connected_joined (up : c.state = .connected)
    (complete : (g :: c.fragments g.setIndex).length = g.count.toNat)
    (wellFormed : WellFormedSet (g :: c.fragments g.setIndex))
    (data : (joined (g :: c.fragments g.setIndex)).header = 200) :
    let t := step core (E, .receive f g.data.bytes)
    let fs := (c.fragments.push g).joinedAt g.setIndex
    t.reception = some (f, c, .packet (joined (g :: c.fragments g.setIndex)) 1 fs) ∧
      t.after = some (core.put f (some { c with fragments := fs })) ∧
      t.effects = [.tunWrite f .connected (joined (g :: c.fragments g.setIndex))] := by
  intro t fs
  let d := joined (g :: c.fragments g.setIndex)
  have header : PacketId.ofByte d.header = .data := by
    rw [data]
    rfl
  have whole : PacketId.ofByte d.header ≠ .fragment := by simp [header]
  have reception := reception_fragment (E := E) (g := g) found
  rw [Fragments.arrival_joined complete wellFormed whole] at reception
  obtain ⟨-, -, o, ho, outcome⟩ := step_reception reception
  let fr := (t.frame f c).withFragments fs
  have alive : fr.alive = true := rfl
  have connected : fr.self.state = .connected := up
  have write : handleDataFuel E 1 d fr = .returned () (fr.written d) := by
    simp only [handleDataFuel, Action.noexcept_apply, Action.bind_apply,
      Data.getToxHeader_of_set (joined_toxHeaderSet _), Action.ofExcept_ok, Outcome.andThen_returned,
      d, header, sendToTun, getMember_apply, Frame.touch_of_alive alive, connected, ne_eq,
      not_true_eq_false, if_false, sendToTun_written, Outcome.guarded_returned]
  obtain ⟨clock, written⟩ := Frame.written_of_alive alive d
  have final : o = .returned () (fr.written d) := by
    rw [ho]
    change (handleDataFuel E 1 d fr).andThen _ = _
    rw [write, Outcome.andThen_returned, Action.modify_apply,
      Frame.unwound_of_alive (by rw [written]; exact alive)]
  refine ⟨reception, ?_, ?_⟩
  · rw [Transition.after, outcome, final, written]
    rfl
  · rw [effects_of_outcome outcome, final, written]
    change [] ++ [Effect.tunWrite f c.state d] = _
    rw [up]
    rfl

end

/-! ## One arrival -/

/-- The store holds what has arrived of the packets under way. -/
def Fragments.Assembling (fs : Fragments) (index : UInt8) (before after : List Piece) : Prop :=
  Tracks Piece.number (splitKey index) (fun p : Piece => p.fragment) before after
    fun k => (fs k).map Fragment.data

namespace Fragments

theorem map_push (fs : Fragments) (g : Fragment) : (fun k => ((fs.push g) k).map Fragment.data) =
    Function.update (fun k => (fs k).map Fragment.data) g.setIndex
      (g.data :: (fs g.setIndex).map Fragment.data) := by
  funext k
  by_cases own : k = g.setIndex
  · rw [own, Function.update_self, push_self, List.map_cons]
  · rw [Function.update_of_ne own, push, Function.update_of_ne own]

end Fragments

/-- A fragment of a packet arrives: the packet is dispatched with its last fragment,
and before that nothing happens but that the fragment is stored. -/
structure Transition.Assembles (f : UInt32) (p : Piece) (after : List Piece) (t : Transition) :
    Prop where
  reassembled : (∀ q ∈ after, q.number ≠ p.number) →
    (∃ c fs, t.reception = some (f, c, .packet p.packet 1 fs)) ∧
      t.effects = [.tunWrite f .connected p.packet]
  waits : (∃ q ∈ after, q.number = p.number) →
    (∃ c fs, t.reception = some (f, c, .kept fs)) ∧ t.effects = []

/-- A fragment that arrives, with what has arrived of its packet. -/
structure Arriving (sender : Env) (buffers : List (List UInt8)) (index : UInt8) (before : List Piece)
    (p : Piece) (g : Fragment) : Prop where
  cut : g ∈ p.packet.split sender.maxPacketSize p.index
  data : g.data = p.fragment
  place : g.setIndex = splitKey index p.number
  frame : ∃ b ∈ buffers, p.packet = Data.tunData b
  pieces : parts (sender.piecesSent index 0 (buffers.map Data.tunData)) p.number =
    (p.packet.splitPieces sender.maxPacketSize).length
  announced : g.count.toNat = (p.packet.splitPieces sender.maxPacketSize).length
  part : (p.fragment :: arrivedOf Piece.number (fun p => p.fragment) before p.number).Subperm
    ((p.packet.split sender.maxPacketSize p.index).map Fragment.data)

section
variable {sender : Env} {buffers : List (List UInt8)}
  (splits : ∀ b ∈ buffers, sender.Splits (Data.tunData b)) {index : UInt8}
  {before after : List Piece} {p : Piece}
include splits

theorem arriving_fragment (part : (before ++ p :: after).Subperm
    (sender.piecesSent index 0 (buffers.map Data.tunData))) :
    ∃ g, Arriving sender buffers index before p g := by
  obtain ⟨k, number, packet, key, cut⟩ := Env.mem_piecesSent (part.subset (by simp : p ∈ _))
  rw [Nat.zero_add] at number
  subst number
  obtain ⟨b, hb, frame⟩ := List.mem_map.mp (List.mem_of_getElem? packet)
  have split : sender.Splits p.packet := frame ▸ splits b hb
  obtain ⟨g, hg, data, own, -⟩ := split.fragment cut
  obtain ⟨group, size⟩ := @parts_piecesSent sender buffers index splits _ _ packet
  refine ⟨g, hg, data, own.trans key, ⟨b, hb, frame.symm⟩, size, ?_, ?_⟩
  · have few := split.pieces (s := p.toSent)
    rw [(p.packet.mem_split _ _ hg).2.1]
    exact UInt8.toNat_ofNat_of_lt' (by change _ < 256; omega)
  · have early : (before ++ [p]).Sublist (before ++ p :: after) :=
      ((List.nil_sublist after).cons_cons p).append_left before
    obtain ⟨l, perm, within⟩ := (early.subperm.trans part).filter fun q => q.number = p.number
    have mine : (((before ++ [p]).filter fun q => q.number = p.number).map fun q => q.fragment).Subperm
        (((sender.piecesSent index 0 (buffers.map Data.tunData)).filter fun q =>
          q.number = p.number).map fun q => q.fragment) :=
      ⟨_, perm.map _, within.map _⟩
    have cuts : (sender.piecesOf (splitKey index p.number) p.number p.packet).map
        (fun q : Piece => q.fragment) = toxPackets sender p.packet p.index := by
      rw [Env.piecesOf, Env.fragmentsOf, List.map_map, List.map_map, key]
      exact List.map_id _
    rw [group, cuts, split.toxPackets_eq, List.filter_append, List.filter_cons_of_pos (by simp),
      List.filter_nil, List.map_append, List.map_singleton] at mine
    have turned := mine.trans (List.reverse_perm _).subperm
    refine List.Subperm.trans ?_ turned
    exact ((List.perm_append_singleton _ _).symm.trans
      ((List.reverse_perm _).append_right _)).subperm

omit splits in
/-- The store sets a packet up from all that has arrived of it. -/
theorem Arriving.length {g : Fragment} {fs : Fragments}
    (stored : (fs g.setIndex).map Fragment.data =
      arrivedOf Piece.number (fun p => p.fragment) before p.number) :
    (g :: fs g.setIndex).length = parts (before ++ [p]) p.number := by
  have arrived := congrArg List.length stored
  rw [List.length_map, arrivedOf, List.length_reverse, List.length_map] at arrived
  rw [List.length_cons, arrived, parts_append, parts, parts]
  simp

variable {g : Fragment} (arriving : Arriving sender buffers index before p g) {fs : Fragments}
  (stored : (fs g.setIndex).map Fragment.data =
    arrivedOf Piece.number (fun p => p.fragment) before p.number)
  (E : Env) (core : ToxTunCore) (f : UInt32) (c : Connection)
include arriving stored

omit splits in
theorem Arriving.waits (missing : parts (before ++ [p]) p.number ≠
      parts (sender.piecesSent index 0 (buffers.map Data.tunData)) p.number) :
    let t := step (core.put f (some { c with fragments := fs })) (E, .receive f p.fragment.bytes)
    (∃ c' fs', t.reception = some (f, c', .kept fs')) ∧ t.effects = [] ∧
      t.after = some (core.put f (some { c with fragments := fs.push g })) := by
  have found : (core.put f (some { c with fragments := fs })).connections f =
      some { c with fragments := fs } := ToxTunCore.put_self ..
  have incomplete : (g :: fs g.setIndex).length ≠ g.count.toNat := by
    rw [Arriving.length stored, arriving.announced, ← arriving.pieces]
    exact missing
  have reached := connected_stored (E := E) found incomplete
  dsimp only at reached
  rw [arriving.data, ToxTunCore.put_put] at reached
  obtain ⟨reception, next, silent⟩ := reached
  exact ⟨⟨_, _, reception⟩, silent, next⟩

theorem Arriving.completes (up : c.state = .connected) (whole : parts (before ++ [p]) p.number =
      parts (sender.piecesSent index 0 (buffers.map Data.tunData)) p.number) :
    let t := step (core.put f (some { c with fragments := fs })) (E, .receive f p.fragment.bytes)
    (∃ c' fs', t.reception = some (f, c', .packet p.packet 1 fs')) ∧
      t.effects = [.tunWrite f .connected p.packet] ∧
      t.after = some (core.put f (some
        { c with fragments := (fs.push g).joinedAt g.setIndex })) := by
  obtain ⟨b, hb, frame⟩ := arriving.frame
  have split : sender.Splits p.packet := frame ▸ splits b hb
  have found : (core.put f (some { c with fragments := fs })).connections f =
      some { c with fragments := fs } := ToxTunCore.put_self ..
  have complete : (g :: fs g.setIndex).length = g.count.toNat := by
    rw [Arriving.length stored, arriving.announced, ← arriving.pieces]
    exact whole
  have set : (g :: fs g.setIndex).Perm (p.packet.split sender.maxPacketSize p.index) := by
    rw [← List.map_perm_map_iff Fragment.data_injective, List.map_cons, arriving.data, stored]
    refine arriving.part.perm_of_length_le ?_
    rw [← stored, List.length_map, List.length_cons, List.length_map, ← List.length_cons (a := g),
      complete, arriving.announced, Data.split_length]
  obtain ⟨wellFormed, joins⟩ := p.packet.joined_split _ _ sender.room split.pieces set
  have same : joined (g :: fs g.setIndex) = p.packet := by
    rw [joins, frame]
    rfl
  have reached := connected_joined (E := E) found up complete wellFormed (by rw [same, frame]; rfl)
  dsimp only at reached
  rw [arriving.data, same, ToxTunCore.put_put] at reached
  obtain ⟨reception, next, writes⟩ := reached
  exact ⟨⟨_, _, reception⟩, writes, next⟩

end

theorem Fragments.joinedAt_data (fs : Fragments) (g : Fragment) (k : UInt8) :
    ((fs.push g).joinedAt g.setIndex k).map Fragment.data = [] ∨
      ((fs.push g).joinedAt g.setIndex k).map Fragment.data = (fs k).map Fragment.data := by
  rcases joinedAt_push fs g k with empty | kept
  · exact .inl (by rw [empty, List.map_nil])
  · exact .inr (by rw [kept])

theorem step_assembles {sender : Env} {buffers : List (List UInt8)}
    (splits : ∀ b ∈ buffers, sender.Splits (Data.tunData b)) {index : UInt8}
    {before after : List Piece} {p : Piece}
    (all : (before ++ p :: after).Perm (sender.piecesSent index 0 (buffers.map Data.tunData)))
    (close : Close before after p) {core : ToxTunCore} {f : UInt32} {c : Connection}
    (up : c.state = .connected) {fs : Fragments}
    (tracks : fs.Assembling index before (p :: after)) (E : Env) :
    let t := step (core.put f (some { c with fragments := fs })) (E, .receive f p.fragment.bytes)
    t.Assembles f p after ∧ ∃ fs' : Fragments,
      t.after = some (core.put f (some { c with fragments := fs' })) ∧
        fs'.Assembling index (before ++ [p]) after := by
  obtain ⟨g, arriving⟩ := arriving_fragment splits all.subperm
  have place := arriving.place
  have stored : (fs g.setIndex).map Fragment.data =
      arrivedOf Piece.number (fun p => p.fragment) before p.number :=
    place ▸ tracks.found (close.apart index)
  have total : parts (before ++ [p]) p.number + parts after p.number =
      parts (sender.piecesSent index 0 (buffers.map Data.tunData)) p.number := by
    rw [← parts_append, List.append_assoc]
    exact (all.filter _).length_eq
  by_cases more : ∃ q ∈ after, q.number = p.number
  · have some := parts_pos.mpr more
    obtain ⟨reception, silent, next⟩ := arriving.waits stored E core f c (by omega)
    refine ⟨⟨fun last => ?_, fun _ => ⟨reception, silent⟩⟩, fs.push g, next, ?_⟩
    · obtain ⟨q, hq, same⟩ := more
      exact (last q hq same).elim
    · unfold Fragments.Assembling
      rw [Fragments.map_push, arriving.data, place]
      exact tracks.push (close.apart index) more
  · have last : ∀ q ∈ after, q.number ≠ p.number := fun q hq same => more ⟨q, hq, same⟩
    have none := parts_eq_zero.mpr last
    obtain ⟨reception, writes, next⟩ := arriving.completes splits stored E core f c up (by omega)
    refine ⟨⟨fun _ => ⟨reception, writes⟩, fun goes => (more goes).elim⟩, _, next, ?_⟩
    refine tracks.complete last ?_ (fun m way other => ?_) (fs.joinedAt_data g)
    · rw [← place, Fragments.joinedAt_self, List.map_nil]
    · rw [close.kept fs place way other]

/-! ## Runs -/

/-- A piece is delivered to the core of a friend's peer. -/
def carry (f : UInt32) (core : ToxTunCore) (input : Env × Piece) : Option ToxTunCore :=
  deliver f core (input.1, input.2.toSent)

/-- The arrivals as operations of a core. -/
def carries (f : UInt32) (inputs : List (Env × Piece)) : List (Env × Op) :=
  inputs.map fun input => (input.1, .receive f input.2.fragment.bytes)

theorem transitions_carries {f : UInt32} {core next : ToxTunCore} {E : Env} {p : Piece}
    (after : (step core (E, .receive f p.fragment.bytes)).after = some next)
    (inputs : List (Env × Piece)) :
    transitions core (carries f ((E, p) :: inputs)) =
      step core (E, .receive f p.fragment.bytes) :: transitions next (carries f inputs) := by
  simp only [carries, List.map_cons, transitions, after]

/-- A packet is written with the last arrival of its number. -/
theorem Transition.Assembles.effects_dedup {f : UInt32} {p : Piece} {inputs : List (Env × Piece)}
    {t : Transition} (assembles : t.Assembles f p (inputs.map Prod.snd)) {write : Nat → Effect}
    (own : write p.number = .tunWrite f .connected p.packet) :
    t.effects ++ (inputs.map fun input => input.2.number).dedup.map write =
      (p.number :: inputs.map fun input => input.2.number).dedup.map write := by
  by_cases more : p.number ∈ inputs.map fun input => input.2.number
  · obtain ⟨input, mem, same⟩ := List.mem_map.mp more
    have waits := assembles.waits ⟨input.2, List.mem_map_of_mem mem, same⟩
    rw [waits.2, List.dedup_cons_of_mem more, List.nil_append]
  · have last : ∀ q ∈ inputs.map Prod.snd, q.number ≠ p.number := by
      intro q hq same
      obtain ⟨input, mem, rfl⟩ := List.mem_map.mp hq
      exact more (List.mem_map.mpr ⟨input, mem, same⟩)
    rw [(assembles.reassembled last).2, List.dedup_cons_of_notMem more, List.map_cons, own]
    rfl

section
variable {sender : Env} {buffers : List (List UInt8)}
  (splits : ∀ b ∈ buffers, sender.Splits (Data.tunData b)) {index : UInt8}
  {f : UInt32} {core : ToxTunCore} {c : Connection} (up : c.state = .connected)
include splits up

/-- The rest of a run, from the arrivals so far. -/
theorem assembles_rest {before : List Piece} {inputs : List (Env × Piece)}
    (all : (before ++ inputs.map Prod.snd).Perm
      (sender.piecesSent index 0 (buffers.map Data.tunData)))
    (near : Near (before ++ inputs.map Prod.snd)) {fs : Fragments}
    (tracks : fs.Assembling index before (inputs.map Prod.snd)) :
    let start := core.put f (some { c with fragments := fs })
    (∀ mid E p rest, inputs = mid ++ (E, p) :: rest → ∃ now fs' : Fragments,
      run (carry f) start mid = some (core.put f (some { c with fragments := now })) ∧
      (step (core.put f (some { c with fragments := now }))
        (E, .receive f p.fragment.bytes)).Assembles f p (rest.map Prod.snd) ∧
      (step (core.put f (some { c with fragments := now })) (E, .receive f p.fragment.bytes)).after =
        some (core.put f (some { c with fragments := fs' })) ∧
      fs'.Assembling index (before ++ mid.map Prod.snd ++ [p]) (rest.map Prod.snd)) ∧
    run (carry f) start inputs = some (core.put f (some { c with fragments := fun _ => [] })) ∧
    (transitions start (carries f inputs)).flatMap Transition.effects =
      ((inputs.map fun input => input.2.number).dedup).map fun n =>
        .tunWrite f .connected (Data.tunData (buffers.getD n [])) := by
  induction inputs generalizing before fs with
  | nil =>
      have empty := tracks.finish
      have none : fs = fun _ => [] := by
        funext k
        exact List.map_eq_nil_iff.mp (congrFun empty k)
      refine ⟨fun mid E p rest same => ?_, ?_, rfl⟩
      · cases mid <;> cases same
      · rw [none]
        rfl
  | cons input inputs ih =>
      obtain ⟨E, p⟩ := input
      simp only [List.map_cons] at all near tracks
      obtain ⟨assembles, fs', after, tracks'⟩ := step_assembles splits all near.close up tracks E
      have further : before ++ p :: inputs.map Prod.snd = before ++ [p] ++ inputs.map Prod.snd := by
        simp
      rw [further] at all near
      obtain ⟨later, ends, writes⟩ := ih all near tracks'
      have taken : carry f (core.put f (some { c with fragments := fs })) (E, p) =
          some (core.put f (some { c with fragments := fs' })) := after
      refine ⟨fun mid E' p' rest same => ?_, ?_, ?_⟩
      · cases mid with
        | nil =>
            cases same
            exact ⟨fs, fs', rfl, assembles, after, by simpa using tracks'⟩
        | cons input mid =>
            cases same
            obtain ⟨now, fs'', reached, holds⟩ := later mid E' p' rest rfl
            refine ⟨now, fs'', ?_, by simpa using holds⟩
            rw [run, taken]
            exact reached
      · rw [run, taken]
        exact ends
      · have frame := (piecesSent_frame (all.mem_iff.mp (by simp : p ∈ _))).2
        rw [transitions_carries after, List.flatMap_cons, writes]
        exact assembles.effects_dedup (congrArg (Effect.tunWrite f .connected) frame.symm)

omit up in
theorem numbers_perm {order : List Piece}
    (all : order.Perm (sender.piecesSent index 0 (buffers.map Data.tunData))) :
    ((order.map Piece.number).dedup).Perm (List.range buffers.length) := by
  rw [List.perm_ext_iff_of_nodup (List.nodup_dedup _) List.nodup_range]
  intro n
  rw [List.mem_dedup, List.mem_range, List.mem_map]
  constructor
  · rintro ⟨p, hp, rfl⟩
    exact (piecesSent_frame (all.mem_iff.mp hp)).1
  · intro less
    obtain ⟨p, mem, number⟩ := parts_pos.mp (parts_filled splits less)
    exact ⟨p, all.mem_iff.mpr mem, number⟩

/-- Whatever the order in which the fragments of all packets arrive, as long as the
packets under way lie within 126 consecutive ones: every packet is dispatched to the
device with its last fragment, what is needed stays in the store, no packet is written
twice or left out, and the store is empty in the end. -/
theorem assembles_all {inputs : List (Env × Piece)}
    (all : (inputs.map Prod.snd).Perm (sender.piecesSent index 0 (buffers.map Data.tunData)))
    (near : Near (inputs.map Prod.snd)) (found : core.connections f = some c)
    (fresh : c.fragments = fun _ => []) :
    (∀ mid E p rest, inputs = mid ++ (E, p) :: rest → ∃ now next c',
      run (carry f) core mid = some now ∧
      (step now (E, .receive f p.fragment.bytes)).Assembles f p (rest.map Prod.snd) ∧
      (step now (E, .receive f p.fragment.bytes)).after = some next ∧
      next.connections f = some c' ∧
      ∀ q ∈ mid.map Prod.snd ++ [p], (∃ r ∈ rest.map Prod.snd, r.number = q.number) →
        q.fragment ∈ (c'.fragments (splitKey index q.number)).map Fragment.data) ∧
    (∃ last c', run (carry f) core inputs = some last ∧ last.connections f = some c' ∧
      c'.fragments = fun _ => []) ∧
    ((transitions core (carries f inputs)).flatMap Transition.effects).Perm
      (buffers.map fun b => .tunWrite f .connected (Data.tunData b)) := by
  have start : core.put f (some { c with fragments := fun _ => [] }) = core := by
    refine ToxTunCore.put_eq_self (found.trans ?_)
    rw [← fresh]
  have tracks : Fragments.Assembling (fun _ => []) index [] (inputs.map Prod.snd) :=
    Holds.start ..
  obtain ⟨each, ends, writes⟩ :=
    @assembles_rest sender buffers splits index f core c up [] inputs all near _ tracks
  rw [start] at each ends writes
  refine ⟨fun mid E p rest same => ?_, ⟨_, c, ends, found, fresh⟩, ?_⟩
  · obtain ⟨now, fs', reached, assembles, after, tracks'⟩ := each mid E p rest same
    refine ⟨_, _, _, reached, assembles, after, ToxTunCore.put_self .., ?_⟩
    intro q hq more
    exact tracks'.keeps (by simpa using hq) more
  · rw [writes]
    have numbers := numbers_perm splits all
    rw [List.map_map] at numbers
    refine (numbers.map _).trans (List.Perm.of_eq ?_)
    refine List.ext_getElem (by simp) fun n hn _ => ?_
    have less : n < buffers.length := by simpa using hn
    simp [List.getD_eq_getElem?_getD, List.getElem?_eq_getElem less]

end

/-- Two frames of two fragments each, and the last fragments first. -/
theorem assembles_all_backwards : let E := Env.obliging fun _ => some []
    let frames := [List.replicate 1373 1, List.replicate 1373 2]
    let pieces := (E.piecesSent 255 0 (frames.map Data.tunData)).reverse
    let core := (ToxTunCore.empty true).put 7 (some { Connection.initial true with state := .connected })
    ((transitions core (carries 7 (pieces.map fun p => (E, p)))).flatMap Transition.effects).Perm
      (frames.map fun b => .tunWrite 7 .connected (Data.tunData b)) := by
  intro E frames pieces core
  have splits : ∀ b ∈ frames, E.Splits (Data.tunData b) := by
    simp only [frames, List.mem_cons, List.not_mem_nil, or_false, forall_eq_or_imp, forall_eq]
    exact ⟨⟨by decide +kernel, by decide +kernel⟩, ⟨by decide +kernel, by decide +kernel⟩⟩
  have order : (pieces.map fun p => (E, p)).map Prod.snd = pieces := by simp
  have near : Near pieces := by
    intro before p after split
    refine ⟨0, fun n way => ⟨Nat.zero_le n, ?_⟩⟩
    have few (q : Piece) (hq : q ∈ pieces) : q.number < 2 := by
      obtain ⟨k, same, packet, -⟩ := Env.mem_piecesSent (List.mem_reverse.mp hq)
      obtain ⟨less, -⟩ := List.getElem?_eq_some_iff.mp packet
      have two : (frames.map Data.tunData).length = 2 := rfl
      omega
    rcases way with rfl | ⟨⟨q, hq, rfl⟩, -⟩
    · have here := few p (by rw [split]; simp)
      omega
    · have here := few q (by rw [split]; simp [hq])
      omega
  have all := @assembles_all E frames splits 255 7 core
    { Connection.initial true with state := .connected } rfl (pieces.map fun p => (E, p))
    (by rw [order]; exact List.reverse_perm _) (by rw [order]; exact near)
    (ToxTunCore.put_self ..) rfl
  exact all.2.2

end LibToxTun
