import Mathlib.Data.List.Perm.Subperm
import LibToxTun.Foundation.Loss
import LibToxTun.Safety.Assembly

/-! # Reassembly under losses

A set of fragments that stays incomplete is dropped when one of the three sets half a cycle
behind it is completed. That is enough when fragments are not delayed for too long and
losses leave one of three packets whole: before the index byte of the set comes again, the
set is gone. Then just the packets that arrive whole are written.
-/

namespace LibToxTun

open Foundation

/-! ## Losses and delays -/

/-- Every fragment of the packet arrives. -/
def Intact (sent order : List Piece) (n : Nat) : Prop := parts order n = parts sent n

instance instDecidablePredIntact (sent order : List Piece) : DecidablePred (Intact sent order) :=
  fun n => inferInstanceAs (Decidable (parts order n = parts sent n))

/-- The packet `w` purges the store of what is left of the packet `n`. -/
def Purges (w n : Nat) : Prop := ∃ j < 3, w = n + 126 + j

/-- Fragments are lost or delayed, but none comes behind one of the 126th packet after its own,
and what is left of a packet is purged before its index byte comes again. -/
structure Survivable (sent order : List Piece) : Prop where
  part : order.Subperm sent
  late : order.Pairwise fun q p => q.number < p.number + 126
  purged : ∀ q ∈ order, ∀ p ∈ order, q.number + 256 ≤ p.number → ¬ Intact sent order q.number →
    ∃ w, Purges w q.number ∧ Intact sent order w

/-- Losses that leave one of three packets whole can be survived without delays. -/
theorem Survivable.of_sublist {sent order : List Piece} (part : order.Sublist sent)
    (sorted : sent.Pairwise fun q p => q.number ≤ p.number)
    (dense : ∀ p ∈ order, ∀ n, n + 2 < p.number → ∃ j < 3, Intact sent order (n + j)) :
    Survivable sent order where
  part := part.subperm
  late := (sorted.sublist part).imp fun le => by omega
  purged q hq p hp far _ := by
    obtain ⟨j, less, whole⟩ := dense p hp (q.number + 126) (by omega)
    exact ⟨q.number + 126 + j, ⟨j, less, rfl⟩, whole⟩

/-- The store holds what has arrived of the packets under way, and remains of others that
have not been purged. -/
def Fragments.Surviving (fs : Fragments) (sent : List Piece) (index : UInt8)
    (before after : List Piece) : Prop :=
  Retains Piece.number (splitKey index) (fun p : Piece => p.fragment) (parts sent) Purges before after
    fun k => (fs k).map Fragment.data

/-! ## Keys -/

theorem splitKey_eq {index : UInt8} {m n : Nat} :
    splitKey index m = splitKey index n ↔ m % 256 = n % 256 := by
  rw [← UInt8.toNat_inj, splitKey_toNat, splitKey_toNat]
  omega

theorem Fragments.purge_gone (fs : Fragments) {sdi k : UInt8} {j : Nat} (less : j < 3)
    (half : k.toNat = (sdi.toNat + 128 + j) % 256) : fs.purge sdi k = [] := by
  have keys : List.range' (sdi.toNat + 128) 3 =
      [sdi.toNat + 128 + 0, sdi.toNat + 128 + 1, sdi.toNat + 128 + 2] := rfl
  have own : UInt8.ofNat ((sdi.toNat + 128 + j) % 256) = k := by rw [← half, UInt8.ofNat_toNat]
  simp only [purge, keys, List.foldl_cons, List.foldl_nil, Fragments.erase, Function.update_apply]
  have cases : j = 0 ∨ j = 1 ∨ j = 2 := by omega
  rcases cases with rfl | rfl | rfl <;> simp [own]

theorem Purges.emptied {w n : Nat} (purges : Purges w n) (fs : Fragments) (index : UInt8) :
    fs.joinedAt (splitKey index w) (splitKey index n) = [] := by
  obtain ⟨j, less, rfl⟩ := purges
  refine Fragments.purge_gone _ (j := 2 - j) (by omega) ?_
  rw [splitKey_toNat, splitKey_toNat]
  omega

theorem Survivable.parts_le {sent order : List Piece} (survives : Survivable sent order) (n : Nat) :
    parts order n ≤ parts sent n :=
  (survives.part.filter _).length_le

section
variable {sent : List Piece} {before after : List Piece} {p : Piece}
  (survives : Survivable sent (before ++ p :: after))
include survives

theorem Survivable.close : Close before after p := by
  rintro m ⟨⟨q, hq, rfl⟩, r, hr, same⟩
  obtain ⟨-, later, across⟩ := List.pairwise_append.mp survives.late
  refine ⟨across q hq p List.mem_cons_self, ?_⟩
  rcases List.mem_cons.mp hr with rfl | hr
  · omega
  · have behind := (List.pairwise_cons.mp later).1 r hr
    omega

/-- Of a packet that is far behind everything has arrived before. -/
theorem Survivable.parts_before {m : Nat} (far : m + 126 ≤ p.number) :
    parts (before ++ p :: after) m = parts before m := by
  have none : parts (p :: after) m = 0 := by
    rw [parts_eq_zero]
    intro q hq
    obtain ⟨-, later, -⟩ := List.pairwise_append.mp survives.late
    rcases List.mem_cons.mp hq with rfl | hq
    · omega
    · have behind := (List.pairwise_cons.mp later).1 q hq
      omega
  rw [parts_append, none, Nat.add_zero]

/-- The remains that have the key of a fragment are those of its packet. -/
theorem Survivable.alone (filled : ∀ p ∈ sent, ∀ n < p.number, 0 < parts sent n) (index : UInt8) (n : Nat)
    (remains : Remains Piece.number (parts sent) Purges before n)
    (same : splitKey index n = splitKey index p.number) : n = p.number := by
  by_contra other
  obtain ⟨q, hq, rfl⟩ := remains.begun
  obtain ⟨-, later, across⟩ := List.pairwise_append.mp survives.late
  have behind := across q hq p List.mem_cons_self
  rw [splitKey_eq] at same
  have far : q.number + 256 ≤ p.number := by omega
  have complete {m : Nat} (early : m + 126 ≤ p.number) (some : 0 < parts sent m)
      (whole : Intact sent (before ++ p :: after) m) : Complete Piece.number (parts sent) before m := by
    rw [Intact, survives.parts_before early] at whole
    exact ⟨parts_pos.mp (whole ▸ some), whole⟩
  have sent_p : p ∈ sent := survives.part.subset (by simp)
  have broken : ¬ Intact sent (before ++ p :: after) q.number := fun whole =>
    remains.incomplete (complete (by omega) (filled p sent_p _ (by omega)) whole)
  obtain ⟨w, purges, whole⟩ := survives.purged q (by simp [hq]) p (by simp) far broken
  obtain ⟨j, less, rfl⟩ := purges
  exact remains.uncleared _ ⟨j, less, rfl⟩
    (complete (by omega) (filled p sent_p _ (by omega)) whole)

/-- A packet that would purge that of the fragment has not begun. -/
theorem Survivable.ahead (w : Nat) (purges : Purges w p.number) :
    ¬ Complete Piece.number (parts sent) (before ++ [p]) w := by
  rintro ⟨⟨q, hq, rfl⟩, -⟩
  obtain ⟨j, less, far⟩ := purges
  obtain ⟨-, -, across⟩ := List.pairwise_append.mp survives.late
  rcases List.mem_append.mp hq with hq | hq
  · have behind := across q hq p List.mem_cons_self
    omega
  · rw [List.mem_singleton.mp hq] at far
    omega

end

/-! ## One arrival -/

theorem step_survives {sender : Env} {buffers : List (List UInt8)}
    (splits : ∀ b ∈ buffers, sender.Splits (Data.tunData b)) {index : UInt8}
    {before after : List Piece} {p : Piece} (survives : Survivable
      (sender.piecesSent index 0 (buffers.map Data.tunData)) (before ++ p :: after))
    {core : ToxTunCore} {f : UInt32} {c : Connection} (up : c.state = .connected)
    {fs : Fragments} (retains : fs.Surviving (sender.piecesSent index 0 (buffers.map Data.tunData))
      index before (p :: after)) (E : Env) :
    let t := step (core.put f (some { c with fragments := fs })) (E, .receive f p.fragment.bytes)
    let whole := parts (before ++ [p]) p.number =
      parts (sender.piecesSent index 0 (buffers.map Data.tunData)) p.number
    (whole → t.effects = [.tunWrite f .connected p.packet]) ∧ (¬ whole → t.effects = []) ∧
      ∃ fs' : Fragments, t.after = some (core.put f (some { c with fragments := fs' })) ∧
        fs'.Surviving (sender.piecesSent index 0 (buffers.map Data.tunData)) index
          (before ++ [p]) after := by
  intro t whole
  obtain ⟨g, arriving⟩ := arriving_fragment splits survives.part
  have place := arriving.place
  have filled : ∀ p ∈ sender.piecesSent index 0 (buffers.map Data.tunData), ∀ n < p.number,
      0 < parts (sender.piecesSent index 0 (buffers.map Data.tunData)) n :=
    fun p hp n less => parts_filled splits (Nat.lt_trans less (piecesSent_frame hp).1)
  have alone := survives.alone filled index
  have stored : (fs g.setIndex).map Fragment.data =
      arrivedOf Piece.number (fun p => p.fragment) before p.number := place ▸ retains.found alone
  by_cases all : whole
  · obtain ⟨-, writes, next⟩ := arriving.completes splits stored E core f c up all
    refine ⟨fun _ => writes, fun broken => (broken all).elim, _, next, ?_⟩
    have last : ∀ q ∈ after, q.number ≠ p.number := by
      have most := survives.parts_le p.number
      rw [← all, ← List.singleton_append, ← List.append_assoc, parts_append] at most
      exact parts_eq_zero.mp (by omega)
    refine retains.complete last ?_ (fun n purges => ?_) (fun m way other => ?_)
      (fs.joinedAt_data g)
    · rw [← place, Fragments.joinedAt_self, List.map_nil]
    · rw [place, purges.emptied, List.map_nil]
    · rw [survives.close.kept fs place way other]
  · obtain ⟨-, silent, next⟩ := arriving.waits stored E core f c all
    refine ⟨fun whole => (all whole).elim, fun _ => silent, fs.push g, next, ?_⟩
    unfold Fragments.Surviving
    rw [Fragments.map_push, arriving.data, place]
    exact retains.push alone (survives.close.apart index) (fun complete => all complete.2)
      survives.ahead

/-! ## Runs -/

theorem Env.piecesSent_sorted {E : Env} (index : UInt8) (number : Nat) (packets : List Data) :
    (E.piecesSent index number packets).Pairwise fun q p => q.number ≤ p.number := by
  induction packets generalizing index number with
  | nil => exact .nil
  | cons d rest ih =>
      have own {q : Piece} (hq : q ∈ E.piecesOf index number d) : q.number = number := by
        obtain ⟨s, -, rfl⟩ := List.mem_map.mp hq
        rfl
      rw [piecesSent, List.pairwise_append]
      refine ⟨List.pairwise_of_forall_mem_list fun q hq p hp => ?_, ih _ _, fun q hq p hp => ?_⟩
      · rw [own hq, own hp]
      · obtain ⟨k, same, -⟩ := mem_piecesSent hp
        rw [own hq, same]
        omega

/-- A packet that arrives whole is written with the last arrival of its number. -/
theorem effects_dedup {sent before : List Piece} {p : Piece} {inputs : List (Env × Piece)}
    (most : parts (before ++ [p] ++ inputs.map Prod.snd) p.number ≤ parts sent p.number)
    {effects : List Effect} {write : Nat → Effect}
    (writes : parts (before ++ [p]) p.number = parts sent p.number → effects = [write p.number])
    (silent : ¬ parts (before ++ [p]) p.number = parts sent p.number → effects = []) :
    effects ++ ((inputs.map fun input => input.2.number).dedup.filter fun n =>
        Intact sent (before ++ [p] ++ inputs.map Prod.snd) n).map write =
      ((p.number :: inputs.map fun input => input.2.number).dedup.filter fun n =>
        Intact sent (before ++ [p] ++ inputs.map Prod.snd) n).map write := by
  by_cases more : p.number ∈ inputs.map fun input => input.2.number
  · -- the packet is not complete before its last fragment
    have some : 0 < parts (inputs.map Prod.snd) p.number := by
      obtain ⟨input, mem, same⟩ := List.mem_map.mp more
      exact parts_pos.mpr ⟨input.2, List.mem_map_of_mem mem, same⟩
    rw [parts_append] at most
    rw [silent (by omega), List.dedup_cons_of_mem more, List.nil_append]
  · have none : parts (inputs.map Prod.snd) p.number = 0 := by
      rw [parts_eq_zero]
      intro q hq same
      obtain ⟨input, mem, rfl⟩ := List.mem_map.mp hq
      exact more (List.mem_map.mpr ⟨input, mem, same⟩)
    have decided : Intact sent (before ++ [p] ++ inputs.map Prod.snd) p.number ↔
        parts (before ++ [p]) p.number = parts sent p.number := by
      rw [Intact, parts_append, none, Nat.add_zero]
    rw [List.dedup_cons_of_notMem more]
    by_cases whole : parts (before ++ [p]) p.number = parts sent p.number
    · rw [List.filter_cons_of_pos (by simpa using decided.mpr whole), writes whole]
      rfl
    · rw [List.filter_cons_of_neg (by simpa using decided.not.mpr whole), silent whole,
        List.nil_append]

section
variable {sender : Env} {buffers : List (List UInt8)}
  (splits : ∀ b ∈ buffers, sender.Splits (Data.tunData b)) {index : UInt8}
  {f : UInt32} {core : ToxTunCore} {c : Connection}
include splits

theorem survives_rest (up : c.state = .connected) {before : List Piece} {inputs : List (Env × Piece)}
    (survives : Survivable (sender.piecesSent index 0 (buffers.map Data.tunData))
      (before ++ inputs.map Prod.snd)) {fs : Fragments}
    (retains : fs.Surviving (sender.piecesSent index 0 (buffers.map Data.tunData)) index before
      (inputs.map Prod.snd)) :
    let sent := sender.piecesSent index 0 (buffers.map Data.tunData)
    let start := core.put f (some { c with fragments := fs })
    (∃ fs' : Fragments, run (carry f) start inputs = some (core.put f (some { c with fragments := fs' })) ∧
      fs'.Surviving sent index (before ++ inputs.map Prod.snd) []) ∧
    (transitions start (carries f inputs)).flatMap Transition.effects =
      ((inputs.map fun input => input.2.number).dedup.filter fun n =>
        Intact sent (before ++ inputs.map Prod.snd) n).map fun n =>
          .tunWrite f .connected (Data.tunData (buffers.getD n [])) := by
  intro sent
  induction inputs generalizing before fs with
  | nil => exact ⟨⟨fs, rfl, by simpa using retains⟩, rfl⟩
  | cons input inputs ih =>
      obtain ⟨E, p⟩ := input
      simp only [List.map_cons] at survives retains
      obtain ⟨writes, silent, fs', after, retains'⟩ := step_survives splits survives up retains E
      have further : before ++ p :: inputs.map Prod.snd = before ++ [p] ++ inputs.map Prod.snd := by
        simp
      obtain ⟨⟨fs'', ends, left⟩, rest⟩ := ih (further ▸ survives) retains'
      have taken : carry f (core.put f (some { c with fragments := fs })) (E, p) =
          some (core.put f (some { c with fragments := fs' })) := after
      intro start
      simp only [List.map_cons]
      refine ⟨⟨fs'', ?_, further ▸ left⟩, ?_⟩
      · rw [run, taken]
        exact ends
      · have frame := (piecesSent_frame (survives.part.subset (by simp : p ∈ _))).2
        rw [transitions_carries after, List.flatMap_cons, rest, further]
        refine effects_dedup (further ▸ survives.parts_le p.number) (fun whole => ?_) silent
        rw [writes whole, frame]

/-- Without delays the packets that arrive whole are written in the order in which they were
sent. -/
theorem whole_numbers {order : List Piece}
    (part : order.Sublist (sender.piecesSent index 0 (buffers.map Data.tunData))) :
    let sent := sender.piecesSent index 0 (buffers.map Data.tunData)
    ((order.map Piece.number).dedup.filter fun n => Intact sent order n) =
      (List.range buffers.length).filter fun n => Intact sent order n := by
  intro sent
  have sorted : (order.map Piece.number).Pairwise (· ≤ ·) :=
    List.pairwise_map.mpr ((Env.piecesSent_sorted index 0 _).sublist part)
  refine @List.Perm.eq_of_pairwise _ (· ≤ ·) _ _ (fun _ _ _ _ => Nat.le_antisymm)
    ((sorted.sublist (List.dedup_sublist _)).sublist List.filter_sublist)
    (List.pairwise_le_range.sublist List.filter_sublist) ?_
  rw [List.perm_ext_iff_of_nodup ((List.nodup_dedup _).filter _) (List.nodup_range.filter _)]
  intro n
  simp only [List.mem_filter, List.mem_dedup, List.mem_map, List.mem_range, decide_eq_true_eq,
    and_congr_left_iff]
  intro whole
  constructor
  · rintro ⟨p, hp, rfl⟩
    exact (piecesSent_frame (part.subset hp)).1
  · intro less
    exact parts_pos.mp (whole ▸ parts_filled splits less)

/-- Fragments are lost and delayed, but none for 126 packets, and what is left of a packet is
purged in time: then the packets that arrive whole are written, each once and with its last
fragment, and nothing else is. What stays in the store is of packets that did not arrive whole. -/
theorem whole_packets_written (up : c.state = .connected) (found : core.connections f = some c)
    (fresh : c.fragments = fun _ => []) {inputs : List (Env × Piece)}
    (survives : Survivable (sender.piecesSent index 0 (buffers.map Data.tunData))
      (inputs.map Prod.snd)) :
    let sent := sender.piecesSent index 0 (buffers.map Data.tunData)
    let order := inputs.map Prod.snd
    let written := (order.map Piece.number).dedup.filter fun n => Intact sent order n
    (transitions core (carries f inputs)).flatMap Transition.effects =
      written.map (fun n => .tunWrite f .connected (Data.tunData (buffers.getD n []))) ∧
    (order.Sublist sent → written = (List.range buffers.length).filter fun n => Intact sent order n) ∧
    ∃ last c', run (carry f) core inputs = some last ∧ last.connections f = some c' ∧
      ∀ k, ∀ g ∈ c'.fragments k, ∃ p ∈ order, p.fragment = g.data ∧ ¬ Intact sent order p.number := by
  intro sent order written
  have start : core.put f (some { c with fragments := fun _ => [] }) = core := by
    refine ToxTunCore.put_eq_self (found.trans ?_)
    rw [← fresh]
  have retains : Fragments.Surviving (fun _ => []) sent index [] order := Holds.start ..
  obtain ⟨⟨fs, ends, left⟩, writes⟩ :=
    @survives_rest sender buffers splits index f core c up [] inputs survives _ retains
  rw [start] at ends writes
  refine ⟨?_, whole_numbers splits, _, _, ends, ToxTunCore.put_self .., fun k g hg => ?_⟩
  · rw [writes, List.nil_append]
    simp only [written, order, List.map_map, Function.comp_def]
    rfl
  · have some : (fs k).map Fragment.data ≠ [] := by
      rw [ne_eq, List.map_eq_nil_iff]
      exact List.ne_nil_of_mem hg
    obtain ⟨n, -, stored, remains⟩ := left.only k some
    have mem : g.data ∈ (fs k).map Fragment.data := List.mem_map_of_mem hg
    simp only [stored, arrivedOf, List.mem_reverse, List.mem_map, List.mem_filter,
      decide_eq_true_eq] at mem
    obtain ⟨p, ⟨hp, rfl⟩, same⟩ := mem
    exact ⟨p, hp, same, fun whole => remains.incomplete ⟨⟨p, hp, rfl⟩, whole⟩⟩

end

/-- A frame for every number, just too long for a packet. -/
def longFrame (n : Nat) : List UInt8 := UInt8.ofNat (n / 256) :: List.replicate 1372 (UInt8.ofNat n)

theorem longFrame_splits (n : Nat) :
    (Env.obliging fun _ => some []).Splits (Data.tunData (longFrame n)) := by
  have length : (longFrame n).length = 1373 := by rw [longFrame, List.length_cons, List.length_replicate]
  have size : (Data.tunData (longFrame n)).size = 1374 := congrArg (· + 1) length
  refine ⟨by rw [Data.getToxDataLen, size]; decide, ?_⟩
  rw [Data.getSplitted_eq, List.length_reverse, List.length_map, Data.split_length]
  exact Data.splitPieces_length_le _ _ (Env.room _) (by rw [size]; decide)

/-- Of 257 frames the first one loses a fragment, and the last one has its index byte. -/
theorem whole_packets_written_tail : let E := Env.obliging fun _ => some []
    let frames := (List.range 257).map longFrame
    let sent := E.piecesSent 255 0 (frames.map Data.tunData)
    let core := (ToxTunCore.empty true).put 7 (some { Connection.initial true with state := .connected })
    (transitions core (carries 7 (sent.tail.map fun p => (E, p)))).flatMap Transition.effects =
      (List.range' 1 256).map fun n =>
        .tunWrite 7 .connected (Data.tunData (frames.getD n [])) := by
  intro E frames sent core
  have splits : ∀ b ∈ frames, E.Splits (Data.tunData b) := by
    intro b hb
    obtain ⟨n, -, rfl⟩ := List.mem_map.mp hb
    exact longFrame_splits n
  have sorted := Env.piecesSent_sorted (E := E) 255 0 (frames.map Data.tunData)
  obtain ⟨p, rest, split, first⟩ : ∃ p rest, sent = p :: rest ∧ p.number = 0 := by
    obtain ⟨q, mem, zero⟩ := parts_pos.mp (@parts_filled E frames 255 splits 0 (by simp [frames]))
    change q ∈ sent at mem
    change sent.Pairwise _ at sorted
    cases split : sent with
    | nil =>
        rw [split] at mem
        cases mem
    | cons p rest =>
        rw [split] at mem sorted
        refine ⟨p, rest, rfl, ?_⟩
        rcases List.mem_cons.mp mem with rfl | later
        · exact zero
        · exact Nat.le_zero.mp (zero ▸ (List.pairwise_cons.mp sorted).1 q later)
  have whole (n : Nat) : Intact sent sent.tail n ↔ n ≠ 0 := by
    rw [Intact, split, List.tail_cons, ← List.singleton_append, parts_append]
    by_cases zero : n = 0
    · simp [parts, first, zero]
    · have other : ¬ 0 = n := fun same => zero same.symm
      simp [parts, first, zero, other]
  have order : (sent.tail.map fun p => (E, p)).map Prod.snd = sent.tail := by simp
  have survives : Survivable sent sent.tail :=
    .of_sublist (List.tail_sublist _) sorted fun _ _ n _ => ⟨1, by omega, (whole _).mpr (by omega)⟩
  obtain ⟨writes, ordered, -⟩ := @whole_packets_written E frames splits 255 7 core
    { Connection.initial true with state := .connected } rfl (ToxTunCore.put_self ..) rfl
    (sent.tail.map fun p => (E, p)) (by rw [order]; exact survives)
  have numbers := ordered (by rw [order]; exact List.tail_sublist _)
  have length : frames.length = 257 := by simp only [frames, List.length_map, List.length_range]
  have others : ((List.range frames.length).filter fun n => Intact sent sent.tail n) =
      (List.range 257).filter fun n => n ≠ 0 := by
    rw [length]
    exact List.filter_congr fun n _ => decide_eq_decide.mpr (whole n)
  have first : ((List.range 257).filter fun n => n ≠ 0) = List.range' 1 256 := by decide +kernel
  rw [writes, numbers, order, others, first]

end LibToxTun
