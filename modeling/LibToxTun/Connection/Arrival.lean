import Mathlib.Algebra.BigOperators.Fin
import Mathlib.Logic.Function.Iterate
import LibToxTun.Connection.Calculus
import LibToxTun.Data.Reassembly

/-! # Nested reassembly

A packet that is a fragment may complete its set, the joined packet may again be
a fragment, and so on. `arrive` follows a packet through the store up to the
packet that is finally dispatched, by the rule for well-formed sets instead of
the copy loop. Every join takes at least four bytes for each fragment out of the
store and the packet together, so the rounds granted by `fuel` suffice.
-/

namespace LibToxTun

open Foundation

/-- What becomes of a packet that meets the store of a connection. -/
inductive Arrival where
  /-- The packet dispatched in the end, the sets joined on the way, the store left. -/
  | packet (d : Data) (joins : Nat) (fs : Fragments)
  /-- Nothing is dispatched: the last fragment was stored or is no valid one. -/
  | kept (fs : Fragments)
  /-- A completed set does not join. -/
  | corrupted
  | unfinished

namespace Arrival

/-- One more set was joined. -/
def deeper : Arrival → Arrival
  | packet d joins fs => packet d (joins + 1) fs
  | a => a

theorem deeper_packet {a : Arrival} {d : Data} {joins : Nat} {fs : Fragments}
    (h : a.deeper = .packet d joins fs) : ∃ joins, a = .packet d joins fs := by
  cases a <;> cases h
  exact ⟨_, rfl⟩

theorem deeper_kept {a : Arrival} {fs : Fragments} : a.deeper = .kept fs ↔ a = .kept fs := by
  cases a <;> simp [deeper]

theorem deeper_unfinished {a : Arrival} : a.deeper = .unfinished ↔ a = .unfinished := by
  cases a <;> simp [deeper]

end Arrival

namespace Fragments

/-- The store without a set that is about to be joined. -/
def joinedAt (fs : Fragments) (sdi : UInt8) : Fragments := (fs.erase sdi).purge sdi

def arrive : Nat → Fragments → Data → Arrival
  | 0, _, _ => .unfinished
  | fuel + 1, fs, d =>
      if PacketId.ofByte d.header ≠ .fragment then .packet d 0 fs
      else if valid : d.isValidFragment = true then
        let f : Fragment := ⟨d, valid⟩
        let set := f :: fs f.setIndex
        if set.length = f.count.toNat then
          if WellFormedSet set then (arrive fuel ((fs.push f).joinedAt f.setIndex) (joined set)).deeper
          else .corrupted
        else .kept (fs.push f)
      else .kept fs

@[simp] theorem push_self (fs : Fragments) (f : Fragment) :
    fs.push f f.setIndex = f :: fs f.setIndex := by simp [push]

theorem erase_apply (fs : Fragments) (key k : UInt8) :
    fs.erase key k = [] ∨ fs.erase key k = fs k := by
  by_cases same : k = key
  · exact .inl (by rw [same, erase, Function.update_self])
  · exact .inr (Function.update_of_ne same ..)

theorem purge_apply (fs : Fragments) (sdi k : UInt8) :
    fs.purge sdi k = [] ∨ fs.purge sdi k = fs k := by
  simp only [purge]
  induction List.range' (sdi.toNat + 128) 3 generalizing fs with
  | nil => exact .inr rfl
  | cons i rest ih =>
      rcases ih (fs.erase (UInt8.ofNat (i % 256))) with empty | same
      · exact .inl empty
      · rw [List.foldl_cons, same]
        exact erase_apply ..

/-- The purge spares the sets that are not half a cycle away. -/
theorem purge_kept {fs : Fragments} {sdi k : UInt8}
    (near : ∀ j < 3, k.toNat ≠ (sdi.toNat + 128 + j) % 256) : fs.purge sdi k = fs k := by
  have spared (fs : Fragments) {j : Nat} (less : j < 3) :
      fs.erase (UInt8.ofNat ((sdi.toNat + 128 + j) % 256)) k = fs k := by
    refine Function.update_of_ne ?_ ..
    intro same
    have byte : (sdi.toNat + 128 + j) % 256 < 256 := Nat.mod_lt _ (by omega)
    exact near j less (by rw [same]; exact UInt8.toNat_ofNat_of_lt' byte)
  have keys : List.range' (sdi.toNat + 128) 3 =
      [sdi.toNat + 128 + 0, sdi.toNat + 128 + 1, sdi.toNat + 128 + 2] := rfl
  simp only [purge, keys, List.foldl_cons, List.foldl_nil]
  rw [spared _ (by omega), spared _ (by omega), spared _ (by omega)]

/-- A join drops sets and leaves the others as they were. -/
theorem joinedAt_push (fs : Fragments) (f : Fragment) (k : UInt8) :
    (fs.push f).joinedAt f.setIndex k = [] ∨ (fs.push f).joinedAt f.setIndex k = fs k := by
  rcases purge_apply ((fs.push f).erase f.setIndex) f.setIndex k with empty | same
  · exact .inl empty
  · rw [joinedAt, same]
    by_cases own : k = f.setIndex
    · exact .inl (by rw [own, erase, Function.update_self])
    · exact .inr (by rw [erase, Function.update_of_ne own, push, Function.update_of_ne own])

theorem joinedAt_self (fs : Fragments) (sdi : UInt8) : fs.joinedAt sdi sdi = [] := by
  rcases purge_apply (fs.erase sdi) sdi sdi with empty | same
  · exact empty
  · rw [joinedAt, same, erase, Function.update_self]

theorem joinedAt_kept {fs : Fragments} {f : Fragment} {k : UInt8} (other : k ≠ f.setIndex)
    (near : ∀ j < 3, k.toNat ≠ (f.setIndex.toNat + 128 + j) % 256) :
    (fs.push f).joinedAt f.setIndex k = fs k := by
  rw [joinedAt, purge_kept near, erase, Function.update_of_ne other, push,
    Function.update_of_ne other]

section
variable {fs : Fragments} {fuel : Nat} {d : Data}

theorem arrive_whole (whole : PacketId.ofByte d.header ≠ .fragment) :
    fs.arrive (fuel + 1) d = .packet d 0 fs := by
  simp [arrive, whole]

theorem arrive_invalid (fragment : PacketId.ofByte d.header = .fragment)
    (invalid : d.isValidFragment = false) : fs.arrive (fuel + 1) d = .kept fs := by
  simp [arrive, fragment, invalid]

variable {f : Fragment}

theorem arrive_stored (incomplete : (f :: fs f.setIndex).length ≠ f.count.toNat) :
    fs.arrive (fuel + 1) f.data = .kept (fs.push f) := by
  simp only [arrive, f.ofByte_header, ne_eq, not_true_eq_false, if_false, f.valid, dif_pos,
    if_neg incomplete]

variable (complete : (f :: fs f.setIndex).length = f.count.toNat)
include complete

theorem arrive_corrupted (malformed : ¬ WellFormedSet (f :: fs f.setIndex)) :
    fs.arrive (fuel + 1) f.data = .corrupted := by
  simp only [arrive, f.ofByte_header, ne_eq, not_true_eq_false, if_false, f.valid, dif_pos,
    if_pos complete, if_neg malformed]

theorem arrive_joined (wellFormed : WellFormedSet (f :: fs f.setIndex)) :
    fs.arrive (fuel + 1) f.data =
      (arrive fuel ((fs.push f).joinedAt f.setIndex) (joined (f :: fs f.setIndex))).deeper := by
  simp only [arrive, f.ofByte_header, ne_eq, not_true_eq_false, if_false, f.valid, dif_pos,
    if_pos complete, if_pos wellFormed]

end

/-- The rounds of an arrival: what is proved by induction on them is proved of `arrive`. -/
inductive Arrives : Nat → Fragments → Data → Arrival → Prop
  | starved {fs : Fragments} {d : Data} : Arrives 0 fs d .unfinished
  | whole {fuel : Nat} {fs : Fragments} {d : Data}
      (whole : PacketId.ofByte d.header ≠ .fragment) : Arrives (fuel + 1) fs d (.packet d 0 fs)
  | invalid {fuel : Nat} {fs : Fragments} {d : Data}
      (fragment : PacketId.ofByte d.header = .fragment) (invalid : d.isValidFragment = false) :
      Arrives (fuel + 1) fs d (.kept fs)
  | stored {fuel : Nat} {fs : Fragments} {f : Fragment}
      (incomplete : (f :: fs f.setIndex).length ≠ f.count.toNat) :
      Arrives (fuel + 1) fs f.data (.kept (fs.push f))
  | corrupted {fuel : Nat} {fs : Fragments} {f : Fragment}
      (complete : (f :: fs f.setIndex).length = f.count.toNat)
      (malformed : ¬ WellFormedSet (f :: fs f.setIndex)) : Arrives (fuel + 1) fs f.data .corrupted
  | joined {fuel : Nat} {fs : Fragments} {f : Fragment} {a : Arrival}
      (complete : (f :: fs f.setIndex).length = f.count.toNat)
      (wellFormed : WellFormedSet (f :: fs f.setIndex))
      (inner : Arrives fuel ((fs.push f).joinedAt f.setIndex) (joined (f :: fs f.setIndex)) a) :
      Arrives (fuel + 1) fs f.data a.deeper

theorem arrives (fuel : Nat) (fs : Fragments) (d : Data) : Arrives fuel fs d (fs.arrive fuel d) := by
  induction fuel generalizing fs d with
  | zero => exact .starved
  | succ fuel ih =>
      by_cases fragment : PacketId.ofByte d.header = .fragment
      · by_cases valid : d.isValidFragment = true
        · obtain ⟨f, rfl⟩ : ∃ f : Fragment, f.data = d := ⟨⟨d, valid⟩, rfl⟩
          by_cases complete : (f :: fs f.setIndex).length = f.count.toNat
          · by_cases wellFormed : WellFormedSet (f :: fs f.setIndex)
            · rw [arrive_joined complete wellFormed]
              exact .joined complete wellFormed (ih ..)
            · rw [arrive_corrupted complete wellFormed]
              exact .corrupted complete wellFormed
          · rw [arrive_stored complete]
            exact .stored complete
        · have invalid : d.isValidFragment = false := by simpa using valid
          rw [arrive_invalid fragment invalid]
          exact .invalid fragment invalid
      · rw [arrive_whole fragment]
        exact .whole fragment

/-! ## Every arrival ends -/

/-- The bytes of a set of fragments. -/
def setBytes (l : List Fragment) : Nat := (l.map fun f => f.data.size).sum

theorem setBytes_eq (l : List Fragment) : setBytes l = payloadSize l + 4 * l.length := by
  induction l with
  | nil => rfl
  | cons f rest ih =>
      simp only [setBytes, List.map_cons, List.sum_cons, payloadSize_cons, List.length_cons,
        f.size_eq] at ih ⊢
      omega

theorem storedBytes_eq (fs : Fragments) :
    fs.storedBytes = ∑ k ∈ Finset.range 256, setBytes (fs (UInt8.ofNat k)) := by
  rw [Finset.sum_eq_multiset_sum, Finset.range_val, ← Multiset.coe_range, Multiset.map_coe,
    Multiset.sum_coe]
  rfl

theorem storedBytes_update (fs : Fragments) (key : UInt8) (l : List Fragment) :
    storedBytes (Function.update fs key l) + setBytes (fs key) = fs.storedBytes + setBytes l := by
  have mem : key.toNat ∈ Finset.range 256 := Finset.mem_range.mpr key.toNat_lt
  have others : ∑ k ∈ (Finset.range 256).erase key.toNat,
      setBytes (Function.update fs key l (UInt8.ofNat k)) =
        ∑ k ∈ (Finset.range 256).erase key.toNat, setBytes (fs (UInt8.ofNat k)) := by
    refine Finset.sum_congr rfl fun k hk => ?_
    obtain ⟨ne, lt⟩ := Finset.mem_erase.mp hk
    rw [Function.update_of_ne]
    rintro rfl
    exact ne (UInt8.toNat_ofNat_of_lt' (Finset.mem_range.mp lt)).symm
  rw [storedBytes_eq, storedBytes_eq, ← Finset.add_sum_erase _ _ mem,
    ← Finset.add_sum_erase _ (fun k => setBytes (fs (UInt8.ofNat k))) mem, others]
  simp only [UInt8.ofNat_toNat, Function.update_self]
  omega

theorem storedBytes_erase (fs : Fragments) (key : UInt8) :
    (fs.erase key).storedBytes + setBytes (fs key) = fs.storedBytes := by
  have none : setBytes [] = 0 := rfl
  have update := storedBytes_update fs key []
  rw [none, Nat.add_zero] at update
  exact update

theorem storedBytes_purge (fs : Fragments) (sdi : UInt8) :
    (fs.purge sdi).storedBytes ≤ fs.storedBytes := by
  simp only [purge]
  induction List.range' (sdi.toNat + 128) 3 generalizing fs with
  | nil => exact Nat.le_refl _
  | cons i rest ih =>
      have erased := storedBytes_erase fs (UInt8.ofNat (i % 256))
      exact Nat.le_trans (ih _) (Nat.le.intro erased)

/-- A join takes four bytes for each fragment out of the store and the packet. -/
theorem storedBytes_joinedAt (fs : Fragments) (f : Fragment)
    (wellFormed : WellFormedSet (f :: fs f.setIndex)) :
    ((fs.push f).joinedAt f.setIndex).storedBytes + (joined (f :: fs f.setIndex)).size +
      4 * (f :: fs f.setIndex).length ≤ fs.storedBytes + f.data.size := by
  have pushed := storedBytes_update fs f.setIndex (f :: fs f.setIndex)
  have erased := storedBytes_erase (fs.push f) f.setIndex
  have purged := storedBytes_purge ((fs.push f).erase f.setIndex) f.setIndex
  have bytes := setBytes_eq (f :: fs f.setIndex)
  rw [push_self] at erased
  rw [joined_size (List.cons_ne_nil _ _) wellFormed]
  simp only [joinedAt, push, setBytes, List.map_cons, List.sum_cons, List.length_cons] at *
  omega

theorem arrive_finishes {fuel : Nat} {fs : Fragments} {d : Data}
    (enough : (fs.storedBytes + d.size) / 4 < fuel) : fs.arrive fuel d ≠ .unfinished := by
  have rounds := arrives fuel fs d
  generalize fs.arrive fuel d = a at rounds
  induction rounds with
  | starved => omega
  | whole => simp
  | invalid => simp
  | stored => simp
  | corrupted => simp
  | @joined fuel fs f a _ wellFormed _ ih =>
      have smaller := storedBytes_joinedAt fs f wellFormed
      rw [List.length_cons] at smaller
      rw [ne_eq, Arrival.deeper_unfinished]
      exact ih (by omega)

theorem arrive_packet {fuel : Nat} {fs : Fragments} {d : Data} (set : d.toxHeaderSet = true)
    {d' : Data} {joins : Nat} {fs' : Fragments} (h : fs.arrive fuel d = .packet d' joins fs') :
    d'.toxHeaderSet = true ∧ PacketId.ofByte d'.header ≠ .fragment := by
  have rounds := h ▸ arrives fuel fs d
  clear h
  generalize last : Arrival.packet d' joins fs' = a at rounds
  induction rounds generalizing joins with
  | starved => cases last
  | whole whole =>
      cases last
      exact ⟨set, whole⟩
  | invalid => cases last
  | stored => cases last
  | corrupted => cases last
  | joined _ _ _ ih =>
      obtain ⟨joins, rfl⟩ := Arrival.deeper_packet last.symm
      exact ih (joined_toxHeaderSet _) rfl

end Fragments

/-! ## The handlers follow the arrival -/

namespace Frame

def withFragments (fr : Frame) (fs : Fragments) : Frame :=
  { fr with self := { fr.self with fragments := fs } }

/-- The members read after the nested call of `handleData` has returned. -/
def afterNested (fr : Frame) : Frame := (fr.touch .connectedFriend).touch .fragments

/-- The frame after a packet was dispatched through a number of nested calls. -/
def unwound (fr : Frame) (joins : Nat) : Frame := afterNested^[joins] fr

theorem afterNested_of_alive {fr : Frame} (alive : fr.alive = true) : fr.afterNested = fr := by
  simp [afterNested, touch_of_alive, alive]

theorem unwound_of_alive {fr : Frame} (alive : fr.alive = true) (joins : Nat) :
    fr.unwound joins = fr := by
  induction joins with
  | zero => rfl
  | succ joins ih =>
      rw [unwound, Function.iterate_succ_apply, afterNested_of_alive alive]
      exact ih

end Frame

section
variable (E : Env)

theorem handleFragment_invalid (nested : Data → Code Frame Unit) {d : Data}
    (invalid : d.isValidFragment = false) (fr : Frame) :
    handleFragment nested d fr = .returned () fr := by
  simp [handleFragment, invalid]

variable {fr : Frame} (alive : fr.alive = true)
include alive

theorem handleFragment_stored (nested : Data → Code Frame Unit) (f : Fragment)
    (incomplete : (f :: fr.self.fragments f.setIndex).length ≠ f.count.toNat) :
    handleFragment nested f.data fr =
      .returned () (fr.withFragments (fr.self.fragments.push f)) := by
  obtain ⟨d, valid⟩ := f
  simp only [handleFragment, valid, dif_pos, Action.noexcept_apply, Action.bind_apply,
    setMember_apply, Frame.touch_of_alive alive, Outcome.andThen_returned, getMember_apply,
    Fragments.push_self, if_neg incomplete]
  simp [Frame.touch, alive, Frame.withFragments]

theorem handleFragment_joined (nested : Data → Code Frame Unit) (f : Fragment)
    (complete : (f :: fr.self.fragments f.setIndex).length = f.count.toNat) :
    handleFragment nested f.data fr =
      match Data.fromFragments ((f :: fr.self.fragments f.setIndex).map Fragment.data) with
      | .error _ => .terminated
          (fr.withFragments ((fr.self.fragments.push f).joinedAt f.setIndex))
      | .ok d => ((nested d
          (fr.withFragments ((fr.self.fragments.push f).joinedAt f.setIndex))).andThen
          fun _ => Action.modify Frame.afterNested).guarded := by
  obtain ⟨d, valid⟩ := f
  simp only [handleFragment, valid, dif_pos, Action.noexcept_apply, Action.bind_apply,
    setMember_apply, Frame.touch_of_alive alive, Outcome.andThen_returned, getMember_apply,
    Fragments.push_self, if_pos complete]
  have live : ({ fr with self :=
      { fr.self with fragments := fr.self.fragments.push ⟨d, valid⟩ } } : Frame).alive = true := alive
  simp only [Frame.touch_of_alive live]
  cases Data.fromFragments ((⟨d, valid⟩ :: fr.self.fragments _).map Fragment.data) with
  | error e => rfl
  | ok joined => rfl

end

/-- What the handlers do, given what becomes of the packet: the last packet is
dispatched, and every enclosing call reads two members afterwards. -/
def Arrival.outcome (E : Env) (fr : Frame) : Arrival → Outcome Exn Frame Unit → Prop
  | .packet d joins fs, o =>
      o = (handleDataFuel E 1 d (fr.withFragments fs)).andThen fun _ =>
        Action.modify fun fr => fr.unwound joins
  | .kept fs, o => o = .returned () (fr.withFragments fs)
  | .corrupted, o => ∃ fs, o = .terminated (fr.withFragments fs)
  | .unfinished, o => ∃ fs, o = .outOfFuel (fr.withFragments fs)

theorem handleDataFuel_whole (E : Env) {d : Data} (whole : PacketId.ofByte d.header ≠ .fragment)
    (set : d.toxHeaderSet = true) (fuel : Nat) (fr : Frame) :
    handleDataFuel E (fuel + 1) d fr = handleDataFuel E 1 d fr := by
  simp only [handleDataFuel, Action.noexcept_apply, Action.bind_apply,
    Data.getToxHeader_of_set set, Action.ofExcept_ok, Outcome.andThen_returned]
  cases header : PacketId.ofByte d.header <;> first | rfl | exact (whole header).elim

theorem handleDataFuel_fragment (E : Env) {d : Data} (fragment : PacketId.ofByte d.header = .fragment)
    (set : d.toxHeaderSet = true) (fuel : Nat) (fr : Frame) :
    handleDataFuel E (fuel + 1) d fr = (handleFragment (handleDataFuel E fuel) d fr).guarded := by
  simp only [handleDataFuel, Action.noexcept_apply, Action.bind_apply,
    Data.getToxHeader_of_set set, Action.ofExcept_ok, Outcome.andThen_returned, fragment]

theorem handleDataFuel_guarded (E : Env) (fuel : Nat) (d : Data) (fr : Frame) :
    (handleDataFuel E fuel d fr).guarded = handleDataFuel E fuel d fr := by
  cases fuel with
  | zero => rfl
  | succ fuel =>
      simp only [handleDataFuel, Action.noexcept_apply, Outcome.guarded_guarded]

/-- An enclosing call lets the nested one finish and reads its members. -/
theorem Arrival.outcome_deeper {E : Env} {fr : Frame} (alive : fr.alive = true) {fs : Fragments}
    {a : Arrival} {o : Outcome Exn Frame Unit} (h : a.outcome E (fr.withFragments fs) o) :
    a.deeper.outcome E fr (o.andThen fun _ => Action.modify Frame.afterNested).guarded := by
  cases a with
  | packet d joins fs' =>
      cases h
      simp only [Arrival.deeper, Arrival.outcome, Action.andThen_modify_modify,
        Action.guarded_andThen_modify, handleDataFuel_guarded]
      congr 1
      funext _
      congr 1
      funext fr'
      exact (Function.iterate_succ_apply' Frame.afterNested joins fr').symm
  | kept fs' =>
      cases h
      have live : (fr.withFragments fs').alive = true := alive
      exact congrArg (Outcome.returned ()) (Frame.afterNested_of_alive live)
  | corrupted =>
      obtain ⟨fs', rfl⟩ := h
      exact ⟨fs', rfl⟩
  | unfinished =>
      obtain ⟨fs', rfl⟩ := h
      exact ⟨fs', rfl⟩

/-- The handlers follow the arrival of a packet through the store. -/
theorem handleDataFuel_arrive (E : Env) {fr : Frame} (alive : fr.alive = true) (fuel : Nat)
    {d : Data} (set : d.toxHeaderSet = true) :
    (fr.self.fragments.arrive fuel d).outcome E fr (handleDataFuel E fuel d fr) := by
  have rounds := Fragments.arrives fuel fr.self.fragments d
  generalize fr.self.fragments.arrive fuel d = a at rounds ⊢
  generalize store : fr.self.fragments = fs at rounds
  induction rounds generalizing fr with subst store
  | starved => exact ⟨fr.self.fragments, rfl⟩
  | @whole fuel fs d whole =>
      rw [handleDataFuel_whole E whole set]
      simp only [Arrival.outcome, Frame.withFragments]
      cases handleDataFuel E 1 d fr <;> rfl
  | invalid fragment invalid =>
      rw [handleDataFuel_fragment E fragment set, handleFragment_invalid _ invalid]
      rfl
  | @stored fuel fs f incomplete =>
      rw [handleDataFuel_fragment E f.ofByte_header set, handleFragment_stored alive _ f incomplete]
      rfl
  | @corrupted fuel fs f complete malformed =>
      obtain ⟨e, he⟩ := fromFragments_error malformed
      rw [handleDataFuel_fragment E f.ofByte_header set, handleFragment_joined alive _ f complete,
        he]
      exact ⟨_, rfl⟩
  | @joined fuel fs f a complete wellFormed _ ih =>
      rw [handleDataFuel_fragment E f.ofByte_header set, handleFragment_joined alive _ f complete,
        fromFragments_ok (List.cons_ne_nil _ _) wellFormed]
      let fr' := fr.withFragments ((fr.self.fragments.push f).joinedAt f.setIndex)
      have alive' : fr'.alive = true := alive
      have nested := ih alive' (joined_toxHeaderSet (f :: fr.self.fragments f.setIndex)) rfl
      have unwinds := Arrival.outcome_deeper alive nested
      rw [← Outcome.guarded_guarded] at unwinds
      exact unwinds

/-- The packet the table hands to a connection, on its way through the store. -/
def Fragments.arrival (fs : Fragments) (d : Data) : Arrival := fs.arrive (fs.fuel d) d

theorem Fragments.arrival_finishes (fs : Fragments) (d : Data) : fs.arrival d ≠ .unfinished :=
  arrive_finishes (Nat.lt_succ_self _)

theorem handleData_arrival (E : Env) {fr : Frame} (alive : fr.alive = true) {d : Data}
    (set : d.toxHeaderSet = true) :
    (fr.self.fragments.arrival d).outcome E fr (handleData E d fr) :=
  handleDataFuel_arrive E alive _ set

end LibToxTun
