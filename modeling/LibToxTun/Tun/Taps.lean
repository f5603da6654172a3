import LibToxTun.Foundation.Run
import LibToxTun.Tun.Tap

/-! # The devices of a Windows process

Devices are constructed, given addresses and destructed, and all share the tables of the
system. Not everything is closed in the end. What stays open is counted exactly: one key for
every enumeration that broke off, one file for every device whose media status could not be
set, one address for every one that could not be removed or was replaced, and one block for
every answer that did not come.
-/

namespace LibToxTun

open Foundation Foundation.Action

/-- A device for each owner that has one, and the system they live in. -/
structure Taps (κ : Type) where
  host : WinHost
  tap : κ → Option Tap
  /-- How often a device was given an address when it had one. -/
  displaced : Nat

inductive TapCall (κ : Type) where
  | create (k : κ)
  | destroy (k : κ)
  | setIp (k : κ) (subnet ipPostfix : UInt8)
  | getUsedIp4Addresses (k : κ)

/-- The address that a device holds. -/
def Tap.address (t : Tap) : Option Nat := if t.ipIsSet then some t.ipApiContext else none

/-- The address of a device has given way to another one. -/
def Tap.displaces (t t' : Tap) : Nat := if t.ipIsSet ∧ t'.ipApiContext ≠ t.ipApiContext then 1 else 0

namespace Taps

variable {κ : Type}

def start (κ : Type) (base : WinHost) : Taps κ := ⟨{ base with failures := [] }, fun _ => none, 0⟩

/-- How often something failed. -/
def lost (d : Taps κ) (failure : Failure) : Nat := d.host.failures.count failure

theorem lost_fail {d : Taps κ} {w : WinHost} {failure : Failure} (clock : Nat)
    (host : d.host = (w.fail failure).later clock) (other : Failure) :
    d.lost other = w.failures.count other + if failure = other then 1 else 0 := by
  rw [lost, host]
  change (w.failures ++ [failure]).count other = _
  rw [List.count_append, List.count_singleton]
  cases failure <;> cases other <;> rfl

variable [DecidableEq κ]

/-- A device is made where there is none, and used where there is one. -/
def step (d : Taps κ) : WinSys × TapCall κ → Option (Taps κ)
  | (S, .create k) =>
      match d.tap k, Tap.create S d.host with
      | none, .returned t w => some { d with host := w, tap := Function.update d.tap k (some t) }
      | none, .thrown _ w => some { d with host := w }
      | _, _ => none
  | (S, .destroy k) =>
      (d.tap k).bind fun t =>
        match Action.noexcept (Tap.destroy S t) d.host with
        | .returned _ w => some { d with host := w, tap := Function.update d.tap k none }
        | _ => none
  | (S, .setIp k subnet ipPostfix) =>
      (d.tap k).bind fun t =>
        match Tap.setIp S t subnet ipPostfix d.host with
        | .returned t' w =>
            some ⟨w, Function.update d.tap k (some t'), d.displaced + t.displaces t'⟩
        | _ => none
  | (S, .getUsedIp4Addresses k) =>
      (d.tap k).bind fun _ =>
        match Tap.getUsedIp4Addresses S d.host with
        | .returned _ w => some { d with host := w }
        | .thrown _ w => some { d with host := w }
        | _ => none

/-- What is open was open before, belongs to a device, or has leaked by one of the failures. -/
structure Accounts (base : WinHost) (d : Taps κ) : Prop where
  keys : Accounted base.keys.get (fun _ : κ => none) (d.lost .regEnumKeyEx) d.host.keys.get
  files : Accounted base.files.get (fun k => (d.tap k).map Tap.handle) (d.lost .setMediaStatus)
    d.host.files.get
  addresses : Accounted base.addresses.get (fun k => (d.tap k).bind Tap.address)
    (d.lost .deleteIpAddress + d.displaced) d.host.addresses.get
  blocks : Accounted base.blocks.get (fun _ : κ => none)
    (d.lost .getAdaptersInfo + d.lost .getAdaptersAddresses) d.host.blocks.get
  file : ∀ k t, d.tap k = some t → d.host.files.get t.handle = some (Tap.devPath t.devGuid)
  exclusive : (d.host.files.entries.map Prod.snd).Nodup
  registry : d.host.registry = base.registry
  known : ∀ k t, d.tap k = some t → t.devGuid ∈ base.taps

namespace Accounts

variable {base : WinHost} {d : Taps κ} {k : κ} {t : Tap}

omit [DecidableEq κ] in
theorem start (exclusive : (base.files.entries.map Prod.snd).Nodup) :
    (Taps.start κ base).Accounts base where
  keys := Accounted.start _
  files := Accounted.start _
  addresses := Accounted.start _
  blocks := Accounted.start _
  file _ _ h := by cases h
  exclusive := exclusive
  registry := rfl
  known _ _ h := by cases h

omit [DecidableEq κ] in
theorem exclusive_insert {w : WinHost} (exclusive : (w.files.entries.map Prod.snd).Nodup) {h : Nat}
    {devGuid : String} (empty : Tap.vacant w devGuid = true) :
    ((w.files.insert h (Tap.devPath devGuid)).entries.map Prod.snd).Nodup := by
  have kept := exclusive.sublist ((List.filter_sublist (p := fun e => decide (e.1 ≠ h))).map Prod.snd)
  rw [Handles.insert, List.map_append, List.nodup_append]
  refine ⟨kept, by simp, fun path mem other last => ?_⟩
  obtain ⟨e, listed, rfl⟩ := List.mem_map.mp mem
  have closed : ¬ e.2 = Tap.devPath devGuid := by
    simp only [Tap.vacant, WinHost.isOpen, Bool.not_eq_true', List.any_eq_false, decide_eq_true_eq] at empty
    exact empty e (List.mem_of_mem_filter listed)
  simp only [List.map_cons, List.map_nil, List.mem_singleton] at last
  rwa [last]

theorem device (accounts : d.Accounts base) (absent : d.tap k = none) {clock : Nat}
    (free : d.host.files.get t.handle = none) (tap : t.devGuid ∈ d.host.taps)
    (empty : Tap.vacant d.host t.devGuid = true) (unset : t.ipIsSet = false) :
    Accounts base { d with
      host := { d.host with files := d.host.files.insert t.handle (Tap.devPath t.devGuid) }.later clock
      tap := Function.update d.tap k (some t) } where
  keys := accounts.keys
  files := by
    have held : (fun l => (Function.update d.tap k (some t) l).map Tap.handle) =
        Function.update (fun l => (d.tap l).map Tap.handle) k (some t.handle) := by
      funext l
      by_cases same : l = k <;> simp [same]
    change Accounted _ _ _ (d.host.files.insert t.handle (Tap.devPath t.devGuid)).get
    rw [Handles.get_insert]
    simp only [held]
    exact accounts.files.acquire (by simp [absent]) free _
  addresses := by
    have held : (fun l => (Function.update d.tap k (some t) l).bind Tap.address) =
        fun l => (d.tap l).bind Tap.address := by
      funext l
      by_cases same : l = k
      · subst same
        simp [absent, Tap.address, unset]
      · simp [same]
    simp only [held]
    exact accounts.addresses
  blocks := accounts.blocks
  file l u live := by
    change (d.host.files.insert t.handle (Tap.devPath t.devGuid)).get u.handle = _
    rw [Handles.get_insert]
    rcases held_given live with ⟨-, rfl⟩ | ⟨-, before⟩
    · exact Function.update_self ..
    · have file := accounts.file l u before
      have other : u.handle ≠ t.handle := fun same => by
        rw [same, free] at file
        cases file
      rw [Function.update_of_ne other, file]
  exclusive := exclusive_insert accounts.exclusive empty
  registry := accounts.registry
  known l u live := by
    rcases held_given live with ⟨-, rfl⟩ | ⟨-, before⟩
    · rw [WinHost.taps, ← accounts.registry]
      exact tap
    · exact accounts.known l u before

omit [DecidableEq κ] in
theorem later (accounts : d.Accounts base) (clock : Nat) :
    Accounts base { d with host := d.host.later clock } :=
  ⟨accounts.keys, accounts.files, accounts.addresses, accounts.blocks, accounts.file, accounts.exclusive,
    accounts.registry, accounts.known⟩

omit [DecidableEq κ] in
/-- The enumeration broke off, and the key of the adapters stays open. -/
theorem unread (accounts : d.Accounts base) {h clock : Nat} (free : d.host.keys.get h = none) (key : RegKey) :
    Accounts base { d with
      host := ({ d.host with keys := d.host.keys.insert h key }.fail .regEnumKeyEx).later clock } where
  keys := by
    rw [lost_fail _ rfl]
    change Accounted _ _ _ (d.host.keys.insert h key).get
    rw [Handles.get_insert]
    exact accounts.keys.waste free key
  files := by
    rw [lost_fail _ rfl]
    exact accounts.files
  addresses := by
    rw [lost_fail _ rfl]
    exact accounts.addresses
  blocks := by
    rw [lost_fail _ rfl, lost_fail _ rfl]
    exact accounts.blocks
  file := accounts.file
  exclusive := accounts.exclusive
  registry := accounts.registry
  known := accounts.known

omit [DecidableEq κ] in
/-- The media status could not be set, and the file stays open. -/
theorem disconnected (accounts : d.Accounts base) {h clock : Nat} {devGuid : String}
    (free : d.host.files.get h = none) (empty : Tap.vacant d.host devGuid = true) :
    Accounts base { d with
      host := ({ d.host with
        files := d.host.files.insert h (Tap.devPath devGuid) }.fail .setMediaStatus).later clock } where
  keys := by
    rw [lost_fail _ rfl]
    exact accounts.keys
  files := by
    rw [lost_fail _ rfl]
    change Accounted _ _ _ (d.host.files.insert h (Tap.devPath devGuid)).get
    rw [Handles.get_insert]
    exact accounts.files.waste free _
  addresses := by
    rw [lost_fail _ rfl]
    exact accounts.addresses
  blocks := by
    rw [lost_fail _ rfl, lost_fail _ rfl]
    exact accounts.blocks
  file l u live := by
    have file := accounts.file l u live
    have other : u.handle ≠ h := fun same => by
      rw [same, free] at file
      cases file
    change (d.host.files.insert h (Tap.devPath devGuid)).get u.handle = _
    rw [Handles.get_insert, Function.update_of_ne other, file]
  exclusive := exclusive_insert accounts.exclusive empty
  registry := accounts.registry
  known := accounts.known

omit [DecidableEq κ] in
/-- An answer did not come, and its block stays allocated. -/
theorem unanswered (accounts : d.Accounts base) {block size clock : Nat} {failure : Failure}
    (answer : failure = .getAdaptersInfo ∨ failure = .getAdaptersAddresses)
    (free : d.host.blocks.get block = none) :
    Accounts base { d with
      host := ({ d.host with blocks := d.host.blocks.insert block size }.fail failure).later clock } where
  keys := by
    rw [lost_fail _ rfl]
    rcases answer with rfl | rfl <;> exact accounts.keys
  files := by
    rw [lost_fail _ rfl]
    rcases answer with rfl | rfl <;> exact accounts.files
  addresses := by
    rw [lost_fail _ rfl]
    rcases answer with rfl | rfl <;> exact accounts.addresses
  blocks := by
    rw [lost_fail _ rfl, lost_fail _ rfl]
    change Accounted _ _ _ (d.host.blocks.insert block size).get
    rw [Handles.get_insert]
    have wasted := accounts.blocks.waste free size
    rcases answer with rfl | rfl
    · exact (Nat.add_right_comm _ _ 1).symm ▸ wasted
    · exact wasted
  file := accounts.file
  exclusive := accounts.exclusive
  registry := accounts.registry
  known := accounts.known

theorem held_addresses (o : Option Tap) :
    (fun l => (Function.update d.tap k o l).bind Tap.address) =
      Function.update (fun l => (d.tap l).bind Tap.address) k (o.bind Tap.address) := by
  funext l
  by_cases same : l = k <;> simp [same]

/-- A device changes its address, and nothing else is opened or closed. -/
theorem readdressed (accounts : d.Accounts base) (live : d.tap k = some t) {t' : Tap}
    (handle : t'.handle = t.handle) (devGuid : t'.devGuid = t.devGuid) {w : WinHost} {displaced : Nat}
    (keys : w.keys = d.host.keys) (files : w.files = d.host.files) (blocks : w.blocks = d.host.blocks)
    (registry : w.registry = d.host.registry)
    (counts : ∀ f ≠ .deleteIpAddress, w.failures.count f = d.lost f)
    (addresses : Accounted base.addresses.get
      (Function.update (fun l => (d.tap l).bind Tap.address) k t'.address)
      (w.failures.count .deleteIpAddress + displaced) w.addresses.get) :
    Accounts base ⟨w, Function.update d.tap k (some t'), displaced⟩ where
  keys := by
    change Accounted _ _ (w.failures.count .regEnumKeyEx) w.keys.get
    rw [counts _ (by decide), keys]
    exact accounts.keys
  files := by
    have held : (fun l => (Function.update d.tap k (some t') l).map Tap.handle) =
        fun l => (d.tap l).map Tap.handle := by
      funext l
      by_cases same : l = k
      · subst same
        simp [live, handle]
      · simp [same]
    change Accounted _ _ (w.failures.count .setMediaStatus) w.files.get
    rw [counts _ (by decide), files, held]
    exact accounts.files
  addresses := by
    rw [held_addresses]
    exact addresses
  blocks := by
    change Accounted _ _ (w.failures.count .getAdaptersInfo + w.failures.count .getAdaptersAddresses)
      w.blocks.get
    rw [counts _ (by decide), counts _ (by decide), blocks]
    exact accounts.blocks
  file l u later := by
    rw [files]
    rcases held_given later with ⟨-, rfl⟩ | ⟨-, before⟩
    · rw [handle, devGuid]
      exact accounts.file k t live
    · exact accounts.file l u before
  exclusive := files ▸ accounts.exclusive
  registry := registry.trans accounts.registry
  known l u later := by
    rcases held_given later with ⟨-, rfl⟩ | ⟨-, before⟩
    · rw [devGuid]
      exact accounts.known k t live
    · exact accounts.known l u before

theorem unset (accounts : d.Accounts base) (live : d.tap k = some t) {w : WinHost}
    (unsets : Tap.Unsets t d.host w) :
    Accounts base { d with
      host := w
      tap := Function.update d.tap k (some { t with ipIsSet := false }) } := by
  have without : Tap.address { t with ipIsSet := false } = none := rfl
  cases unsets with
  | unset none =>
      have same : Function.update d.tap k (some { t with ipIsSet := false }) = d.tap := by
        rw [← none, ← live, Function.update_eq_self]
      rw [same]
      exact accounts
  | removed isSet =>
      have holds : (d.tap k).bind Tap.address = some t.ipApiContext := by simp [live, Tap.address, isSet]
      refine accounts.readdressed live (by rfl) (by rfl) (by rfl) (by rfl) (by rfl) (by rfl)
        (fun _ _ => by rfl) ?_
      rw [without]
      change Accounted _ _ _ (d.host.addresses.erase t.ipApiContext).get
      rw [Handles.get_erase]
      exact accounts.addresses.release holds
  | failed isSet =>
      have holds : (d.tap k).bind Tap.address = some t.ipApiContext := by simp [live, Tap.address, isSet]
      have counted (f : Failure) : (d.host.fail .deleteIpAddress).tick.failures.count f =
          d.lost f + if Failure.deleteIpAddress = f then 1 else 0 :=
        lost_fail (d := { d with host := (d.host.fail .deleteIpAddress).tick }) (d.host.clock + 1) rfl f
      refine accounts.readdressed live (by rfl) (by rfl) (by rfl) (by rfl) (by rfl) (by rfl)
        (fun f other => ?_) ?_
      · rw [counted, if_neg other.symm]
        rfl
      · rw [without, counted, if_pos rfl, Nat.add_right_comm]
        exact accounts.addresses.lose holds

/-- A device is gone, and its file is closed or has leaked. -/
theorem gone (accounts : d.Accounts base) (live : d.tap k = some t) (unset : t.ipIsSet = false) {w : WinHost}
    (keys : w.keys = d.host.keys) (addresses : w.addresses = d.host.addresses)
    (blocks : w.blocks = d.host.blocks) (registry : w.registry = d.host.registry)
    (counts : ∀ f ≠ .setMediaStatus, w.failures.count f = d.lost f)
    (others : ∀ h ≠ t.handle, w.files.get h = d.host.files.get h)
    (fewer : w.files.entries.Sublist d.host.files.entries)
    (files : Accounted base.files.get (Function.update (fun l => (d.tap l).map Tap.handle) k none)
      (w.failures.count .setMediaStatus) w.files.get) :
    Accounts base { d with host := w, tap := Function.update d.tap k none } where
  keys := by
    change Accounted _ _ (w.failures.count .regEnumKeyEx) w.keys.get
    rw [counts _ (by decide), keys]
    exact accounts.keys
  files := by
    have held : (fun l => (Function.update d.tap k none l).map Tap.handle) =
        Function.update (fun l => (d.tap l).map Tap.handle) k none := by
      funext l
      by_cases same : l = k <;> simp [same]
    simp only [held]
    exact files
  addresses := by
    have without : (d.tap k).bind Tap.address = none := by simp [live, Tap.address, unset]
    change Accounted _ _ (w.failures.count .deleteIpAddress + d.displaced) w.addresses.get
    rw [counts _ (by decide), addresses, held_addresses, Option.bind_none, ← without,
      Function.update_eq_self]
    exact accounts.addresses
  blocks := by
    change Accounted _ _ (w.failures.count .getAdaptersInfo + w.failures.count .getAdaptersAddresses)
      w.blocks.get
    rw [counts _ (by decide), counts _ (by decide), blocks]
    exact accounts.blocks
  file l u later := by
    obtain ⟨other, before⟩ := held_taken later
    have away : u.handle ≠ t.handle := fun same =>
      other (accounts.files.apart (h := u.handle) (by simp [before]) (by simp [live, same]))
    rw [others _ away]
    exact accounts.file l u before
  exclusive := accounts.exclusive.sublist (fewer.map _)
  registry := registry.trans accounts.registry
  known l u later := accounts.known l u (held_taken later).2

theorem destroyed (accounts : d.Accounts base) (live : d.tap k = some t) {S : WinSys} :
    ∃ w, Tap.destroy S t d.host = .returned () w ∧
      Accounts base { d with host := w, tap := Function.update d.tap k none } := by
  have file := accounts.file k t live
  obtain ⟨w, unsets, ends⟩ := Tap.destroy_closes (S := S) (Option.ne_none_iff_exists'.mpr ⟨_, file⟩)
  have unset := accounts.unset live unsets
  let t₁ : Tap := { t with ipIsSet := false }
  let d₁ : Taps κ := { d with host := w, tap := Function.update d.tap k (some t₁) }
  have live₁ : d₁.tap k = some t₁ := Function.update_self ..
  have holds : (d₁.tap k).map Tap.handle = some t.handle := by simp [live₁, t₁]
  have dropped : Function.update d₁.tap k none = Function.update d.tap k none := Function.update_idem ..
  rw [← dropped]
  rcases ends with closed | failed
  · refine ⟨_, closed, Accounts.gone (d := d₁) unset live₁ rfl (by rfl) (by rfl) (by rfl) (by rfl)
      (fun _ _ => by rfl) (fun h other => ?_) List.filter_sublist ?_⟩
    · change (w.files.erase t.handle).get h = w.files.get h
      rw [Handles.get_erase, Function.update_of_ne other]
    · change Accounted _ _ _ (w.files.erase t.handle).get
      rw [Handles.get_erase]
      exact unset.files.release holds
  · have counted (f : Failure) : (w.fail .setMediaStatus).tick.failures.count f =
        d₁.lost f + if Failure.setMediaStatus = f then 1 else 0 :=
      lost_fail (d := { d₁ with host := (w.fail .setMediaStatus).tick }) (w.clock + 1) rfl f
    refine ⟨_, failed, Accounts.gone (d := d₁) unset live₁ rfl (by rfl) (by rfl) (by rfl) (by rfl)
      (fun f other => ?_) (fun _ _ => by rfl) (List.Sublist.refl _) ?_⟩
    · rw [counted, if_neg other.symm]
      rfl
    · rw [counted, if_pos rfl]
      exact unset.files.lose holds

theorem given (accounts : d.Accounts base) (live : d.tap k = some t) {S : WinSys}
    (subnet ipPostfix : UInt8) :
    ∃ t' w, Tap.setIp S t subnet ipPostfix d.host = .returned t' w ∧
      Accounts base ⟨w, Function.update d.tap k (some t'), d.displaced + t.displaces t'⟩ := by
  obtain ⟨t', w, ran, sets⟩ := Tap.setIp_sets (S := S) t subnet ipPostfix d.host
  refine ⟨t', w, ran, ?_⟩
  have same : Function.update d.tap k (some t) = d.tap := by rw [← live, Function.update_eq_self]
  have stays : t.displaces t = 0 := by simp [Tap.displaces]
  cases sets with
  | failed clock =>
      rw [same, stays]
      exact accounts.later _
  | lost size clock free =>
      rw [same, stays]
      exact accounts.unanswered (.inl rfl) free
  | @done context index clock free is =>
      refine accounts.readdressed live (by rfl) (by rfl) (by rfl) (by rfl) (by rfl) (by rfl)
        (fun _ _ => by rfl) ?_
      change Accounted _ (Function.update _ k (some context)) (d.lost .deleteIpAddress + _)
        (d.host.addresses.insert context (Tap.given subnet ipPostfix index)).get
      rw [Handles.get_insert]
      cases isSet : t.ipIsSet with
      | false =>
          have without : (d.tap k).bind Tap.address = none := by simp [live, Tap.address, isSet]
          have none : t.displaces { t with ipApiContext := context, ipIsSet := true } = 0 := by
            simp [Tap.displaces, isSet]
          rw [none]
          exact accounts.addresses.acquire without free _
      | true =>
          have holds : (d.tap k).bind Tap.address = some t.ipApiContext := by
            simp [live, Tap.address, isSet]
          have one : t.displaces { t with ipApiContext := context, ipIsSet := true } = 1 := by
            have other : context ≠ t.ipApiContext := fun same =>
              accounts.addresses.isOpen holds (same ▸ free)
            simp [Tap.displaces, isSet, other]
          have replaced := (accounts.addresses.lose holds).acquire (Function.update_self ..) free
            (Tap.given subnet ipPostfix index)
          rw [one, ← Nat.add_assoc]
          rwa [Function.update_idem] at replaced

/-! ## Calls and runs -/

theorem preserved (accounts : d.Accounts base) {S : WinSys} {call : TapCall κ} {d' : Taps κ}
    (taken : step d (S, call) = some d') : d'.Accounts base := by
  cases call with
  | create k =>
      have creates := Tap.create_creates (S := S) d.host
      cases absent : d.tap k with
      | some t => simp [step, absent] at taken
      | none =>
          simp only [step, absent] at taken
          generalize Tap.create S d.host = o at creates taken
          cases creates with
          | device free tap empty unset first =>
              cases taken
              exact accounts.device absent free tap empty unset
          | refused none =>
              cases taken
              exact accounts.later _
          | unread free unwilling =>
              cases taken
              exact accounts.unread free _
          | disconnected free tap empty unwilling =>
              cases taken
              exact accounts.disconnected free empty
  | destroy k =>
      obtain ⟨t, live, settled⟩ := Option.bind_eq_some_iff.mp taken
      obtain ⟨w, ran, destroyed⟩ := accounts.destroyed live (S := S)
      rw [noexcept_apply, ran] at settled
      cases settled
      exact destroyed
  | setIp k subnet ipPostfix =>
      obtain ⟨t, live, settled⟩ := Option.bind_eq_some_iff.mp taken
      obtain ⟨t', w, ran, given⟩ := accounts.given live (S := S) subnet ipPostfix
      rw [ran] at settled
      cases settled
      exact given
  | getUsedIp4Addresses k =>
      obtain ⟨t, live, settled⟩ := Option.bind_eq_some_iff.mp taken
      have looks := Tap.getUsedIp4Addresses_looks (S := S) d.host
      generalize Tap.getUsedIp4Addresses S d.host = o at looks settled
      cases looks with
      | found clock is =>
          cases settled
          exact accounts.later _
      | refused clock =>
          cases settled
          exact accounts.later _
      | lost size clock free =>
          cases settled
          exact accounts.unanswered (.inr rfl) free

end Accounts

/-- What is open was open before or belongs to a device. -/
structure Owns (base : WinHost) (d : Taps κ) : Prop where
  keys : Owned base.keys.get (fun _ : κ => none) d.host.keys.get
  files : Owned base.files.get (fun k => (d.tap k).map Tap.handle) d.host.files.get
  addresses : Owned base.addresses.get (fun k => (d.tap k).bind Tap.address) d.host.addresses.get
  blocks : Owned base.blocks.get (fun _ : κ => none) d.host.blocks.get

section
variable {base : WinHost} {d : Taps κ}

omit [DecidableEq κ] in
theorem failures_eq_nil : d.host.failures = [] ↔ ∀ failure, d.lost failure = 0 := by
  simp only [lost, List.count_eq_zero]
  exact List.eq_nil_iff_forall_not_mem

omit [DecidableEq κ] in
/-- Nothing has leaked exactly when nothing of this kind has failed. -/
theorem Accounts.owns_iff (accounts : d.Accounts base) :
    d.Owns base ↔ d.host.failures = [] ∧ d.displaced = 0 := by
  have keys := accounts.keys.balanced_iff
  have files := accounts.files.balanced_iff
  have addresses := accounts.addresses.balanced_iff
  have blocks := accounts.blocks.balanced_iff
  rw [Nat.add_eq_zero_iff] at addresses blocks
  rw [failures_eq_nil]
  constructor
  · intro owns
    obtain ⟨deleted, displaced⟩ := addresses.mpr owns.addresses
    obtain ⟨info, answer⟩ := blocks.mpr owns.blocks
    refine ⟨fun failure => ?_, displaced⟩
    cases failure with
    | regEnumKeyEx => exact keys.mpr owns.keys
    | setMediaStatus => exact files.mpr owns.files
    | deleteIpAddress => exact deleted
    | getAdaptersInfo => exact info
    | getAdaptersAddresses => exact answer
  · rintro ⟨none, displaced⟩
    exact ⟨keys.mp (none _), files.mp (none _), addresses.mp ⟨none _, displaced⟩,
      blocks.mp ⟨none _, none _⟩⟩

/-- Whatever fails: what is open was open before, belongs to a device, or has leaked, once for
every failure after which something stays open. So nothing leaks exactly when there was no
such failure and no address was replaced. -/
theorem resources_accounted (exclusive : (base.files.entries.map Prod.snd).Nodup)
    {inputs : List (WinSys × TapCall κ)} (taken : run step (start κ base) inputs = some d) :
    d.Accounts base ∧ (d.Owns base ↔ d.host.failures = [] ∧ d.displaced = 0) := by
  have reached : Reach step (fun _ _ => True) (start κ base) d := Reach.of_run taken fun _ _ => trivial
  have accounts : d.Accounts base :=
    reached.invariant (Accounts.start exclusive) fun _ _ _ accounts _ taken => accounts.preserved taken
  exact ⟨accounts, accounts.owns_iff⟩

end

/-! A host with two TAP adapters between other ones. -/

def twoAdapters : WinHost where
  registry :=
    { units := [⟨"0000", some ⟨true, "pci"⟩, some ⟨true, "\x7bA\x7d"⟩⟩,
        ⟨"0001", some ⟨true, "tap0901"⟩, some ⟨true, "\x7bB\x7d"⟩⟩,
        ⟨"0002", none, some ⟨true, "\x7bC\x7d"⟩⟩,
        ⟨"0003", some ⟨true, "tap0901"⟩, some ⟨true, "\x7bD\x7d"⟩⟩]
      apart := by decide }
  adapters := [⟨"\x7bB\x7d", 11⟩, ⟨"\x7bD\x7d", 13⟩]
  keys := .empty
  files := .empty
  addresses := .empty
  blocks := .empty
  failures := []
  clock := 0

def fickle (granted : Bool) : WinSys := ⟨fun _ => granted, id⟩

theorem twoAdapters_exclusive : (twoAdapters.files.entries.map Prod.snd).Nodup := List.nodup_nil

/-- Nothing is granted to the destructor of the first device, so its address and its file
leak, and the second device gets the other adapter. -/
def leaving : List (WinSys × TapCall Bool) :=
  [(fickle true, .create true), (fickle true, .setIp true 3 1), (fickle false, .destroy true),
    (fickle true, .create false)]

theorem resources_accounted_leaving : ∃ d : Taps Bool,
    (d.tap false).map Tap.devGuid = some "\x7bD\x7d" ∧ d.Accounts twoAdapters ∧ ¬ d.Owns twoAdapters := by
  obtain ⟨d, taken, failures, second⟩ := exists_run step (start Bool twoAdapters) leaving
    (P := fun d => d.host.failures = [.deleteIpAddress, .setMediaStatus] ∧
      (d.tap false).map Tap.devGuid = some "\x7bD\x7d") (by decide +kernel)
  obtain ⟨accounts, owns⟩ := resources_accounted twoAdapters_exclusive taken
  refine ⟨d, second, accounts, fun balanced => ?_⟩
  rw [(owns.mp balanced).1] at failures
  cases failures

/-! ## Which adapter a device gets -/

theorem vacant_iff {w : WinHost} {devGuid : String} :
    Tap.vacant w devGuid = true ↔ ∀ h, w.files.get h ≠ some (Tap.devPath devGuid) := by
  simp only [Tap.vacant, WinHost.isOpen, Bool.not_eq_true', List.any_eq_false, decide_eq_true_eq,
    Prod.forall]
  constructor
  · intro closed h found
    exact closed h _ (Handles.mem_entries.mpr found) rfl
  · rintro closed h path listed rfl
    exact closed h (Handles.mem_entries.mp listed)

theorem devPath_injective {a b : String} (same : Tap.devPath a = Tap.devPath b) : a = b := by
  simpa [Tap.devPath] using same

section
variable {base : WinHost} {d : Taps κ}

omit [DecidableEq κ] in
theorem Accounts.adapters_apart (accounts : d.Accounts base) {k l : κ} {t u : Tap}
    (live : d.tap k = some t) (live' : d.tap l = some u) (same : t.devGuid = u.devGuid) : k = l := by
  have file := Handles.mem_entries.mpr (accounts.file k t live)
  have file' := Handles.mem_entries.mpr (accounts.file l u live')
  have entry := List.inj_on_of_nodup_map accounts.exclusive file file' (congrArg Tap.devPath same)
  have handle : t.handle = u.handle := congrArg Prod.fst entry
  exact accounts.files.apart (h := t.handle) (by simp [live]) (by simp [live', handle])

omit [DecidableEq κ] in
/-- When no file has leaked, an adapter is free unless it was in use before or a device has it. -/
theorem Accounts.vacant_iff (accounts : d.Accounts base) (connected : d.lost .setMediaStatus = 0)
    {devGuid : String} : Tap.vacant d.host devGuid = true ↔
      Tap.vacant base devGuid = true ∧ ∀ k t, d.tap k = some t → t.devGuid ≠ devGuid := by
  have owned := accounts.files.balanced_iff.mp connected
  rw [Taps.vacant_iff, Taps.vacant_iff]
  constructor
  · intro closed
    refine ⟨fun h found => closed h (owned.table_of_base found), fun k t live same => ?_⟩
    exact closed t.handle (same ▸ accounts.file k t live)
  · rintro ⟨before, others⟩ h found
    by_cases held : ∃ k, (d.tap k).map Tap.handle = some h
    · obtain ⟨k, holds⟩ := held
      obtain ⟨t, live, rfl⟩ := Option.map_eq_some_iff.mp holds
      have file := (accounts.file k t live).symm.trans found
      exact others k t live (devPath_injective (Option.some.inj file))
    · rw [owned.rest h fun k holds => held ⟨k, holds⟩] at found
      exact before h found

/-- When its calls are granted, the constructor takes the first TAP adapter of the registry
that is not in use, and fails only when there is none. -/
theorem create_takes_first (exclusive : (base.files.entries.map Prod.snd).Nodup)
    {inputs : List (WinSys × TapCall κ)} (taken : run step (start κ base) inputs = some d) {S : WinSys}
    (willing : S.Willing) {k : κ} (absent : d.tap k = none) :
    (∃ d', step d (S, .create k) = some d' ∧ d'.tap = Function.update d.tap k (d'.tap k) ∧
      (d'.tap k).map Tap.devGuid = base.taps.find? (Tap.vacant d.host)) ∧
    (∀ l m t u, d.tap l = some t → d.tap m = some u → t.devGuid = u.devGuid → l = m) ∧
    (d.lost .setMediaStatus = 0 → ∀ devGuid, Tap.vacant d.host devGuid = true ↔
      Tap.vacant base devGuid = true ∧ ∀ l t, d.tap l = some t → t.devGuid ≠ devGuid) := by
  have accounts := (resources_accounted exclusive taken).1
  refine ⟨?_, fun l m t u => accounts.adapters_apart, fun connected _ => accounts.vacant_iff connected⟩
  have creates := Tap.create_creates (S := S) d.host
  have taps : d.host.taps = base.taps := by rw [WinHost.taps, accounts.registry, WinHost.taps]
  simp only [step, absent]
  generalize Tap.create S d.host = o at creates
  cases creates with
  | @device t clock free tap empty unset first =>
      refine ⟨_, rfl, ?_, ?_⟩
      · simp only [Function.update_self]
      · simp only [Function.update_self, Option.map_some]
        rw [← taps]
        exact (first willing).symm
  | refused none =>
      refine ⟨_, rfl, ?_, ?_⟩
      · simp only [absent]
        rw [← absent, Function.update_eq_self]
      · simp only [absent, Option.map_none]
        rw [← taps]
        exact (none willing).symm
  | unread free unwilling => exact (unwilling willing).elim
  | disconnected free tap empty unwilling => exact (unwilling willing).elim

end

/-- The file of the first device has leaked, so the constructor takes the second adapter. -/
theorem create_takes_first_leaving : ∃ d d' : Taps Bool, d.tap = (fun _ => none) ∧
    step d (fickle true, .create false) = some d' ∧
      (d'.tap false).map Tap.devGuid = some "\x7bD\x7d" := by
  obtain ⟨d, taken, devices, second⟩ := exists_run step (start Bool twoAdapters) (leaving.take 3)
    (P := fun d => (∀ k, d.tap k = none) ∧
      twoAdapters.taps.find? (Tap.vacant d.host) = some "\x7bD\x7d") (by decide +kernel)
  have willing : (fickle true).Willing := fun _ => rfl
  obtain ⟨⟨d', created, -, first⟩, -⟩ :=
    create_takes_first twoAdapters_exclusive taken willing (devices false)
  exact ⟨d, d', funext devices, created, first.trans second⟩

end Taps

end LibToxTun
