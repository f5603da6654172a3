import LibToxTun.Foundation.Ownership
import LibToxTun.Foundation.Run
import LibToxTun.Tun.Unix

/-! # The devices of a process

The devices of a process come and go with the connections, and all share the tables of
the system. Whatever calls fail, the open descriptors and the interfaces are those from
before and one of each for every device. When the requests of `setIp` are granted, the
addresses in use are those from before and the ones set on the devices.
-/

namespace LibToxTun

open Foundation Foundation.Action

/-! ## Interfaces by their names -/

namespace Kernel

/-- No two interfaces have one name. -/
def Named (k : Kernel) : Prop := (k.interfaces.map Interface.name).Nodup

theorem interface_eq_none {k : Kernel} {name : String} :
    k.interface name = none ↔ ∀ i ∈ k.interfaces, i.name ≠ name := by
  simp [interface]

theorem mem_of_interface {k : Kernel} {name : String} {i : Interface}
    (found : k.interface name = some i) : i ∈ k.interfaces :=
  List.mem_of_find?_eq_some found

theorem Named.interface_of_mem {k : Kernel} (named : k.Named) {i : Interface} (mem : i ∈ k.interfaces) :
    k.interface i.name = some i := by
  unfold Named at named
  unfold interface
  induction h : k.interfaces generalizing k with
  | nil =>
      rw [h] at mem
      cases mem
  | cons j rest ih =>
      rw [h, List.map_cons, List.nodup_cons] at named
      rw [h, List.mem_cons] at mem
      rcases mem with rfl | mem
      · simp
      · have other : j.name ≠ i.name := fun same =>
          named.1 (same ▸ List.mem_map_of_mem mem)
        rw [List.find?_cons_of_neg (by simpa using other)]
        exact ih (k := { k with interfaces := rest }) named.2 mem rfl

section
variable {k k' : Kernel} {name : String}

theorem interface_append {i : Interface} (added : k'.interfaces = k.interfaces ++ [i])
    (new : k.interface i.name = none) :
    k'.interface = Function.update k.interface i.name (some i) := by
  funext other
  unfold interface at new ⊢
  rw [added, List.find?_append]
  by_cases same : other = i.name
  · subst same
    simp [new]
  · have away : i.name ≠ other := fun h => same h.symm
    simp [Function.update_of_ne same, away]

theorem interface_filter (dropped : k'.interfaces = k.interfaces.filter fun i => i.name ≠ name) :
    k'.interface = Function.update k.interface name none := by
  funext other
  unfold interface
  rw [dropped, List.find?_filter]
  by_cases same : other = name
  · subst same
    simp
  · rw [Function.update_of_ne same]
    congr 1
    funext i
    by_cases here : i.name = other
    · simp [here, same]
    · simp [here]

theorem ConfiguresOnly.interface_update (h : ConfiguresOnly name k k') {i : Interface}
    (found : k.interface name = some i) :
    ∃ i', k'.interface = Function.update k.interface name (some i') := by
  obtain ⟨change, -, own, others⟩ := h.interface
  refine ⟨change i, funext fun other => ?_⟩
  by_cases same : other = name
  · subst same
    rw [own, found, Function.update_self]
    rfl
  · rw [others other same, Function.update_of_ne same]

theorem ConfiguresOnly.named (h : ConfiguresOnly name k k') (unique : k.Named) : k'.Named := by
  obtain ⟨-, change, named, changed⟩ := h
  have kept : (k.configure name change).interfaces.map Interface.name =
      k.interfaces.map Interface.name := by
    rw [configure, List.map_map]
    refine List.map_congr_left fun i _ => ?_
    simp only [Function.comp_apply]
    split
    · exact named i
    · rfl
  rwa [Named, changed, kept]

end

theorem Named.mem_used {k : Kernel} (named : k.Named) {addr : Ip4} :
    addr ∈ TunUnix.usedAddresses k.ifaddrs ↔
      ∃ name i, k.interface name = some i ∧ i.addr = some addr := by
  simp only [TunUnix.mem_usedAddresses, ifaddrs, List.mem_flatMap, List.mem_cons, reduceCtorEq,
    List.mem_map, Option.mem_toList, Option.some.injEq, exists_eq_right, false_or]
  constructor
  · rintro ⟨i, mem, address⟩
    exact ⟨i.name, i, named.interface_of_mem mem, address⟩
  · rintro ⟨name, i, found, address⟩
    exact ⟨i, mem_of_interface found, address⟩

end Kernel

theorem addrspaceUnused_forall {usedIps : List Ip4} {subnet : UInt8} :
    addrspaceUnused usedIps subnet = true ↔
      ∀ ipPostfix, ((192, 168, subnet, ipPostfix) : Ip4) ∉ usedIps := by
  simp only [addrspaceUnused, Bool.not_eq_true', List.any_eq_false, Bool.and_eq_true, beq_iff_eq]
  constructor
  · intro unused ipPostfix mem
    exact unused _ mem ⟨⟨rfl, rfl⟩, rfl⟩
  · rintro unused ⟨a, b, c, p⟩ mem ⟨⟨rfl, rfl⟩, rfl⟩
    exact unused p mem

/-! ## Frames behind a descriptor -/

namespace TunUnix

/-- No interface has changed, and no file but for the frames behind that of a device. -/
def UsesOnly (t : TunUnix) (k k' : Kernel) : Prop :=
  k'.interfaces = k.interfaces ∧ (k'.files = k.files ∨ ∃ incoming outgoing,
    k'.files = Function.update k.files t.fd (some (.tun (some t.name) incoming outgoing)))

section
variable (S : Sys) (t : TunUnix) {k : Kernel}

theorem usesOnly_tick (k : Kernel) : t.UsesOnly k k.tick := ⟨rfl, .inl rfl⟩

theorem dataPending_uses : t.UsesOnly k (dataPending S t k).state := by
  simp only [dataPending, Kernel.select, bind_apply]
  split <;> exact usesOnly_tick t k

theorem getUsedIp4Addresses_uses : t.UsesOnly k (getUsedIp4Addresses S k).state := by
  have listed : (Kernel.getifaddrs S k).state = k.tick := rfl
  rw [getUsedIp4Addresses, bind_apply, Outcome.andThen_state, listed]
  · exact usesOnly_tick t k
  · intro entries k'
    cases entries <;> rfl

variable {incoming outgoing : List (List UInt8)}
  (file : k.files t.fd = some (.tun (some t.name) incoming outgoing))
include file

theorem getDataBackend_uses : t.UsesOnly k (getDataBackend S t k).state := by
  have read : t.UsesOnly k (Kernel.read S t.fd bufferSize k).state := by
    unfold Kernel.read
    rw [file]
    split
    · next same =>
        cases same
        exact ⟨rfl, .inr ⟨_, _, rfl⟩⟩
    · exact ⟨rfl, .inl rfl⟩
    · exact usesOnly_tick t k
  rw [getDataBackend, bind_apply, Outcome.andThen_state]
  · exact read
  · intro answer k'
    cases answer with
    | none => rfl
    | some buffer => exact ofExcept_state _ _

theorem sendData_uses (data : Data) : t.UsesOnly k (sendData S t data k).state := by
  unfold sendData
  cases data.getIpData with
  | error e => exact ⟨rfl, .inl rfl⟩
  | ok ipData =>
      have write : t.UsesOnly k (Kernel.write S t.fd ipData k).state := by
        unfold Kernel.write
        rw [file]
        split
        · next same =>
            cases same
            exact ⟨rfl, .inr ⟨_, _, rfl⟩⟩
        · exact usesOnly_tick t k
      rw [bind_apply, ofExcept_ok, Outcome.andThen_returned, bind_apply, Outcome.andThen_state]
      · exact write
      · intro ok k'
        cases ok <;> rfl

theorem receive_uses (frame : List UInt8) : t.UsesOnly k (k.receive t.fd frame) := by
  rw [Kernel.receive, file]
  exact ⟨rfl, .inr ⟨_, _, rfl⟩⟩

end

end TunUnix

/-! ## The devices -/

/-- A device for each owner that has one, and the system they live in. -/
structure Devices (κ : Type) where
  kernel : Kernel
  tun : κ → Option TunUnix

/-- The calls of the backend, and a frame that the host has for a device. -/
inductive DeviceCall (κ : Type) where
  | create (k : κ)
  | destroy (k : κ)
  | setIp (k : κ) (subnet ipPostfix : UInt8)
  | getUsedIp4Addresses (k : κ)
  | dataPending (k : κ)
  | getDataBackend (k : κ)
  | sendData (k : κ) (data : Data)
  | receive (k : κ) (frame : List UInt8)

/-- The addresses that the calls ask for, by the owners of the devices. -/
def DeviceCall.plan {κ : Type} [DecidableEq κ] (plan : κ → Option Ip4) : DeviceCall κ → κ → Option Ip4
  | .create k => Function.update plan k none
  | .destroy k => Function.update plan k none
  | .setIp k subnet ipPostfix => Function.update plan k (some (192, 168, subnet, ipPostfix))
  | _ => plan

namespace Devices

variable {κ : Type}

def start (κ : Type) (base : Kernel) : Devices κ := ⟨base, fun _ => none⟩

/-- A call that throws leaves the device; after one that does not return nothing follows. -/
def settle {α : Type} (d : Devices κ) : Outcome Exn Kernel α → Option (Devices κ)
  | .returned _ k => some { d with kernel := k }
  | .thrown _ k => some { d with kernel := k }
  | .terminated _ => none
  | .outOfFuel _ => none

variable [DecidableEq κ] (maxPacketSize : Nat)

/-- A device is made where there is none, and used where there is one. -/
def step (d : Devices κ) : Sys × DeviceCall κ → Option (Devices κ)
  | (S, .create k) =>
      match d.tun k, TunUnix.create S d.kernel with
      | none, .returned t k' => some ⟨k', Function.update d.tun k (some t)⟩
      | none, .thrown _ k' => some { d with kernel := k' }
      | _, _ => none
  | (S, .destroy k) =>
      (d.tun k).bind fun t =>
        match Action.noexcept (TunUnix.destroy S t) d.kernel with
        | .returned _ k' => some ⟨k', Function.update d.tun k none⟩
        | _ => none
  | (S, .setIp k subnet ipPostfix) =>
      (d.tun k).bind fun t => d.settle (TunUnix.setIp S maxPacketSize t subnet ipPostfix d.kernel)
  | (S, .getUsedIp4Addresses k) =>
      (d.tun k).bind fun _ => d.settle (TunUnix.getUsedIp4Addresses S d.kernel)
  | (S, .dataPending k) => (d.tun k).bind fun t => d.settle (TunUnix.dataPending S t d.kernel)
  | (S, .getDataBackend k) => (d.tun k).bind fun t => d.settle (TunUnix.getDataBackend S t d.kernel)
  | (S, .sendData k data) => (d.tun k).bind fun t => d.settle (TunUnix.sendData S t data d.kernel)
  | (_, .receive k frame) =>
      (d.tun k).map fun t => { d with kernel := d.kernel.receive t.fd frame }

/-- Each device holds a descriptor of its own and an interface of its own, and nothing
else is open that was not open before. -/
structure Owns (base : Kernel) (d : Devices κ) : Prop where
  standard : d.kernel.Standard
  named : d.kernel.Named
  files : Owned base.files (fun k => (d.tun k).map TunUnix.fd) d.kernel.files
  names : Owned base.interface (fun k => (d.tun k).map TunUnix.name) d.kernel.interface
  valid : ∀ k t, d.tun k = some t → 0 ≤ t.fd
  file : ∀ k t, d.tun k = some t →
    ∃ incoming outgoing, d.kernel.files t.fd = some (.tun (some t.name) incoming outgoing)

/-! ## One call -/

namespace Owns

variable {base : Kernel} {d : Devices κ} {k : κ} {t : TunUnix} {k' : Kernel}

omit [DecidableEq κ] in
theorem start {base : Kernel} (standard : base.Standard) (named : base.Named) :
    (Devices.start κ base).Owns base where
  standard := standard
  named := named
  files := Owned.start base.files
  names := Owned.start base.interface
  valid _ _ h := by cases h
  file _ _ h := by cases h

omit [DecidableEq κ] in
theorem interface (owns : d.Owns base) (live : d.tun k = some t) :
    ∃ i, d.kernel.interface t.name = some i :=
  Option.ne_none_iff_exists'.mp (owns.names.isOpen k t.name (by simp [live]))

omit [DecidableEq κ] in
theorem fd_ne (owns : d.Owns base) {l : κ} {u : TunUnix} (live : d.tun k = some t)
    (live' : d.tun l = some u) (other : l ≠ k) : u.fd ≠ t.fd := fun same =>
  other (owns.files.apart l k u.fd (by simp [live']) (by simp [live, same]))

omit [DecidableEq κ] in
theorem name_ne (owns : d.Owns base) {l : κ} {u : TunUnix} (live : d.tun k = some t)
    (live' : d.tun l = some u) (other : l ≠ k) : u.name ≠ t.name := fun same =>
  other (owns.names.apart l k u.name (by simp [live']) (by simp [live, same]))

omit [DecidableEq κ] in
theorem configured (owns : d.Owns base) (live : d.tun k = some t)
    (configures : Kernel.ConfiguresOnly t.name d.kernel k') : Owns base { d with kernel := k' } := by
  have files : k'.files = d.kernel.files := configures.1
  obtain ⟨i, found⟩ := owns.interface live
  obtain ⟨i', changed⟩ := configures.interface_update found
  refine ⟨fun fd below => ?_, configures.named owns.named, ?_, ?_, owns.valid, fun l u live' => ?_⟩
  · rw [files]
    exact owns.standard fd below
  · rw [files]
    exact owns.files
  · rw [changed]
    exact owns.names.rewrite (k := k) (by simp [live]) i'
  · obtain ⟨incoming, outgoing, file⟩ := owns.file l u live'
    exact ⟨incoming, outgoing, files ▸ file⟩

omit [DecidableEq κ] in
theorem kept (owns : d.Owns base) (files : k'.files = d.kernel.files)
    (interfaces : k'.interfaces = d.kernel.interfaces) : Owns base { d with kernel := k' } := by
  have table : k'.interface = d.kernel.interface := by
    funext name
    simp only [Kernel.interface, interfaces]
  refine ⟨fun fd below => ?_, ?_, ?_, table ▸ owns.names, owns.valid, fun l u live => ?_⟩
  · rw [files]
    exact owns.standard fd below
  · rw [Kernel.Named, interfaces]
    exact owns.named
  · rw [files]
    exact owns.files
  · obtain ⟨incoming, outgoing, file⟩ := owns.file l u live
    exact ⟨incoming, outgoing, files ▸ file⟩

omit [DecidableEq κ] in
/-- Frames come and go behind the descriptor of a device. -/
theorem used (owns : d.Owns base) (live : d.tun k = some t) (uses : t.UsesOnly d.kernel k') :
    Owns base { d with kernel := k' } := by
  obtain ⟨interfaces, files | ⟨incoming, outgoing, files⟩⟩ := uses
  · exact owns.kept files interfaces
  · have table : k'.interface = d.kernel.interface := by
      funext name
      simp only [Kernel.interface, interfaces]
    refine ⟨fun fd below => ?_, ?_, ?_, table ▸ owns.names, owns.valid, fun l u live' => ?_⟩
    · have above := owns.valid k t live
      rw [files, Function.update_of_ne (by omega)]
      exact owns.standard fd below
    · rw [Kernel.Named, interfaces]
      exact owns.named
    · rw [files]
      exact owns.files.rewrite (k := k) (by simp [live]) _
    · by_cases same : l = k
      · subst same
        cases live.symm.trans live'
        exact ⟨incoming, outgoing, by rw [files, Function.update_self]⟩
      · rw [files, Function.update_of_ne (owns.fd_ne live live' same)]
        exact owns.file l u live'

/-- A new device takes a descriptor and a name that were free. -/
theorem created (owns : d.Owns base) (absent : d.tun k = none) (valid : 0 ≤ t.fd)
    (free : d.kernel.files t.fd = none) (new : d.kernel.interface t.name = none)
    (files : k'.files = Function.update d.kernel.files t.fd (some (.tun (some t.name) [] [])))
    (interfaces : k'.interfaces = d.kernel.interfaces ++ [⟨t.name, none, none, 1500, 0⟩]) :
    Owns base ⟨k', Function.update d.tun k (some t)⟩ where
  standard fd below := by
    rw [files, Function.update_of_ne (by omega)]
    exact owns.standard fd below
  named := by
    rw [Kernel.Named, interfaces, List.map_append, List.map_cons, List.map_nil, List.nodup_append]
    refine ⟨owns.named, List.nodup_singleton _, fun name mem other last => ?_⟩
    obtain ⟨i, found, rfl⟩ := List.mem_map.mp mem
    rw [List.mem_singleton.mp last]
    exact Kernel.interface_eq_none.mp new i found
  files := by
    have held : (fun l => (Function.update d.tun k (some t) l).map TunUnix.fd) =
        Function.update (fun l => (d.tun l).map TunUnix.fd) k (some t.fd) := by
      funext l
      by_cases same : l = k <;> simp [same]
    simp only [held, files]
    exact owns.files.acquire (by simp [absent]) free _
  names := by
    have held : (fun l => (Function.update d.tun k (some t) l).map TunUnix.name) =
        Function.update (fun l => (d.tun l).map TunUnix.name) k (some t.name) := by
      funext l
      by_cases same : l = k <;> simp [same]
    simp only [held, Kernel.interface_append interfaces new]
    exact owns.names.acquire (by simp [absent]) new _
  valid l u live := by
    rcases held_given live with ⟨-, rfl⟩ | ⟨-, before⟩
    · exact valid
    · exact owns.valid l u before
  file l u live := by
    rcases held_given live with ⟨-, rfl⟩ | ⟨-, before⟩
    · exact ⟨[], [], by rw [files, Function.update_self]⟩
    · have other : u.fd ≠ t.fd := fun clash =>
        owns.files.unheld free l (by simp [before, clash])
      rw [files, Function.update_of_ne other]
      exact owns.file l u before

theorem destroyed (owns : d.Owns base) (live : d.tun k = some t)
    (files : k'.files = Function.update d.kernel.files t.fd none)
    (interfaces : k'.interfaces = d.kernel.interfaces.filter fun i => i.name ≠ t.name) :
    Owns base ⟨k', Function.update d.tun k none⟩ where
  standard fd below := by
    have above := owns.valid k t live
    rw [files, Function.update_of_ne (by omega)]
    exact owns.standard fd below
  named := by
    rw [Kernel.Named, interfaces]
    exact owns.named.sublist (List.filter_sublist.map _)
  files := by
    have held : (fun l => (Function.update d.tun k none l).map TunUnix.fd) =
        Function.update (fun l => (d.tun l).map TunUnix.fd) k none := by
      funext l
      by_cases same : l = k <;> simp [same]
    simp only [held, files]
    exact owns.files.release (by simp [live])
  names := by
    have held : (fun l => (Function.update d.tun k none l).map TunUnix.name) =
        Function.update (fun l => (d.tun l).map TunUnix.name) k none := by
      funext l
      by_cases same : l = k <;> simp [same]
    simp only [held, Kernel.interface_filter interfaces]
    exact owns.names.release (by simp [live])
  valid l u live' := owns.valid l u (held_taken live').2
  file l u live' := by
    obtain ⟨other, before⟩ := held_taken live'
    rw [files, Function.update_of_ne (owns.fd_ne live before other)]
    exact owns.file l u before

omit [DecidableEq κ] in
/-- Without a device everything is as it was. -/
theorem restored (owns : d.Owns base) (gone : ∀ k, d.tun k = none) :
    d.kernel.files = base.files ∧ d.kernel.interface = base.interface :=
  ⟨funext fun fd => owns.files.rest fd fun k => by simp [gone],
    funext fun name => owns.names.rest name fun k => by simp [gone]⟩

end Owns

section
variable {base : Kernel} {d d' : Devices κ} {maxPacketSize}

omit [DecidableEq κ] in
theorem settle_state {α : Type} {o : Outcome Exn Kernel α} (settled : d.settle o = some d') :
    d' = { d with kernel := o.state } := by
  cases o with
  | returned v k => exact (Option.some.inj settled).symm
  | thrown e k => exact (Option.some.inj settled).symm
  | terminated k => cases settled
  | outOfFuel k => cases settled

/-- What a call can do. -/
inductive Happens (maxPacketSize : Nat) (d : Devices κ) (S : Sys) : DeviceCall κ → Devices κ → Prop where
  | created {k : κ} {t : TunUnix} {k' : Kernel} (absent : d.tun k = none) (valid : 0 ≤ t.fd)
      (free : d.kernel.files t.fd = none) (new : d.kernel.interface t.name = none)
      (files : k'.files = Function.update d.kernel.files t.fd (some (.tun (some t.name) [] [])))
      (interfaces : k'.interfaces = d.kernel.interfaces ++ [⟨t.name, none, none, 1500, 0⟩]) :
      Happens maxPacketSize d S (.create k) ⟨k', Function.update d.tun k (some t)⟩
  | refused {k : κ} {k' : Kernel} (absent : d.tun k = none) (files : k'.files = d.kernel.files)
      (interfaces : k'.interfaces = d.kernel.interfaces) :
      Happens maxPacketSize d S (.create k) { d with kernel := k' }
  | destroyed {k : κ} {t : TunUnix} {k' : Kernel} (live : d.tun k = some t)
      (files : k'.files = Function.update d.kernel.files t.fd none)
      (interfaces : k'.interfaces = d.kernel.interfaces.filter fun i => i.name ≠ t.name) :
      Happens maxPacketSize d S (.destroy k) ⟨k', Function.update d.tun k none⟩
  | configured {k : κ} {t : TunUnix} {subnet ipPostfix : UInt8} {k' : Kernel} (live : d.tun k = some t)
      (run : TunUnix.setIp S maxPacketSize t subnet ipPostfix d.kernel = .returned () k')
      (configures : Kernel.ConfiguresOnly t.name d.kernel k') :
      Happens maxPacketSize d S (.setIp k subnet ipPostfix) { d with kernel := k' }
  | used {call : DeviceCall κ} {k : κ} {t : TunUnix} {k' : Kernel} (live : d.tun k = some t)
      (uses : t.UsesOnly d.kernel k') (unplanned : ∀ plan, call.plan plan = plan) :
      Happens maxPacketSize d S call { d with kernel := k' }

theorem Owns.step_destroy (owns : d.Owns base) (maxPacketSize : Nat) (S : Sys) {k : κ} {t : TunUnix}
    (live : d.tun k = some t) : ∃ k',
      step maxPacketSize d (S, .destroy k) = some ⟨k', Function.update d.tun k none⟩ ∧
      k'.files = Function.update d.kernel.files t.fd none ∧
      k'.interfaces = d.kernel.interfaces.filter fun i => i.name ≠ t.name := by
  obtain ⟨incoming, outgoing, file⟩ := owns.file k t live
  obtain ⟨k', run, files, interfaces⟩ :=
    TunUnix.destroy_closes S owns.standard (owns.valid k t live) file
  exact ⟨k', by simp [step, live, run], files, interfaces⟩

theorem Owns.happens (owns : d.Owns base) {S : Sys} {call : DeviceCall κ}
    (taken : step maxPacketSize d (S, call) = some d') : Happens maxPacketSize d S call d' := by
  cases call with
  | create k =>
      cases absent : d.tun k with
      | some t => simp [step, absent] at taken
      | none =>
          rcases TunUnix.create_cases S d.kernel with
            ⟨t, k', made, valid, free, new, files, interfaces⟩ | ⟨what, k', failed, files, interfaces⟩
          · simp only [step, absent, made, Option.some.injEq] at taken
            exact taken ▸ .created absent valid free new files interfaces
          · simp only [step, absent, failed, Option.some.injEq] at taken
            exact taken ▸ .refused absent files interfaces
  | destroy k =>
      cases live : d.tun k with
      | none => simp [step, live] at taken
      | some t =>
          obtain ⟨k', made, files, interfaces⟩ := owns.step_destroy maxPacketSize S live
          cases made.symm.trans taken
          exact .destroyed live files interfaces
  | setIp k subnet ipPostfix =>
      obtain ⟨t, live, settled⟩ := Option.bind_eq_some_iff.mp taken
      obtain ⟨k', run, configures⟩ :=
        TunUnix.setIp_configures S maxPacketSize t subnet ipPostfix owns.standard
      rw [settle_state settled, run]
      exact .configured live run configures
  | getUsedIp4Addresses k =>
      obtain ⟨t, live, settled⟩ := Option.bind_eq_some_iff.mp taken
      rw [settle_state settled]
      exact .used live (TunUnix.getUsedIp4Addresses_uses S t) fun _ => rfl
  | dataPending k =>
      obtain ⟨t, live, settled⟩ := Option.bind_eq_some_iff.mp taken
      rw [settle_state settled]
      exact .used live (TunUnix.dataPending_uses S t) fun _ => rfl
  | getDataBackend k =>
      obtain ⟨t, live, settled⟩ := Option.bind_eq_some_iff.mp taken
      obtain ⟨incoming, outgoing, file⟩ := owns.file k t live
      rw [settle_state settled]
      exact .used live (TunUnix.getDataBackend_uses S t file) fun _ => rfl
  | sendData k data =>
      obtain ⟨t, live, settled⟩ := Option.bind_eq_some_iff.mp taken
      obtain ⟨incoming, outgoing, file⟩ := owns.file k t live
      rw [settle_state settled]
      exact .used live (TunUnix.sendData_uses S t file data) fun _ => rfl
  | receive k frame =>
      obtain ⟨t, live, same⟩ := Option.map_eq_some_iff.mp taken
      obtain ⟨incoming, outgoing, file⟩ := owns.file k t live
      rw [← same]
      exact .used live (t.receive_uses file frame) fun _ => rfl

theorem Owns.preserved (owns : d.Owns base) {S : Sys} {call : DeviceCall κ}
    (taken : step maxPacketSize d (S, call) = some d') : d'.Owns base := by
  cases owns.happens taken with
  | created absent valid free new files interfaces =>
      exact owns.created absent valid free new files interfaces
  | refused absent files interfaces => exact owns.kept files interfaces
  | destroyed live files interfaces => exact owns.destroyed live files interfaces
  | configured live run configures => exact owns.configured live configures
  | used live uses unplanned => exact owns.used live uses

end

/-! ## Runs -/

section
variable {base : Kernel} {maxPacketSize}

theorem run_owns (standard : base.Standard) (named : base.Named) {inputs : List (Sys × DeviceCall κ)}
    {d : Devices κ} (taken : run (step maxPacketSize) (start κ base) inputs = some d) :
    d.Owns base := by
  have reached : Reach (step maxPacketSize) (fun _ _ => True) (start κ base) d :=
    Reach.of_run taken fun _ _ => trivial
  exact reached.invariant (Owns.start standard named) fun _ _ _ owns _ taken => owns.preserved taken

/-- The devices that are left are destroyed one after the other. -/
theorem Owns.destroyAll {d : Devices κ} (owns : d.Owns base) (S : κ → Sys) {ks : List κ} (once : ks.Nodup)
    (listed : ∀ k, k ∈ ks ↔ d.tun k ≠ none) :
    ∃ d', run (step maxPacketSize) d (ks.map fun k => (S k, .destroy k)) = some d' ∧
      d'.kernel.files = base.files ∧ d'.kernel.interface = base.interface := by
  induction ks generalizing d with
  | nil =>
      refine ⟨d, rfl, owns.restored fun k => ?_⟩
      by_contra live
      exact List.not_mem_nil ((listed k).mpr live)
  | cons k ks ih =>
      rw [List.nodup_cons] at once
      obtain ⟨t, live⟩ := Option.ne_none_iff_exists'.mp ((listed k).mp List.mem_cons_self)
      obtain ⟨k', taken, files, interfaces⟩ := owns.step_destroy maxPacketSize (S k) live
      obtain ⟨d', rest, restored⟩ := ih (owns.destroyed live files interfaces) once.2 fun l => by
        by_cases same : l = k
        · subst same
          simp [once.1]
        · simpa [same] using listed l
      exact ⟨d', by simp only [List.map_cons, run, taken, Option.bind_some, rest], restored⟩

/-- Whatever calls fail: every device holds a descriptor and an interface of its own, all
else in the tables of the system is as it was, and when the remaining devices are
destroyed, so is everything. -/
theorem descriptors_balanced (standard : base.Standard) (named : base.Named)
    {inputs : List (Sys × DeviceCall κ)} {d : Devices κ}
    (taken : run (step maxPacketSize) (start κ base) inputs = some d) :
    d.Owns base ∧ ∀ (S : κ → Sys) (ks : List κ), ks.Nodup → (∀ k, k ∈ ks ↔ d.tun k ≠ none) →
      ∃ d', run (step maxPacketSize) d (ks.map fun k => (S k, .destroy k)) = some d' ∧
        d'.kernel.files = base.files ∧ d'.kernel.interface = base.interface := by
  have owns := run_owns standard named taken
  exact ⟨owns, fun S _ once listed => owns.destroyAll S once listed⟩

end

/-! A host with one interface, and a system that opens descriptors from 3 on. -/

def lonelyKernel : Kernel where
  files fd := if fd = 0 then some .other else none
  interfaces := [⟨"eth0", some (192, 168, 0, 7), some (255, 255, 255, 0), 1500, IFF_UP⟩]
  clock := 0

def willing (granted : Bool) : Sys where
  descriptor clock := some (clock + 3)
  granted _ := granted
  interfaceName clock := if clock < 10 then "tap0" else "tap1"
  strerror _ := "Operation not permitted"

theorem lonelyKernel_standard : lonelyKernel.Standard := by
  intro fd below
  have other : fd ≠ 0 := by omega
  simp [lonelyKernel, other]

theorem lonelyKernel_named : lonelyKernel.Named := List.nodup_singleton _

/-- A device is refused, and another one is made, used and destroyed. -/
theorem descriptors_balanced_refused : ∃ d d' : Devices Bool, d.Owns lonelyKernel ∧
    run (step 1373) d [(willing false, .destroy true)] = some d' ∧
      d'.kernel.files = lonelyKernel.files := by
  obtain ⟨d, taken, listed⟩ : ∃ d, run (step 1373) (start Bool lonelyKernel)
      [(willing false, .create false), (willing true, .create true), (willing false, .setIp true 3 1),
        (willing true, .receive true [1, 2]), (willing true, .getDataBackend true)] = some d ∧
      ∀ k, k ∈ [true] ↔ d.tun k ≠ none := exists_run _ _ _ (by decide +kernel)
  obtain ⟨owns, restored⟩ := descriptors_balanced lonelyKernel_standard lonelyKernel_named taken
  obtain ⟨d', rest, files, -⟩ := restored (fun _ => willing false) [true] (by decide) listed
  exact ⟨d, d', owns, rest, files⟩

/-! ## The addresses in use -/

/-- The requests of `setIp` are granted, and its socket is opened. -/
def Granted (d : Devices κ) (input : Sys × DeviceCall κ) : Prop :=
  ∀ k subnet ipPostfix, input.2 = .setIp k subnet ipPostfix →
    (∀ clock, input.1.granted clock = true) ∧
      ∃ n : Nat, input.1.descriptor d.kernel.clock = some n ∧ d.kernel.files n = none

/-- The addresses that the calls of a run have asked for. -/
def planned (inputs : List (Sys × DeviceCall κ)) : κ → Option Ip4 :=
  inputs.foldl (fun plan input => input.2.plan plan) fun _ => none

/-- Every device has the address that was planned for it. -/
structure Follows (d : Devices κ) (plan : κ → Option Ip4) : Prop where
  addr : ∀ k t i, d.tun k = some t → d.kernel.interface t.name = some i → i.addr = plan k
  absent : ∀ k, d.tun k = none → plan k = none

section
variable {base : Kernel} {d d' : Devices κ} {maxPacketSize}

theorem Follows.preserved {plan : κ → Option Ip4} (follows : d.Follows plan) (owns : d.Owns base)
    {S : Sys} {call : DeviceCall κ} (granted : d.Granted (S, call))
    (taken : step maxPacketSize d (S, call) = some d') : d'.Follows (call.plan plan) := by
  cases owns.happens taken with
  | @created k t k' absent valid free new files interfaces =>
      have table := Kernel.interface_append interfaces new
      refine ⟨fun l u i live found => ?_, fun l gone => ?_⟩
      · simp only [table] at found
        rcases held_given live with ⟨rfl, rfl⟩ | ⟨other, before⟩
        · rw [Function.update_self] at found
          cases found
          simp [DeviceCall.plan]
        · have away : u.name ≠ t.name := fun same =>
            owns.names.unheld new l (by simp [before, same])
          rw [Function.update_of_ne away] at found
          simpa [DeviceCall.plan, other] using follows.addr l u i before found
      · by_cases same : l = k
        · simp [DeviceCall.plan, same]
        · simpa [DeviceCall.plan, same] using follows.absent l (by simpa [same] using gone)
  | @refused k k' absent files interfaces =>
      have unchanged : DeviceCall.plan plan (.create k) = plan := by
        rw [DeviceCall.plan, ← follows.absent k absent, Function.update_eq_self]
      rw [unchanged]
      refine ⟨fun l u i live found => follows.addr l u i live ?_, follows.absent⟩
      rwa [Kernel.interface, interfaces] at found
  | @destroyed k t k' live files interfaces =>
      have table := Kernel.interface_filter interfaces
      refine ⟨fun l u i live' found => ?_, fun l gone => ?_⟩
      · obtain ⟨other, before⟩ := held_taken live'
        simp only [table] at found
        rw [Function.update_of_ne (owns.name_ne live before other)] at found
        simpa [DeviceCall.plan, other] using follows.addr l u i before found
      · by_cases same : l = k
        · simp [DeviceCall.plan, same]
        · simpa [DeviceCall.plan, same] using follows.absent l (by simpa [same] using gone)
  | @configured k t subnet ipPostfix k' live run configures =>
      obtain ⟨grants, n, descriptor, free⟩ := granted k subnet ipPostfix rfl
      obtain ⟨j, named⟩ := owns.interface live
      obtain ⟨k'', run', set⟩ :
          ∃ k'', TunUnix.setIp S maxPacketSize t subnet ipPostfix d.kernel = .returned () k'' ∧
            k''.interface t.name = some (j.addressed maxPacketSize subnet ipPostfix) :=
        TunUnix.setIp_granted grants descriptor free named
      cases run.symm.trans run'
      obtain ⟨change, -, -, others⟩ := configures.interface
      refine ⟨fun l u i live' found => ?_, fun l gone => ?_⟩
      · by_cases same : l = k
        · subst same
          cases live.symm.trans live'
          cases set.symm.trans found
          simp [DeviceCall.plan, Interface.addressed]
        · have found' := (others u.name (owns.name_ne live live' same)).symm.trans found
          simpa [DeviceCall.plan, same] using follows.addr l u i live' found'
      · have same : l ≠ k := by
          rintro rfl
          rw [live] at gone
          cases gone
        simpa [DeviceCall.plan, same] using follows.absent l gone
  | @used _ k t k' live uses unplanned =>
      rw [unplanned]
      refine ⟨fun l u i live' found => follows.addr l u i live' ?_, follows.absent⟩
      rwa [Kernel.interface, uses.1] at found

theorem planned_concat (inputs : List (Sys × DeviceCall κ)) (input : Sys × DeviceCall κ) :
    planned (inputs ++ [input]) = input.2.plan (planned inputs) := by
  rw [planned, List.foldl_append]
  rfl

theorem runs_follows (standard : base.Standard) (named : base.Named) {inputs : List (Sys × DeviceCall κ)}
    (runs : Runs (step maxPacketSize) Granted (start κ base) inputs d) :
    d.Owns base ∧ d.Follows (planned inputs) := by
  induction runs with
  | start =>
      refine ⟨Owns.start standard named, fun k t i live => ?_, fun _ _ => rfl⟩
      cases live
  | @step inputs d d' input before granted taken ih =>
      obtain ⟨owns, follows⟩ := ih
      rw [planned_concat]
      exact ⟨owns.preserved taken, follows.preserved owns granted taken⟩

/-- The addresses in use are those from before and the ones set on the devices, so a
subnet counts as unused just when neither the host nor a device has it. -/
theorem used_addresses (standard : base.Standard) (named : base.Named)
    {inputs : List (Sys × DeviceCall κ)}
    (runs : Runs (step maxPacketSize) Granted (start κ base) inputs d) {S : Sys}
    (granted : S.granted d.kernel.clock = true) :
    ∃ usedIps k', TunUnix.getUsedIp4Addresses S d.kernel = .returned usedIps k' ∧
      (∀ addr, addr ∈ usedIps ↔
        addr ∈ TunUnix.usedAddresses base.ifaddrs ∨ ∃ k, planned inputs k = some addr) ∧
      ∀ subnet, addrspaceUnused usedIps subnet = true ↔
        addrspaceUnused (TunUnix.usedAddresses base.ifaddrs) subnet = true ∧
          ∀ k ipPostfix, planned inputs k ≠ some (192, 168, subnet, ipPostfix) := by
  obtain ⟨owns, follows⟩ := runs_follows standard named runs
  refine ⟨TunUnix.usedAddresses d.kernel.ifaddrs, d.kernel.tick, ?_, ?_⟩
  · simp only [TunUnix.getUsedIp4Addresses, Kernel.getifaddrs, granted, if_true, bind_apply,
      Outcome.andThen_returned, pure_apply]
  have used (addr : Ip4) : addr ∈ TunUnix.usedAddresses d.kernel.ifaddrs ↔
      addr ∈ TunUnix.usedAddresses base.ifaddrs ∨ ∃ k, planned inputs k = some addr := by
    rw [owns.named.mem_used, named.mem_used]
    constructor
    · rintro ⟨name, i, found, address⟩
      by_cases held : ∃ k, (d.tun k).map TunUnix.name = some name
      · obtain ⟨k, holds⟩ := held
        obtain ⟨t, live, rfl⟩ := Option.map_eq_some_iff.mp holds
        exact .inr ⟨k, (follows.addr k t i live found).symm.trans address⟩
      · rw [owns.names.rest name fun k holds => held ⟨k, holds⟩] at found
        exact .inl ⟨name, i, found, address⟩
    · rintro (⟨name, i, found, address⟩ | ⟨k, address⟩)
      · exact ⟨name, i, owns.names.table_of_base found, address⟩
      · cases live : d.tun k with
        | none =>
            rw [follows.absent k live] at address
            cases address
        | some t =>
            obtain ⟨i, found⟩ := owns.interface live
            exact ⟨t.name, i, found, (follows.addr k t i live found).trans address⟩
  refine ⟨used, fun subnet => ?_⟩
  rw [addrspaceUnused_forall, addrspaceUnused_forall]
  constructor
  · intro unused
    exact ⟨fun ipPostfix mem => unused ipPostfix ((used _).mpr (.inl mem)),
      fun k ipPostfix address => unused ipPostfix ((used _).mpr (.inr ⟨k, address⟩))⟩
  · rintro ⟨host, devices⟩ ipPostfix mem
    rcases (used _).mp mem with before | ⟨k, address⟩
    · exact host ipPostfix before
    · exact devices k ipPostfix address

end

/-- Two devices with an address each, of which one is destroyed again. -/
theorem used_addresses_twoDevices : ∃ usedIps,
    (192, 168, 3, 1) ∉ usedIps ∧ (192, 168, 4, 2) ∈ usedIps ∧ addrspaceUnused usedIps 4 = false := by
  let inputs : List (Sys × DeviceCall Bool) := [(willing true, .create false),
    (willing true, .setIp false 3 1), (willing true, .create true), (willing true, .setIp true 4 2),
    (willing true, .destroy false)]
  let free (d : Devices Bool) (_ : Sys × DeviceCall Bool) : Bool :=
    (d.kernel.files (d.kernel.clock + 3 : Nat)).isNone
  obtain ⟨d, taken⟩ := Option.isSome_iff_exists.mp (by decide +kernel :
    (run (guarded free (step 1373)) (start Bool lonelyKernel) inputs).isSome = true)
  have runs : Runs (step 1373) Granted (start Bool lonelyKernel) inputs d :=
    (Runs.of_guarded_run (P := fun i => i.1 = willing true) taken (by simp [inputs])).mono
      fun d i ok k subnet ipPostfix _ => by
        rw [ok.1]
        exact ⟨fun _ => rfl, d.kernel.clock + 3, rfl, Option.isNone_iff_eq_none.mp ok.2⟩
  obtain ⟨usedIps, k', -, used, unused⟩ :=
    used_addresses lonelyKernel_standard lonelyKernel_named runs (S := willing true) rfl
  refine ⟨usedIps, fun mem => ?_, (used _).mpr (.inr ⟨true, rfl⟩), ?_⟩
  · rcases (used _).mp mem with host | ⟨k, address⟩
    · revert host
      decide +kernel
    · revert address
      cases k <;> decide +kernel
  · rw [← Bool.not_eq_true, unused]
    exact fun h => h.2 true 2 rfl

end Devices

end LibToxTun
