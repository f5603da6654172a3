import LibToxTun.Foundation.Preservation
import LibToxTun.Tun.Kernel

/-! # The Unix backend

`TunUnix` opens the clone device in its constructor and makes a TAP interface of it. An
address is set through a socket of its own, by requests that fill one `struct ifreq` again
and again. Log output is left out.
-/

namespace LibToxTun

open Foundation Foundation.Action

namespace TunInterface

/-- `192.168.subnet.ipPostfix` in dotted decimals. -/
def ipv4FromPostfix (subnet ipPostfix : UInt8) : String :=
  "192.168." ++ toString subnet.toNat ++ "." ++ toString ipPostfix.toNat

end TunInterface

/-- A part of a dotted address, in decimal. -/
def decimalByte (digits : List Char) : Option UInt8 :=
  if digits ≠ [] ∧ digits.all Char.isDigit then
    let n := digits.foldl (fun n c => n * 10 + (c.toNat - '0'.toNat)) 0
    if n < 256 then some (UInt8.ofNat n) else none
  else none

/-- `inet_addr` on dotted decimals; what is no address becomes `INADDR_NONE`. -/
def inetAddr (text : String) : Ip4 :=
  match (text.toList.splitOn '.').map decimalByte with
  | [some a, some b, some c, some d] => (a, b, c, d)
  | _ => (255, 255, 255, 255)

structure TunUnix where
  fd : Int
  name : String
deriving DecidableEq, Repr

namespace TunUnix

section
variable (S : Sys)

open Kernel

/-- The constructor. -/
def create : Code Kernel TunUnix := do
  let fd ← openTun S
  if fd < 0 then
    throw (.toxTunError ("Error while opening \"/dev/net/tun\": " ++ S.strerror (← Action.read Kernel.clock)))
  else
    let (ok, ifr) ← ioctl S fd .tunSetIff ⟨"", .flags (IFF_TAP ||| IFF_NO_PI)⟩
    if !ok then
      let errStr ← Action.read fun k => S.strerror k.clock
      close fd
      throw (.toxTunError ("ioctl failed: " ++ errStr))
    else pure ⟨fd, ifr.name⟩

/-- The first three requests of `setIp`, which go on when they fail: address, netmask and
MTU. The MTU is what fits in a packet of tox behind a header byte and an ethernet header. -/
def setAddress (maxPacketSize : Nat) (fd : Int) (ifr : Ifreq) (ip : String) : Code Kernel Ifreq := do
  let ifr := { ifr with ifru := .addr (inetAddr ip) }
  let (_, ifr) ← ioctl S fd .siocsIfAddr ifr
  let ifr := { ifr with ifru := .addr (inetAddr "255.255.255.0") }
  let (_, ifr) ← ioctl S fd .siocsIfNetmask ifr
  let ifr := { ifr with ifru := .mtu (maxPacketSize - 18 - 1) }
  let (_, ifr) ← ioctl S fd .siocsIfMtu ifr
  pure ifr

/-- The last two requests of `setIp` and `shutdown`: the flags are read, changed and
written back, and the socket is closed. -/
def changeFlags (change : UInt16 → UInt16) (fd : Int) (ifr : Ifreq) : Code Kernel Unit := do
  let (ok, ifr) ← ioctl S fd .siocgIfFlags ifr
  if !ok then close fd
  else
    let ifr := match ifr.ifru with
      | .flags bits => { ifr with ifru := .flags (change bits) }
      | _ => ifr
    let _ ← ioctl S fd .siocsIfFlags ifr
    close fd

def setIp (maxPacketSize : Nat) (t : TunUnix) (subnet ipPostfix : UInt8) : Code Kernel Unit :=
  Action.noexcept do
    let fd ← socket S
    let ifr : Ifreq := ⟨t.name, .zero⟩
    let ifr ← setAddress S maxPacketSize fd ifr (TunInterface.ipv4FromPostfix subnet ipPostfix)
    changeFlags S (fun bits => bits ||| (IFF_UP ||| IFF_RUNNING)) fd ifr

def shutdown (t : TunUnix) : Code Kernel Unit := do
  let fd ← socket S
  changeFlags S (fun bits => bits &&& (~~~ IFF_UP &&& ~~~ IFF_RUNNING)) fd ⟨t.name, .zero⟩

/-- The destructor. -/
def destroy (t : TunUnix) : Code Kernel Unit := do
  shutdown S t
  if 0 ≤ t.fd then close t.fd

/-- The loop over the entries, which skips those of other families. -/
def usedAddresses : List (Option Ip4) → List Ip4
  | [] => []
  | none :: rest => usedAddresses rest
  | some addr :: rest => addr :: usedAddresses rest

def getUsedIp4Addresses : Code Kernel (List Ip4) := do
  match ← getifaddrs S with
  | none => throw (.toxTunError ("Can't get used IP addresses: " ++ S.strerror (← Action.read Kernel.clock)))
  | some entries => pure (usedAddresses entries)

/-- A failed `select` is logged only, and the set is looked into all the same. -/
def dataPending (t : TunUnix) : Code Kernel Bool := do
  let (_, isSet) ← select S t.fd
  pure isSet

def bufferSize : Nat := 1500 + 18

def getDataBackend (t : TunUnix) : Code Kernel Data := do
  match ← Kernel.read S t.fd bufferSize with
  | none => throw (.toxTunError "Reading from TUN returns -1")
  | some buffer => ofExcept (Data.fromTunData buffer)

def sendData (t : TunUnix) (data : Data) : Code Kernel Unit := do
  let ipData ← ofExcept data.getIpData
  let ok ← Kernel.write S t.fd ipData
  if !ok then
    throw (.toxTunError ("Writing to tun failed: " ++ S.strerror (← Action.read Kernel.clock)))

end

end TunUnix

/-! ## Requests change one interface -/

namespace Kernel

/-- No file has changed, and no interface but one, which keeps its name. -/
def ConfiguresOnly (name : String) (k k' : Kernel) : Prop :=
  k'.files = k.files ∧ ∃ change : Interface → Interface, (∀ i, (change i).name = i.name) ∧
    k'.interfaces = (k.configure name change).interfaces

section
variable {name : String}

instance : IsPreorder Kernel (ConfiguresOnly name) where
  refl k := by
    refine ⟨rfl, id, fun _ => rfl, ?_⟩
    simp [configure]
  trans k k' k'' h h' := by
    obtain ⟨files, change, named, changed⟩ := h
    obtain ⟨files', change', named', changed'⟩ := h'
    refine ⟨files'.trans files, change' ∘ change, fun i => (named' _).trans (named i), ?_⟩
    rw [changed', configure, changed, configure, configure, List.map_map]
    refine List.map_congr_left fun i _ => ?_
    by_cases own : i.name = name
    · simp [own, named]
    · simp [own]

theorem configuresOnly_tick (k : Kernel) : ConfiguresOnly name k k.tick :=
  Std.Refl.refl (r := ConfiguresOnly name) k

theorem configuresOnly_configure (k : Kernel) {change : Interface → Interface}
    (named : ∀ i, (change i).name = i.name) : ConfiguresOnly name k (k.configure name change) :=
  ⟨rfl, change, named, rfl⟩

variable (S : Sys)

theorem serve_configures {k k' : Kernel} {fd : Int} {request : Request} {ifr ifr' : Ifreq}
    {newName : String} (plain : request ≠ .tunSetIff)
    (served : k.serve fd request ifr newName = some (k', ifr')) :
    ConfiguresOnly ifr.name k k' ∧ ifr'.name = ifr.name := by
  have configured {change : Interface → Interface}
      (done : (k.interface ifr.name).map (fun _ => (k.configure ifr.name change, ifr)) =
        some (k', ifr')) (named : ∀ i, (change i).name = i.name) :
      ConfiguresOnly ifr.name k k' ∧ ifr'.name = ifr.name := by
    obtain ⟨i, -, same⟩ := Option.map_eq_some_iff.mp done
    cases same
    exact ⟨configuresOnly_configure k named, rfl⟩
  unfold serve at served
  split at served
  · exact (plain rfl).elim
  · exact configured served fun _ => rfl
  · exact configured served fun _ => rfl
  · exact configured served fun _ => rfl
  · obtain ⟨i, -, same⟩ := Option.map_eq_some_iff.mp served
    cases same
    exact ⟨Std.Refl.refl (r := ConfiguresOnly ifr.name) k, rfl⟩
  · exact configured served fun _ => rfl
  · cases served

theorem ioctl_configures (fd : Int) (request : Request) (plain : request ≠ .tunSetIff) (ifr : Ifreq)
    (k : Kernel) : ∃ ok ifr' k', ioctl S fd request ifr k = .returned (ok, ifr') k' ∧
      ConfiguresOnly ifr.name k k' ∧ ifr'.name = ifr.name := by
  unfold ioctl
  split
  · next k' ifr' served =>
      split at served
      · obtain ⟨configures, named⟩ := serve_configures plain served
        exact ⟨true, ifr', k'.tick, rfl,
          IsTrans.trans (r := ConfiguresOnly _) _ _ _ configures (configuresOnly_tick k'), named⟩
      · cases served
  · exact ⟨false, ifr, k.tick, rfl, configuresOnly_tick k, rfl⟩

/-- A request that is granted and served. -/
theorem ioctl_served {k k' : Kernel} {fd : Int} {request : Request} {ifr ifr' : Ifreq}
    (granted : S.granted k.clock = true)
    (served : k.serve fd request ifr (S.interfaceName k.clock) = some (k', ifr')) :
    ioctl S fd request ifr k = .returned (true, ifr') k'.tick := by
  simp only [ioctl, granted, if_true, served]

/-- There are no descriptors below zero. -/
def Standard (k : Kernel) : Prop := ∀ fd < 0, k.files fd = none

theorem handOut_cases (file : File) (k : Kernel) :
    (∃ n : Nat, k.files n = none ∧
      handOut S file k = .returned (n : Int) (k.setFile n (some file)).tick) ∨
      handOut S file k = .returned (-1) k.tick := by
  unfold handOut
  cases S.descriptor k.clock with
  | none => exact .inr rfl
  | some n =>
      by_cases free : k.files n = none
      · exact .inl ⟨n, free, by simp [free]⟩
      · exact .inr (by simp [free])

/-- What is no file of a device is closed without further effect. -/
theorem close_plain {k : Kernel} {fd : Int} (plain : k.files fd = some .socket ∨ k.files fd = none) :
    close fd k = .returned () (k.setFile fd none).tick := by
  unfold close
  rcases plain with same | same <;> rw [same] <;> rfl

end

end Kernel

namespace TunUnix

open Kernel

section
variable (S : Sys)

theorem setAddress_configures (maxPacketSize : Nat) (fd : Int) (ifr : Ifreq) (ip : String)
    (k : Kernel) : ∃ ifr' k', setAddress S maxPacketSize fd ifr ip k = .returned ifr' k' ∧
      ConfiguresOnly ifr.name k k' ∧ ifr'.name = ifr.name := by
  obtain ⟨ok₁, ifr₁, k₁, run₁, conf₁, name₁⟩ := ioctl_configures S fd .siocsIfAddr (by decide)
    { ifr with ifru := .addr (inetAddr ip) } k
  obtain ⟨ok₂, ifr₂, k₂, run₂, conf₂, name₂⟩ := ioctl_configures S fd .siocsIfNetmask (by decide)
    { ifr₁ with ifru := .addr (inetAddr "255.255.255.0") } k₁
  obtain ⟨ok₃, ifr₃, k₃, run₃, conf₃, name₃⟩ := ioctl_configures S fd .siocsIfMtu (by decide)
    { ifr₂ with ifru := .mtu (maxPacketSize - 18 - 1) } k₂
  simp only at name₁ name₂ name₃ conf₁ conf₂ conf₃
  rw [name₁] at conf₂ name₂
  rw [name₂] at conf₃ name₃
  refine ⟨ifr₃, k₃, ?_, ?_, name₃⟩
  · simp only [setAddress, bind_apply, run₁, run₂, run₃, Outcome.andThen_returned, pure_apply]
  · exact IsTrans.trans (r := ConfiguresOnly _) _ _ _ conf₁
      (IsTrans.trans (r := ConfiguresOnly _) _ _ _ conf₂ conf₃)

theorem changeFlags_configures (change : UInt16 → UInt16) (fd : Int) (ifr : Ifreq) {k : Kernel}
    (plain : k.files fd = some .socket ∨ k.files fd = none) :
    ∃ k', ConfiguresOnly ifr.name k k' ∧
      changeFlags S change fd ifr k = .returned () (k'.setFile fd none).tick := by
  obtain ⟨ok, ifr₁, k₁, run₁, conf₁, name₁⟩ := ioctl_configures S fd .siocgIfFlags (by decide) ifr k
  have plain₁ : k₁.files fd = some .socket ∨ k₁.files fd = none := conf₁.1 ▸ plain
  cases ok with
  | false =>
      refine ⟨k₁, conf₁, ?_⟩
      simp only [changeFlags, bind_apply, run₁, Outcome.andThen_returned, Bool.not_false, if_true]
      exact close_plain plain₁
  | true =>
      let ifr₂ : Ifreq := match ifr₁.ifru with
        | .flags bits => { ifr₁ with ifru := .flags (change bits) }
        | _ => ifr₁
      have name₂ : ifr₂.name = ifr.name := by
        rw [← name₁]
        simp only [ifr₂]
        split <;> rfl
      obtain ⟨ok₃, ifr₃, k₃, run₃, conf₃, -⟩ := ioctl_configures S fd .siocsIfFlags (by decide)
        ifr₂ k₁
      rw [name₂] at conf₃
      refine ⟨k₃, IsTrans.trans (r := ConfiguresOnly _) _ _ _ conf₁ conf₃, ?_⟩
      simp only [changeFlags, bind_apply, run₁, Outcome.andThen_returned, Bool.not_true,
        Bool.false_eq_true, if_false]
      change ((ioctl S fd .siocsIfFlags ifr₂ k₁).andThen fun _ => close fd) = _
      rw [run₃, Outcome.andThen_returned]
      exact close_plain (conf₃.1 ▸ plain₁)

/-- A function that works on a socket of its own and closes it leaves no file behind. -/
theorem withSocket_configures {name : String} {body : Int → Code Kernel Unit} {k : Kernel}
    (standard : k.Standard)
    (works : ∀ fd k, (k.files fd = some .socket ∨ k.files fd = none) → ∃ k', ConfiguresOnly name k k' ∧
      body fd k = .returned () (k'.setFile fd none).tick) :
    ∃ k', (socket S >>= body) k = .returned () k' ∧ ConfiguresOnly name k k' := by
  rcases handOut_cases S .socket k with ⟨n, free, run⟩ | run
  · obtain ⟨k', ⟨files, change, named, changed⟩, ends⟩ := works n (k.setFile n (some .socket)).tick
      (.inl (Function.update_self ..))
    refine ⟨(k'.setFile n none).tick, ?_, ?_, change, named, changed⟩
    · rw [bind_apply, socket, run, Outcome.andThen_returned, ends]
    · simp only [tick, setFile, files, Function.update_idem]
      rw [← free, Function.update_eq_self]
  · have absent : k.files (-1) = none := standard (-1) (by decide)
    obtain ⟨k', ⟨files, change, named, changed⟩, ends⟩ := works (-1) k.tick (.inr absent)
    refine ⟨(k'.setFile (-1) none).tick, ?_, ?_, change, named, changed⟩
    · rw [bind_apply, socket, run, Outcome.andThen_returned, ends]
    · simp only [tick, setFile, files]
      rw [← absent, Function.update_eq_self]

/-- Setting the address ends, whatever fails. It leaves all descriptors as they were, and
every interface but that of the device. -/
theorem setIp_configures (maxPacketSize : Nat) (t : TunUnix) (subnet ipPostfix : UInt8) {k : Kernel}
    (standard : k.Standard) : ∃ k', setIp S maxPacketSize t subnet ipPostfix k = .returned () k' ∧
      ConfiguresOnly t.name k k' := by
  let body : Int → Code Kernel Unit := fun fd => do
    let ifr ← setAddress S maxPacketSize fd ⟨t.name, .zero⟩
      (TunInterface.ipv4FromPostfix subnet ipPostfix)
    changeFlags S (fun bits => bits ||| (IFF_UP ||| IFF_RUNNING)) fd ifr
  have works (fd : Int) (k : Kernel) (plain : k.files fd = some .socket ∨ k.files fd = none) :
      ∃ k', ConfiguresOnly t.name k k' ∧ body fd k = .returned () (k'.setFile fd none).tick := by
    obtain ⟨ifr, k₁, run, conf, named⟩ := setAddress_configures S maxPacketSize fd ⟨t.name, .zero⟩
      (TunInterface.ipv4FromPostfix subnet ipPostfix) k
    obtain ⟨k₂, conf', ends⟩ := changeFlags_configures S
      (fun bits => bits ||| (IFF_UP ||| IFF_RUNNING)) fd ifr (k := k₁) (conf.1 ▸ plain)
    rw [named] at conf'
    refine ⟨k₂, IsTrans.trans (r := ConfiguresOnly _) _ _ _ conf conf', ?_⟩
    simp only [body, bind_apply, run, Outcome.andThen_returned, ends]
  obtain ⟨k', run, conf⟩ := withSocket_configures S standard works
  exact ⟨k', congrArg Outcome.guarded run, conf⟩

theorem shutdown_configures (t : TunUnix) {k : Kernel} (standard : k.Standard) :
    ∃ k', shutdown S t k = .returned () k' ∧ ConfiguresOnly t.name k k' :=
  withSocket_configures S standard fun fd _ plain =>
    changeFlags_configures S _ fd ⟨t.name, .zero⟩ plain

/-! ## Construction and destruction -/

/-- The constructor takes one descriptor for one new interface, or throws and leaves
everything as it was. -/
theorem create_cases (k : Kernel) :
    (∃ t k', create S k = .returned t k' ∧ 0 ≤ t.fd ∧ k.files t.fd = none ∧
      k.interface t.name = none ∧
      k'.files = Function.update k.files t.fd (some (.tun (some t.name) [] [])) ∧
      k'.interfaces = k.interfaces ++ [⟨t.name, none, none, 1500, 0⟩]) ∨
    ∃ what k', create S k = .thrown (.toxTunError what) k' ∧ k'.files = k.files ∧
      k'.interfaces = k.interfaces := by
  rcases handOut_cases S (.tun none [] []) k with ⟨n, free, run⟩ | run
  · let k₁ := (k.setFile n (some (.tun none [] []))).tick
    have file : k₁.files n = some (.tun none [] []) := Function.update_self ..
    have valid : ¬ (n : Int) < 0 := by omega
    by_cases granted : S.granted k₁.clock = true ∧ k.interface (S.interfaceName k₁.clock) = none
    · obtain ⟨allowed, new⟩ := granted
      let name := S.interfaceName k₁.clock
      have new₁ : k₁.interface name = none := new
      have served : k₁.serve n .tunSetIff ⟨"", .flags (IFF_TAP ||| IFF_NO_PI)⟩ name =
          some (k₁.attach n name, ⟨name, .flags (IFF_TAP ||| IFF_NO_PI)⟩) := by
        simp only [serve, file, new₁, and_self, if_true]
      refine .inl ⟨⟨n, name⟩, (k₁.attach n name).tick, ?_, Int.natCast_nonneg n, free, new, ?_, rfl⟩
      · simp only [create, bind_apply, openTun, run, Outcome.andThen_returned, valid, if_false]
        change ((ioctl S n .tunSetIff ⟨"", .flags (IFF_TAP ||| IFF_NO_PI)⟩ k₁).andThen _) = _
        rw [ioctl_served S allowed served]
        rfl
      · simp only [tick, attach, setFile, k₁, Function.update_idem]
    · have refused : (if S.granted k₁.clock = true then
          k₁.serve n .tunSetIff ⟨"", .flags (IFF_TAP ||| IFF_NO_PI)⟩ (S.interfaceName k₁.clock)
            else none) = none := by
        split
        · next allowed =>
            have taken : k₁.interface (S.interfaceName k₁.clock) ≠ none :=
              fun new => granted ⟨allowed, new⟩
            simp only [serve, file, taken, and_false, if_false]
        · rfl
      have file₂ : k₁.tick.files n = some (.tun none [] []) := file
      refine .inr ⟨"ioctl failed: " ++ S.strerror k₁.tick.clock,
        ((k₁.tick.setFile n none).dropInterface (k₁.tick.files n)).tick, ?_, ?_, ?_⟩
      · simp only [create, bind_apply, openTun, run, Outcome.andThen_returned, valid, if_false]
        change ((ioctl S n .tunSetIff ⟨"", .flags (IFF_TAP ||| IFF_NO_PI)⟩ k₁).andThen _) = _
        simp only [ioctl, refused]
        rfl
      · simp only [tick, dropInterface_files, setFile, k₁, Function.update_idem]
        rw [← free, Function.update_eq_self]
      · rw [file₂]
        rfl
  · refine .inr ⟨"Error while opening \"/dev/net/tun\": " ++ S.strerror k.tick.clock, k.tick, ?_, rfl, rfl⟩
    simp only [create, bind_apply, openTun, run, Outcome.andThen_returned]
    rfl

/-- The destructor closes the descriptor of the device, and its interface is gone. -/
theorem destroy_closes {t : TunUnix} {k : Kernel} (standard : k.Standard) (valid : 0 ≤ t.fd)
    {incoming outgoing : List (List UInt8)}
    (file : k.files t.fd = some (.tun (some t.name) incoming outgoing)) :
    ∃ k', destroy S t k = .returned () k' ∧ k'.files = Function.update k.files t.fd none ∧
      k'.interfaces = k.interfaces.filter fun i => i.name ≠ t.name := by
  obtain ⟨k₁, run, files, change, named, changed⟩ := shutdown_configures S t standard
  refine ⟨((k₁.setFile t.fd none).dropInterface (k₁.files t.fd)).tick, ?_, ?_, ?_⟩
  · simp only [destroy, bind_apply, run, Outcome.andThen_returned, valid, if_true]
    rfl
  · simp only [tick, dropInterface_files, setFile, files]
  · rw [files, file]
    simp only [dropInterface, tick, setFile, changed]
    exact configure_filter k named

end

end TunUnix

/-! ## Addresses -/

namespace TunInterface

theorem decimalByte_repr (b : UInt8) : decimalByte (Nat.toDigits 10 b.toNat) = some b ∧
    '.' ∉ Nat.toDigits 10 b.toNat := by
  have all : ∀ n < 256, decimalByte (Nat.toDigits 10 n) = some (UInt8.ofNat n) ∧
      '.' ∉ Nat.toDigits 10 n := by decide +kernel
  have byte := all b.toNat b.toNat_lt
  rwa [UInt8.ofNat_toNat] at byte

/-- What `setIp` writes as text is read back as the address. -/
theorem inetAddr_ipv4FromPostfix (subnet ipPostfix : UInt8) :
    inetAddr (ipv4FromPostfix subnet ipPostfix) = (192, 168, subnet, ipPostfix) := by
  obtain ⟨first, plain⟩ := decimalByte_repr subnet
  obtain ⟨second, plain'⟩ := decimalByte_repr ipPostfix
  have text : (ipv4FromPostfix subnet ipPostfix).toList = ['.'].intercalate
      ["192".toList, "168".toList, Nat.toDigits 10 subnet.toNat, Nat.toDigits 10 ipPostfix.toNat] := by
    simp [ipv4FromPostfix, List.intercalate, Nat.repr]
  have parts : (ipv4FromPostfix subnet ipPostfix).toList.splitOn '.' =
      ["192".toList, "168".toList, Nat.toDigits 10 subnet.toNat, Nat.toDigits 10 ipPostfix.toNat] := by
    rw [text]
    refine List.splitOn_intercalate _ ?_ (by simp)
    simp only [List.mem_cons, List.not_mem_nil, or_false]
    rintro l (rfl | rfl | rfl | rfl)
    · decide
    · decide
    · exact plain
    · exact plain'
  have known : decimalByte "192".toList = some 192 ∧ decimalByte "168".toList = some 168 := by
    decide +kernel
  simp only [inetAddr, parts, List.map_cons, List.map_nil, first, second, known]

end TunInterface

namespace Kernel

theorem ConfiguresOnly.interface {name : String} {k k' : Kernel} (h : ConfiguresOnly name k k') :
    ∃ change : Interface → Interface, (∀ i, (change i).name = i.name) ∧
      k'.interface name = (k.interface name).map change ∧
        ∀ other ≠ name, k'.interface other = k.interface other := by
  obtain ⟨-, change, named, changed⟩ := h
  have same (other : String) : k'.interface other = (k.configure name change).interface other :=
    congrArg (List.find? fun i : Interface => i.name = other) changed
  refine ⟨change, named, ?_, fun other away => ?_⟩
  · rw [same, interface_configure k named]
  · rw [same, interface_configure_of_ne k named away]

end Kernel

/-- An interface that is up with an address for a connection. -/
def Interface.addressed (maxPacketSize : Nat) (subnet ipPostfix : UInt8) (i : Interface) : Interface :=
  { i with
    addr := some (192, 168, subnet, ipPostfix)
    netmask := some (255, 255, 255, 0)
    mtu := maxPacketSize - 18 - 1
    flags := i.flags ||| (IFF_UP ||| IFF_RUNNING) }

namespace TunUnix

open Kernel

section
variable {S : Sys} (grants : ∀ clock, S.granted clock = true)
include grants

/-- A request that is served under whatever name. -/
theorem ioctl_granted (fd : Int) (request : Request) (ifr : Ifreq) (k : Kernel) {ifr' : Ifreq}
    {k' : Kernel} (served : ∀ newName, k.serve fd request ifr newName = some (k', ifr')) :
    ioctl S fd request ifr k = .returned (true, ifr') k'.tick :=
  ioctl_served S (grants _) (served _)

/-- When the system grants its requests, `setIp` brings the interface up with the address
`192.168.subnet.ipPostfix` in a network of 24 bits, and with an MTU that fits in a packet. -/
theorem setIp_granted {maxPacketSize : Nat} {t : TunUnix} {subnet ipPostfix : UInt8} {k : Kernel}
    {n : Nat} (descriptor : S.descriptor k.clock = some n) (free : k.files n = none)
    {i : Interface} (found : k.interface t.name = some i) :
    ∃ k', setIp S maxPacketSize t subnet ipPostfix k = .returned () k' ∧
      k'.interface t.name = some (i.addressed maxPacketSize subnet ipPostfix) := by
  let request (change : Interface → Interface) (k : Kernel) : Kernel := (k.configure t.name change).tick
  let setAddr (i : Interface) : Interface := { i with addr := some (192, 168, subnet, ipPostfix) }
  let setNetmask (i : Interface) : Interface := { i with netmask := some (255, 255, 255, 0) }
  let setMtu (i : Interface) : Interface := { i with mtu := maxPacketSize - 18 - 1 }
  let flags := i.flags ||| (IFF_UP ||| IFF_RUNNING)
  let setFlags (i : Interface) : Interface := { i with flags := flags }
  let k₀ := (k.setFile n (some .socket)).tick
  let k₁ := request setAddr k₀
  let k₂ := request setNetmask k₁
  let k₃ := request setMtu k₂
  let k₄ := request setFlags k₃.tick
  have file : k₀.files n = some .socket := Function.update_self ..
  have changed {k : Kernel} {i : Interface} {change : Interface → Interface}
      (found : k.interface t.name = some i) (named : ∀ i, (change i).name = i.name) :
      (request change k).interface t.name = some (change i) :=
    (interface_configure k named).trans (by rw [found]; rfl)
  have found₁ : k₁.interface t.name = some (setAddr i) := changed found (k := k₀) fun _ => rfl
  have found₂ : k₂.interface t.name = some (setNetmask (setAddr i)) := changed found₁ fun _ => rfl
  have found₃ : k₃.interface t.name = some (setMtu (setNetmask (setAddr i))) :=
    changed found₂ fun _ => rfl
  have found₄ : k₄.interface t.name = some (i.addressed maxPacketSize subnet ipPostfix) :=
    changed (k := k₃.tick) found₃ fun _ => rfl
  have opened : socket S k = .returned (n : Int) k₀ := by
    simp only [socket, handOut, descriptor, free, if_true]
    rfl
  have addressed : setAddress S maxPacketSize n ⟨t.name, .zero⟩
      (TunInterface.ipv4FromPostfix subnet ipPostfix) k₀ =
        .returned ⟨t.name, .mtu (maxPacketSize - 18 - 1)⟩ k₃ := by
    have mask : inetAddr "255.255.255.0" = (255, 255, 255, 0) := by decide +kernel
    have run₁ := ioctl_granted grants n .siocsIfAddr ⟨t.name, .addr (192, 168, subnet, ipPostfix)⟩ k₀
      fun _ => by
        simp only [serve, file, show k₀.interface t.name = _ from found, Option.map_some]
        rfl
    have run₂ := ioctl_granted grants n .siocsIfNetmask ⟨t.name, .addr (255, 255, 255, 0)⟩ k₁
      fun _ => by simp only [serve, show k₁.files n = _ from file, found₁, Option.map_some]; rfl
    have run₃ := ioctl_granted grants n .siocsIfMtu ⟨t.name, .mtu (maxPacketSize - 18 - 1)⟩ k₂
      fun _ => by simp only [serve, show k₂.files n = _ from file, found₂, Option.map_some]; rfl
    simp only [setAddress, TunInterface.inetAddr_ipv4FromPostfix, mask, bind_apply]
    rw [run₁, Outcome.andThen_returned]
    change ((ioctl S n .siocsIfNetmask ⟨t.name, .addr (255, 255, 255, 0)⟩ k₁).andThen _) = _
    rw [run₂, Outcome.andThen_returned]
    change ((ioctl S n .siocsIfMtu ⟨t.name, .mtu (maxPacketSize - 18 - 1)⟩ k₂).andThen _) = _
    rw [run₃, Outcome.andThen_returned]
    rfl
  have raised : changeFlags S (fun bits => bits ||| (IFF_UP ||| IFF_RUNNING)) n
      ⟨t.name, .mtu (maxPacketSize - 18 - 1)⟩ k₃ = .returned () (k₄.setFile n none).tick := by
    have run₄ : ioctl S n .siocgIfFlags ⟨t.name, .mtu (maxPacketSize - 18 - 1)⟩ k₃ =
        .returned (true, ⟨t.name, .flags i.flags⟩) k₃.tick := ioctl_granted grants n .siocgIfFlags _ k₃
      fun _ => by simp only [serve, show k₃.files n = _ from file, found₃, Option.map_some]; rfl
    have run₅ := ioctl_granted grants n .siocsIfFlags ⟨t.name, .flags flags⟩ k₃.tick
      fun _ => by
        simp only [serve, show k₃.tick.files n = _ from file,
          show k₃.tick.interface t.name = _ from found₃, Option.map_some]
        rfl
    simp only [changeFlags, bind_apply]
    rw [run₄]
    simp only [Outcome.andThen_returned, Bool.not_true, Bool.false_eq_true, if_false, bind_apply]
    rw [run₅, Outcome.andThen_returned]
    exact close_plain (.inl file)
  refine ⟨(k₄.setFile n none).tick, ?_, found₄⟩
  simp only [setIp, noexcept_apply, bind_apply, opened, Outcome.andThen_returned, addressed, raised,
    Outcome.guarded_returned]

end

theorem mem_usedAddresses {entries : List (Option Ip4)} {addr : Ip4} :
    addr ∈ usedAddresses entries ↔ some addr ∈ entries := by
  induction entries with
  | nil => simp [usedAddresses]
  | cons entry rest ih => cases entry <;> simp [usedAddresses, ih]

end TunUnix

end LibToxTun
