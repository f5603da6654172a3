import Mathlib.Data.List.Basic
import LibToxTun.Connection.Machine

/-! # The system calls of the Unix backend

What a Unix system does on the calls of `TunUnix`: descriptors are handed out and closed,
a TAP interface lives as long as the descriptor it was made with, and requests for an
interface go through the union of `struct ifreq`. Whether a call succeeds is read from
an oracle at the current clock; a call that the state does not allow fails all the same.
-/

namespace LibToxTun

open Foundation Foundation.Action

/-- An interface of the host. -/
structure Interface where
  name : String
  addr : Option Ip4
  netmask : Option Ip4
  mtu : Nat
  flags : UInt16
deriving DecidableEq, Repr

/-- What a descriptor refers to. The clone device gets its interface by `TUNSETIFF`; the
frames for the process wait behind it, and those it wrote went to the host. -/
inductive File where
  | tun (interface : Option String) (incoming outgoing : List (List UInt8))
  | socket
  | other
deriving DecidableEq, Repr

structure Kernel where
  files : Int → Option File
  interfaces : List Interface
  clock : Nat

/-- What the system answers, by the clock at which it is asked: the descriptor it would
hand out, whether a request is granted, the name of a new interface, and so on. -/
structure Sys where
  descriptor : Nat → Option Nat
  granted : Nat → Bool
  interfaceName : Nat → String
  strerror : Nat → String

/-! ## Requests -/

def IFF_UP : UInt16 := 0x1
def IFF_TAP : UInt16 := 0x2
def IFF_RUNNING : UInt16 := 0x40
def IFF_NO_PI : UInt16 := 0x1000

/-- The member of the union that was written last. -/
inductive IfrIfru where
  | zero
  | addr (ip : Ip4)
  | mtu (n : Nat)
  | flags (bits : UInt16)
deriving DecidableEq, Repr

structure Ifreq where
  name : String
  ifru : IfrIfru
deriving DecidableEq, Repr

inductive Request where
  | tunSetIff
  | siocsIfAddr
  | siocsIfNetmask
  | siocsIfMtu
  | siocgIfFlags
  | siocsIfFlags
deriving DecidableEq, Repr

namespace Kernel

def tick (k : Kernel) : Kernel := { k with clock := k.clock + 1 }

def setFile (k : Kernel) (fd : Int) (file : Option File) : Kernel :=
  { k with files := Function.update k.files fd file }

def interface (k : Kernel) (name : String) : Option Interface :=
  k.interfaces.find? fun i => i.name = name

def configure (k : Kernel) (name : String) (change : Interface → Interface) : Kernel :=
  { k with interfaces := k.interfaces.map fun i => if i.name = name then change i else i }

/-- The interface of a file goes with the file. -/
def dropInterface (k : Kernel) : Option File → Kernel
  | some (.tun (some name) _ _) =>
      { k with interfaces := k.interfaces.filter fun i => i.name ≠ name }
  | _ => k

@[simp] theorem dropInterface_files (k : Kernel) (file : Option File) :
    (k.dropInterface file).files = k.files := by
  unfold dropInterface
  split <;> rfl

/-- An interface that is changed and dropped might as well not have been changed. -/
theorem configure_filter (k : Kernel) {name : String} {change : Interface → Interface}
    (named : ∀ i, (change i).name = i.name) :
    (k.configure name change).interfaces.filter (fun i => i.name ≠ name) =
      k.interfaces.filter fun i => i.name ≠ name := by
  unfold configure
  induction k.interfaces with
  | nil => rfl
  | cons i rest ih =>
      by_cases own : i.name = name
      · simpa [own, named] using ih
      · simpa [own] using ih

section
variable (k : Kernel) {name : String} {change : Interface → Interface}
  (named : ∀ i, (change i).name = i.name)
include named

theorem interface_configure : (k.configure name change).interface name = (k.interface name).map change := by
  unfold configure interface
  induction k.interfaces with
  | nil => rfl
  | cons i rest ih =>
      by_cases own : i.name = name
      · simp [own, named]
      · simpa [own] using ih

theorem interface_configure_of_ne {other : String} (away : other ≠ name) :
    (k.configure name change).interface other = k.interface other := by
  unfold configure interface
  induction k.interfaces with
  | nil => rfl
  | cons i rest ih =>
      have kept : (if i.name = name then change i else i).name = i.name := by
        split
        · exact named i
        · rfl
      by_cases here : i.name = other
      · have same : i.name ≠ name := fun own => away (here.symm.trans own)
        simp [here, away]
      · simp only [List.map_cons, List.find?_cons, kept, here, decide_false] at ih ⊢
        exact ih

end

section
variable (S : Sys)

/-- A descriptor is handed out, or -1 is returned. -/
def handOut (file : File) : Code Kernel Int := fun k =>
  match S.descriptor k.clock with
  | some n =>
      if k.files n = none then .returned n (k.setFile n (some file)).tick
      else .returned (-1) k.tick
  | none => .returned (-1) k.tick

/-- `open("/dev/net/tun", O_RDWR)`. -/
def openTun : Code Kernel Int := handOut S (.tun none [] [])

/-- `socket(AF_INET, SOCK_STREAM, 0)`. -/
def socket : Code Kernel Int := handOut S .socket

/-- `close`; on a descriptor that is not open it does nothing. -/
def close (fd : Int) : Code Kernel Unit := fun k =>
  .returned () ((k.setFile fd none).dropInterface (k.files fd)).tick

/-- A new interface has no address and is down. -/
def attach (k : Kernel) (fd : Int) (name : String) : Kernel :=
  { k.setFile fd (some (.tun (some name) [] [])) with
    interfaces := k.interfaces ++ [⟨name, none, none, 1500, 0⟩] }

/-- A granted request, with what it leaves in the structure. -/
def serve (k : Kernel) (fd : Int) (request : Request) (ifr : Ifreq) (newName : String) :
    Option (Kernel × Ifreq) :=
  match k.files fd, request, ifr.ifru with
  | some (.tun none _ _), .tunSetIff, .flags bits =>
      if bits = IFF_TAP ||| IFF_NO_PI ∧ k.interface newName = none then
        some (k.attach fd newName, ⟨newName, ifr.ifru⟩)
      else none
  | some .socket, .siocsIfAddr, .addr ip =>
      (k.interface ifr.name).map fun _ => (k.configure ifr.name fun i => { i with addr := some ip }, ifr)
  | some .socket, .siocsIfNetmask, .addr ip =>
      (k.interface ifr.name).map fun _ =>
        (k.configure ifr.name fun i => { i with netmask := some ip }, ifr)
  | some .socket, .siocsIfMtu, .mtu n =>
      (k.interface ifr.name).map fun _ => (k.configure ifr.name fun i => { i with mtu := n }, ifr)
  | some .socket, .siocgIfFlags, _ =>
      (k.interface ifr.name).map fun i => (k, { ifr with ifru := .flags i.flags })
  | some .socket, .siocsIfFlags, .flags bits =>
      (k.interface ifr.name).map fun _ => (k.configure ifr.name fun i => { i with flags := bits }, ifr)
  | _, _, _ => none

/-- `ioctl(fd, request, &ifr)`: whether it succeeded, and the structure after it. -/
def ioctl (fd : Int) (request : Request) (ifr : Ifreq) : Code Kernel (Bool × Ifreq) := fun k =>
  match (if S.granted k.clock then k.serve fd request ifr (S.interfaceName k.clock) else none) with
  | some (k', ifr') => .returned (true, ifr') k'.tick
  | none => .returned (false, ifr) k.tick

/-- The entries of `getifaddrs`, each with its IPv4 address if it has one of this family:
an entry of the link layer for every interface, and one for its address. -/
def ifaddrs (k : Kernel) : List (Option Ip4) :=
  k.interfaces.flatMap fun i => none :: (i.addr.toList.map some)

def getifaddrs : Code Kernel (Option (List (Option Ip4))) := fun k =>
  .returned (if S.granted k.clock then some k.ifaddrs else none) k.tick

/-- A zero timeout: whether the call succeeded, and whether the descriptor is in the set
after it. A failed call leaves the set as it was. -/
def select (fd : Int) : Code Kernel (Bool × Bool) := fun k =>
  match S.granted k.clock, k.files fd with
  | true, some (.tun _ (_ :: _) _) => .returned (true, true) k.tick
  | true, some _ => .returned (true, false) k.tick
  | _, _ => .returned (false, true) k.tick

/-- `read`: the first bytes of the next frame, or none for an error. Without a frame the
call does not return. -/
def read (fd : Int) (size : Nat) : Code Kernel (Option (List UInt8)) := fun k =>
  match S.granted k.clock, k.files fd with
  | true, some (.tun name (frame :: incoming) outgoing) =>
      .returned (some (frame.take size)) (k.setFile fd (some (.tun name incoming outgoing))).tick
  | true, some (.tun _ [] _) => .outOfFuel k
  | _, _ => .returned none k.tick

/-- `write`: whether the device took the frame. -/
def write (fd : Int) (frame : List UInt8) : Code Kernel Bool := fun k =>
  match S.granted k.clock, k.files fd with
  | true, some (.tun name incoming outgoing) =>
      .returned true (k.setFile fd (some (.tun name incoming (outgoing ++ [frame])))).tick
  | _, _ => .returned false k.tick

end

/-- The host has a frame for an interface. -/
def receive (k : Kernel) (fd : Int) (frame : List UInt8) : Kernel :=
  match k.files fd with
  | some (.tun name incoming outgoing) =>
      k.setFile fd (some (.tun name (incoming ++ [frame]) outgoing))
  | _ => k

end Kernel

end LibToxTun
