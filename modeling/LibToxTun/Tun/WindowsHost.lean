import LibToxTun.Connection.Machine
import LibToxTun.Foundation.Leakage

/-! # The system calls of the Windows backend

What a Windows system does on the calls of `TunWin` that open and close something: keys of
the registry, the files of TAP devices, addresses of adapters, and blocks of memory. Whether
a call succeeds is read from an oracle at the current clock; a call that the state does not
allow fails all the same. Some failures are written down, as something stays open after them.
-/

namespace LibToxTun

open Foundation Foundation.Action

/-! ## The registry -/

/-- A value: whether its type is `REG_SZ`, and its text. -/
structure RegValue where
  isSz : Bool
  text : String
deriving DecidableEq, Repr

/-- A subkey of the class of network adapters, with the values that are asked for. -/
structure UnitKey where
  enumName : String
  componentId : Option RegValue
  netCfgInstanceId : Option RegValue
deriving DecidableEq, Repr

/-- The subkeys of the class of network adapters. -/
structure Registry where
  units : List UnitKey
  apart : (units.map UnitKey.enumName).Nodup

inductive RegKey where
  | adapters
  | unit (u : UnitKey)
deriving DecidableEq, Repr

def ADAPTER_KEY : String :=
  "SYSTEM\\CurrentControlSet\\Control\\Class\\\x7b4D36E972-E325-11CE-BFC1-08002BE10318\x7d"

def UnitKey.path (u : UnitKey) : String := ADAPTER_KEY ++ "\\" ++ u.enumName

def UnitKey.value (u : UnitKey) (name : String) : Option RegValue :=
  if name = "ComponentId" then u.componentId
  else if name = "NetCfgInstanceId" then u.netCfgInstanceId
  else none

def RegKey.value (name : String) : RegKey → Option RegValue
  | .adapters => none
  | .unit u => u.value name

/-- What `RegEnumKeyEx` answers. -/
inductive RegEnum where
  | found (enumName : String)
  | noMoreItems
  | failed
deriving DecidableEq, Repr

/-! ## The host -/

/-- `IP_ADAPTER_INFO`. -/
structure AdapterInfo where
  adapterName : String
  index : Nat
deriving DecidableEq, Repr

/-- An address of an adapter, if it is one of `AF_INET`. -/
structure UnicastAddress where
  index : Nat
  addr : Option Ip4
deriving DecidableEq, Repr

/-- The failures after which something stays open. -/
inductive Failure where
  | regEnumKeyEx
  | setMediaStatus
  | deleteIpAddress
  | getAdaptersInfo
  | getAdaptersAddresses
deriving DecidableEq, Repr

/-- What is open in the process, by handles, NTE contexts and addresses in memory. -/
structure WinHost where
  registry : Registry
  adapters : List AdapterInfo
  keys : Handles Nat RegKey
  files : Handles Nat String
  addresses : Handles Nat UnicastAddress
  blocks : Handles Nat Nat
  failures : List Failure
  clock : Nat

/-- What the system answers, by the clock at which it is asked: whether a call is granted,
and the handle or context that it hands out unless that one is in use. -/
structure WinSys where
  granted : Nat → Bool
  handle : Nat → Nat

/-- Every call is granted. -/
def WinSys.Willing (S : WinSys) : Prop := ∀ n, S.granted n = true

namespace WinHost

def tick (w : WinHost) : WinHost := { w with clock := w.clock + 1 }

def fail (w : WinHost) (failure : Failure) : WinHost := { w with failures := w.failures ++ [failure] }

/-- The key that a path below `HKEY_LOCAL_MACHINE` leads to. -/
def resolve (w : WinHost) (path : String) : Option RegKey :=
  if path = ADAPTER_KEY then some .adapters
  else (w.registry.units.find? fun u => u.path = path).map .unit

/-- A TAP device is opened by one handle at a time. -/
def isOpen (w : WinHost) (path : String) : Bool := w.files.entries.any fun e => e.2 = path

section
variable (S : WinSys)

/-- The handle that is handed out for a table, if any. -/
def handOut {ρ : Type} (w : WinHost) (table : Handles Nat ρ) : Option Nat :=
  if S.granted w.clock then some (table.offer (S.handle w.clock)) else none

def regOpenKeyEx (path : String) : Code WinHost (Option Nat) := fun w =>
  match w.resolve path, w.handOut S w.keys with
  | some key, some h => .returned (some h) { w with keys := w.keys.insert h key }.tick
  | _, _ => .returned none w.tick

def regCloseKey (h : Nat) : Code WinHost Unit := modify fun w => { w with keys := w.keys.erase h }.tick

def regEnumKeyEx (h i : Nat) : Code WinHost RegEnum := fun w =>
  match S.granted w.clock, w.keys.get h with
  | true, some .adapters =>
      match w.registry.units[i]? with
      | some u => .returned (.found u.enumName) w.tick
      | none => .returned .noMoreItems w.tick
  | _, _ => .returned .failed (w.fail .regEnumKeyEx).tick

def regQueryValueEx (h : Nat) (name : String) : Code WinHost (Option RegValue) := fun w =>
  .returned (if S.granted w.clock then (w.keys.get h).bind (RegKey.value name) else none) w.tick

/-- `CreateFile`, without sharing; none is `INVALID_HANDLE_VALUE`. -/
def createFile (path : String) : Code WinHost (Option Nat) := fun w =>
  match w.isOpen path, w.handOut S w.files with
  | false, some h => .returned (some h) { w with files := w.files.insert h path }.tick
  | _, _ => .returned none w.tick

def closeHandle (h : Nat) : Code WinHost Unit :=
  modify fun w => { w with files := w.files.erase h }.tick

/-- `DeviceIoControl` with `TAP_WIN_IOCTL_SET_MEDIA_STATUS`. -/
def setMediaStatus (h : Nat) : Code WinHost Bool := fun w =>
  if S.granted w.clock = true ∧ w.files.get h ≠ none then .returned true w.tick
  else .returned false (w.fail .setMediaStatus).tick

/-- The address that the bytes of `htonl(ip)` make. -/
def octets (ip : UInt32) : Ip4 :=
  ((ip >>> 24).toUInt8, (ip >>> 16).toUInt8, (ip >>> 8).toUInt8, ip.toUInt8)

def addIpAddress (ip : UInt32) (index : Nat) : Code WinHost (Option Nat) := fun w =>
  match w.adapters.any fun a => a.index = index, w.handOut S w.addresses with
  | true, some context =>
      .returned (some context)
        { w with addresses := w.addresses.insert context ⟨index, some (octets ip)⟩ }.tick
  | _, _ => .returned none w.tick

def deleteIpAddress (context : Nat) : Code WinHost Bool := fun w =>
  if S.granted w.clock = true ∧ w.addresses.get context ≠ none then
    .returned true { w with addresses := w.addresses.erase context }.tick
  else .returned false (w.fail .deleteIpAddress).tick

/-- `GetAdapterIndex`, by the name of the device. -/
def getAdapterIndex (adapterName : String) : Code WinHost (Option Nat) := fun w =>
  .returned (if S.granted w.clock then
      (w.adapters.find? fun a => "\\DEVICE\\TCPIP_" ++ a.adapterName = adapterName).map AdapterInfo.index
    else none) w.tick

/-- `GetAdaptersInfo` and `GetAdaptersAddresses` without a buffer: the size of the answer. -/
def askSize : Code WinHost (Option Nat) := fun w =>
  .returned (if S.granted w.clock then some w.adapters.length else none) w.tick

/-- A call that fills the buffer. -/
def fill {α : Type} (failure : Failure) (answer : WinHost → α) : Code WinHost (Option α) := fun w =>
  if S.granted w.clock then .returned (some (answer w)) w.tick
  else .returned none (w.fail failure).tick

/-- The addresses of every adapter. -/
def unicastAddresses (w : WinHost) : List (List UnicastAddress) :=
  w.adapters.map fun a => (w.addresses.entries.map Prod.snd).filter fun u => u.index = a.index

end

/-- `new` gives memory that is not in use. -/
def newArray (size : Nat) : Code WinHost Nat := fun w =>
  .returned w.blocks.fresh { w with blocks := w.blocks.insert w.blocks.fresh size }.tick

def deleteArray (block : Nat) : Code WinHost Unit :=
  modify fun w => { w with blocks := w.blocks.erase block }.tick

/-! ## What the calls do -/

/-- Time has passed, and nothing else has happened. -/
def later (w : WinHost) (clock : Nat) : WinHost := { w with clock := clock }

section
variable (S : WinSys) (w : WinHost)

theorem handOut_free {ρ : Type} {table : Handles Nat ρ} {h : Nat} (out : w.handOut S table = some h) :
    table.get h = none := by
  unfold handOut at out
  split at out
  · cases out
    exact table.get_offer _
  · cases out

theorem regOpenKeyEx_cases (path : String) :
    (∃ h key, w.keys.get h = none ∧ w.resolve path = some key ∧ regOpenKeyEx S path w =
      .returned (some h) { w with keys := w.keys.insert h key }.tick) ∨
      regOpenKeyEx S path w = .returned none w.tick := by
  unfold regOpenKeyEx
  split
  · next key h resolved out => exact .inl ⟨h, key, handOut_free S w out, resolved, rfl⟩
  · exact .inr rfl

theorem regOpenKeyEx_granted {path : String} {key : RegKey} (granted : S.granted w.clock = true)
    (resolved : w.resolve path = some key) : regOpenKeyEx S path w ≠ .returned none w.tick := by
  simp [regOpenKeyEx, handOut, granted, resolved]

/-- The enumeration gives the unit with a number, or says that there is none, or fails. -/
theorem regEnumKeyEx_cases {h : Nat} (found : w.keys.get h = some .adapters) (i : Nat) :
    (∃ u, w.registry.units[i]? = some u ∧
      regEnumKeyEx S h i w = .returned (.found u.enumName) w.tick) ∨
    (w.registry.units[i]? = none ∧ regEnumKeyEx S h i w = .returned .noMoreItems w.tick) ∨
    S.granted w.clock = false ∧ regEnumKeyEx S h i w = .returned .failed (w.fail .regEnumKeyEx).tick := by
  unfold regEnumKeyEx
  cases granted : S.granted w.clock with
  | false => exact .inr (.inr ⟨rfl, by simp⟩)
  | true =>
      cases unit : w.registry.units[i]? with
      | none => exact .inr (.inl ⟨rfl, by simp [found]⟩)
      | some u => exact .inl ⟨u, rfl, by simp [found]⟩

theorem createFile_cases (path : String) :
    (∃ h, w.files.get h = none ∧ w.isOpen path = false ∧ createFile S path w =
      .returned (some h) { w with files := w.files.insert h path }.tick) ∨
      createFile S path w = .returned none w.tick := by
  unfold createFile
  split
  · next h closed out => exact .inl ⟨h, handOut_free S w out, closed, rfl⟩
  · exact .inr rfl

theorem createFile_granted {path : String} (granted : S.granted w.clock = true)
    (closed : w.isOpen path = false) : createFile S path w ≠ .returned none w.tick := by
  simp [createFile, handOut, granted, closed]

theorem addIpAddress_cases (ip : UInt32) (index : Nat) :
    (∃ context, w.addresses.get context = none ∧ addIpAddress S ip index w = .returned (some context)
      { w with addresses := w.addresses.insert context ⟨index, some (octets ip)⟩ }.tick) ∨
      addIpAddress S ip index w = .returned none w.tick := by
  unfold addIpAddress
  split
  · next context _ out => exact .inl ⟨context, handOut_free S w out, rfl⟩
  · exact .inr rfl

theorem setMediaStatus_cases {h : Nat} (found : w.files.get h ≠ none) :
    setMediaStatus S h w = .returned true w.tick ∨
      S.granted w.clock = false ∧ setMediaStatus S h w = .returned false (w.fail .setMediaStatus).tick := by
  unfold setMediaStatus
  cases granted : S.granted w.clock with
  | true => exact .inl (if_pos ⟨rfl, found⟩)
  | false => exact .inr ⟨rfl, if_neg (by simp)⟩

theorem deleteIpAddress_cases (context : Nat) :
    deleteIpAddress S context w =
      .returned true { w with addresses := w.addresses.erase context }.tick ∨
    deleteIpAddress S context w = .returned false (w.fail .deleteIpAddress).tick := by
  unfold deleteIpAddress
  split
  · exact .inl rfl
  · exact .inr rfl

end

end WinHost

end LibToxTun
