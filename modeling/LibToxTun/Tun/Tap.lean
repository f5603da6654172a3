import LibToxTun.Tun.WindowsHost

/-! # The devices of the Windows backend

The constructor of `TunWin` looks up the TAP adapters in the registry and opens the first one
that it can; the destructor closes it. Addresses are set through the IP helper. Some ways out
of these functions do not close what was opened. Log output is left out.
-/

namespace LibToxTun

open Foundation Foundation.Action

/-- The members of `TunWin` that are not used for reading and writing. A device that was
constructed has a handle, so `INVALID_HANDLE_VALUE` is left out. -/
structure Tap where
  handle : Nat
  devGuid : String
  ipApiContext : Nat
  ipIsSet : Bool
deriving DecidableEq, Repr

namespace Tap

section
variable (S : WinSys)

open WinHost

/-- The text of a value that could be read and is a `REG_SZ`. -/
def szText : Option RegValue → Option String
  | some ⟨true, text⟩ => some text
  | _ => none

/-- What is read of a subkey, which is closed after that. -/
def queryUnit (unitKey : Nat) (devGuids : List String) : Code WinHost (List String) := do
  match szText (← regQueryValueEx S unitKey "ComponentId") with
  | none =>
      regCloseKey unitKey
      pure devGuids
  | some componentId =>
      let netCfgInstanceId ← regQueryValueEx S unitKey "NetCfgInstanceId"
      let devGuids := match szText netCfgInstanceId with
        | some devGuid => if componentId = "tap0901" then devGuids ++ [devGuid] else devGuids
        | none => devGuids
      regCloseKey unitKey
      pure devGuids

/-- The loop over the subkeys, from the one with number `i` on. -/
def enumerate (adapterKey : Nat) : Nat → Nat → List String → Code WinHost (List String)
  | 0, _, _ => exhausted
  | fuel + 1, i, devGuids => do
      match ← regEnumKeyEx S adapterKey i with
      | .noMoreItems => pure devGuids
      | .failed => throw (.toxTunError ("Error while reading registry subkeys of " ++ ADAPTER_KEY))
      | .found enumName =>
          match ← regOpenKeyEx S (ADAPTER_KEY ++ "\\" ++ enumName) with
          | none => enumerate adapterKey fuel (i + 1) devGuids
          | some unitKey =>
              let devGuids ← queryUnit S unitKey devGuids
              enumerate adapterKey fuel (i + 1) devGuids

def devPath (devGuid : String) : String := "\\\\.\\Global\\" ++ devGuid ++ ".tap"

/-- The loop over the devices that were found. -/
def openDevice : List String → Code WinHost (Option (Nat × String))
  | [] => pure none
  | devGuid :: devGuids => do
      match ← createFile S (devPath devGuid) with
      | some handle => pure (some (handle, devGuid))
      | none => openDevice devGuids

/-- The end of the constructor, with the device that was opened. -/
def connect : Option (Nat × String) → Code WinHost Tap
  | none => throw (.toxTunError "Can't open a tun device")
  | some (handle, devGuid) => do
      if !(← setMediaStatus S handle) then
        throw (.toxTunError "Can't set tun device to connected")
      else pure ⟨handle, devGuid, 0, false⟩

/-- The constructor. -/
def create : Code WinHost Tap := do
  match ← regOpenKeyEx S ADAPTER_KEY with
  | none => throw (.toxTunError ("Can't open registry key " ++ ADAPTER_KEY))
  | some adapterKey =>
      let fuel ← Action.read fun w => w.registry.units.length + 1
      let devGuids ← enumerate S adapterKey fuel 0 []
      regCloseKey adapterKey
      connect S (← openDevice S devGuids)

def unsetIp (t : Tap) : Code WinHost Tap := do
  if t.ipIsSet then
    let _ ← deleteIpAddress S t.ipApiContext
    pure { t with ipIsSet := false }
  else pure t

/-- The destructor. -/
def destroy (t : Tap) : Code WinHost Unit := do
  let t ← unsetIp S t
  if !(← setMediaStatus S t.handle) then pure ()
  else closeHandle t.handle

/-- The pair of calls that ask for the adapters: one for the size, and one that fills a new
block. A null pointer from `new` is left out, as `new` throws instead. -/
def askAdapters {α : Type} (noSize noAnswer : String) (failure : Failure) (answer : WinHost → α) :
    Code WinHost (α × Nat) := do
  match ← askSize S with
  | none => throw (.toxTunError noSize)
  | some size =>
      let block ← newArray size
      match ← fill S failure answer with
      | none => throw (.toxTunError noAnswer)
      | some adapters => pure (adapters, block)

def getAdapterIndex (t : Tap) : Code WinHost Nat := do
  match ← WinHost.getAdapterIndex S ("\\DEVICE\\TCPIP_" ++ t.devGuid) with
  | some index => pure index
  | none =>
      let (adapters, adapterInfo) ← askAdapters S "GetAdapterInfo (size) failed" "GetAdapterInfo failed"
        .getAdaptersInfo WinHost.adapters
      match adapters.find? fun tmp => t.devGuid = tmp.adapterName with
      | some tmp =>
          deleteArray adapterInfo
          pure tmp.index
      | none =>
          deleteArray adapterInfo
          throw (.toxTunError "No matching adapter in IP_ADAPTER_INFO")

def ipOf (subnet ipPostfix : UInt8) : UInt32 :=
  (0xc0a80000 : UInt32) ||| (subnet.toUInt32 <<< 8) ||| ipPostfix.toUInt32

/-- An address that cannot be set is asked for in the log. -/
def setIp (t : Tap) (subnet ipPostfix : UInt8) : Code WinHost Tap :=
  Action.noexcept (catchToxTunError (do
    let index ← getAdapterIndex S t
    match ← addIpAddress S (ipOf subnet ipPostfix) index with
    | none => throw (.toxTunError "AddIpAddress failed")
    | some context => pure { t with ipApiContext := context, ipIsSet := true }) (pure t))

/-- The two loops over adapters and their addresses. -/
def usedAddresses (adapterAddresses : List (List UnicastAddress)) : List Ip4 :=
  adapterAddresses.flatMap fun tmp => tmp.filterMap UnicastAddress.addr

def getUsedIp4Addresses : Code WinHost (List Ip4) := do
  let (answer, adapterAddresses) ← askAdapters S "GetAdapterAddresses (size) failed"
    "GetAdapterAddresses failed" .getAdaptersAddresses unicastAddresses
  deleteArray adapterAddresses
  pure (usedAddresses answer)

end

end Tap

/-- The identifier of a TAP adapter, by the two values of its key. -/
def Tap.devGuidOf (componentId netCfgInstanceId : Option RegValue) : Option String := do
  let componentId ← Tap.szText componentId
  let devGuid ← Tap.szText netCfgInstanceId
  if componentId = "tap0901" then some devGuid else none

def UnitKey.tap (u : UnitKey) : Option String := Tap.devGuidOf u.componentId u.netCfgInstanceId

namespace WinHost

def taps (w : WinHost) : List String := w.registry.units.filterMap UnitKey.tap

theorem unit_path_ne (u : UnitKey) : u.path ≠ ADAPTER_KEY := by
  intro same
  have lengths := congrArg String.length same
  have separator : "\\".length = 1 := rfl
  simp only [UnitKey.path, String.length_append, separator] at lengths
  omega

theorem resolve_unit {w : WinHost} {u : UnitKey} (mem : u ∈ w.registry.units) :
    w.resolve u.path = some (.unit u) := by
  rw [resolve, if_neg (unit_path_ne u)]
  have only : ∀ v ∈ w.registry.units, v.path = u.path → v = u := by
    intro v mem' same
    have name : v.enumName = u.enumName := by simpa [UnitKey.path] using same
    exact List.inj_on_of_nodup_map w.registry.apart mem' mem name
  cases found : w.registry.units.find? fun v => v.path = u.path with
  | none => simpa using List.find?_eq_none.mp found u mem
  | some v => rw [only v (List.mem_of_find?_eq_some found) (by simpa using List.find?_some found)]; rfl

end WinHost

namespace Tap

open WinHost

/-! ## The search for a device -/

section
variable {S : WinSys}

/-- What a query of a unit gives. -/
def answer (S : WinSys) (u : UnitKey) (name : String) (clock : Nat) : Option RegValue :=
  if S.granted clock then u.value name else none

/-- A text that was read stands in the registry; when the query is granted, so does none. -/
theorem szText_answer {u : UnitKey} {name : String} {clock : Nat} :
    (∀ text, szText (answer S u name clock) = some text → szText (u.value name) = some text) ∧
      (S.granted clock = true → szText (u.value name) = szText (answer S u name clock)) := by
  unfold answer
  split
  · exact ⟨fun _ => id, fun _ => rfl⟩
  · next refused => exact ⟨nofun, fun granted => (refused granted).elim⟩

theorem regQueryValueEx_unit {unitKey : Nat} {u : UnitKey} {w : WinHost}
    (found : w.keys.get unitKey = some (.unit u)) (name : String) :
    regQueryValueEx S unitKey name w = .returned (answer S u name w.clock) w.tick := by
  rw [regQueryValueEx, found]
  rfl

/-- A unit is read and closed. It counts as a device only if it is one. -/
theorem queryUnit_cases {unitKey : Nat} {u : UnitKey} {w : WinHost}
    (found : w.keys.get unitKey = some (.unit u)) (devGuids : List String) :
    ∃ l clock, queryUnit S unitKey devGuids w =
        .returned (devGuids ++ l) ({ w with keys := w.keys.erase unitKey }.later clock) ∧
      l.Sublist u.tap.toList ∧ (S.Willing → l = u.tap.toList) := by
  have next : w.tick.keys.get unitKey = some (.unit u) := found
  have tap : u.tap = (szText (u.value "ComponentId")).bind fun componentId =>
      (szText (u.value "NetCfgInstanceId")).bind fun devGuid =>
        if componentId = "tap0901" then some devGuid else none := rfl
  cases component : szText (answer S u "ComponentId" w.clock) with
  | none =>
      refine ⟨[], w.clock + 2, ?_, List.nil_sublist _, fun willing => ?_⟩
      · simp only [queryUnit, bind_apply, regQueryValueEx_unit found, Outcome.andThen_returned, component,
          List.append_nil]
        rfl
      · rw [tap, szText_answer.2 (willing _), component]
        rfl
  | some componentId =>
      rw [tap, szText_answer.1 _ component, Option.bind_some]
      cases netCfg : szText (answer S u "NetCfgInstanceId" w.tick.clock) with
      | none =>
          refine ⟨[], w.clock + 3, ?_, List.nil_sublist _, fun willing => ?_⟩
          · simp only [queryUnit, bind_apply, regQueryValueEx_unit found, regQueryValueEx_unit next,
              Outcome.andThen_returned, component, netCfg, List.append_nil]
            rfl
          · rw [szText_answer.2 (willing _), netCfg]
            rfl
      | some devGuid =>
          rw [szText_answer.1 _ netCfg, Option.bind_some]
          refine ⟨(if componentId = "tap0901" then some devGuid else none).toList, w.clock + 3, ?_,
            List.Sublist.refl _, fun _ => rfl⟩
          simp only [queryUnit, bind_apply, regQueryValueEx_unit found, regQueryValueEx_unit next,
            Outcome.andThen_returned, component, netCfg]
          by_cases own : componentId = "tap0901" <;> simp [own, regCloseKey, later, tick]

/-- One round of the loop reads a unit, or passes it over when its key cannot be opened. -/
theorem enumerate_unit {adapterKey i : Nat} {u : UnitKey} {w : WinHost} (mem : u ∈ w.registry.units)
    (answer : regEnumKeyEx S adapterKey i w = .returned (.found u.enumName) w.tick) (fuel : Nat)
    (devGuids : List String) :
    ∃ l clock, enumerate S adapterKey (fuel + 1) i devGuids w =
        enumerate S adapterKey fuel (i + 1) (devGuids ++ l) (w.later clock) ∧
      l.Sublist u.tap.toList ∧ (S.Willing → l = u.tap.toList) := by
  have resolved : w.tick.resolve u.path = some (.unit u) := resolve_unit (w := w) mem
  rcases regOpenKeyEx_cases S w.tick u.path with ⟨h, key, free, resolved', opened⟩ | closed
  · cases resolved.symm.trans resolved'
    have unitKey : (w.tick.keys.insert h (.unit u)).get h = some (.unit u) :=
      Handles.get_insert_self ..
    obtain ⟨l, clock, ran, part, all⟩ := queryUnit_cases (S := S)
      (w := { w.tick with keys := w.tick.keys.insert h (.unit u) }.tick) unitKey devGuids
    refine ⟨l, clock, ?_, part, all⟩
    have restored : (w.tick.keys.insert h (.unit u)).erase h = w.keys := Handles.erase_insert free _
    rw [UnitKey.path] at opened
    simp only [enumerate, bind_apply, answer, opened, ran, Outcome.andThen_returned]
    simp only [tick, later] at restored ⊢
    rw [restored]
  · refine ⟨[], w.clock + 2, ?_, List.nil_sublist _, fun willing => ?_⟩
    · rw [UnitKey.path] at closed
      simp only [enumerate, bind_apply, answer, closed, Outcome.andThen_returned, List.append_nil]
      rfl
    · exact (regOpenKeyEx_granted S w.tick (willing _) resolved closed).elim

/-- The loop returns TAP adapters in the order of the registry, or it throws. -/
theorem enumerate_cases {adapterKey : Nat} {w : WinHost} (found : w.keys.get adapterKey = some .adapters)
    {fuel i : Nat} (within : i ≤ w.registry.units.length) (enough : w.registry.units.length < i + fuel)
    (devGuids : List String) :
    (∃ l clock, enumerate S adapterKey fuel i devGuids w = .returned (devGuids ++ l) (w.later clock) ∧
      l.Sublist ((w.registry.units.drop i).filterMap UnitKey.tap) ∧
      (S.Willing → l = (w.registry.units.drop i).filterMap UnitKey.tap)) ∨
    (∃ what clock, enumerate S adapterKey fuel i devGuids w =
      .thrown (.toxTunError what) ((w.fail .regEnumKeyEx).later clock)) ∧ ¬ S.Willing := by
  induction fuel generalizing i w devGuids with
  | zero => omega
  | succ fuel ih =>
      rcases regEnumKeyEx_cases S w found i with ⟨u, unit, answer⟩ | ⟨none, answer⟩ | ⟨refused, answer⟩
      · obtain ⟨below, here⟩ := List.getElem?_eq_some_iff.mp unit
        have mem : u ∈ w.registry.units := here ▸ List.getElem_mem below
        have split : (w.registry.units.drop i).filterMap UnitKey.tap =
            u.tap.toList ++ (w.registry.units.drop (i + 1)).filterMap UnitKey.tap := by
          rw [List.drop_eq_getElem_cons below, here]
          cases tap : u.tap <;> simp [tap]
        obtain ⟨l₁, clock, round, part, all⟩ := enumerate_unit (S := S) mem answer fuel devGuids
        rw [round, split]
        have enough' : (w.later clock).registry.units.length < i + 1 + fuel := by
          rw [Nat.add_right_comm]
          exact enough
        rcases ih (w := w.later clock) found (i := i + 1) below enough' (devGuids ++ l₁) with
          ⟨l₂, clock', ran, part', all'⟩ | ⟨⟨what, clock', thrown⟩, unwilling⟩
        · refine .inl ⟨l₁ ++ l₂, clock', ?_, part.append part', fun willing => ?_⟩
          · rw [ran, List.append_assoc]
            rfl
          · rw [all willing, all' willing]
            rfl
        · exact .inr ⟨⟨what, clock', thrown⟩, unwilling⟩
      · refine .inl ⟨[], w.clock + 1, ?_, List.nil_sublist _, fun _ => ?_⟩
        · simp only [enumerate, bind_apply, answer, Outcome.andThen_returned, List.append_nil]
          rfl
        · rw [List.drop_eq_nil_of_le (List.getElem?_eq_none_iff.mp none)]
          rfl
      · refine .inr ⟨⟨"Error while reading registry subkeys of " ++ ADAPTER_KEY, w.clock + 1, ?_⟩,
          fun willing => ?_⟩
        · simp only [enumerate, bind_apply, answer, Outcome.andThen_returned]
          rfl
        · rw [willing] at refused
          cases refused

/-- The device of an adapter is not open. -/
def vacant (w : WinHost) (devGuid : String) : Bool := !w.isOpen (devPath devGuid)

theorem openDevice_cases (devGuids : List String) (w : WinHost) :
    (∃ h devGuid clock, openDevice S devGuids w = .returned (some (h, devGuid))
        ({ w with files := w.files.insert h (devPath devGuid) }.later clock) ∧ devGuid ∈ devGuids ∧
      w.files.get h = none ∧ vacant w devGuid = true ∧
      (S.Willing → devGuids.find? (vacant w) = some devGuid)) ∨
    ∃ clock, openDevice S devGuids w = .returned none (w.later clock) ∧
      (S.Willing → devGuids.find? (vacant w) = none) := by
  induction devGuids generalizing w with
  | nil => exact .inr ⟨w.clock, rfl, fun _ => rfl⟩
  | cons devGuid devGuids ih =>
      rcases createFile_cases S w (devPath devGuid) with ⟨h, free, closed, opened⟩ | refused
      · have empty : vacant w devGuid = true := by rw [vacant, closed]; rfl
        refine .inl ⟨h, devGuid, w.clock + 1, ?_, List.mem_cons_self, free, empty,
          fun _ => List.find?_cons_of_pos empty⟩
        simp only [openDevice, bind_apply, opened, Outcome.andThen_returned]
        rfl
      · have round : openDevice S (devGuid :: devGuids) w = openDevice S devGuids w.tick := by
          simp only [openDevice, bind_apply, refused, Outcome.andThen_returned]
        have taken (willing : S.Willing) : ¬ vacant w devGuid = true := fun empty => by
          have closed : w.isOpen (devPath devGuid) = false := by simpa [vacant] using empty
          exact createFile_granted S w (willing _) closed refused
        rw [round]
        rcases ih w.tick with ⟨h, other, clock, ran, mem, free, empty, first⟩ | ⟨clock, ran, all⟩
        · refine .inl ⟨h, other, clock, ran, List.mem_cons_of_mem _ mem, free, empty, fun willing => ?_⟩
          exact (List.find?_cons_of_neg (taken willing)).trans (first willing)
        · refine .inr ⟨clock, ran, fun willing => ?_⟩
          exact (List.find?_cons_of_neg (taken willing)).trans (all willing)

/-- The ways in which the constructor ends. -/
inductive Creates (S : WinSys) (w : WinHost) : Outcome Exn WinHost Tap → Prop where
  | device {t : Tap} {clock : Nat} (free : w.files.get t.handle = none) (tap : t.devGuid ∈ w.taps)
      (empty : vacant w t.devGuid = true) (unset : t.ipIsSet = false)
      (first : S.Willing → w.taps.find? (vacant w) = some t.devGuid) :
      Creates S w (.returned t
        ({ w with files := w.files.insert t.handle (devPath t.devGuid) }.later clock))
  | refused {what : String} {clock : Nat} (none : S.Willing → w.taps.find? (vacant w) = none) :
      Creates S w (.thrown (.toxTunError what) (w.later clock))
  | unread {what : String} {h clock : Nat} (free : w.keys.get h = none) (unwilling : ¬ S.Willing) :
      Creates S w (.thrown (.toxTunError what)
        (({ w with keys := w.keys.insert h .adapters }.fail .regEnumKeyEx).later clock))
  | disconnected {what devGuid : String} {h clock : Nat} (free : w.files.get h = none)
      (tap : devGuid ∈ w.taps) (empty : vacant w devGuid = true) (unwilling : ¬ S.Willing) :
      Creates S w (.thrown (.toxTunError what)
        (({ w with files := w.files.insert h (devPath devGuid) }.fail .setMediaStatus).later clock))

theorem create_creates (w : WinHost) : Creates S w (create S w) := by
  rcases regOpenKeyEx_cases S w ADAPTER_KEY with ⟨h, key, free, resolved, opened⟩ | closed
  · cases resolved.symm.trans (if_pos rfl)
    let w₁ : WinHost := { w with keys := w.keys.insert h .adapters }.tick
    have adapterKey : w₁.keys.get h = some .adapters := Handles.get_insert_self ..
    have enough : w₁.registry.units.length < 0 + (w.registry.units.length + 1) := by
      rw [Nat.zero_add]
      exact Nat.lt_succ_self _
    rcases enumerate_cases (S := S) adapterKey (Nat.zero_le _) enough [] with
      ⟨l, clock, ran, part, all⟩ | ⟨⟨what, clock, thrown⟩, unwilling⟩
    · have closed : regCloseKey h (w₁.later clock) = .returned () (w.later (clock + 1)) := by
        simp only [regCloseKey, modify_apply, w₁, WinHost.later, tick, Handles.erase_insert free]
      have searched : create S w = (openDevice S l (w.later (clock + 1))).andThen (connect S) := by
        simp only [create, bind_apply, opened, Outcome.andThen_returned, read_apply]
        refine (congrArg (Outcome.andThen · _) ran).trans ?_
        rw [Outcome.andThen_returned, bind_apply, closed, Outcome.andThen_returned]
        rfl
      have taps : l.Sublist w.taps := part
      rw [searched]
      rcases openDevice_cases (S := S) l (w.later (clock + 1)) with
        ⟨h', devGuid, clock', found, mem, free', empty, first⟩ | ⟨clock', none, absent⟩
      · rw [found, Outcome.andThen_returned]
        let w₂ : WinHost := { w with files := w.files.insert h' (devPath devGuid) }.later clock'
        have file : w₂.files.get h' ≠ none :=
          Option.ne_none_iff_exists'.mpr ⟨_, Handles.get_insert_self w.files _ _⟩
        have tap : devGuid ∈ w.taps := taps.subset mem
        rcases setMediaStatus_cases S w₂ file with connected | ⟨refused, failed⟩
        · have ran : connect S (some (h', devGuid)) w₂ = .returned ⟨h', devGuid, 0, false⟩
              ({ w with files := w.files.insert h' (devPath devGuid) }.later (clock' + 1)) := by
            simp only [connect, bind_apply, connected, Outcome.andThen_returned]
            rfl
          refine ran ▸ .device free' tap empty rfl fun willing => ?_
          have whole : l = w.taps := all willing
          rw [← whole]
          exact first willing
        · have ran : connect S (some (h', devGuid)) w₂ =
              .thrown (.toxTunError "Can't set tun device to connected")
                (({ w with files := w.files.insert h' (devPath devGuid) }.fail .setMediaStatus).later
                  (clock' + 1)) := by
            simp only [connect, bind_apply, failed, Outcome.andThen_returned]
            rfl
          refine ran ▸ .disconnected free' tap empty fun willing => ?_
          rw [willing] at refused
          cases refused
      · rw [none, Outcome.andThen_returned]
        refine .refused fun willing => ?_
        have whole : l = w.taps := all willing
        rw [← whole]
        exact absent willing
    · have ran : create S w = .thrown (.toxTunError what) ((w₁.fail .regEnumKeyEx).later clock) := by
        simp only [create, bind_apply, opened, Outcome.andThen_returned, read_apply]
        exact congrArg (Outcome.andThen · _) thrown
      rw [ran]
      exact .unread free unwilling
  · have ran : create S w = .thrown (.toxTunError ("Can't open registry key " ++ ADAPTER_KEY))
        (w.later (w.clock + 1)) := by
      simp only [create, bind_apply, closed, Outcome.andThen_returned]
      rfl
    rw [ran]
    exact .refused fun willing => (regOpenKeyEx_granted S w (willing _) (if_pos rfl) closed).elim

/-! ## Addresses and the end of a device -/

/-- Whatever the system answers, the address counts as removed. -/
inductive Unsets (t : Tap) (w : WinHost) : WinHost → Prop where
  | unset (none : t.ipIsSet = false) : Unsets t w w
  | removed (isSet : t.ipIsSet = true) :
      Unsets t w { w with addresses := w.addresses.erase t.ipApiContext }.tick
  | failed (isSet : t.ipIsSet = true) : Unsets t w (w.fail .deleteIpAddress).tick

theorem unsetIp_unsets (t : Tap) (w : WinHost) :
    ∃ w', unsetIp S t w = .returned { t with ipIsSet := false } w' ∧ Unsets t w w' := by
  cases isSet : t.ipIsSet with
  | false =>
      refine ⟨w, ?_, .unset isSet⟩
      rw [unsetIp, isSet, if_neg Bool.false_ne_true, ← isSet]
      rfl
  | true =>
      rcases deleteIpAddress_cases S w t.ipApiContext with deleted | failed
      · refine ⟨_, ?_, .removed isSet⟩
        simp only [unsetIp, isSet, if_true, bind_apply, deleted, Outcome.andThen_returned]
        rfl
      · refine ⟨_, ?_, .failed isSet⟩
        simp only [unsetIp, isSet, if_true, bind_apply, failed, Outcome.andThen_returned]
        rfl

/-- The destructor unsets the address, and closes the device unless it cannot be
disconnected. -/
theorem destroy_closes {t : Tap} {w : WinHost} (found : w.files.get t.handle ≠ none) :
    ∃ w', Unsets t w w' ∧
      (destroy S t w = .returned () { w' with files := w'.files.erase t.handle }.tick.tick ∨
        destroy S t w = .returned () (w'.fail .setMediaStatus).tick) := by
  obtain ⟨w', unset, unsets⟩ := unsetIp_unsets (S := S) t w
  have found' : w'.files.get t.handle ≠ none := by
    cases unsets <;> exact found
  refine ⟨w', unsets, ?_⟩
  rcases setMediaStatus_cases S w' found' with done | ⟨-, failed⟩
  · refine .inl ?_
    simp only [destroy, bind_apply, unset, done, Outcome.andThen_returned]
    rfl
  · refine .inr ?_
    simp only [destroy, bind_apply, unset, failed, Outcome.andThen_returned]
    rfl

/-- The index under which the IP helper knows the adapter of a device. -/
def index (t : Tap) (w : WinHost) : Option Nat :=
  (w.adapters.find? fun a => t.devGuid = a.adapterName).map AdapterInfo.index

/-- The block of the answer is not given back when the second call fails. -/
inductive Looks {α : Type} (failure : Failure) (w : WinHost) (answer : Option α) :
    Outcome Exn WinHost α → Prop where
  | found {v : α} (clock : Nat) (is : answer = some v) : Looks failure w answer (.returned v (w.later clock))
  | refused {what : String} (clock : Nat) : Looks failure w answer (.thrown (.toxTunError what) (w.later clock))
  | lost {what : String} {block : Nat} (size clock : Nat) (free : w.blocks.get block = none) :
      Looks failure w answer (.thrown (.toxTunError what)
        (({ w with blocks := w.blocks.insert block size }.fail failure).later clock))

theorem Looks.tick {α : Type} {failure : Failure} {w : WinHost} {answer : Option α}
    {o : Outcome Exn WinHost α} (looks : Looks failure w.tick answer o) : Looks failure w answer o := by
  cases looks with
  | found clock is => exact .found clock is
  | refused clock => exact .refused clock
  | lost size clock free => exact .lost size clock free

/-- The adapters are given in a block that was free, or an error is thrown. -/
theorem askAdapters_cases {α : Type} (noSize noAnswer : String) (failure : Failure) (answer : WinHost → α)
    (w : WinHost) :
    (∃ block size clock, w.blocks.get block = none ∧ askAdapters S noSize noAnswer failure answer w =
      .returned (answer ({ w with blocks := w.blocks.insert block size }.later clock), block)
        ({ w with blocks := w.blocks.insert block size }.later (clock + 1))) ∨
    ∃ what w', askAdapters S noSize noAnswer failure answer w = .thrown (.toxTunError what) w' ∧
      ∀ {β : Type} (unknown : Option β), Looks failure w unknown (.thrown (.toxTunError what) w') := by
  cases asked : S.granted w.clock with
  | false =>
      refine .inr ⟨noSize, w.tick, ?_, fun _ => .refused (w.clock + 1)⟩
      simp only [askAdapters, bind_apply, askSize, asked]
      rfl
  | true =>
      let size := w.adapters.length
      let w₁ : WinHost := { w with blocks := w.blocks.insert w.blocks.fresh size }.later (w.clock + 2)
      cases filled : S.granted w₁.clock with
      | false =>
          have unanswered : fill S failure answer w₁ = .returned none (w₁.fail failure).tick := by
            simp only [fill, filled, Bool.false_eq_true, if_false]
          refine .inr ⟨noAnswer, (w₁.fail failure).tick, ?_, fun _ =>
            .lost size (w.clock + 3) w.blocks.get_fresh⟩
          simp only [askAdapters, bind_apply, askSize, asked]
          exact congrArg (Outcome.andThen · _) unanswered
      | true =>
          have answered : fill S failure answer w₁ = .returned (some (answer w₁)) w₁.tick := by
            simp only [fill, filled, if_true]
          refine .inl ⟨w.blocks.fresh, size, w.clock + 2, w.blocks.get_fresh, ?_⟩
          simp only [askAdapters, bind_apply, askSize, asked]
          exact congrArg (Outcome.andThen · _) answered

theorem deleteArray_inserted {w : WinHost} {block : Nat} (free : w.blocks.get block = none)
    (size clock : Nat) :
    deleteArray block ({ w with blocks := w.blocks.insert block size }.later clock) =
      .returned () (w.later (clock + 1)) := by
  simp only [deleteArray, modify_apply, WinHost.later, tick, Handles.erase_insert free]

/-- The index is the same whether it was looked up by name or in the list. -/
theorem getAdapterIndex_looks (t : Tap) (w : WinHost) :
    Looks .getAdaptersInfo w (t.index w) (getAdapterIndex S t w) := by
  have same : (fun a : AdapterInfo => decide ("\\DEVICE\\TCPIP_" ++ a.adapterName =
      "\\DEVICE\\TCPIP_" ++ t.devGuid)) = fun a => decide (t.devGuid = a.adapterName) := by
    funext a
    simp [eq_comm]
  have answer : WinHost.getAdapterIndex S ("\\DEVICE\\TCPIP_" ++ t.devGuid) w =
      .returned (if S.granted w.clock then t.index w else none) w.tick := by
    rw [WinHost.getAdapterIndex, same]
    rfl
  cases named : (if S.granted w.clock then t.index w else none) with
  | some index =>
      have is : t.index w = some index := by
        split at named
        · exact named
        · cases named
      simp only [getAdapterIndex, bind_apply, answer, named, Outcome.andThen_returned]
      exact .found (w.clock + 1) is
  | none =>
      rcases askAdapters_cases (S := S) "GetAdapterInfo (size) failed" "GetAdapterInfo failed"
        .getAdaptersInfo WinHost.adapters w.tick with
        ⟨block, size, clock, free, given⟩ | ⟨what, w', thrown, looks⟩
      · have back := deleteArray_inserted (w := w.tick) free size (clock + 1)
        have listed' : WinHost.adapters ({ w.tick with
            blocks := w.tick.blocks.insert block size }.later clock) = w.adapters := rfl
        cases listed : w.adapters.find? fun tmp => t.devGuid = tmp.adapterName with
        | some tmp =>
            have is : t.index w = some tmp.index := by rw [index, listed]; rfl
            simp only [getAdapterIndex, bind_apply, answer, named, Outcome.andThen_returned, given,
              listed', listed, back]
            exact .found (clock + 2) is
        | none =>
            simp only [getAdapterIndex, bind_apply, answer, named, Outcome.andThen_returned, given,
              listed', listed, back]
            exact .refused (clock + 2)
      · simp only [getAdapterIndex, bind_apply, answer, named, Outcome.andThen_returned, thrown]
        exact (looks _).tick

theorem getUsedIp4Addresses_looks (w : WinHost) :
    Looks .getAdaptersAddresses w (some (usedAddresses w.unicastAddresses)) (getUsedIp4Addresses S w) := by
  rcases askAdapters_cases (S := S) "GetAdapterAddresses (size) failed" "GetAdapterAddresses failed"
    .getAdaptersAddresses unicastAddresses w with
    ⟨block, size, clock, free, given⟩ | ⟨what, w', thrown, looks⟩
  · simp only [getUsedIp4Addresses, bind_apply, given, Outcome.andThen_returned,
      deleteArray_inserted free size (clock + 1)]
    exact .found (clock + 2) rfl
  · simp only [getUsedIp4Addresses, bind_apply, thrown, Outcome.andThen_thrown]
    exact looks _

/-- The address that a device is given. -/
def given (subnet ipPostfix : UInt8) (index : Nat) : UnicastAddress :=
  ⟨index, some (octets (ipOf subnet ipPostfix))⟩

/-- The ways in which an address is set or not. -/
inductive Sets (t : Tap) (subnet ipPostfix : UInt8) (w : WinHost) : Tap → WinHost → Prop where
  | failed (clock : Nat) : Sets t subnet ipPostfix w t (w.later clock)
  | lost {block : Nat} (size clock : Nat) (free : w.blocks.get block = none) : Sets t subnet ipPostfix w t
      (({ w with blocks := w.blocks.insert block size }.fail .getAdaptersInfo).later clock)
  | done {context index : Nat} (clock : Nat) (free : w.addresses.get context = none)
      (is : t.index w = some index) :
      Sets t subnet ipPostfix w { t with ipApiContext := context, ipIsSet := true }
        ({ w with addresses := w.addresses.insert context (given subnet ipPostfix index) }.later clock)

theorem setIp_sets (t : Tap) (subnet ipPostfix : UInt8) (w : WinHost) :
    ∃ t' w', setIp S t subnet ipPostfix w = .returned t' w' ∧ Sets t subnet ipPostfix w t' w' := by
  have looks := getAdapterIndex_looks (S := S) t w
  generalize asked : getAdapterIndex S t w = o at looks
  cases looks with
  | @found index clock is =>
      rcases addIpAddress_cases S (w.later clock) (ipOf subnet ipPostfix) index with
        ⟨context, free, added⟩ | refused
      · refine ⟨_, _, ?_, .done (clock + 1) free is⟩
        simp only [setIp, catchToxTunError, noexcept_apply, tryCatch_apply, bind_apply, asked,
          Outcome.andThen_returned, added]
        rfl
      · refine ⟨t, _, ?_, .failed (clock + 1)⟩
        simp only [setIp, catchToxTunError, noexcept_apply, tryCatch_apply, bind_apply, asked,
          Outcome.andThen_returned, refused]
        rfl
  | refused clock =>
      refine ⟨t, _, ?_, .failed clock⟩
      simp only [setIp, catchToxTunError, noexcept_apply, tryCatch_apply, bind_apply, asked]
      rfl
  | lost size clock free =>
      refine ⟨t, _, ?_, .lost size clock free⟩
      simp only [setIp, catchToxTunError, noexcept_apply, tryCatch_apply, bind_apply, asked]
      rfl

end

end Tap

end LibToxTun
