import LibToxTun.Foundation.Halting
import LibToxTun.Connection.Arrival

/-! # Handlers halt

The search for a subnet meets 256 before the counter repeats, and every nested call
of `handleData` is for a packet that a reassembly made. The bytes in the store and in
the packet at hand together lose four for every fragment joined, whichever of the two
grows, so they bound the depth of the recursion.
-/

namespace LibToxTun

open Foundation Foundation.Action

/-! ## Everything but fragments -/

section
variable (E : Env)

theorem halts_catchToxTunError {σ α : Type} {a handler : Code σ α} (h : Halts a)
    (hh : Halts handler) : Halts (catchToxTunError a handler) := by
  refine h.tryCatch fun e next caught => ?_
  cases e with
  | toxTunError what =>
      injection caught with same
      exact same ▸ hh
  | outOfRange => cases caught

theorem getMember_halts {α : Type} (field : Field) (f : Connection → α) :
    Halts (getMember field f) := fun _ => haltsOn_of_returned (getMember_apply ..)

theorem getFriend_halts : Halts getFriend := fun _ => haltsOn_of_returned (getFriend_apply _)

theorem setMember_halts (field : Field) (f : Connection → Connection) :
    Halts (setMember field f) := halts_modify _

theorem setState_halts (s : State) : Halts (setState s) :=
  (setMember_halts _ _).bind fun _ => halts_modify _

theorem sendAll_halts (friendNumber : UInt32) (l : List Data) : Halts (sendAll E friendNumber l) := by
  induction l with
  | nil => exact halts_pure ()
  | cons d rest ih =>
      refine (halts_ofExcept _).bind fun kind => ?_
      refine Halts.bind (fun _ => haltsOn_of_returned rfl) fun status => ?_
      cases status with
      | true => exact ih
      | false => cases kind <;> exact halts_throw _

theorem sendToTox_halts (d : Data) : Halts (sendToTox E d) := by
  refine getFriend_halts.bind fun _ => (getMember_halts _ _).bind fun _ => ?_
  have sends := fun index friendNumber =>
    (sendAll_halts E friendNumber (toxPackets E d index)).zoom Frame.world
      fun w fr => { fr with world := w }
  split
  · exact (setMember_halts _ _).bind fun _ => sends _ _
  · exact (halts_pure ()).bind fun _ => sends _ _

theorem callback_halts (event : Event) : Halts (callback E event) := by
  refine getFriend_halts.bind fun _ => (halts_read _).bind fun registered => ?_
  cases registered with
  | true => exact halts_modify _
  | false => exact halts_throw _

theorem resetConnection_halts : Halts (resetConnection E) := by
  refine (getFriend_halts.bind fun friendNumber => ?_).noexcept
  refine Halts.bind ?_ fun _ => callback_halts E _
  exact (halts_catchToxTunError (sendAll_halts E friendNumber _) (halts_pure ())).noexcept.zoom _ _

theorem deleteConnection_halts : Halts (deleteConnection E) :=
  fun fr => haltsOn_of_returned (deleteConnection_eq E fr)

theorem resetAndDeleteConnection_halts : Halts (resetAndDeleteConnection E) :=
  ((resetConnection_halts E).bind fun _ => deleteConnection_halts E).noexcept

theorem assumeUnused_halts (addrSpace : UInt8) : Halts (assumeUnused E addrSpace) :=
  fun fr => haltsOn_of_returned (assumeUnused_apply E fr addrSpace)

theorem setIp_halts (subnet ipPostfix : UInt8) : Halts (setIp E subnet ipPostfix) :=
  (((setMember_halts _ _).bind fun _ => halts_modify _).bind fun _ =>
    (setState_halts _).bind fun _ => callback_halts E _).noexcept

/-- The loop comes to 256 in as many rounds as the counter is away from it. -/
theorem sendIpLoop_halts {fuel : Nat} {fr : Frame}
    (enough : (255 - fr.self.subnet) % 2 ^ 16 < fuel) : (sendIpLoop E fuel).HaltsOn fr := by
  induction fuel generalizing fr with
  | zero => omega
  | succ fuel ih =>
      refine (setMember_halts _ _ fr).bind fun _ fr1 counted => ?_
      refine (getMember_halts _ _ fr1).bind fun subnet fr2 read => ?_
      refine (assumeUnused_halts E _ fr2).bind fun unused fr3 asked => ?_
      cases counted
      cases read
      rw [assumeUnused_apply] at asked
      injection asked with answer state
      have counter : fr3.self.subnet = incSubnet fr.self.subnet := by simp [← state]
      split
      · exact ((resetAndDeleteConnection_halts E).bind fun _ => halts_pure false) fr3
      · next inside =>
          split
          · exact halts_pure true fr3
          · apply ih
            have closer := incSubnet_closer (show incSubnet fr.self.subnet ≠ 256 by simpa using inside)
            rw [counter]
            omega

theorem sendIp_halts : Halts (sendIp E) := by
  intro fr
  have loop : (sendIpLoop E (2 ^ 16)).HaltsOn fr := sendIpLoop_halts E (by omega)
  refine (loop.bind fun found fr' _ => ?_).noexcept
  cases found with
  | false => exact halts_pure () fr'
  | true =>
      exact ((getMember_halts _ _).bind fun subnet =>
        halts_catchToxTunError (sendToTox_halts E _) (resetAndDeleteConnection_halts E)) fr'

theorem handleConnectionAccepted_halts : Halts (handleConnectionAccepted E) := by
  refine ((getMember_halts _ _).bind fun state => ?_).noexcept
  split
  · exact resetAndDeleteConnection_halts E
  · exact (setState_halts _).bind fun _ => sendIp_halts E

theorem handleConnectionRejected_halts : Halts (handleConnectionRejected E) := by
  refine ((getMember_halts _ _).bind fun state => ?_).noexcept
  split
  · exact resetAndDeleteConnection_halts E
  · exact (callback_halts E _).bind fun _ => deleteConnection_halts E

theorem handleConnectionClosed_halts : Halts (handleConnectionClosed E) := by
  refine ((getMember_halts _ _).bind fun state => ?_).noexcept
  split
  · exact resetAndDeleteConnection_halts E
  · exact (callback_halts E _).bind fun _ => (halts_modify _).bind fun _ => deleteConnection_halts E

theorem handleConnectionReset_halts : Halts (handleConnectionReset E) :=
  ((callback_halts E _).bind fun _ => deleteConnection_halts E).noexcept

theorem handleIpProposal_halts (data : Data) : Halts (handleIpProposal E data) := by
  have answer := fun packetId =>
    halts_catchToxTunError (sendToTox_halts E (Data.fromPacketId packetId))
      (resetAndDeleteConnection_halts E)
  refine ((getMember_halts _ _).bind fun state => ?_).noexcept
  split
  · exact resetAndDeleteConnection_halts E
  · refine (halts_catchToxTunError (halts_ofExcept _).map (halts_pure none)).bind fun bytes => ?_
    cases bytes with
    | none => exact halts_pure ()
    | some pair =>
        refine (assumeUnused_halts E _).bind fun unused => ?_
        cases unused with
        | true => exact (answer _).bind fun _ => setIp_halts E _ _
        | false => exact answer _

theorem handleIpAccepted_halts : Halts (handleIpAccepted E) := by
  refine ((getMember_halts _ _).bind fun state => ?_).noexcept
  split
  · exact resetAndDeleteConnection_halts E
  · exact (getMember_halts _ _).bind fun subnet => setIp_halts E _ _

theorem handleIpRejected_halts : Halts (handleIpRejected E) := by
  refine ((getMember_halts _ _).bind fun state => ?_).noexcept
  split
  · exact resetAndDeleteConnection_halts E
  · exact sendIp_halts E

theorem sendToTun_halts (data : Data) : Halts (sendToTun E data) :=
  ((getMember_halts _ _).bind fun state => by
    have write : Halts (catchToxTunError (tunSendData E data) (pure ())) :=
      fun fr => haltsOn_of_returned (sendToTun_written E data fr)
    split
    · exact (resetAndDeleteConnection_halts E).bind fun _ => write
    · exact (halts_pure ()).bind fun _ => write).noexcept

end

/-! ## Nested calls -/

/-- A nested call of `handleData`: how many fragments were joined for it, what they left
in the store, and the packet they made. -/
structure NestedCall where
  fragments : Nat
  store : Fragments
  packet : Data

namespace Fragments

/-- The nested call that a packet causes, if it completes a set that joins. -/
def nestedCall? (fs : Fragments) (d : Data) : Option NestedCall :=
  if valid : d.isValidFragment = true then
    let f : Fragment := ⟨d, valid⟩
    let set := f :: fs f.setIndex
    if set.length = f.count.toNat then
      match Data.fromFragments (set.map Fragment.data) with
      | .ok packet => some ⟨set.length, (fs.push f).joinedAt f.setIndex, packet⟩
      | .error _ => none
    else none
  else none

/-- The bytes in a store and in the packet that meets it. -/
def bytesWith (fs : Fragments) (d : Data) : Nat := fs.storedBytes + d.size

section
variable {fs : Fragments} {d : Data} {call : NestedCall}

theorem nestedCall?_eq_some (h : fs.nestedCall? d = some call) :
    ∃ valid : d.isValidFragment = true,
      let f : Fragment := ⟨d, valid⟩
      let set := f :: fs f.setIndex
      set.length = f.count.toNat ∧ Data.fromFragments (set.map Fragment.data) = .ok call.packet ∧
        call.fragments = set.length ∧ call.store = (fs.push f).joinedAt f.setIndex := by
  unfold nestedCall? at h
  split at h
  · next valid =>
      simp only at h
      split at h
      · next complete =>
          split at h
          · next joins =>
              cases h
              exact ⟨valid, complete, joins, rfl, rfl⟩
          · cases h
      · cases h
  · cases h

theorem nestedCall?_pos (h : fs.nestedCall? d = some call) : 0 < call.fragments := by
  obtain ⟨valid, -, -, fragments, -⟩ := nestedCall?_eq_some h
  rw [fragments]
  exact Nat.succ_pos _

/-- A reassembly takes four bytes for every fragment out of the store and the packet. -/
theorem nestedCall?_bytes (h : fs.nestedCall? d = some call) :
    call.store.bytesWith call.packet + 4 * call.fragments ≤ fs.bytesWith d := by
  obtain ⟨valid, complete, joins, fragments, store⟩ := nestedCall?_eq_some h
  let f : Fragment := ⟨d, valid⟩
  have wellFormed : WellFormedSet (f :: fs f.setIndex) := by
    by_contra broken
    obtain ⟨e, thrown⟩ := fromFragments_error broken
    rw [joins] at thrown
    cases thrown
  have packet : call.packet = joined (f :: fs f.setIndex) := by
    rw [fromFragments_ok (List.cons_ne_nil _ _) wellFormed] at joins
    exact (Except.ok.inj joins).symm
  unfold bytesWith
  rw [packet, fragments, store]
  exact storedBytes_joinedAt fs f wellFormed

end

/-- The nested calls that a packet causes, the outermost first. -/
inductive NestedCalls : Fragments → Data → List NestedCall → Prop where
  | none (fs : Fragments) (d : Data) : NestedCalls fs d []
  | nested {fs : Fragments} {d : Data} {call : NestedCall} {rest : List NestedCall}
      (caused : fs.nestedCall? d = some call) (later : NestedCalls call.store call.packet rest) :
      NestedCalls fs d (call :: rest)

theorem NestedCalls.bytes {fs : Fragments} {d : Data} {calls : List NestedCall}
    (h : NestedCalls fs d calls) : 4 * (calls.map NestedCall.fragments).sum ≤ fs.bytesWith d := by
  induction h with
  | none fs d => simp
  | nested caused later ih =>
      have paid := nestedCall?_bytes caused
      rw [List.map_cons, List.sum_cons]
      omega

theorem NestedCalls.length_le {fs : Fragments} {d : Data} {calls : List NestedCall}
    (h : NestedCalls fs d calls) : calls.length ≤ fs.bytesWith d / 4 := by
  have each : calls.length ≤ (calls.map NestedCall.fragments).sum := by
    induction h with
    | none fs d => simp
    | nested caused later ih =>
        have := nestedCall?_pos caused
        rw [List.map_cons, List.sum_cons, List.length_cons]
        omega
  have paid := h.bytes
  omega

end Fragments

/-! ## The handlers make these calls -/

theorem Frame.touch_withSelf (fr : Frame) (c : Connection) (field : Field) :
    ({ fr with self := c } : Frame).touch field = { fr.touch field with self := c } := by
  unfold touch
  split <;> rfl

/-- The frame in which a completed set has left the store. -/
def Frame.reassembling (fr : Frame) (store : Fragments) : Frame :=
  { ((fr.touch .fragments).touch .fragments).touch .fragments with
    self := { fr.self with fragments := store } }

section
variable {fr : Frame} {d : Data}

/-- A packet that completes a set calls `handleData` once, and reads two members after it. -/
theorem handleFragment_nested {call : NestedCall} (h : fr.self.fragments.nestedCall? d = some call)
    (nested : Data → Code Frame Unit) :
    handleFragment nested d fr = ((nested call.packet (fr.reassembling call.store)).andThen
      fun _ => Action.modify Frame.afterNested).guarded := by
  obtain ⟨valid, complete, joins, -, store⟩ := Fragments.nestedCall?_eq_some h
  simp only [handleFragment, valid, dif_pos, noexcept_apply, bind_apply, setMember_apply,
    Outcome.andThen_returned, getMember_apply, Fragments.push_self, if_pos complete, joins,
    Frame.touch_withSelf, ofExcept_ok]
  rw [store]
  rfl

theorem handleFragment_single (h : fr.self.fragments.nestedCall? d = none)
    (nested nested' : Data → Code Frame Unit) :
    handleFragment nested d fr = handleFragment nested' d fr := by
  by_cases valid : d.isValidFragment = true
  · by_cases complete : (⟨d, valid⟩ :: fr.self.fragments (Fragment.setIndex ⟨d, valid⟩)).length =
        (Fragment.count ⟨d, valid⟩).toNat
    · cases joins : Data.fromFragments
          ((⟨d, valid⟩ :: fr.self.fragments (Fragment.setIndex ⟨d, valid⟩)).map Fragment.data) with
      | ok packet =>
          simp only [Fragments.nestedCall?, valid, dif_pos, if_pos complete, joins] at h
          cases h
      | error e =>
          simp only [handleFragment, valid, dif_pos, noexcept_apply, bind_apply, setMember_apply,
            Outcome.andThen_returned, getMember_apply, Fragments.push_self, if_pos complete, joins,
            ofExcept_error, Outcome.andThen_thrown]
    · simp only [handleFragment, valid, dif_pos, noexcept_apply, bind_apply, setMember_apply,
        Outcome.andThen_returned, getMember_apply, Fragments.push_self, if_neg complete]
  · simp [handleFragment, valid]

end

section
variable (E : Env)

theorem handleFragment_halts {nested : Data → Code Frame Unit} (h : ∀ d, Halts (nested d)) (d : Data) :
    Halts (handleFragment nested d) := by
  refine Halts.noexcept ?_
  split
  · refine (setMember_halts _ _).bind fun _ => (getMember_halts _ _).bind fun stored => ?_
    split
    · exact (setMember_halts _ _).bind fun _ => (halts_ofExcept _).bind fun packet =>
        (h packet).bind fun _ => (halts_modify _).bind fun _ => halts_modify _
    · exact halts_pure ()
  · exact halts_pure ()

theorem handleDataFuel_succ_haltsOn {fuel : Nat} {d : Data} {fr : Frame}
    (h : (handleFragment (handleDataFuel E fuel) d).HaltsOn fr) :
    (handleDataFuel E (fuel + 1) d).HaltsOn fr := by
  refine ((halts_ofExcept d.getToxHeader fr).bind fun id fr' read => ?_).noexcept
  have same : fr' = fr := by
    cases header : d.getToxHeader with
    | ok id => rw [header] at read; cases read; rfl
    | error e => rw [header] at read; cases read
  subst same
  cases id with
  | connectionRequest => exact halts_pure () fr'
  | connectionAccept => exact handleConnectionAccepted_halts E fr'
  | connectionReject => exact handleConnectionRejected_halts E fr'
  | connectionClose => exact handleConnectionClosed_halts E fr'
  | connectionReset => exact handleConnectionReset_halts E fr'
  | ipProposal => exact handleIpProposal_halts E d fr'
  | ipAccept => exact handleIpAccepted_halts E fr'
  | ipReject => exact handleIpRejected_halts E fr'
  | data => exact sendToTun_halts E d fr'
  | fragment => exact h
  | unnamed b => exact halts_pure () fr'

/-- As many rounds as there are bytes for are enough. -/
theorem handleDataFuel_haltsOn {fuel : Nat} {d : Data} {fr : Frame}
    (enough : fr.self.fragments.bytesWith d / 4 < fuel) : (handleDataFuel E fuel d).HaltsOn fr := by
  induction fuel generalizing d fr with
  | zero => omega
  | succ fuel ih =>
      apply handleDataFuel_succ_haltsOn
      cases nests : fr.self.fragments.nestedCall? d with
      | none =>
          intro fr'
          rw [handleFragment_single nests (handleDataFuel E fuel) fun _ => pure ()]
          exact handleFragment_halts (fun _ => halts_pure ()) d fr fr'
      | some call =>
          have paid := Fragments.nestedCall?_bytes nests
          have positive := Fragments.nestedCall?_pos nests
          have fewer : call.store.bytesWith call.packet / 4 < fuel := by omega
          have inner : (handleDataFuel E fuel call.packet).HaltsOn (fr.reassembling call.store) := ih fewer
          intro fr'
          rw [handleFragment_nested nests]
          exact (inner.bind fun _ fr'' _ => halts_modify _ fr'').noexcept fr'

theorem handleDataFuel_stable {fuel fuel' : Nat} {d : Data} {fr : Frame}
    (enough : fr.self.fragments.bytesWith d / 4 < fuel)
    (enough' : fr.self.fragments.bytesWith d / 4 < fuel') :
    handleDataFuel E fuel d fr = handleDataFuel E fuel' d fr := by
  induction fuel generalizing d fr fuel' with
  | zero => omega
  | succ fuel ih =>
      cases fuel' with
      | zero => omega
      | succ fuel' =>
          have same : handleFragment (handleDataFuel E fuel) d fr =
              handleFragment (handleDataFuel E fuel') d fr := by
            cases nests : fr.self.fragments.nestedCall? d with
            | none => exact handleFragment_single nests _ _
            | some call =>
                have paid := Fragments.nestedCall?_bytes nests
                have positive := Fragments.nestedCall?_pos nests
                have fewer : call.store.bytesWith call.packet / 4 < fuel := by omega
                have fewer' : call.store.bytesWith call.packet / 4 < fuel' := by omega
                have inner : handleDataFuel E fuel call.packet (fr.reassembling call.store) =
                    handleDataFuel E fuel' call.packet (fr.reassembling call.store) := ih fewer fewer'
                rw [handleFragment_nested nests, handleFragment_nested nests, inner]
          cases header : d.getToxHeader with
          | error e => simp only [handleDataFuel, noexcept_apply, bind_apply, header, ofExcept_error]; rfl
          | ok id =>
              simp only [handleDataFuel, noexcept_apply, bind_apply, header, ofExcept_ok,
                Outcome.andThen_returned]
              cases id with
              | fragment => simp only [same]
              | _ => rfl

/-- Nested reassembly ends: `handleData` needs no more rounds than there are bytes for, every
reassembly pays four bytes for each of its fragments, and the nested calls are no more than
a quarter of the bytes. -/
theorem handleData_nesting (fr : Frame) (d : Data) :
    (∀ fuel, fr.self.fragments.bytesWith d / 4 < fuel → (handleDataFuel E fuel d).HaltsOn fr ∧
      handleDataFuel E fuel d fr = handleData E d fr) ∧
    (∀ fs p call, Fragments.nestedCall? fs p = some call →
      call.store.bytesWith call.packet + 4 * call.fragments ≤ fs.bytesWith p) ∧
    ∀ calls, Fragments.NestedCalls fr.self.fragments d calls →
      calls.length ≤ fr.self.fragments.bytesWith d / 4 := by
  refine ⟨fun fuel enough => ⟨handleDataFuel_haltsOn E enough, ?_⟩, ?_, ?_⟩
  · exact handleDataFuel_stable E enough (Nat.lt_succ_self _)
  · exact fun fs p call => Fragments.nestedCall?_bytes
  · exact fun calls => Fragments.NestedCalls.length_le

end

end LibToxTun
