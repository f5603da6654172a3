import LibToxTun.Network.Machine
import LibToxTun.Network.Protocol
import LibToxTun.Network.Traffic

/-! # The net follows the protocol

Every step of the net in a reliable environment is a step of the two parties of the
protocol: a call and a lossy packet are something a party does by itself, a lossless
packet is a message it receives.
-/

namespace LibToxTun

open Foundation

/-- The members of a connection in a phase. -/
def Connection.Shows (c : Connection) : Phase → Prop
  | .ownRequestPending => c.state = .ownRequestPending ∧ c.subnet = -1
  | .friendsRequestPending => c.state = .friendsRequestPending ∧ c.subnet = -1
  | .expectingIpPacket => c.state = .expectingIpPacket ∧ c.subnet = -1
  | .expectingIpConfirmation s =>
      c.state = .expectingIpConfirmation ∧ 0 ≤ c.subnet ∧ c.subnet ≤ 255 ∧ UInt8.ofInt c.subnet = s
  | .connectedFirst s =>
      c.state = .connected ∧ 0 ≤ c.subnet ∧ c.subnet ≤ 255 ∧ c.tun.ip = some (s, 1)
  | .connectedSecond s => c.state = .connected ∧ c.subnet = -1 ∧ c.tun.ip = some (s, 2)

/-- What the table holds shows the phase of a party. -/
inductive Shown : Option Connection → Option Phase → Prop where
  | none : Shown none none
  | some {c : Connection} {phase : Phase} (shows : c.Shows phase) (ofData : c.fragments.OfData) :
      Shown (some c) (some phase)

def Letter.parcel (l : Letter) : Parcel := ⟨l.msg.data, l.heard⟩

/-- A reply turns a party into another one that has sent letters. -/
structure Reply.Turns (r : Reply) (p p' : Party) (out : List Letter) : Prop where
  shown : Shown r.connection p'.phase
  letters : ((r.packets.filter Data.isLossless).map fun d => ⟨d, p.heard⟩) = out.map Letter.parcel
  asked : p'.asked = p.asked + (r.packets.filter Data.isRequest).length
  heard : p'.heard = p.heard
  traffic : ∀ d ∈ r.packets, d.isLossy = true → d.IsTraffic

/-! ## The packets of messages -/

namespace Msg

variable (m : Msg)

@[simp] theorem data_toxHeaderSet : m.data.toxHeaderSet = true := by
  cases m with
  | bye kind => cases kind <;> rfl
  | _ => rfl

@[simp] theorem data_isLossless : m.data.isLossless = true := by
  cases m with
  | bye kind => cases kind <;> rfl
  | _ => rfl

@[simp] theorem data_isLossy : m.data.isLossy = false := by
  cases m with
  | bye kind => cases kind <;> rfl
  | _ => rfl

@[simp] theorem data_isRequest : m.data.isRequest = decide (m = .request) := by
  cases m with
  | bye kind => cases kind <;> rfl
  | _ => rfl

theorem data_whole : PacketId.ofByte m.data.header ≠ .fragment := by
  cases m with
  | bye kind => cases kind <;> decide
  | proposal subnet => simp [data, Data.fromIpPostfix, Data.setToxHeader, PacketId.toByte, PacketId.ofByte]
  | _ => decide

end Msg

theorem Data.lossy_excludes {d : Data} (lossy : d.getSendTox = .ok .lossy) :
    d.isLossless = false ∧ d.isRequest = false := by
  refine ⟨by simp [isLossless, lossy], ?_⟩
  by_contra request
  simp only [isRequest, decide_eq_false_iff_not, not_not] at request
  obtain ⟨header, body, set⟩ := d
  cases set with
  | false => cases lossy
  | true =>
      simp only at request
      simp [getSendTox, request, bind, Except.bind, PacketId.toByte] at lossy

namespace Reply

section
variable {r : Reply} {p p' : Party}

theorem turns_of_msgs (msgs : List Msg) (shown : Shown r.connection p'.phase)
    (packets : r.packets = msgs.map Msg.data) (asked : p'.asked = p.asked + msgs.count .request)
    (heard : p'.heard = p.heard) : r.Turns p p' (msgs.map p.letter) := by
  refine ⟨shown, ?_, ?_, heard, ?_⟩
  · rw [packets, List.filter_eq_self.mpr (by simp), List.map_map, List.map_map]
    rfl
  · rw [packets, List.filter_map, List.length_map, asked, List.count_eq_length_filter]
    congr 2
    exact List.filter_congr fun m _ => by simp [beq_eq_decide]
  · rw [packets]
    rintro d hd lossy
    obtain ⟨m, -, rfl⟩ := List.mem_map.mp hd
    simp at lossy

theorem turns_of_traffic (shown : Shown r.connection p.phase)
    (lossy : ∀ d ∈ r.packets, d.getSendTox = .ok .lossy) (traffic : ∀ d ∈ r.packets, d.IsTraffic) :
    r.Turns p p [] := by
  have noLetters : r.packets.filter Data.isLossless = [] :=
    List.filter_eq_nil_iff.mpr fun d hd => by simp [(Data.lossy_excludes (lossy d hd)).1]
  have noRequests : r.packets.filter Data.isRequest = [] :=
    List.filter_eq_nil_iff.mpr fun d hd => by simp [(Data.lossy_excludes (lossy d hd)).2]
  exact ⟨shown, by simp [noLetters], by simp [noRequests], rfl, fun d hd _ => traffic d hd⟩

end

theorem killed_turns (p : Party) : killed.Turns p (p.inPhase none) [p.letter (.bye .reset)] :=
  turns_of_msgs [.bye .reset] .none rfl rfl rfl

end Reply

/-! ## What a party does by itself -/

section
variable {E : Env} {p : Party}

theorem dismiss_turns (reliable : E.Reliable) {c : Connection} {phase : Phase}
    (shows : c.Shows phase) (linked : p.phase = some phase) :
    ∃ p' out, p.Act p' out ∧ (E.dismiss c).Turns p p' out := by
  have leave (kind : Bye) : p.Act (p.inPhase none) [p.letter (.bye kind)] :=
    .leave kind (by simp [linked])
  simp only [Env.dismiss, reliable.taken, reliable.killedAt]
  cases phase with
  | friendsRequestPending =>
      rw [shows.1]
      exact ⟨_, _, leave .reject, Reply.turns_of_msgs [.bye .reject] .none rfl rfl rfl⟩
  | ownRequestPending | expectingIpPacket | expectingIpConfirmation s =>
      rw [shows.1]
      exact ⟨_, _, leave .reset, Reply.killed_turns p⟩
  | connectedFirst s | connectedSecond s =>
      rw [shows.1]
      exact ⟨_, _, leave .close, Reply.turns_of_msgs [.bye .close] .none rfl rfl rfl⟩

/-- Forwarded frames are lossy traffic. -/
theorem forward_traffic (roomy : 10 ≤ E.maxPacketSize) {clock : Nat} {c : Connection}
    {reads : List (Option (List UInt8))} (short : ∀ buffer, some buffer ∈ reads → buffer.length ≤ 1518) :
    ∀ d ∈ (E.forward clock c reads).2, d.getSendTox = .ok .lossy ∧ d.IsTraffic := by
  induction reads generalizing clock c with
  | nil => simp [Env.forward]
  | cons read reads ih =>
      have later := fun clock c => @ih clock c fun buffer hb =>
        short buffer (List.mem_cons_of_mem _ hb)
      cases read with
      | none => exact later clock c
      | some buffer =>
          have frame := short buffer List.mem_cons_self
          have sent := (E.sendList_sublist clock
            (toxPackets E (Data.tunData buffer) c.nextFragmentIndex)).subset
          simp only [Env.forward, List.mem_append]
          rintro d (here | there)
          · exact ⟨toxPackets_lossy E buffer _ d (sent here),
              toxPackets_traffic roomy frame _ d (sent here)⟩
          · exact later _ _ d there

theorem sendConnectionRequest_turns {c : Option Connection} (shown : Shown c p.phase) {r : Reply}
    (reply : E.reply c .sendConnectionRequest = some r) :
    ∃ p' out, p.Act p' out ∧ r.Turns p p' out := by
  simp only [Env.reply, Option.some.injEq] at reply
  subst reply
  generalize phase : p.phase = ph at shown
  cases shown with
  | some shows ofData =>
      exact ⟨_, _, .stay, Reply.turns_of_msgs [] (phase ▸ .some shows ofData) rfl rfl rfl⟩
  | none =>
      dsimp only
      split
      · exact ⟨_, _, .request phase, Reply.turns_of_msgs [.request]
          (.some ⟨rfl, rfl⟩ Fragments.ofData_empty) rfl rfl rfl⟩
      · exact ⟨_, _, .stay, Reply.turns_of_msgs [] (phase ▸ .none) rfl rfl rfl⟩

theorem acceptConnection_turns (reliable : E.Reliable) {c : Option Connection}
    (shown : Shown c p.phase) {r : Reply}
    (reply : E.reply c .acceptConnection = some r) :
    ∃ p' out, p.Act p' out ∧ r.Turns p p' out := by
  simp only [Env.reply, Option.some.injEq] at reply
  subst reply
  generalize phase : p.phase = ph at shown
  cases shown with
  | none => exact ⟨_, _, .stay, Reply.turns_of_msgs [] (phase ▸ .none) rfl rfl rfl⟩
  | @some c ph shows ofData =>
      dsimp only
      split
      · next ringing =>
          cases ph with
          | friendsRequestPending =>
              rw [if_pos (reliable.sends 0)]
              exact ⟨_, _, .accept phase, Reply.turns_of_msgs [.accept]
                (.some ⟨rfl, shows.2⟩ ofData) rfl rfl rfl⟩
          | _ => simp [shows.1] at ringing
      · exact dismiss_turns reliable shows phase

theorem erase_turns (reliable : E.Reliable) {c : Option Connection} (shown : Shown c p.phase) {call : Call}
    (erases : call = .rejectConnection ∨ call = .closeConnection) {r : Reply}
    (reply : E.reply c call = some r) : ∃ p' out, p.Act p' out ∧ r.Turns p p' out := by
  generalize phase : p.phase = ph at shown
  cases shown with
  | none =>
      rcases erases with rfl | rfl <;>
        (cases reply
         exact ⟨_, _, .stay, Reply.turns_of_msgs [] (phase ▸ .none) rfl rfl rfl⟩)
  | some shows ofData =>
      rcases erases with rfl | rfl <;>
        (cases reply
         exact dismiss_turns reliable shows phase)

theorem iterate_turns (roomy : 10 ≤ E.maxPacketSize) {c : Option Connection}
    (shown : Shown c p.phase) {reads : List (Option (List UInt8))}
    (short : ∀ buffer, some buffer ∈ reads → buffer.length ≤ 1518) {r : Reply}
    (reply : E.reply c (.iterate reads) = some r) : r.Turns p p [] := by
  have replies := Env.reply_iterate reply
  generalize phase : p.phase = ph at shown
  cases shown with
  | none =>
      obtain ⟨-, rfl⟩ | ⟨c, ⟨⟩, -⟩ | ⟨c, ⟨⟩, -⟩ := replies
      exact Reply.turns_of_msgs [] (phase ▸ .none) rfl rfl rfl
  | @some c ph shows ofData =>
      obtain ⟨⟨⟩, -⟩ | ⟨c', entry, -, rfl⟩ | ⟨c', entry, -, -, rfl⟩ := replies
      · cases entry
        exact Reply.turns_of_msgs [] (phase ▸ .some shows ofData) rfl rfl rfl
      · cases entry
        obtain ⟨index, same⟩ := E.forward_connection 0 c reads
        have traffic := @forward_traffic E roomy 0 c reads short
        refine Reply.turns_of_traffic ?_ (fun d hd => (traffic d hd).1) fun d hd => (traffic d hd).2
        dsimp only
        rw [same, phase]
        exact .some (by cases ph <;> exact shows) ofData

/-- A lossy packet is stored or handed to the device, or it ends a connection that is
not connected. -/
theorem lossy_cases (reliable : E.Reliable) {c : Connection} (ofData : c.fragments.OfData) {d : Data}
    (traffic : d.IsTraffic) {r : Reply} (reply : E.receive (some c) d = some r) :
    (∃ fs : Fragments, fs.OfData ∧ r = .kept { c with fragments := fs }) ∨
      (c.state ≠ .connected ∧ r = .killed) := by
  have arrives : (c.fragments.arrival d).OfData := ofData.arrive traffic
  simp only [Env.receive] at reply
  cases arrival : c.fragments.arrival d with
  | packet d' joins fs =>
      rw [arrival] at reply arrives
      obtain ⟨header, stored⟩ := arrives
      have dispatched : PacketId.ofByte d'.header = .data := by rw [header]; rfl
      simp only [Env.respond, dispatched, reliable.killedAt, Option.some.injEq] at reply
      split at reply
      · exact .inl ⟨fs, stored, reply.symm⟩
      · next refused => exact .inr ⟨refused, reply.symm⟩
  | kept fs =>
      rw [arrival] at reply arrives
      cases reply
      exact .inl ⟨fs, arrives, rfl⟩
  | corrupted => rw [arrival] at reply; cases reply
  | unfinished => rw [arrival] at reply; cases reply

theorem Connection.Shows.withFragments {c : Connection} {phase : Phase} (h : c.Shows phase)
    (fs : Fragments) : { c with fragments := fs }.Shows phase := by
  cases phase <;> exact h

theorem lossy_turns (reliable : E.Reliable) {c : Option Connection} (shown : Shown c p.phase) {d : Data}
    (traffic : d.IsTraffic) {r : Reply} (reply : E.receive c d = some r) :
    ∃ p' out, p.Act p' out ∧ r.Turns p p' out := by
  generalize phase : p.phase = ph at shown
  cases shown with
  | none =>
      simp only [Env.receive, Option.some.injEq] at reply
      have refused : E.greet d = ⟨none, [Data.fromPacketId .connectionReset], []⟩ := by
        simp only [Env.greet, reliable.taken]
        obtain ⟨-, header | ⟨f, rfl, -⟩⟩ := traffic
        · rw [header]
          rfl
        · rw [f.eq_mk]
          rfl
      rw [← reply, refused]
      exact ⟨_, _, .refuse phase, Reply.turns_of_msgs [.bye .reset] (phase ▸ .none) rfl rfl rfl⟩
  | @some c ph shows ofData =>
      rcases lossy_cases reliable ofData traffic reply with ⟨fs, stored, rfl⟩ | ⟨-, rfl⟩
      · exact ⟨_, _, .stay, Reply.turns_of_msgs []
          (phase ▸ .some (shows.withFragments fs) stored) rfl rfl rfl⟩
      · exact ⟨_, _, .leave .reset (by simp [phase]), Reply.killed_turns p⟩

end

/-! ## What a party does with a message -/

/-- The reply turns the party into one the message may turn it into. -/
def Party.Answers (p : Party) (m : Msg) (k : Nat) (r : Reply) : Prop :=
  ∃ p' out, Party.Receive ⟨m, k⟩ p p' out ∧ r.Turns p p' out

section
variable {E : Env} (reliable : E.Reliable) {p : Party} {k : Nat}
include reliable

theorem greet_turns (free : p.phase = none) (m : Msg) :
    ∃ p' out, Party.Receive ⟨m, k⟩ p p' out ∧
      (E.greet m.data).Turns (if m = .request then p.hears else p) p' out := by
  have back (m : Msg) (reset : E.greet m.data = ⟨none, [Data.fromPacketId .connectionReset], []⟩) :
      (E.greet m.data).Turns p (p.inPhase none) [p.letter (.bye .reset)] := by
    rw [reset]
    exact Reply.turns_of_msgs [.bye .reset] .none rfl rfl rfl
  have stray (m : Msg) (other : m ≠ .request) (noBye : m.isBye = false)
      (reset : E.greet m.data = ⟨none, [Data.fromPacketId .connectionReset], []⟩) :
      ∃ p' out, Party.Receive ⟨m, k⟩ p p' out ∧
        (E.greet m.data).Turns (if m = .request then p.hears else p) p' out := by
    rw [if_neg other]
    exact ⟨_, _, .stray other noBye, back m reset⟩
  have refused : (⟨none, E.taken 0 (Data.fromPacketId .connectionReset), []⟩ : Reply) =
      ⟨none, [Data.fromPacketId .connectionReset], []⟩ := by rw [reliable.taken]
  cases m with
  | request =>
      rw [if_pos rfl]
      change ∃ p' out, Party.Receive ⟨.request, k⟩ p p' out ∧
        Reply.Turns (if E.tunOpens 0 then _ else ⟨none, E.taken 1 _, []⟩) p.hears p' out
      rw [reliable.taken]
      split
      · exact ⟨_, _, .ring free, Reply.turns_of_msgs []
          (.some ⟨rfl, rfl⟩ Fragments.ofData_empty) rfl rfl rfl⟩
      · exact ⟨_, _, .refused free, Reply.turns_of_msgs [.bye .reset]
          (by simp [free, Shown.none]) rfl rfl rfl⟩
  | bye kind =>
      rw [if_neg nofun]
      cases kind with
      | reset => exact ⟨_, _, .ended .reset, Reply.turns_of_msgs [] .none rfl rfl rfl⟩
      | reject => exact ⟨_, _, .endedBack .reject, back _ refused⟩
      | close => exact ⟨_, _, .endedBack .close, back _ refused⟩
  | accept => exact stray _ nofun rfl refused
  | proposal subnet => exact stray _ nofun rfl refused
  | ipAccept => exact stray _ nofun rfl refused
  | ipReject => exact stray _ nofun rfl refused

theorem killed_answers {m : Msg} (other : m ≠ .request) : p.Answers m k (E.killedAt 0) := by
  rw [reliable.killedAt]
  cases m with
  | request => exact (other rfl).elim
  | bye kind => exact ⟨_, _, .endedBack kind, Reply.killed_turns p⟩
  | accept | proposal subnet | ipAccept | ipReject =>
      exact ⟨_, _, .stray nofun rfl, Reply.killed_turns p⟩

omit reliable in
theorem ended_answers (kind : Bye) (events : List Event) :
    p.Answers (.bye kind) k ⟨none, [], events⟩ :=
  ⟨_, _, .ended kind, Reply.turns_of_msgs [] .none rfl rfl rfl⟩

theorem propose_answers {c : Connection} (low : -1 ≤ c.subnet) (high : c.subnet ≤ 255)
    (waiting : c.state = .expectingIpConfirmation) (ofData : c.fragments.OfData) {m : Msg}
    (other : m ≠ .request) (next : ∀ subnet, Party.Receive ⟨m, k⟩ p
      (p.inPhase (some (.expectingIpConfirmation subnet))) [p.letter (.proposal subnet)]) :
    p.Answers m k (E.propose c) := by
  obtain ⟨⟨subnet, clock, found⟩, search⟩ := search_total E c.subnet 0
  have ends := search_searched E low high search
  cases found with
  | false =>
      have killed := killed_answers (E := E) reliable (p := p) (k := k) other
      rw [reliable.killedAt] at killed
      simpa only [Env.propose, search, reliable.killedAt] using killed
  | true =>
      have above := ends.above
      simp only [Env.propose, search, reliable.sends, if_true]
      exact ⟨_, _, next (UInt8.ofInt subnet), Reply.turns_of_msgs [.proposal _]
        (.some ⟨waiting, by simp only; omega, (ends.passed rfl).1, rfl⟩ ofData) rfl rfl rfl⟩

section
variable {c : Connection}

theorem bye_answers (kind : Bye) : p.Answers (.bye kind) k (E.respond c (Msg.bye kind).data) := by
  cases kind with
  | reject =>
      change p.Answers _ k (if c.state = .ownRequestPending then _ else _)
      split
      · exact ended_answers .reject _
      · exact killed_answers reliable nofun
  | close =>
      change p.Answers _ k (if c.state = .connected then _ else _)
      split
      · exact ended_answers .close _
      · exact killed_answers reliable nofun
  | reset => exact ended_answers .reset _

variable {phase : Phase} (shows : c.Shows phase) (ofData : c.fragments.OfData)
  (linked : p.phase = some phase)
include shows ofData linked

theorem accept_answers : p.Answers .accept k (E.respond c Msg.accept.data) := by
  change p.Answers _ k (if c.state = .ownRequestPending then _ else _)
  split
  · next asking =>
      have own : phase = .ownRequestPending := by
        cases phase <;> simp [shows.1] at asking ⊢
      subst own
      exact propose_answers reliable (c := { c with state := .expectingIpConfirmation })
        (by simp [shows.2]) (by simp [shows.2]) rfl ofData nofun
        fun subnet => .accepted subnet linked
  · exact killed_answers reliable nofun

theorem proposal_answers (subnet : UInt8) :
    p.Answers (.proposal subnet) k (E.respond c (Msg.proposal subnet).data) := by
  change p.Answers _ k (if c.state = .expectingIpPacket then E.consider c subnet 2 else _)
  simp only [Env.consider, reliable.sends, if_true]
  split
  · next expecting =>
      have packet : phase = .expectingIpPacket := by
        cases phase <;> simp [shows.1] at expecting ⊢
      subst packet
      split
      · exact ⟨_, _, .taken linked, Reply.turns_of_msgs [.ipAccept]
          (.some ⟨rfl, shows.2, rfl⟩ ofData) rfl rfl rfl⟩
      · exact ⟨_, _, .declined linked, Reply.turns_of_msgs [.ipReject]
          (by rw [linked]; exact .some shows ofData) rfl rfl rfl⟩
  · exact killed_answers reliable (by simp)

theorem ipAccept_answers : p.Answers .ipAccept k (E.respond c Msg.ipAccept.data) := by
  change p.Answers _ k (if c.state = .expectingIpConfirmation then _ else _)
  split
  · next expecting =>
      cases phase with
      | expectingIpConfirmation subnet =>
          obtain ⟨-, low, high, rfl⟩ := shows
          exact ⟨_, _, .confirmed linked, Reply.turns_of_msgs []
            (.some ⟨rfl, low, high, rfl⟩ ofData) rfl rfl rfl⟩
      | _ => simp [shows.1] at expecting
  · exact killed_answers reliable nofun

theorem ipReject_answers : p.Answers .ipReject k (E.respond c Msg.ipReject.data) := by
  change p.Answers _ k (if c.state = .expectingIpConfirmation then _ else _)
  split
  · next expecting =>
      cases phase with
      | expectingIpConfirmation subnet =>
          obtain ⟨-, low, high, -⟩ := shows
          exact propose_answers reliable (by omega) high expecting ofData nofun
            fun subnet => .proposed subnet linked
      | _ => simp [shows.1] at expecting
  · exact killed_answers reliable nofun

theorem respond_turns (m : Msg) : ∃ p' out, Party.Receive ⟨m, k⟩ p p' out ∧
    (E.respond c m.data).Turns (if m = .request then p.hears else p) p' out := by
  cases m with
  | request =>
      rw [if_pos rfl]
      exact ⟨_, _, .ignored (by simp [linked]), Reply.turns_of_msgs []
        (by rw [Party.hears_phase, linked]; exact .some shows ofData) rfl rfl rfl⟩
  | accept => exact accept_answers reliable shows ofData linked
  | bye kind => exact bye_answers reliable kind
  | proposal subnet => exact proposal_answers reliable shows ofData linked subnet
  | ipAccept => exact ipAccept_answers reliable shows ofData linked
  | ipReject => exact ipReject_answers reliable shows ofData linked

end

/-- The endpoint does with the packet of a message what a party does with the message. -/
theorem receive_turns {c : Option Connection} (shown : Shown c p.phase) (m : Msg) {r : Reply}
    (reply : E.receive c m.data = some r) :
    ∃ p' out, Party.Receive ⟨m, k⟩ p p' out ∧ r.Turns (if m = .request then p.hears else p) p' out := by
  generalize phase : p.phase = ph at shown
  cases shown with
  | none =>
      cases reply
      exact greet_turns reliable phase m
  | @some c ph shows ofData =>
      have arrival : c.fragments.arrival m.data = .packet m.data 0 c.fragments :=
        Fragments.arrive_whole m.data_whole
      simp only [Env.receive, arrival] at reply
      cases reply
      exact respond_turns reliable shows ofData phase m

end

/-! ## Steps of the net -/

/-- The net shows two parties of the protocol and the letters between them. -/
structure Net.Abstracts (n : Net) (d : Duplex Party Letter) : Prop where
  registered : ∀ x, (n.core x).callbackFunction = true
  shown : ∀ x, Shown (n.connection x) (d.party x).phase
  asked : ∀ x, (d.party x).asked = n.asked x
  heard : ∀ x, (d.party x).heard = n.heard x
  wire : ∀ x, n.wire x = (d.wire x).map Letter.parcel
  air : ∀ x, ∀ p ∈ n.air x, p.IsTraffic

/-- The environment of an honest endpoint takes every packet and has room for an
ethernet frame in 255 fragments. -/
structure Env.Honest (E : Env) : Prop extends E.Reliable where
  roomy : 10 ≤ E.maxPacketSize

/-- The devices read frames of at most 1518 bytes. -/
def Move.Framed : Move → Prop
  | .iterate _ reads => ∀ buffer, some buffer ∈ reads → buffer.length ≤ 1518
  | _ => True

namespace Net.Abstracts

variable {n : Net} {d : Duplex Party Letter}

theorem isSome_iff (h : n.Abstracts d) (x : Side) :
    (n.connection x).isSome = true ↔ (d.party x).phase ≠ none := by
  have shown := h.shown x
  generalize (d.party x).phase = ph at shown ⊢
  generalize n.connection x = c at shown ⊢
  cases shown <;> simp

theorem answer (h : n.Abstracts d) {x : Side} {r : Reply} {p' : Party} {out : List Letter}
    (turns : r.Turns (d.party x) p' out) : (n.answer x r).Abstracts (d.put x p' out) := by
  refine ⟨fun y => ?_, fun y => ?_, fun y => ?_, fun y => ?_, fun y => ?_, fun y => ?_⟩
  all_goals rcases Side.eq_or_other x y with rfl | rfl
  · simpa [Net.answer, Net.advance] using h.registered y
  · simpa [Net.answer, Net.advance] using h.registered x.other
  · simpa [Net.answer, Net.advance, Net.connection] using turns.shown
  · simpa [Net.answer, Net.advance, Net.connection, Duplex.put] using h.shown x.other
  · simpa [Net.answer, Net.advance, h.asked] using turns.asked
  · simpa [Net.answer, Net.advance, Duplex.put] using h.asked x.other
  · simpa [Net.answer, Net.advance, h.heard] using turns.heard
  · simpa [Net.answer, Net.advance, Duplex.put] using h.heard x.other
  · have letters := turns.letters
    rw [h.heard y] at letters
    simp [Net.answer, Net.advance, Duplex.put, h.wire, letters]
  · simpa [Net.answer, Net.advance, Duplex.put] using h.wire x.other
  · simp only [Net.answer, Net.advance, Function.update_self, List.mem_append, List.mem_filter]
    rintro p (old | ⟨new, lossy⟩)
    · exact h.air y p old
    · exact turns.traffic p new lossy
  · simpa [Net.answer, Net.advance] using h.air x.other

theorem take (h : n.Abstracts d) (x : Side) (l : Letter) (rest : List Letter) :
    (n.take x l.parcel (rest.map Letter.parcel)).Abstracts ((d.taken x rest).put x
      (if l.msg = .request then (d.party x).hears else d.party x) []) := by
  refine ⟨fun y => h.registered y, fun y => ?_, fun y => ?_, fun y => ?_, fun y => ?_,
    fun y => h.air y⟩
  all_goals rcases Side.eq_or_other x y with rfl | rfl
  · have shown := h.shown y
    simp only [Duplex.put_party]
    split <;> exact shown
  · rw [Duplex.put_party_other]
    exact h.shown x.other
  · have asked := h.asked y
    simp only [Duplex.put_party]
    split <;> exact asked
  · rw [Duplex.put_party_other]
    exact h.asked x.other
  · simp only [Duplex.put_party, Net.take, Letter.parcel, Msg.data_isRequest, Function.update_self,
      decide_eq_true_eq]
    split <;> simp [h.heard]
  · simpa [Duplex.put, Duplex.taken, Net.take] using h.heard x.other
  · simpa [Duplex.put, Duplex.taken, Net.take] using h.wire y
  · simp [Duplex.put, Duplex.taken, Net.take]

theorem takeLossy (h : n.Abstracts d) (x : Side) (i : Nat) : (n.takeLossy x i).Abstracts d := by
  refine ⟨h.registered, h.shown, h.asked, h.heard, h.wire, fun y p hp => ?_⟩
  rcases Side.eq_or_other x.other y with rfl | rfl
  · simp only [Net.takeLossy, Function.update_self] at hp
    exact h.air x.other p (List.mem_of_mem_eraseIdx hp)
  · simp only [Net.takeLossy, Side.other_other, Function.update_of_ne (Side.ne_other x)] at hp
    exact h.air x p hp

theorem call {E : Env} (honest : E.Honest) (h : n.Abstracts d) {x : Side} {call : Call}
    (user : ∀ dataRaw, call ≠ .receive dataRaw)
    (framed : ∀ reads, call = .iterate reads → ∀ buffer, some buffer ∈ reads → buffer.length ≤ 1518)
    {r : Reply} (reply : E.reply (n.connection x) call = some r) :
    ∃ p' out, (d.party x).Act p' out ∧ r.Turns (d.party x) p' out := by
  have shown := h.shown x
  cases call with
  | receive dataRaw => exact (user dataRaw rfl).elim
  | iterate reads => exact ⟨_, _, .stay, iterate_turns honest.roomy shown (framed reads rfl) reply⟩
  | sendConnectionRequest => exact sendConnectionRequest_turns shown reply
  | acceptConnection => exact acceptConnection_turns honest.toReliable shown reply
  | rejectConnection => exact erase_turns honest.toReliable shown (.inl rfl) reply
  | closeConnection => exact erase_turns honest.toReliable shown (.inr rfl) reply

/-- Every move of the net is a step of the protocol. -/
theorem step {E : Env} (honest : E.Honest) (h : n.Abstracts d) {move : Move} (framed : move.Framed)
    {n' : Net} (taken : n.step (E, move) = some n') :
    ∃ l d', Duplex.Step Party.Act Party.Receive l d d' ∧ n'.Abstracts d' ∧
      ∀ x, l = .receive x → move = .deliver x := by
  obtain ⟨x, call, m, r, turn, reply, rfl⟩ := Net.step_answer honest.passive h.registered taken
  have acts {p' : Party} {out : List Letter} (h : m.Abstracts d) (act : (d.party x).Act p' out)
      (turns : r.Turns (d.party x) p' out) : ∃ l d', Duplex.Step Party.Act Party.Receive l d d' ∧
        (m.answer x r).Abstracts d' ∧ ∀ y, l = .receive y → move = .deliver y :=
    ⟨.act x, _, .act act, h.answer turns, nofun⟩
  cases move with
  | deliver y =>
      simp only [Net.turn] at turn
      split at turn
      · cases turn
      · next p rest wire =>
          cases turn
          rw [h.wire] at wire
          obtain ⟨l, letters, next, rfl, rfl⟩ := List.map_eq_cons_iff.mp wire
          have heard := h.take x l letters
          have shown := h.shown x
          simp only [Env.reply, Letter.parcel, Data.fromToxData_bytes l.msg.data_toxHeaderSet] at reply
          obtain ⟨p', out, receive, turns⟩ :=
            receive_turns honest.toReliable (k := l.heard) shown l.msg reply
          refine ⟨.receive x, _, .receive next receive, ?_, fun z same => by cases same; rfl⟩
          rw [← Duplex.put_put]
          exact heard.answer (by simpa using turns)
  | deliverLossy y i =>
      simp only [Net.turn] at turn
      split at turn
      · cases turn
      · next lossy found =>
          cases turn
          have traffic := h.air x.other lossy (List.mem_of_getElem? found)
          simp only [Env.reply, Data.fromToxData_bytes traffic.1] at reply
          obtain ⟨p', out, act, turns⟩ := lossy_turns honest.toReliable (h.shown x) traffic reply
          exact acts (h.takeLossy x i) act turns
  | iterate y reads =>
      cases turn
      obtain ⟨p', out, act, turns⟩ := h.call honest (fun _ same => by cases same)
        (fun _ same => by cases same; exact framed) reply
      exact acts h act turns
  | sendConnectionRequest y | acceptConnection y | rejectConnection y | closeConnection y =>
      cases turn
      obtain ⟨p', out, act, turns⟩ := h.call honest (fun _ same => by cases same)
        (fun _ same => by cases same) reply
      exact acts h act turns

end Net.Abstracts

/-- The parties at the start. -/
def Duplex.start : Duplex Party Letter where
  party _ := ⟨none, 0, 0⟩
  wire _ := []

theorem Net.start_abstracts (friend : Side → UInt32) : (Net.start friend).Abstracts Duplex.start :=
  ⟨fun _ => rfl, fun _ => .none, fun _ => rfl, fun _ => rfl, fun _ => rfl, fun _ _ => nofun⟩

/-! ## Runs -/

/-- The inputs of honest endpoints. -/
def HonestInput (input : Env × Move) : Prop := input.1.Honest ∧ input.2.Framed

@[simp] theorem honestInput_obliging {usedIp4 : Nat → Option (List Ip4)} {move : Move} :
    HonestInput (Env.obliging usedIp4, move) ↔ move.Framed :=
  and_iff_right ⟨Env.obliging_reliable usedIp4, (by decide : 10 ≤ 1373)⟩

/-- A lossless packet is delivered to a connection, and the two have a property. The
number is that of the requests the receiver has sent. -/
def Net.meets (n : Net) (P : Parcel → Nat → Connection → Bool) : Move → Bool
  | .deliver x =>
      match n.wire x.other, n.connection x with
      | p :: _, some c => P p (n.asked x) c
      | _, _ => false
  | _ => false

theorem Net.Abstracts.meets {n : Net} {d : Duplex Party Letter} (h : n.Abstracts d) {x : Side}
    {l : Letter} {rest : List Letter} (next : d.wire x.other = l :: rest)
    {P : Parcel → Nat → Connection → Bool} (spared : n.meets P (.deliver x) = false)
    {phase : Phase} (linked : (d.party x).phase = some phase) :
    ∃ c : Connection, c.Shows phase ∧ P l.parcel (d.party x).asked c = false := by
  have shown := h.shown x
  rw [linked] at shown
  simp only [Net.meets, h.wire, next, List.map_cons, ← h.asked] at spared
  cases found : n.connection x with
  | none =>
      rw [found] at shown
      cases shown
  | some c =>
      rw [found] at shown spared
      cases shown with
      | some shows => exact ⟨c, shows, spared⟩

/-- What the protocol preserves under a condition on receptions holds along the runs of
the net that meet the condition. -/
theorem Net.reach_holds {allowed : Net → Env × Move → Prop} (ok : Letter → Party → Prop)
    {I : Party → Party → List Letter → List Letter → Prop}
    (honest : ∀ n i, allowed n i → HonestInput i)
    (guards : ∀ n d E x l rest, Net.Abstracts n d → allowed n (E, .deliver x) →
      d.wire x.other = l :: rest → ok l (d.party x))
    (start : Duplex.start.Holds I)
    (acts : ∀ s t m o s' out, I s t m o → I t s o m → s.Act s' out →
      I s' t (m ++ out) o ∧ I t s' o (m ++ out))
    (receives : ∀ s t m o l s' out, I s t m (l :: o) → I t s (l :: o) m → ok l s →
      Party.Receive l s s' out → I s' t (m ++ out) o ∧ I t s' o (m ++ out))
    {friend : Side → UInt32} {n : Net} (reached : Reach Net.step allowed (Net.start friend) n) :
    ∃ d, n.Abstracts d ∧ d.Holds I := by
  refine reached.invariant (I := fun n => ∃ d, n.Abstracts d ∧ d.Holds I)
    ⟨_, Net.start_abstracts friend, start⟩ ?_
  rintro n ⟨E, move⟩ n' ⟨d, shows, holds⟩ ok' taken
  obtain ⟨l, d', step, shows', label⟩ := shows.step (honest _ _ ok').1 (honest _ _ ok').2 taken
  have meets : ∀ x l' rest, l = .receive x → d.wire x.other = l' :: rest → ok l' (d.party x) := by
    intro x l' rest received next
    exact guards n d E x l' rest shows (label x received ▸ ok') next
  refine ⟨d', shows', holds.step (step.guard meets) acts fun s t m o l s' out mine theirs h =>
    receives s t m o l s' out mine theirs h.1 h.2⟩

end LibToxTun
