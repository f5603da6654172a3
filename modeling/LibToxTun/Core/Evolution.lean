import LibToxTun.Core.Endpoint

/-! # How the entry of a friend evolves

What an operation on a friend can do to the entry of the table, whatever comes in
and whichever sends fail: the ways to an address are the acceptance of a proposal
whose subnet is unused, and the confirmation of an own proposal.
-/

namespace LibToxTun

/-- The entry before and after an operation. -/
inductive Env.Evolves (E : Env) : Option Connection → Call → Option Connection → Prop where
  | gone {entry : Option Connection} {call : Call} : Evolves E entry call none
  | fresh {call : Call} (initiateConnection : Bool) :
      Evolves E none call (some (Connection.initial initiateConnection))
  | kept {c c' : Connection} {call : Call} (state : c'.state = c.state) (tun : c'.tun = c.tun)
      (subnet : c'.subnet = c.subnet) : Evolves E (some c) call (some c')
  | accepted {c : Connection} (ringing : c.state = .friendsRequestPending) :
      Evolves E (some c) .acceptConnection (some { c with state := .expectingIpPacket })
  | proposed {c c' : Connection} {call : Call} (state : c'.state = .expectingIpConfirmation)
      {clock : Nat} (unused : E.unusedAt clock (UInt8.ofInt c'.subnet) = true) :
      Evolves E (some c) call (some c')
  | taken {c c' : Connection} {call : Call} {subnet ipPostfix : UInt8}
      (state : c'.state = .connected) (tun : c'.tun.ip = some (subnet, ipPostfix))
      (unused : E.unusedAt 0 subnet = true) : Evolves E (some c) call (some c')
  | confirmed {c c' : Connection} {dataRaw : List UInt8} {d : Data} {joins : Nat} {fs : Fragments}
      (arrival : c.fragments.arrival (Data.fromToxData dataRaw) = .packet d joins fs)
      (header : PacketId.ofByte d.header = .ipAccept) (expecting : c.state = .expectingIpConfirmation)
      (state : c'.state = .connected) (tun : c'.tun.ip = some (UInt8.ofInt c.subnet, 1)) :
      Evolves E (some c) (.receive dataRaw) (some c')

section
variable {E : Env} {c : Connection} {d : Data} {joins : Nat} {fs : Fragments} {dataRaw : List UInt8}

theorem propose_evolves {call : Call} (state : c.state = .expectingIpConfirmation)
    (c' : Connection) : E.Evolves (some c') call (E.propose c).connection := by
  obtain ⟨⟨subnet, clock, found⟩, search⟩ := search_total E c.subnet 0
  simp only [Env.propose, search]
  cases found with
  | false => exact .gone
  | true =>
      obtain ⟨k, unused⟩ := search_unused E search
      cases sends : E.sends clock with
      | true =>
          simp only [sends, if_true]
          exact .proposed state unused
      | false =>
          simp only [sends, Bool.false_eq_true, if_false]
          exact .gone

theorem consider_evolves {call : Call} {c' : Connection} (state : c.state = c'.state)
    (tun : c.tun = c'.tun) (same : c.subnet = c'.subnet) (subnet ipPostfix : UInt8) :
    E.Evolves (some c') call (E.consider c subnet ipPostfix).connection := by
  unfold Env.consider
  split
  · next unused =>
      split
      · exact .taken rfl rfl unused
      · exact .gone
  · split
    · exact .kept state tun same
    · exact .gone

theorem respond_evolves
    (arrival : c.fragments.arrival (Data.fromToxData dataRaw) = .packet d joins fs) :
    E.Evolves (some c) (.receive dataRaw) (E.respond { c with fragments := fs } d).connection := by
  have kept : E.Evolves (some c) (.receive dataRaw) (some { c with fragments := fs }) :=
    .kept rfl rfl rfl
  have gone : E.Evolves (some c) (.receive dataRaw) none := .gone
  simp only [Env.respond]
  cases header : PacketId.ofByte d.header with
  | connectionRequest => exact kept
  | connectionAccept =>
      dsimp only
      split
      · exact propose_evolves rfl c
      · exact gone
  | connectionReject | connectionClose =>
      dsimp only
      split <;> exact gone
  | connectionReset => exact gone
  | ipProposal =>
      dsimp only
      split
      · split
        · exact @consider_evolves E { c with fragments := fs } _ c rfl rfl rfl _ _
        · exact kept
      · exact gone
  | ipAccept =>
      dsimp only
      split
      · next expecting => exact .confirmed arrival header expecting rfl rfl
      · exact gone
  | ipReject =>
      dsimp only
      split
      · next expecting => exact propose_evolves (c := { c with fragments := fs }) expecting c
      · exact gone
  | data =>
      dsimp only
      split
      · exact kept
      · exact gone
  | fragment => exact kept
  | unnamed b => exact kept

end

theorem greet_evolves (E : Env) (d : Data) (call : Call) :
    E.Evolves none call (E.greet d).connection := by
  unfold Env.greet
  split
  · split
    · exact .fresh false
    · exact .gone
  · exact .gone
  · exact .gone

theorem dismiss_evolves (E : Env) (c : Connection) (call : Call) :
    E.Evolves (some c) call (E.dismiss c).connection := by
  unfold Env.dismiss
  cases c.state <;> exact .gone

theorem reply_evolves {E : Env} {entry : Option Connection} {call : Call} {r : Reply}
    (reply : E.reply entry call = some r) : E.Evolves entry call r.connection := by
  cases entry with
  | none =>
      cases call with
      | receive dataRaw =>
          cases reply
          exact greet_evolves E _ _
      | sendConnectionRequest =>
          cases reply
          dsimp only
          split
          · exact .fresh true
          · exact .gone
      | iterate reads | acceptConnection | rejectConnection | closeConnection =>
          cases reply
          exact .gone
  | some c =>
      cases call with
      | receive dataRaw =>
          simp only [Env.reply, Env.receive] at reply
          cases arrival : c.fragments.arrival (Data.fromToxData dataRaw) with
          | packet d joins fs =>
              rw [arrival] at reply
              cases reply
              exact respond_evolves arrival
          | kept fs =>
              rw [arrival] at reply
              cases reply
              exact .kept rfl rfl rfl
          | corrupted | unfinished =>
              rw [arrival] at reply
              cases reply
      | iterate reads =>
          obtain ⟨⟨⟩, -⟩ | ⟨c', entry, -, rfl⟩ | ⟨c', entry, -, -, rfl⟩ := Env.reply_iterate reply
          · cases entry
            exact .kept rfl rfl rfl
          · cases entry
            obtain ⟨index, same⟩ := E.forward_connection 0 c reads
            simp only [same]
            exact .kept rfl rfl rfl
      | sendConnectionRequest =>
          cases reply
          exact .kept rfl rfl rfl
      | acceptConnection =>
          cases reply
          dsimp only
          split
          · next ringing =>
              split
              · exact .accepted ringing
              · exact .gone
          · exact dismiss_evolves E c _
      | rejectConnection | closeConnection =>
          cases reply
          exact dismiss_evolves E c _

end LibToxTun
