import LibToxTun.Foundation.Duplex
import LibToxTun.Data.Packet

/-! # The handshake as a protocol

What two endpoints do to each other, without packets, stores and devices: the
phase of a connection on either side, the messages that pass between them, and the
moves of a party. A party may do more here than the code would, for example give a
connection up on any message, so what holds here holds of the code.
-/

namespace LibToxTun

/-- The messages that tell a peer that there is no connection any more. -/
inductive Bye where
  | reject
  | close
  | reset
deriving DecidableEq, Repr

inductive Msg where
  | request
  | accept
  | bye (kind : Bye)
  | proposal (subnet : UInt8)
  | ipAccept
  | ipReject
deriving DecidableEq, Repr

namespace Msg

/-- The packet of a message. -/
def data : Msg → Data
  | request => Data.fromPacketId .connectionRequest
  | accept => Data.fromPacketId .connectionAccept
  | bye .reject => Data.fromPacketId .connectionReject
  | bye .close => Data.fromPacketId .connectionClose
  | bye .reset => Data.fromPacketId .connectionReset
  | proposal subnet => Data.fromIpPostfix subnet 2
  | ipAccept => Data.fromPacketId .ipAccept
  | ipReject => Data.fromPacketId .ipReject

def isBye : Msg → Bool
  | bye _ => true
  | _ => false

def isProposal : Msg → Bool
  | proposal _ => true
  | _ => false

end Msg

/-- A message, with the number of requests its sender had received before. -/
structure Letter where
  msg : Msg
  heard : Nat
deriving DecidableEq, Repr

/-- How far a connection has come. The side that asked for it is the first one
once an address is set, the side that accepted the second. -/
inductive Phase where
  | ownRequestPending
  | friendsRequestPending
  | expectingIpPacket
  | expectingIpConfirmation (subnet : UInt8)
  | connectedFirst (subnet : UInt8)
  | connectedSecond (subnet : UInt8)
deriving DecidableEq, Repr

namespace Phase

/-- The connection was requested from this side. -/
def initiated : Phase → Bool
  | ownRequestPending => true
  | expectingIpConfirmation _ => true
  | connectedFirst _ => true
  | _ => false

def waits : Phase → Bool
  | ownRequestPending => true
  | expectingIpPacket => true
  | expectingIpConfirmation _ => true
  | _ => false

end Phase

/-- A party: its connection, and the requests it has sent and received. -/
structure Party where
  phase : Option Phase
  asked : Nat
  heard : Nat
deriving DecidableEq, Repr

namespace Party

def inPhase (p : Party) (phase : Option Phase) : Party := { p with phase := phase }

/-- One more request was received. -/
def hears (p : Party) : Party := { p with heard := p.heard + 1 }

def letter (p : Party) (msg : Msg) : Letter := ⟨msg, p.heard⟩

@[simp] theorem inPhase_phase (p : Party) (phase : Option Phase) : (p.inPhase phase).phase = phase := rfl
@[simp] theorem inPhase_asked (p : Party) (phase : Option Phase) : (p.inPhase phase).asked = p.asked := rfl
@[simp] theorem inPhase_heard (p : Party) (phase : Option Phase) : (p.inPhase phase).heard = p.heard := rfl
@[simp] theorem hears_phase (p : Party) : p.hears.phase = p.phase := rfl
@[simp] theorem hears_asked (p : Party) : p.hears.asked = p.asked := rfl
@[simp] theorem hears_heard (p : Party) : p.hears.heard = p.heard + 1 := rfl
@[simp] theorem letter_msg (p : Party) (msg : Msg) : (p.letter msg).msg = msg := rfl
@[simp] theorem letter_heard (p : Party) (msg : Msg) : (p.letter msg).heard = p.heard := rfl

/-- What a party does by itself: the calls of its user, and what lossy packets do. -/
inductive Act : Party → Party → List Letter → Prop where
  | stay {p : Party} : Act p p []
  | request {p : Party} (free : p.phase = none) :
      Act p { p with phase := some .ownRequestPending, asked := p.asked + 1 } [p.letter .request]
  | accept {p : Party} (ringing : p.phase = some .friendsRequestPending) :
      Act p (p.inPhase (some .expectingIpPacket)) [p.letter .accept]
  | leave {p : Party} (kind : Bye) (linked : p.phase ≠ none) :
      Act p (p.inPhase none) [p.letter (.bye kind)]
  | refuse {p : Party} (free : p.phase = none) : Act p p [p.letter (.bye .reset)]

/-- What a party does with a message. -/
inductive Receive : Letter → Party → Party → List Letter → Prop where
  /-- A request on an existing connection is ignored. -/
  | ignored {p : Party} {k : Nat} (linked : p.phase ≠ none) : Receive ⟨.request, k⟩ p p.hears []
  | ring {p : Party} {k : Nat} (free : p.phase = none) :
      Receive ⟨.request, k⟩ p (p.hears.inPhase (some .friendsRequestPending)) []
  | refused {p : Party} {k : Nat} (free : p.phase = none) :
      Receive ⟨.request, k⟩ p p.hears [p.hears.letter (.bye .reset)]
  | ended {p : Party} {k : Nat} (kind : Bye) : Receive ⟨.bye kind, k⟩ p (p.inPhase none) []
  | endedBack {p : Party} {k : Nat} (kind : Bye) :
      Receive ⟨.bye kind, k⟩ p (p.inPhase none) [p.letter (.bye .reset)]
  /-- Any other message may find no connection, or end the one it finds. -/
  | stray {p : Party} {k : Nat} {m : Msg} (other : m ≠ .request) (noBye : m.isBye = false) :
      Receive ⟨m, k⟩ p (p.inPhase none) [p.letter (.bye .reset)]
  | accepted {p : Party} {k : Nat} (subnet : UInt8) (asking : p.phase = some .ownRequestPending) :
      Receive ⟨.accept, k⟩ p (p.inPhase (some (.expectingIpConfirmation subnet)))
        [p.letter (.proposal subnet)]
  | taken {p : Party} {k : Nat} {subnet : UInt8} (expecting : p.phase = some .expectingIpPacket) :
      Receive ⟨.proposal subnet, k⟩ p (p.inPhase (some (.connectedSecond subnet)))
        [p.letter .ipAccept]
  | declined {p : Party} {k : Nat} {subnet : UInt8} (expecting : p.phase = some .expectingIpPacket) :
      Receive ⟨.proposal subnet, k⟩ p p [p.letter .ipReject]
  | confirmed {p : Party} {k : Nat} {subnet : UInt8}
      (expecting : p.phase = some (.expectingIpConfirmation subnet)) :
      Receive ⟨.ipAccept, k⟩ p (p.inPhase (some (.connectedFirst subnet))) []
  | proposed {p : Party} {k : Nat} {subnet : UInt8} (next : UInt8)
      (expecting : p.phase = some (.expectingIpConfirmation subnet)) :
      Receive ⟨.ipReject, k⟩ p (p.inPhase (some (.expectingIpConfirmation next)))
        [p.letter (.proposal next)]

end Party

end LibToxTun
