import MeshCall.Peer.Basic
/-!
Envelopes: the messages a participant exchanges with the room through the relay. The relay
forwards every envelope to every other participant, so unicast envelopes (descriptions and
candidates) name their recipient and everyone else ignores them.
-/

namespace MeshCall

/-- A participant announces itself to the room. -/
structure Join where
  sender : String
  name : String
  audioEnabled : Bool
  deriving DecidableEq, Repr, Inhabited

/-- A session description sent to one peer. The type is free text on the way in; only offers
and answers can be written to the wire. -/
structure Description where
  type : String
  sdp : String
  sender : String
  recipient : String
  name : String
  audioEnabled : Bool
  deriving DecidableEq, Repr, Inhabited

/-- One ICE candidate trickled to one peer. -/
structure CandidateNote where
  candidate : IceCandidate
  sender : String
  recipient : String
  deriving DecidableEq, Repr, Inhabited

/-- A participant's microphone changed. -/
structure AudioToggle where
  sender : String
  enabled : Bool
  deriving DecidableEq, Repr, Inhabited

/-- The relay reports that a participant left. -/
structure UserLeft where
  id : String
  deriving DecidableEq, Repr, Inhabited

inductive Envelope where
  | join (m : Join)
  | description (m : Description)
  | candidate (m : CandidateNote)
  | audioToggle (m : AudioToggle)
  | userLeft (m : UserLeft)
  deriving DecidableEq, Repr, Inhabited

namespace Envelope

/-- The type an envelope carries on the wire. -/
def type : Envelope → String
  | join _ => "join"
  | description m => m.type
  | candidate _ => "candidate"
  | audioToggle _ => "audio-toggle"
  | userLeft _ => "user-left"

/-- The participant an envelope comes from; the relay's own envelopes have none (""). -/
def sender : Envelope → String
  | join m => m.sender
  | description m => m.sender
  | candidate m => m.sender
  | audioToggle m => m.sender
  | userLeft _ => ""

/-- The addressee of a unicast envelope, "" for a broadcast. -/
def recipient : Envelope → String
  | description m => m.recipient
  | candidate m => m.recipient
  | _ => ""

end Envelope

end MeshCall
