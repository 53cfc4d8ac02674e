/-!
The vocabulary of a peer connection: the kinds of session description, the description itself,
an ICE candidate as it is trickled, the states a connection reports and the kinds of media a
track carries.
-/

namespace MeshCall

/-- The kinds of session description of the offer/answer model. -/
inductive SdpType where
  | offer
  | answer
  | pranswer
  | rollback
  | unknown
  deriving DecidableEq, Repr, Inhabited

namespace SdpType

/-- The kind a name spells; names are exact and lower case. -/
def ofName : String → SdpType
  | "offer" => .offer
  | "answer" => .answer
  | "pranswer" => .pranswer
  | "rollback" => .rollback
  | _ => .unknown

def name : SdpType → String
  | .offer => "offer"
  | .answer => "answer"
  | .pranswer => "pranswer"
  | .rollback => "rollback"
  | .unknown => "unknown"

end SdpType

/-- A session description: its kind and its SDP text. -/
structure SessionDescription where
  type : SdpType
  sdp : String
  deriving DecidableEq, Repr, Inhabited

/-- An ICE candidate as it is trickled between peers; the optional parts may be absent. -/
structure IceCandidate where
  candidate : String := ""
  sdpMid : Option String := none
  sdpMLineIndex : Option Nat := none
  usernameFragment : Option String := none
  deriving DecidableEq, Repr, Inhabited

/-- The states a peer connection reports. -/
inductive ConnectionState where
  | unknown
  | new
  | connecting
  | connected
  | disconnected
  | failed
  | closed
  deriving DecidableEq, Repr, Inhabited

/-- The state a name spells; any other name is `unknown`. -/
def ConnectionState.ofName : String → ConnectionState
  | "new" => .new
  | "connecting" => .connecting
  | "connected" => .connected
  | "disconnected" => .disconnected
  | "failed" => .failed
  | "closed" => .closed
  | _ => .unknown

/-- The kind of media a track carries. -/
inductive MediaKind where
  | audio
  | video
  deriving DecidableEq, Repr, Inhabited

def MediaKind.name : MediaKind → String
  | .audio => "audio"
  | .video => "video"

/-- The kind a name spells, if any. -/
def MediaKind.ofName? : String → Option MediaKind
  | "audio" => some .audio
  | "video" => some .video
  | _ => none

end MeshCall
