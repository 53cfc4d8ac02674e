import MeshCall.Envelope.Basic
import MeshCall.Roster.View
import MeshCall.Media.Manager
import MeshCall.Store.Saved
import MeshCall.Text.Hex
/-!
# The vocabulary of a call

A call is run by one controller that owns the remote sessions. Everything that happens to it
arrives as an event: relay envelopes, peer connection callbacks, retry timers and speaking
changes. What it asks of the world around it — the relay, the peer connections, the saved-call
store, the timers and the view — goes through `Links`, so that the same controller runs against
any world that answers those requests.
-/

namespace MeshCall

/-- The local participant. -/
structure Identity where
  id : String
  name : String
  deriving DecidableEq, Repr, Inhabited

/-- A fresh identity: the id is the first eight hex digits of a random UUID, that is four random
bytes in lower-case hex. -/
def Identity.fresh (name : String) (random : List UInt8) : Identity :=
  ⟨Hex.encode (random.take 4), name⟩

/-- How a session whose transport failed is rebuilt: after `delayMs`, at most `maxAttempts`
times in a row per remote participant; zero attempts means no bound. -/
structure RetryPolicy where
  delayMs : Int := 1000
  maxAttempts : Int := 0
  deriving DecidableEq, Repr, Inhabited

/-- A delay that is not positive becomes one second. -/
def RetryPolicy.normalize (p : RetryPolicy) : RetryPolicy :=
  if p.delayMs ≤ 0 then { p with delayMs := 1000 } else p

structure CallConfig where
  self : Identity
  room : String
  retry : RetryPolicy
  /-- The speaking threshold in dBov; zero means the default. -/
  threshold : Nat
  deriving DecidableEq, Repr, Inhabited

/-- A track as a connection is handed it: the stream that owns it, that stream's source, and
the kind. -/
structure TrackRef where
  stream : Nat
  source : Media.Source
  kind : MediaKind
  deriving DecidableEq, Repr, Inhabited

/-- The tracks a stream sends, audio first; a reused microphone belongs to its lender. -/
def Media.Manager.sendTracks (m : Media.Manager) (s : Media.Stream) : List TrackRef :=
  let audio := match s.borrowsAudio with
    | some lender =>
      match m.stream? lender with
      | some l => (l.audio.map fun _ => (⟨l.id, l.source, .audio⟩ : TrackRef)).toList
      | none => []
    | none => (s.audio.map fun _ => (⟨s.id, s.source, .audio⟩ : TrackRef)).toList
  audio ++ (s.video.map fun _ => (⟨s.id, s.source, .video⟩ : TrackRef)).toList

/-- What the controller asks of a peer connection, apart from creating descriptions. -/
inductive ConnRequest where
  | addTrack (t : TrackRef)
  | replaceTrack (kind : MediaKind) (t : TrackRef)
  | setLocal (d : SessionDescription)
  | setRemote (d : SessionDescription)
  | addCandidate (c : IceCandidate)
  | close
  deriving DecidableEq, Repr

/-- Everything that reaches the controller. Peer events carry the generation of the session
they were made for. -/
inductive Event where
  | message (m : Envelope)
  | relayUp (reconnect : Bool)
  | relayDown
  | peerState (id : String) (gen : Nat) (state : ConnectionState)
  | localCandidate (id : String) (gen : Nat) (c : IceCandidate)
  | retry (id : String) (gen : Nat)
  | speaking (id : String) (gen : Nat) (speaking : Bool)
  | remoteMeter (id : String) (gen : Nat) (meter : Nat)
  | screenEnded (stream : Nat)
  deriving DecidableEq, Repr

/-- The world around a controller, with state `σ`. A connection is known by the remote id and
the generation of the session it was made for. -/
structure Links (σ : Type) where
  /-- Hands an envelope to the relay; a failure means it was dropped. -/
  send : Envelope → σ → Option Fault × σ
  closeRelay : σ → σ
  newConn : String → Nat → σ → Option Fault × σ
  request : String → Nat → ConnRequest → σ → Option Fault × σ
  /-- Creates an offer (`SdpType.offer`) or an answer. -/
  describe : String → Nat → SdpType → σ → Except Fault SessionDescription × σ
  save : SavedCall → σ → Option Fault × σ
  clear : σ → Option Fault × σ
  /-- Arms a timer that posts the event after the delay in milliseconds; gives its handle. -/
  arm : Int → Event → σ → Nat × σ
  disarm : Nat → σ → σ
  present : ViewCall → σ → σ

end MeshCall
