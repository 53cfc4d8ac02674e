import MeshCall.Fault
import MeshCall.Peer.Basic
/-!
# Local tracks and streams

A local track carries the samples of one capture device. It can be disabled, which keeps it
attached but silent on the wire, and it ends when it is stopped. A stream pairs at most one
audio and one video track; a screen share that has no audio of its own reuses the microphone
track of the camera stream, and must not stop it when the share stops.

A capture device is known by its label and the kind of media it captures; opening it may fail.
A failure is reported as a media access error for that device, unless the device already
reported one of its own.
-/

namespace MeshCall.Media

/-- What a stream captures. -/
inductive Source where
  | camera
  | screen
  deriving DecidableEq, Repr, Inhabited

def Source.name : Source → String
  | .camera => "camera"
  | .screen => "screen"

/-- One outgoing track. -/
structure Track where
  kind : MediaKind
  label : String
  enabled : Bool := true
  ended : Bool := false
  deriving DecidableEq, Repr, Inhabited

/-- A capture device as the streams see it. -/
structure Device where
  label : String
  kind : MediaKind
  /-- What opening the device gives: nothing to report, or why it failed. -/
  opens : Except Fault Unit
  deriving Inhabited

/-- Opens a track on a device slot. An empty slot is a media access error for `unknown`. -/
def openTrack : Option Device → Except Fault Track
  | none => .error (Fault.mediaAccess "unknown" (some Fault.noDevice))
  | some d =>
    match d.opens with
    | .error e => .error (if e.has .mediaAccess then e else Fault.mediaAccess d.label (some e))
    | .ok () => .ok { kind := d.kind, label := d.label }

/-- One outgoing audio/video pair. -/
structure Stream where
  /-- The stream's number among every stream acquired, counting from zero. -/
  id : Nat
  source : Source
  /-- The stream's number among the streams of its source, counting from one. -/
  ordinal : Nat
  audio : Option Track := none
  video : Option Track := none
  /-- The stream whose audio track this one reuses. -/
  borrowsAudio : Option Nat := none
  stopped : Bool := false
  deriving DecidableEq, Repr, Inhabited

/-- Ends a track. -/
def Track.stop (t : Track) : Track := { t with ended := true }

namespace Stream

/-- Stops every track the stream owns; a stream is stopped once only. -/
def stop (s : Stream) : Stream :=
  if s.stopped then s
  else { s with audio := s.audio.map Track.stop, video := s.video.map Track.stop, stopped := true }

end Stream

end MeshCall.Media
