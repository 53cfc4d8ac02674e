import MeshCall.Media.Stream
/-!
# The local media manager

Owns the local capture streams and knows which one is active, which is the one sent to every
peer. The camera stream pairs the microphone with the camera; a screen share pairs the screen
with system audio when there is such a device, and with the camera's microphone otherwise.
Switching the active stream away from a screen share stops the share.

The microphone button acts on the camera stream's audio, and on the share's own audio with it;
the camera button acts on the video of the active stream, or of the camera stream while nothing
is active.
-/

namespace MeshCall.Media

/-- The capture devices; an empty slot has none. -/
structure Devices where
  camera : Option Device := none
  mic : Option Device := none
  screen : Option Device := none
  screenAudio : Option Device := none
  deriving Inhabited

/-- Saved toggles applied to a fresh camera stream. -/
structure Prefs where
  micMuted : Bool := false
  cameraOff : Bool := false
  deriving DecidableEq, Repr, Inhabited

structure Manager where
  devices : Devices
  /-- Every stream acquired, oldest first; a stream's id is its position. -/
  streams : List Stream := []
  camera : Option Nat := none
  screen : Option Nat := none
  active : Option Nat := none
  deriving Inhabited

namespace Manager

def stream? (m : Manager) (id : Nat) : Option Stream := m.streams.find? (·.id == id)

/-- Changes stream `id`. -/
def modify (m : Manager) (id : Nat) (f : Stream → Stream) : Manager :=
  { m with streams := m.streams.map fun s => if s.id == id then f s else s }

/-- The audio track a stream sends: its own, or the one it reuses. -/
def audioOf (m : Manager) (s : Stream) : Option Track :=
  match s.borrowsAudio with
  | some lender => (m.stream? lender).bind (·.audio)
  | none => s.audio

/-- The kinds of the tracks a stream sends, audio first. -/
def trackKinds (m : Manager) (s : Stream) : List MediaKind :=
  ((m.audioOf s).map fun _ => MediaKind.audio).toList ++ (s.video.map fun _ => MediaKind.video).toList

/-- The next ordinal for a source. -/
def nextOrdinal (m : Manager) (src : Source) : Nat :=
  (m.streams.filter (·.source == src)).length + 1

/-- Adds a stream with the next id. -/
def add (m : Manager) (s : Nat → Stream) : Manager × Nat :=
  let id := m.streams.length
  ({ m with streams := m.streams ++ [s id] }, id)

def cameraStream (m : Manager) : Option Stream := m.camera.bind m.stream?

def screenStream (m : Manager) : Option Stream := m.screen.bind m.stream?

def activeStream (m : Manager) : Option Stream := m.active.bind m.stream?

/-- Opens the microphone and the camera as a new camera stream, with the saved toggles applied.
The stream is not made active; a camera stream it replaces is stopped. -/
def acquireCameraAndMic (m : Manager) (prefs : Prefs) : Except Fault (Manager × Nat) := do
  let audio ← openTrack m.devices.mic
  let video ← openTrack m.devices.camera
  let ord := m.nextOrdinal .camera
  let (m, id) := m.add fun id =>
    { id := id, source := .camera, ordinal := ord,
      audio := some { audio with enabled := !prefs.micMuted },
      video := some { video with enabled := !prefs.cameraOff } }
  let m := match m.camera with
    | some old => m.modify old Stream.stop
    | none => m
  pure ({ m with camera := some id }, id)

/-- Opens the screen as a new screen share. It carries system audio when that device exists,
following the microphone's enabled state, and the camera's microphone track otherwise. -/
def acquireScreenShare (m : Manager) : Except Fault (Manager × Nat) := do
  let video ← openTrack m.devices.screen
  let camAudio := m.cameraStream.bind (·.audio)
  let (audio, borrows) ← match m.devices.screenAudio with
    | some d =>
      let a ← openTrack (some d)
      pure (some (match camAudio with
        | some c => { a with enabled := c.enabled }
        | none => a), none)
    | none =>
      match camAudio with
      | some _ => pure (none, m.camera)
      | none => pure (none, none)
  let ord := m.nextOrdinal .screen
  let (m, id) := m.add fun id =>
    { id := id, source := .screen, ordinal := ord, audio := audio, video := some video,
      borrowsAudio := borrows }
  pure ({ m with screen := some id }, id)

/-- Makes `s` the active stream. Switching away from the screen share stops it. -/
def setActive (m : Manager) (s : Option Nat) : Manager :=
  let prev := m.active
  let m := { m with active := s }
  match prev with
  | some p =>
    if prev != s && m.screen == some p then { m with screen := none }.modify p Stream.stop else m
  | none => m

/-- Whether the screen share is the active stream. -/
def sharing (m : Manager) : Bool := m.active.isSome && m.active == m.screen

/-- Flips the microphone, and the screen share's own audio with it. -/
def toggleAudio (m : Manager) : Except Fault (Manager × Bool) :=
  match m.camera, m.cameraStream.bind (·.audio) with
  | some cam, some a =>
    let enabled := !a.enabled
    let m := m.modify cam fun s => { s with audio := s.audio.map fun t => { t with enabled := enabled } }
    let m := match m.screenStream with
      | some scr =>
        if scr.borrowsAudio.isNone then
          m.modify scr.id fun s => { s with audio := s.audio.map fun t => { t with enabled := enabled } }
        else m
      | none => m
    .ok (m, enabled)
  | _, _ => .error Fault.noStream

/-- The microphone state. -/
def audioEnabled (m : Manager) : Bool :=
  match m.cameraStream.bind (·.audio) with
  | some a => a.enabled
  | none => false

/-- The stream the camera button acts on: the active one, or the camera before anything is
active. -/
def videoStream (m : Manager) : Option Nat :=
  match m.active with
  | some a => some a
  | none => m.camera

/-- Flips the video of the stream the camera button acts on. -/
def toggleVideo (m : Manager) : Except Fault (Manager × Bool) :=
  match m.videoStream with
  | some id =>
    match (m.stream? id).bind (·.video) with
    | some v =>
      let enabled := !v.enabled
      .ok (m.modify id fun s => { s with video := s.video.map fun t => { t with enabled := enabled } },
        enabled)
    | none => .error Fault.noStream
  | none => .error Fault.noStream

/-- Whether the stream the camera button acts on sends video. -/
def videoEnabled (m : Manager) : Bool :=
  match m.videoStream.bind m.stream? |>.bind (·.video) with
  | some v => v.enabled
  | none => false

/-- Stops every stream the manager holds. -/
def stopAll (m : Manager) : Manager :=
  let (cam, scr) := (m.camera, m.screen)
  let m := { m with camera := none, screen := none, active := none }
  let m := match scr with
    | some s => m.modify s Stream.stop
    | none => m
  match cam with
  | some c => m.modify c Stream.stop
  | none => m

/-- Stops one stream. -/
def stopStream (m : Manager) (id : Nat) : Manager := m.modify id Stream.stop

end Manager

end MeshCall.Media
