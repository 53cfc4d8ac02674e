import MeshCall.Media.Ivf
import MeshCall.Media.Ogg
import MeshCall.Peer.Basic
import MeshCall.Text.Quoted
/-!
# Capture devices

The capture devices of a call read media files: a camera or a screen plays the frames of an IVF
file, a microphone or system audio the pages of an Ogg/Opus file, and a microphone without a
file sends Opus silence. A looping device starts its file over when it runs out — an IVF device
every time, an Ogg device at most once per sample asked for, so that a file without audio ends
instead of spinning. A device that is not looping ends like a finished capture.

Opening a device reads its file's header; any failure there is a media access error for the
device. A device without a path has no device configured.
-/

namespace MeshCall.Media

inductive Container where
  | ivf
  | ogg
  deriving DecidableEq, Repr, Inhabited

/-- A capture device. -/
inductive Capture where
  | file (container : Container) (path : String) (loop : Bool) (name : String)
  | silence
  deriving DecidableEq, Repr, Inhabited

namespace Capture

def kind : Capture → MediaKind
  | .file .ivf _ _ _ => .video
  | _ => .audio

/-- The device's name, or its kind and path when it has none. -/
def label : Capture → String
  | .file c path _ name =>
    if name != "" then name else (if c == .ivf then "video:" else "audio:") ++ path
  | .silence => "silence"

end Capture

/-- An open device: where it is in its file. -/
structure Feed where
  device : Capture
  mime : String
  rest : List UInt8
  frameDuration : Int
  lastGranule : Nat
  deriving Inhabited

/-- A 20 ms Opus frame that decodes to silence. -/
def opusSilence : List UInt8 := [0xF8, 0xFF, 0xFE]

/-- Reads a device's file and header. -/
def openFeed (disk : Disk) (dev : Capture) : Except Fault Feed :=
  match dev with
  | .silence => .ok ⟨dev, "audio/opus", [], 20000000, 0⟩
  | .file c path _ _ => do
    let label := dev.label
    if path == "" then .error (Fault.mediaAccess label (some Fault.noDevice))
    let bytes ← (disk.read path).mapError fun e => Fault.mediaAccess label (some e)
    match c with
    | .ivf =>
      let (h, rest) ← (Ivf.readHeader bytes).mapError fun e =>
        Fault.mediaAccess label (some (Fault.wrap "read ivf header" e))
      let mime ← match h.fourcc with
        | [0x56, 0x50, 0x38, 0x30] => pure "video/VP8"
        | [0x56, 0x50, 0x39, 0x30] => pure "video/VP9"
        | cc => .error (Fault.mediaAccess label
            (some (Fault.plain ("unsupported fourcc " ++ Quoted.bytes cc))))
      pure ⟨dev, mime, rest, Ivf.frameDuration h, 0⟩
    | .ogg =>
      let rest ← (Ogg.readHeaders bytes).mapError fun e =>
        Fault.mediaAccess label (some (Fault.wrap "read ogg header" e))
      pure ⟨dev, "audio/opus", rest, 0, 0⟩

/-- An unexpected end counts as the end. -/
def endOf (e : Fault) : Fault := if e.has .truncated then Fault.eof else e

def Feed.loops (s : Feed) : Bool :=
  match s.device with
  | .file _ _ loop _ => loop
  | .silence => false

/-- Skips Ogg pages that carry no new audio, starting over at most once. -/
def nextPage (disk : Disk) : Nat → Bool → Feed → Except Fault (Sample × Feed)
  | 0, _, _ => .error Fault.eof
  | fuel + 1, rewound, s =>
    match Ogg.readPage s.rest with
    | .error e =>
      if e.has .endOfInput && s.loops && !rewound then
        match openFeed disk s.device with
        | .ok s' => nextPage disk fuel true s'
        | .error e => .error e
      else .error (endOf e)
    | .ok (page, rest) =>
      let s := { s with rest := rest }
      if page.granule ≤ s.lastGranule then nextPage disk fuel rewound s
      else .ok (⟨page.payload, Ogg.duration (page.granule - s.lastGranule)⟩,
        { s with lastGranule := page.granule })

/-- The next sample of an open device. -/
def Feed.next (disk : Disk) (s : Feed) : Except Fault (Sample × Feed) :=
  match s.device with
  | .silence => .ok (⟨opusSilence, 20000000⟩, s)
  | .file .ivf _ _ _ =>
    match Ivf.readFrame s.rest with
    | .ok (frame, rest) => .ok (⟨frame, s.frameDuration⟩, { s with rest := rest })
    | .error e =>
      if e.has .endOfInput && s.loops then do
        let s' ← openFeed disk s.device
        match Ivf.readFrame s'.rest with
        | .ok (frame, rest) => .ok (⟨frame, s'.frameDuration⟩, { s' with rest := rest })
        | .error e => .error (endOf e)
      else .error (endOf e)
  | .file .ogg path _ _ =>
    nextPage disk (s.rest.length + ((disk.read path).toOption.map List.length).getD 0 + 2) false s

/-- The devices of a call as configured: a looping camera, a looping microphone or silence, a
screen and system audio that end; an empty file name means no device, except for the
microphone. -/
structure CaptureSet where
  camera : Option Capture
  mic : Capture
  screen : Option Capture
  screenAudio : Option Capture
  deriving DecidableEq, Repr

def captureSet (cameraFile micFile screenFile screenAudioFile : String) : CaptureSet :=
  { camera := if cameraFile != "" then some (.file .ivf cameraFile true "camera") else none
    mic := if micFile != "" then .file .ogg micFile true "microphone" else .silence
    screen := if screenFile != "" then some (.file .ivf screenFile false "screen") else none
    screenAudio :=
      if screenAudioFile != "" then some (.file .ogg screenAudioFile false "system audio") else none }

end MeshCall.Media
