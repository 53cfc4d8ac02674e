import MeshCall.Media.Disk
import MeshCall.Speaking.Meter
/-!
# IVF video

An IVF file is a 32-byte header — the signature `DKIF`, a version that must be zero, the header
size, the codec's four characters, the frame size, and the time base as denominator and
numerator — followed by frames, each a 12-byte header (the payload size as a 32-bit
little-endian number and a timestamp) and the payload. Both parts of the time base must be
positive; every frame then lasts `numerator / denominator` seconds.
-/

namespace MeshCall.Media.Ivf

/-- The header fields a reader needs. -/
structure Header where
  fourcc : List UInt8
  denominator : Nat
  numerator : Nat
  deriving DecidableEq, Repr

/-- Reads the file header; the rest of the file follows it. -/
def readHeader (bs : List UInt8) : Except Fault (Header × List UInt8) := do
  let (h, rest) ← match readFull 32 bs with
    | .error e => if e.has .truncated then .error (Fault.plain "incomplete file header") else .error e
    | .ok r => .ok r
  if h.take 4 != [0x44, 0x4B, 0x49, 0x46] then .error (Fault.plain "IVF signature mismatch")
  let version := littleEndian ((h.drop 4).take 2)
  if version != 0 then
    .error (Fault.plain ("IVF version unknown, parser may not parse correctly: expected(0) got(" ++
      toString version ++ ")"))
  let hdr : Header :=
    ⟨(h.drop 8).take 4, littleEndian ((h.drop 16).take 4), littleEndian ((h.drop 20).take 4)⟩
  if hdr.denominator = 0 || hdr.numerator = 0 then .error (Fault.plain "invalid media timebase")
  pure (hdr, rest)

/-- Reads the next frame's payload. -/
def readFrame (bs : List UInt8) : Except Fault (List UInt8 × List UInt8) := do
  let (h, rest) ← match readFull 12 bs with
    | .error e => if e.has .truncated then .error (Fault.plain "incomplete frame header") else .error e
    | .ok r => .ok r
  match readFull (littleEndian (h.take 4)) rest with
  | .error e => if e.has .truncated then .error (Fault.plain "incomplete frame data") else .error e
  | .ok r => .ok r

/-- How long a frame plays: `numerator · 1 s / denominator` in 64-bit nanoseconds. -/
def frameDuration (h : Header) : Int :=
  (wrap64 (h.numerator * 1000000000)).tdiv h.denominator

end MeshCall.Media.Ivf
