import MeshCall.Media.Disk
import MeshCall.Text.Utf8
import MeshCall.Speaking.Meter
/-!
# Ogg pages and Opus streams

An Ogg page is a 27-byte header — the capture pattern `OggS`, a version, the header type, the
64-bit granule position, the stream serial, the page number, a CRC-32 and the number of
segments — followed by the segment table and the payload, whose size is the sum of the segment
sizes. The CRC (polynomial 0x04c11db7, no reflection, computed with the checksum field taken as
zero) must match.

An Opus stream starts with a page of type "beginning of stream" carrying the `OpusHead`
identification header: nineteen bytes for channel mapping family 0, and for families 1, 2 and
255 two more bytes plus one per channel. Family 3 (ambisonics) and other families are not
supported.
-/

namespace MeshCall.Media.Ogg

/-- One step of the CRC register over a byte, most significant bit first. -/
def crcStep (crc : Nat) (b : UInt8) : Nat :=
  let r := (crc ^^^ (b.toNat <<< 24)) % Nat.pow 2 32
  let shift (r : Nat) : Nat := if r &&& 0x80000000 != 0 then ((r <<< 1) ^^^ 0x04C11DB7) % Nat.pow 2 32
    else (r <<< 1) % Nat.pow 2 32
  (List.range 8).foldl (fun r _ => shift r) r

def crc (bs : List UInt8) : Nat := bs.foldl crcStep 0

/-- A page's header fields and payload. -/
structure Page where
  signature : List UInt8
  headerType : Nat
  granule : Nat
  payload : List UInt8
  deriving DecidableEq, Repr

/-- Reads the next page. -/
def readPage (bs : List UInt8) : Except Fault (Page × List UInt8) := do
  let (h, rest) ← readFull 27 bs
  let count := (h.getD 26 0).toNat
  let (table, rest) ← readFull count rest
  let size := (table.map UInt8.toNat).foldl (· + ·) 0
  let (payload, rest) ← readFull size rest
  let zeroed := h.take 22 ++ [0, 0, 0, 0] ++ h.drop 26
  if crc (zeroed ++ table ++ payload) != littleEndian ((h.drop 22).take 4) then
    .error (Fault.plain "expected and actual checksum do not match")
  pure (⟨h.take 4, (h.getD 5 0).toNat, littleEndian ((h.drop 6).take 8), payload⟩, rest)

def unsupportedFamily : String := "unsupported channel mapping family"

/-- The name of an Opus header from its first eight bytes: `OpusHead` or `OpusTags`, and empty
for anything else. -/
def headerName (magic : List UInt8) : String :=
  if magic == Utf8.encode "OpusHead" then "OpusHead"
  else if magic == Utf8.encode "OpusTags" then "OpusTags"
  else ""

/-- Reads the identification page of an Opus stream. -/
def readHeaders (bs : List UInt8) : Except Fault (List UInt8) := do
  let (page, rest) ← readPage bs
  if page.signature != [0x4F, 0x67, 0x67, 0x53] then .error (Fault.plain "bad header signature")
  if page.headerType != 2 then .error (Fault.plain "wrong header, expected beginning of stream")
  let p := page.payload
  let badLength := Fault.plain "payload for id page must be 19 bytes"
  if p.length < 19 then .error badLength
  if p.take 8 != Utf8.encode "OpusHead" then
    .error (Fault.plain ("bad payload signature: expected OpusHead, got " ++ headerName (p.take 8)))
  let channels := (p.getD 9 0).toNat
  match (p.getD 18 0).toNat with
  | 0 => if p.length != 19 then .error badLength
  | 1 | 2 | 255 => if p.length != 21 + channels then .error badLength
  | 3 => .error (Fault.plain (unsupportedFamily ++ ": ambisonics family type 3 is not supported"))
  | _ => .error (Fault.plain unsupportedFamily)
  pure rest

/-- The clock of Opus timestamps, whatever the input rate. -/
def clockRate : Nat := 48000

/-- How long `samples` granule units play, in 64-bit nanoseconds: the count is taken as a
signed 64-bit number, multiplied by a second with wrap-around, and divided by the clock rate. -/
def duration (samples : Nat) : Int :=
  (wrap64 (wrap64 samples * 1000000000)).tdiv clockRate

end MeshCall.Media.Ogg
