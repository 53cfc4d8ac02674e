import MeshCall.Speaking.Meter
/-!
# RTP header extensions and audio levels

The header extensions of an RTP packet as RFC 8285 lays them out. The first extension set on a
packet picks the profile from its size: up to sixteen bytes the one-byte profile, up to 255 the
two-byte profile, otherwise the plain RFC 3550 extension. Later extensions must fit the profile:
ids 1 to 14 and at most sixteen bytes for one-byte, ids from 1 and at most 255 bytes for two-byte,
only id 0 for RFC 3550; an extension that does not fit is refused. Setting an id that is present
replaces its payload.

The audio level extension of RFC 6464 is one byte or more; its low seven bits are the level.
-/

namespace MeshCall

inductive ExtensionProfile where
  | oneByte
  | twoByte
  | plain
  deriving DecidableEq, Repr

/-- What a meter needs of an RTP packet. -/
structure RtpPacket where
  payloadLength : Int
  profile : Option ExtensionProfile := none
  extensions : List (Nat × List UInt8) := []
  deriving DecidableEq, Repr

namespace RtpPacket

/-- Whether an extension with this id and payload fits the profile. -/
def fits (p : ExtensionProfile) (id : Nat) (payload : List UInt8) : Bool :=
  match p with
  | .oneByte => 1 ≤ id && id ≤ 14 && payload.length ≤ 16
  | .twoByte => 1 ≤ id && payload.length ≤ 255
  | .plain => id == 0

/-- Sets extension `id`; the packet is unchanged when the extension does not fit. -/
def setExtension (pkt : RtpPacket) (id : Nat) (payload : List UInt8) : RtpPacket :=
  match pkt.profile with
  | none =>
    let p := if payload.length ≤ 16 then ExtensionProfile.oneByte
      else if payload.length < 256 then .twoByte else .plain
    { pkt with profile := some p, extensions := pkt.extensions ++ [(id, payload)] }
  | some p =>
    if !fits p id payload then pkt
    else if pkt.extensions.any (·.1 == id) then
      { pkt with extensions := pkt.extensions.map fun e => if e.1 == id then (id, payload) else e }
    else { pkt with extensions := pkt.extensions ++ [(id, payload)] }

/-- The payload of extension `id`, if the packet has one. -/
def extension? (pkt : RtpPacket) (id : Nat) : Option (List UInt8) :=
  match pkt.profile with
  | none => none
  | some _ => (pkt.extensions.find? (·.1 == id)).map (·.2)

end RtpPacket

/-- The level an RFC 6464 extension carries. -/
def audioLevel? : List UInt8 → Option Nat
  | b :: _ => some (b.toNat % 128)
  | [] => none

/-- Observes a packet: the audio level extension numbered `extId` when it is there and parses,
the payload size otherwise. An `extId` of zero means the extension was not negotiated. -/
def Meter.observePacket (m : Meter) (now : Int) (pkt : RtpPacket) (extId : Nat) :
    Meter × Option Bool :=
  let level := if extId == 0 then none else (pkt.extension? extId).bind audioLevel?
  match level with
  | some l => m.observeLevel now l
  | none => m.observePayload now pkt.payloadLength

/-- The URI of the audio level extension. -/
def audioLevelUri : String := "urn:ietf:params:rtp-hdrext:ssrc-audio-level"

/-- The negotiated id of the audio level extension, as one byte, or zero when it was not
negotiated. -/
def audioLevelExtensionId (exts : List (String × Int)) : Nat :=
  match exts.find? (·.1 == audioLevelUri) with
  | some (_, id) => (id % 256).toNat
  | none => 0

end MeshCall
