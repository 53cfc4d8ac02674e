import MeshCall.Envelope.Basic
import MeshCall.Json.Read
import MeshCall.Json.Write
import MeshCall.Fault
import MeshCall.Text.Case
/-!
Envelopes on the wire: one JSON object per frame. Writing puts `type` first and the other fields
in a fixed order, leaves out absent candidate parts, and refuses a description that is neither an
offer nor an answer. Reading checks the grammar of the whole frame first; then it matches member
names to fields regardless of case (the last of a repeated name wins, unknown names are
skipped), reports the first member whose value has the wrong kind, and finally checks that the
envelope's type has the fields it needs.
-/

namespace MeshCall

/-! ## Writing -/

namespace Envelope

/-- The candidate object: absent optional parts are left out. -/
def writeCandidate (c : IceCandidate) : String :=
  Json.Write.object <|
    [("candidate", Json.Write.string c.candidate)] ++
    (c.sdpMid.map fun v => ("sdpMid", Json.Write.string v)).toList ++
    (c.sdpMLineIndex.map fun v => ("sdpMLineIndex", Json.Write.nat v)).toList ++
    (c.usernameFragment.map fun v => ("usernameFragment", Json.Write.string v)).toList

/-- Why an envelope cannot be written. -/
inductive EncodeError where
  | descriptionType (type : String)
  deriving DecidableEq, Repr

def EncodeError.message : EncodeError → String
  | .descriptionType t => "description has type " ++ Quoted.string t

/-- Whether a description type can go on the wire. -/
def writableType (t : String) : Bool := t == "offer" || t == "answer"

/-- The frame of an envelope. -/
def encode : Envelope → Except EncodeError String
  | join m => .ok <| Json.Write.object
      [("type", Json.Write.string "join"), ("from", Json.Write.string m.sender),
       ("name", Json.Write.string m.name), ("audioEnabled", Json.Write.bool m.audioEnabled)]
  | description m =>
    if writableType m.type then
      .ok <| Json.Write.object
        [("type", Json.Write.string m.type), ("sdp", Json.Write.string m.sdp),
         ("from", Json.Write.string m.sender), ("to", Json.Write.string m.recipient),
         ("name", Json.Write.string m.name), ("audioEnabled", Json.Write.bool m.audioEnabled)]
    else .error (.descriptionType m.type)
  | candidate m => .ok <| Json.Write.object
      [("type", Json.Write.string "candidate"), ("candidate", writeCandidate m.candidate),
       ("from", Json.Write.string m.sender), ("to", Json.Write.string m.recipient)]
  | audioToggle m => .ok <| Json.Write.object
      [("type", Json.Write.string "audio-toggle"), ("from", Json.Write.string m.sender),
       ("enabled", Json.Write.bool m.enabled)]
  | userLeft m => .ok <| Json.Write.object
      [("type", Json.Write.string "user-left"), ("id", Json.Write.string m.id)]

end Envelope

/-! ## Descriptions and session descriptions -/

/-- A session description kind that has no envelope. -/
structure UnsupportedSdp where
  name : String
  deriving DecidableEq, Repr

def UnsupportedSdp.message (e : UnsupportedSdp) : String :=
  "unsupported sdp type " ++ Quoted.string e.name

namespace Description

/-- The envelope that carries a local description to one peer; only offers and answers have
one. -/
def ofSession (d : SessionDescription) (sender recipient name : String) (audioEnabled : Bool) :
    Except UnsupportedSdp Description :=
  match d.type with
  | .offer => .ok ⟨"offer", d.sdp, sender, recipient, name, audioEnabled⟩
  | .answer => .ok ⟨"answer", d.sdp, sender, recipient, name, audioEnabled⟩
  | t => .error ⟨t.name⟩

/-- The session description an envelope carries. -/
def toSession (d : Description) : Except UnsupportedSdp SessionDescription :=
  if d.type == "offer" then .ok ⟨.offer, d.sdp⟩
  else if d.type == "answer" then .ok ⟨.answer, d.sdp⟩
  else .error ⟨d.type⟩

end Description

/-! ## Reading -/

/-- A member value of the wrong kind: what was found, the member's path (none for the whole
frame) and what the field holds. -/
structure Mismatch where
  found : String
  path : Option String
  target : String
  deriving DecidableEq, Repr

def Mismatch.message (m : Mismatch) : String :=
  let into := match m.path with
    | some p => " into Go struct field wire." ++ p
    | none => " into Go value"
  "json: cannot unmarshal " ++ m.found ++ into ++ " of type " ++ m.target

/-- Why a frame is not an envelope. -/
inductive DecodeError where
  | malformed (e : Json.SyntaxError)
  | mismatch (m : Mismatch)
  | missingSender
  | missingSdp (type : String)
  | missingRoute (type : String)
  | missingCandidate
  | missingToggle
  | missingId
  | unknownType (type : String)
  deriving Repr

def DecodeError.message : DecodeError → String
  | .malformed e => "invalid envelope: " ++ e.message
  | .mismatch m => "invalid envelope: " ++ m.message
  | .missingSender => "join: missing from"
  | .missingSdp t => t ++ ": missing sdp"
  | .missingRoute t => t ++ ": missing from/to"
  | .missingCandidate => "candidate: missing candidate"
  | .missingToggle => "audio-toggle: missing from/enabled"
  | .missingId => "user-left: missing id"
  | .unknownType t => "unknown message type: " ++ Quoted.string t

/-- The error as callers see it: grammar errors, kind mismatches and unknown types stay
recognisable. -/
def DecodeError.fault (e : DecodeError) : Fault :=
  match e with
  | .malformed _ => ⟨e.message, [.malformedJson]⟩
  | .mismatch _ => ⟨e.message, [.jsonMismatch]⟩
  | .unknownType _ => ⟨e.message, [.unknownType]⟩
  | _ => Fault.plain e.message

/-- Member names match when they are equal ignoring case; the long s and the Kelvin sign match
`s` and `k`. -/
def sameName (a b : String) : Bool := Case.fold a == Case.fold b

/-- Every field any envelope may carry; what is absent stays at its default. -/
structure WireFields where
  type : String := ""
  sender : String := ""
  recipient : String := ""
  name : String := ""
  sdp : Option String := none
  audioEnabled : Option Bool := none
  enabled : Option Bool := none
  candidate : Option IceCandidate := none
  id : String := ""
  deriving Repr, Inhabited

namespace WireFields

/-- A text field: a string sets it, null leaves it. -/
def text (path target : String) (current : String) : Json.Value → Except Mismatch String
  | .string s => .ok s
  | .null => .ok current
  | v => .error ⟨v.kind, some path, target⟩

/-- A text field that may be absent: null makes it absent. -/
def optText (path : String) : Json.Value → Except Mismatch (Option String)
  | .string s => .ok (some s)
  | .null => .ok none
  | v => .error ⟨v.kind, some path, "string"⟩

def optBool (path : String) : Json.Value → Except Mismatch (Option Bool)
  | .bool b => .ok (some b)
  | .null => .ok none
  | v => .error ⟨v.kind, some path, "bool"⟩

/-- The value of a decimal literal made of digits only. -/
def digitsValue? (s : String) : Option Nat :=
  if !s.isEmpty && s.all Char.isDigit then some s.toNat! else none

/-- A 16-bit index: the number must be a decimal integer below 65536. -/
def optIndex (path : String) : Json.Value → Except Mismatch (Option Nat)
  | .number lit =>
    match digitsValue? lit with
    | some n => if n < 65536 then .ok (some n) else .error ⟨"number " ++ lit, some path, "uint16"⟩
    | none => .error ⟨"number " ++ lit, some path, "uint16"⟩
  | .null => .ok none
  | v => .error ⟨v.kind, some path, "uint16"⟩

/-- Applies one member of a candidate object; `outer` is the name the candidate was given, and
a fault names both as they were written. -/
def setCandidateMember (outer : String) (c : IceCandidate) (name : String) (v : Json.Value) :
    Except Mismatch IceCandidate :=
  let path := outer ++ "." ++ name
  if sameName name "candidate" then
    return { c with candidate := ← text path "string" c.candidate v }
  else if sameName name "sdpMid" then
    return { c with sdpMid := ← optText path v }
  else if sameName name "sdpMLineIndex" then
    return { c with sdpMLineIndex := ← optIndex path v }
  else if sameName name "usernameFragment" then
    return { c with usernameFragment := ← optText path v }
  else pure c

/-- A candidate member written as `name`: an object is read into the candidate already there (or
a fresh one); null makes it absent. -/
def candidateField (name : String) (current : Option IceCandidate) : Json.Value →
    Except Mismatch (Option IceCandidate)
  | .object members =>
    (members.foldlM (fun c (n, v) => setCandidateMember name c n v) (current.getD {})).map some
  | .null => .ok none
  | v => .error ⟨v.kind, some name, "protocol.ICECandidate"⟩

/-- Applies one member of the envelope object. A fault names the member as it was written, not
as the field is spelt. -/
def setMember (f : WireFields) (name : String) (v : Json.Value) : Except Mismatch WireFields :=
  if sameName name "type" then return { f with type := ← text name "protocol.Type" f.type v }
  else if sameName name "from" then return { f with sender := ← text name "string" f.sender v }
  else if sameName name "to" then
    return { f with recipient := ← text name "string" f.recipient v }
  else if sameName name "name" then return { f with name := ← text name "string" f.name v }
  else if sameName name "sdp" then return { f with sdp := ← optText name v }
  else if sameName name "audioEnabled" then
    return { f with audioEnabled := ← optBool name v }
  else if sameName name "enabled" then return { f with enabled := ← optBool name v }
  else if sameName name "candidate" then
    return { f with candidate := ← candidateField name f.candidate v }
  else if sameName name "id" then return { f with id := ← text name "string" f.id v }
  else pure f

/-- The fields of a whole frame's value. -/
def ofValue : Json.Value → Except Mismatch WireFields
  | .object members => members.foldlM (fun f (n, v) => setMember f n v) {}
  | .null => .ok {}
  | v => .error ⟨v.kind, none, "protocol.wire"⟩

/-- The envelope the fields make, if its type has what it needs. -/
def toEnvelope (f : WireFields) : Except DecodeError Envelope :=
  let audio := f.audioEnabled.getD true
  if f.type == "join" then
    if f.sender == "" then .error .missingSender
    else .ok (.join ⟨f.sender, f.name, audio⟩)
  else if f.type == "offer" || f.type == "answer" then
    match f.sdp with
    | none => .error (.missingSdp f.type)
    | some sdp =>
      if sdp == "" then .error (.missingSdp f.type)
      else if f.sender == "" || f.recipient == "" then .error (.missingRoute f.type)
      else .ok (.description ⟨f.type, sdp, f.sender, f.recipient, f.name, audio⟩)
  else if f.type == "candidate" then
    match f.candidate with
    | none => .error .missingCandidate
    | some c =>
      if f.sender == "" || f.recipient == "" then .error (.missingRoute "candidate")
      else .ok (.candidate ⟨c, f.sender, f.recipient⟩)
  else if f.type == "audio-toggle" then
    match f.enabled with
    | some e => if f.sender == "" then .error .missingToggle else .ok (.audioToggle ⟨f.sender, e⟩)
    | none => .error .missingToggle
  else if f.type == "user-left" then
    if f.id == "" then .error .missingId else .ok (.userLeft ⟨f.id⟩)
  else .error (.unknownType f.type)

end WireFields

/-- Reads one frame. The whole frame must be well-formed JSON before any field is looked at, so a
fault of syntax anywhere, trailing bytes included, wins over a field of the wrong kind. -/
def Envelope.decode (frame : List UInt8) : Except DecodeError Envelope := do
  let v ← (Json.read frame).mapError .malformed
  let fields ← (WireFields.ofValue v).mapError .mismatch
  fields.toEnvelope

end MeshCall
