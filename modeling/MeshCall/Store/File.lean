import MeshCall.Store.Saved
import MeshCall.Config.Load
import MeshCall.Json.Write
import MeshCall.Config.Yaml.Write
/-!
# The saved-call file

The saved call lives in one file inside one directory. Saving creates the directory if needed
and writes the four values in the format the file's extension names — YAML, JSON, TOML or
`KEY=value` lines — with the keys in alphabetical order. A name without an extension, or a hidden
name with none after its leading dot, is saved as YAML; a name ending in a dot cannot be saved. Loading always reads the file as YAML,
so a file saved in another format may not load back: JSON does (it is YAML too), TOML does not.
A missing file is not an error: loading finds nothing and clearing does nothing.

The places are shown by fixed labels in messages, so that what is reported does not depend on
where the file really is.
-/

namespace MeshCall.StateFile

/-- What can stand at a place. -/
inductive Entry where
  | file (content : String)
  | dir (nonEmpty : Bool)
  deriving DecidableEq, Repr

/-- The directory and the file in it: each absent or an entry; the file can only exist in a
directory. -/
structure Disk where
  dir : Option Entry := none
  path : Option Entry := none
  deriving DecidableEq, Repr, Inhabited

/-- How the places are named in messages, and the format the file is saved in: `none` when its
name leaves the format undetermined. -/
structure Place where
  dirLabel : String
  pathLabel : String
  format : Option String
  deriving DecidableEq, Repr, Inhabited

/-- The format a file is saved in, from the last part of its path: what follows the part's last
dot, or YAML when the part has no dot or its one dot comes first (a hidden file). A dot at the
very end leaves nothing to go by. -/
def formatOf (path : String) : Option String :=
  let base := ((path.splitOn "/").getLast?).getD path
  match base.splitOn "." with
  | [_] => some "yaml"
  | ["", _] => some "yaml"
  | parts =>
    let ext := (parts.getLast?).getD ""
    if ext.isEmpty then none else some ext

/-- Creates the directory unless it is there. -/
def mkdirAll (p : Place) (d : Disk) : Except String Disk :=
  match d.dir with
  | none => .ok { d with dir := some (.dir false) }
  | some (.dir _) => .ok d
  | some (.file _) => .error ("mkdir " ++ p.dirLabel ++ ": not a directory")

/-- Opens the file for writing, emptying it; the directory must exist. -/
def create (p : Place) (d : Disk) : Except String Disk :=
  match d.dir with
  | some (.file _) => .error ("open " ++ p.pathLabel ++ ": not a directory")
  | none => .error ("open " ++ p.pathLabel ++ ": no such file or directory")
  | some (.dir _) =>
    match d.path with
    | some (.dir _) => .error ("open " ++ p.pathLabel ++ ": is a directory")
    | _ => .ok { d with path := some (.file "") }

/-- The saved values in alphabetical order of their keys. -/
def fields (s : SavedCall) : List (String × Setting) :=
  [("camera_off", .bool s.cameraOff), ("mic_muted", .bool s.micMuted), ("name", .text s.name),
    ("room", .text s.room)]

def boolText (b : Bool) : String := if b then "true" else "false"

/-- A TOML string: literal between single quotes when it holds no single quote, line break or
control character other than tab; otherwise basic, with escapes. -/
def tomlString (s : String) : String :=
  let plainOk := s.all fun c =>
    c != '\'' && c != '\r' && c != '\n' && (c.toNat ≥ 0x20 || c == '\t') && c.toNat != 0x7F
  if plainOk then "'" ++ s ++ "'"
  else
    let hex := "0123456789ABCDEF".toList
    "\"" ++ String.join (s.toList.map fun c =>
      match c with
      | '\\' => "\\\\"
      | '"' => "\\\""
      | '\x08' => "\\b"
      | '\x0c' => "\\f"
      | '\n' => "\\n"
      | '\r' => "\\r"
      | '\t' => "\\t"
      | _ =>
        if c.toNat < 0x20 || c.toNat == 0x7F then
          "\\u00" ++ (hex.getD (c.toNat / 16) '0').toString ++ (hex.getD (c.toNat % 16) '0').toString
        else c.toString) ++ "\""

def settingText (asString : String → String) : Setting → String
  | .bool b => boolText b
  | .text s => asString s
  | _ => ""

/-- The file's text in a format, if the format can be written. -/
def encode (format : String) (s : SavedCall) : Option String :=
  let fs := fields s
  match format.toLower with
  | "yaml" | "yml" =>
    some (Yaml.mappingText (fs.filterMap fun (k, v) => match v with
      | .bool b => some (k, .truth b)
      | .text t => some (k, .text t)
      | _ => none))
  | "json" =>
    some ("\x7b\n" ++ ",\n".intercalate (fs.map fun (k, v) =>
      "  " ++ Json.Write.string k ++ ": " ++ settingText Json.Write.string v) ++ "\n\x7d")
  | "toml" => some (String.join (fs.map fun (k, v) => k ++ " = " ++ settingText tomlString v ++ "\n"))
  | "dotenv" | "env" => some (String.join (fs.map fun (k, v) => k.toUpper ++ "=" ++ settingText id v ++ "\n"))
  | _ => none

/-- Saves the call, in the format the place's name asks for. The directory is created first and stays even when saving then fails. The format is checked before
the file is opened, and the file is opened (and emptied) before the values are encoded, so a
known format that cannot be written leaves an empty file. -/
def save (p : Place) (s : SavedCall) (d : Disk) : Option Fault × Disk :=
  match mkdirAll p d with
  | .error e => (some (Fault.plain ("create state dir: " ++ e)), d)
  | .ok d =>
    let writeError := fun (e : String) => Fault.plain ("write state " ++ p.pathLabel ++ ": " ++ e)
    match p.format with
    | none => (some (writeError ("config type could not be determined for " ++ p.pathLabel)), d)
    | some format =>
    if !Settings.supported.contains format then
      (some (writeError ("Unsupported Config Type " ++ Quoted.string format)), d)
    else match create p d with
      | .error e => (some (writeError e), d)
      | .ok d =>
        match encode format s with
        | some text => (none, { d with path := some (.file text) })
        | none => (some (writeError "While marshaling config: encoder not found for this format"), d)

/-- Fits the file's pairs to a saved call, collecting every field that does not fit. -/
def fit (pairs : List (String × Setting)) : SavedCall × List String :=
  let pick := fun (k : String) => match Setting.field pairs k with
    | some .null => none
    | other => other
  let text := fun (k : String) => match pick k with
    | none => ("", [])
    | some v => match Settings.asText k v with
      | .ok s => (s, [])
      | .error e => ("", [e])
  let flag := fun (k : String) => match pick k with
    | none => (false, [])
    | some v => match Settings.asBool k v with
      | .ok b => (b, [])
      | .error e => (false, [e])
  let (room, e1) := text "room"
  let (name, e2) := text "name"
  let (mic, e3) := flag "mic_muted"
  let (camera, e4) := flag "camera_off"
  (⟨room, name, mic, camera⟩, e1 ++ e2 ++ e3 ++ e4)

/-- Loads the saved call; `none` when nothing was saved. -/
def load (p : Place) (d : Disk) : Except Fault (Option SavedCall) := do
  let readError := fun (e : String) => Fault.plain ("read state " ++ p.pathLabel ++ ": " ++ e)
  match d.dir with
  | some (.file _) => throw (readError ("open " ++ p.pathLabel ++ ": not a directory"))
  | none => return none
  | some (.dir _) =>
    match d.path with
    | none => return none
    | some (.dir _) => throw (readError ("read " ++ p.pathLabel ++ ": is a directory"))
    | some (.file text) =>
      let pairs ← (Yaml.readConfig text).mapError fun e => readError ("While parsing config: " ++ e)
      let (saved, errors) := fit pairs
      if !errors.isEmpty then
        throw (Fault.plain ("parse state " ++ p.pathLabel ++
          ": decoding failed due to the following error(s):\n\n" ++ "\n".intercalate errors))
      return some saved

/-- Removes the file; a missing one is fine. -/
def clear (p : Place) (d : Disk) : Except Fault Disk :=
  let fail := fun (e : String) => Except.error (Fault.plain ("clear state: remove " ++ p.pathLabel ++ ": " ++ e))
  match d.dir with
  | some (.file _) => fail "not a directory"
  | none => .ok d
  | some (.dir _) =>
    match d.path with
    | none => .ok d
    | some (.file _) => .ok { d with path := none }
    | some (.dir true) => fail "directory not empty"
    | some (.dir false) => .ok { d with path := none }

end MeshCall.StateFile
