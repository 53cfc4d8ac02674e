import MeshCall.Config.Flags
import MeshCall.Config.Layers
import MeshCall.Config.Yaml.Decode
import MeshCall.Config.Toml
import MeshCall.Config.Dotenv
import MeshCall.Json.Read
import MeshCall.Text.Space
import MeshCall.Fault
/-!
# Loading the client configuration

Every setting comes from the first of these that has it: a flag given on the command line, an
environment variable `HUDDLE_<KEY>` that is not empty, the configuration file, the built-in
default (see `Layers`: an environment variable counts only for a key that a default, a leaf of
the file or a given flag names). The file is the one `--config` (or `HUDDLE_CONFIG`) names; its
extension picks the format (YAML, JSON, TOML or an environment file).

Values are then fitted to the fields leniently: text, numbers and booleans convert into one
another (`"1"` is true, `true` is `"1"`, `""` is zero or false), durations are read from text or
taken as nanoseconds from numbers, and a list takes a comma-separated text or a single value.
Every field that does not fit is reported, in field order. Last, the ranges are checked.
-/

namespace MeshCall

/-- The client configuration. Durations are in nanoseconds. -/
structure ClientConfig where
  relayUrl : String := ""
  room : String := ""
  name : String := ""
  secure : Bool := false
  iceServers : List String := []
  retryDelay : Int := 0
  retryMaxAttempts : Int := 0
  rejoinDelay : Int := 0
  pingPeriod : Int := 0
  cameraFile : String := ""
  micFile : String := ""
  screenFile : String := ""
  screenAudioFile : String := ""
  stateFile : String := ""
  speakingThreshold : Int := 0
  statsInterval : Int := 0
  debug : Bool := false
  /-- The configuration file that was read, "" when none. -/
  file : String := ""
  deriving DecidableEq, Repr, Inhabited

namespace ClientConfig

/-- The first range rule the configuration breaks, if any. Room and name may be empty. -/
def validate (c : ClientConfig) : Except Fault Unit :=
  if Space.trim c.relayUrl == "" then .error (Fault.plain "relay_url is required")
  else if c.retryDelay ≤ 0 then
    .error (Fault.plain ("retry_delay must be positive, got " ++ Duration.text c.retryDelay))
  else if c.retryMaxAttempts < 0 then
    .error (Fault.plain ("retry_max_attempts must be >= 0, got " ++ toString c.retryMaxAttempts))
  else if c.rejoinDelay ≤ 0 then
    .error (Fault.plain ("rejoin_delay must be positive, got " ++ Duration.text c.rejoinDelay))
  else if c.pingPeriod ≤ 0 then
    .error (Fault.plain ("ping_period must be positive, got " ++ Duration.text c.pingPeriod))
  else if c.speakingThreshold < 1 || c.speakingThreshold > 127 then
    .error (Fault.plain ("speaking_threshold must be 1~127, got " ++ toString c.speakingThreshold))
  else if c.statsInterval < 0 then
    .error (Fault.plain ("stats_interval must be >= 0, got " ++ Duration.text c.statsInterval))
  else .ok ()

end ClientConfig

namespace Settings

/-! ## Fitting values to fields -/

/-- The message of a value that cannot become the field's type. -/
def unconvertible (key target : String) (v : Setting) : String :=
  "'" ++ key ++ "' expected type '" ++ target ++ "', got unconvertible type '" ++ v.typeName ++ "'"

/-- The integer part of a float, as a 64-bit conversion gives it: out of range and
not-a-number give the smallest integer. -/
def truncate (f : Float) : Int :=
  if f.isNaN || f.isInf then -Int.pow 2 63
  else
    let (negative, num, den) := FloatText.ratio f
    let q : Int := num / den
    let v := if negative then -q else q
    if v ≥ Int.pow 2 63 || v < -Int.pow 2 63 then -Int.pow 2 63 else v

/-- A signed 64-bit value of an unsigned one. -/
def signed (n : Nat) : Int := if n ≥ Nat.pow 2 63 then (n : Int) - Int.pow 2 64 else n

def asText (key : String) : Setting → Except String String
  | .text s => .ok s
  | .bool b => .ok (if b then "1" else "0")
  | .int i => .ok (toString i)
  | .uint n => .ok (toString n)
  | .float f => .ok (Setting.floatText f)
  | v => .error (unconvertible key "string" v)

def asBool (key : String) : Setting → Except String Bool
  | .bool b => .ok b
  | .int i => .ok (i != 0)
  | .uint n => .ok (n != 0)
  | .float f => .ok (f != 0)
  | .text s =>
    match Scalar.parseBool s with
    | .ok b => .ok b
    | .error e =>
      if s.isEmpty then .ok false
      else .error ("'" ++ key ++ "' cannot parse value as 'bool': " ++ e.brief)
  | v => .error (unconvertible key "bool" v)

/-- An integer field; `target` names the field's type. -/
def asInt (key target : String) : Setting → Except String Int
  | .int i => .ok i
  | .uint n => .ok (signed n)
  | .float f => .ok (truncate f)
  | .bool b => .ok (if b then 1 else 0)
  | .text s =>
    match Scalar.parseInt (if s.isEmpty then "0" else s) 0 with
    | .ok i => .ok i
    | .error e => .error ("'" ++ key ++ "' cannot parse value as '" ++ target ++ "': " ++ e.brief)
  | v => .error (unconvertible key target v)

/-- The duration error as decoding reports it: without the value. -/
def briefDuration (e : Duration.ParseError) : String :=
  match e with
  | .unknownUnit .. => "time: unknown unit"
  | _ =>
    let msg := e.message
    match (msg.splitOn " ").dropLast with
    | [] => msg
    | parts => " ".intercalate parts

def asDuration (key : String) : Setting → Except String Int
  | .text s =>
    match Duration.parse s with
    | .ok d => .ok d
    | .error e => .error ("'" ++ key ++ "' " ++ briefDuration e)
  | v => asInt key "time.Duration" v

/-- A list of text: a text is split at commas, a single value becomes a list of one, an empty
table an empty list. Each element that cannot be text is reported by its index. -/
def asTexts (key : String) : Setting → Except (List String) (List String)
  | .text s => .ok (if s.isEmpty then [] else s.splitOn ",")
  | .list xs =>
    let results : List (Except String String) := xs.zipIdx.map fun (x, i) =>
      match x with
      | .null => .ok ""
      | x => asText (key ++ "[" ++ toString i ++ "]") x
    let errors := results.filterMap fun r => match r with | .error e => some e | .ok _ => none
    if errors.isEmpty then .ok (results.filterMap fun r => match r with | .ok s => some s | .error _ => none)
    else .error errors
  | .table [] => .ok []
  | v => (asText (key ++ "[0]") v).map (fun s => [s]) |>.mapError (fun e => [e])

/-! ## Sources -/

/-- What the process starts with: its arguments, its environment, the files it can read, and
the user's configuration directory (none without a home). -/
structure Launch where
  args : List String
  env : List (String × String)
  files : List (String × String)
  configDir : Option String
  deriving Inhabited

def envPrefix : String := "HUDDLE"

/-- An environment variable, if set. -/
def Launch.getEnv (l : Launch) (name : String) : Option String :=
  (l.env.reverse.find? (·.1 == name)).map (·.2)

/-- The built-in defaults. -/
def defaults (configDir : Option String) : List (String × Setting) :=
  [ ("relay_url", .text "ws://localhost:8000"), ("secure", .bool false),
    ("ice_servers", .list []), ("retry_delay", .text "1s"), ("retry_max_attempts", .int 0),
    ("rejoin_delay", .text "1s"), ("ping_period", .text "25s"),
    ("state_file", .text (match configDir with
      | some d => d ++ "/huddle/call.yaml"
      | none => ".huddle-call.yaml")),
    ("speaking_threshold", .int 50), ("stats_interval", .text "0s"), ("debug", .bool false) ]

/-- Formats a configuration file can be read in. -/
def supported : List String :=
  ["json", "toml", "yaml", "yml", "properties", "props", "prop", "hcl", "tfvars", "dotenv", "env",
    "ini"]

/-- The extension of a path, without its dot; "" when the last element has none. -/
def extension (path : String) : String :=
  let base := (path.splitOn "/").getLast?.getD path
  match base.splitOn "." with
  | [] | [_] => ""
  | parts => parts.getLast?.getD ""

/-- A JSON value as a setting; numbers are floats. -/
def ofJson (fuel : Nat) (v : Json.Value) : Setting :=
  match fuel with
  | 0 => .null
  | fuel + 1 =>
    match v with
    | .null => .null
    | .bool b => .bool b
    | .number lit => .float ((Decimal.ofLiteral? lit).getD 0)
    | .string s => .text s
    | .array xs => .list (xs.map (ofJson fuel))
    | .object ms => .table (ms.foldl (fun acc (k, x) => (acc.filter (·.1 != k)) ++ [(k, ofJson fuel x)]) [])

/-- A step down into a JSON value: a member of an object or an element of an array. -/
inductive Step where
  | member (name : String)
  | index (i : Nat)

/-- A step as a token of a JSON pointer: a member's name with `~` written `~0` and `/` written
`~1`, an element's index in decimal. -/
def Step.text : Step → String
  | .member n => (n.replace "~" "~0").replace "/" "~1"
  | .index i => toString i

/-- The first number, in document order, too large for a float, with the steps that lead to it. -/
def firstOverflow (fuel : Nat) (v : Json.Value) : Option (String × List Step) :=
  match fuel with
  | 0 => none
  | fuel + 1 =>
    match v with
    | .number lit => if ((Decimal.ofLiteral? lit).getD 0).isInf then some (lit, []) else none
    | .array xs => xs.zipIdx.findSome? fun (x, i) => (firstOverflow fuel x).map fun (lit, path) =>
        (lit, Step.index i :: path)
    | .object ms => ms.findSome? fun (k, x) => (firstOverflow fuel x).map fun (lit, path) =>
        (lit, Step.member k :: path)
    | _ => none

/-- The complaint about a number too large for a float. The steps to it are written after a
dot each, and the place is named as the field of a record unless the part after its last dot is
a number, which is read as the index of an element. -/
def overflowMessage (lit : String) (path : List Step) : String :=
  let place := String.join (path.map fun st => "." ++ st.text)
  let last := (place.splitOn ".").getLast?.getD ""
  let target := if !last.isEmpty && last.all Char.isDigit then place else "Go struct field " ++ place
  "json: cannot unmarshal number " ++ lit ++ " into " ++ target ++ " of type float64"

/-- The pairs of a JSON object. The whole text must be well-formed first; then a number in the
object too large for a float cannot be read. -/
def readJson (text : String) : Except Fault (List (String × Setting)) :=
  let bs := Utf8.encode text
  match Json.read bs with
  | .error e => .error (Fault.named .malformedJson e.message)
  | .ok v =>
    match (match v with | .object _ => firstOverflow (bs.length + 2) v | _ => none) with
    | some (lit, path) => .error (Fault.named .jsonMismatch (overflowMessage lit path))
    | none =>
    match ofJson (bs.length + 2) v with
    | .table es => .ok es
    | .null => .ok []
    | _ => .error (Fault.named .jsonMismatch
        ("json: cannot unmarshal " ++ v.kind ++ " into Go value of type map[string]interface \x7b\x7d"))

/-- The top-level pairs of a configuration text in a format, keys in lower case; `outside` gives
the environment variables an environment file may refer to. -/
def decodeFile (outside : String → Option String) (format text : String) :
    Except Fault (List (String × Setting)) := do
  let plainly := fun (r : Except String (List (String × Setting))) => r.mapError Fault.plain
  let pairs ← match format.toLower with
    | "yaml" | "yml" => plainly (Yaml.readConfig text)
    | "json" => readJson text
    | "toml" => plainly (Toml.readConfig text)
    | "dotenv" | "env" =>
      plainly ((Dotenv.read outside text).map fun env => env.map fun (k, v) => (k, Setting.text v))
    | _ => throw (Fault.plain "decoder not found for this format")
  match Yaml.lowerKeys (text.length + 64) (.table pairs) with
  | .table es => pure es
  | _ => pure []

/-- The configuration file named by `--config`, or else by `HUDDLE_CONFIG`; "" when neither
names one. -/
def namedFile (l : Launch) (given : Flags.Given) : String :=
  let fromFlag := match given.lookup "config" with
    | some (.text s) => s
    | _ => ""
  if fromFlag.isEmpty then (l.getEnv (envPrefix ++ "_CONFIG")).getD "" else fromFlag

/-- Where a configuration file is looked for when none is named, in order: `huddle.<ext>` for
each readable extension and then plain `huddle`, first in the working directory, then in
`huddle` under the user's configuration directory. -/
def searchPaths (configDir : Option String) : List String :=
  let dirs := "." :: (configDir.map (· ++ "/huddle")).toList
  let inDir := fun (d n : String) => if d == "." then n else d ++ "/" ++ n
  dirs.flatMap fun d => (supported.map fun e => inDir d ("huddle." ++ e)) ++ [inDir d "huddle"]

/-- The configuration file's path and pairs. A named file is read in the format of its
extension and must exist. Otherwise the first file found on the search paths is read as YAML,
whatever its extension, and finding none is no error. -/
def readFile (l : Launch) (given : Flags.Given) : Except Fault (String × List (String × Setting)) :=
  let explicit := namedFile l given
  let parse := fun (path format text : String) =>
    match decodeFile l.getEnv format text with
    | .ok pairs => .ok (path, pairs)
    | .error e => .error (Fault.wrap "read config: While parsing config" e)
  if explicit.isEmpty then
    match (searchPaths l.configDir).filterMap (fun p => (l.files.lookup p).map (p, ·)) with
    | [] => .ok ("", [])
    | (path, text) :: _ => parse path "yaml" text
  else
    let format := extension explicit
    if !supported.contains format then
      .error (Fault.plain ("read config: Unsupported Config Type " ++ Quoted.string format))
    else match l.files.lookup explicit with
      | none => .error (Fault.plain ("read config: open " ++ explicit ++ ": no such file or directory"))
      | some text => parse explicit format text

/-- The files loading would read: the named one, or every place on the search paths. Nothing
when the arguments do not parse. -/
def wantedFiles (l : Launch) : List String :=
  match Flags.parse l.args with
  | .error _ => []
  | .ok given =>
    let explicit := namedFile l given
    if explicit.isEmpty then searchPaths l.configDir else [explicit]

/-- The layers of a load: the given flags (but `--config`) under their keys, the environment,
the file and the defaults. -/
def layers (l : Launch) (given : Flags.Given) (file defaults : List (String × Setting)) :
    Layers :=
  let names := given.foldl (fun ns (n, _) => if n == "config" || ns.contains n then ns else ns ++ [n]) []
  { flags := names.filterMap fun n => (given.lookup n).map fun v => (Layers.underscored n, v.setting),
    env := l.getEnv, envPrefix := envPrefix, file := file, defaults := defaults }

/-- A field read from the value chosen for its key with `read`: no value leaves `zero`, and a
value that does not fit leaves `zero` and its complaints. -/
def fitField {α : Type} (pick : String → Option Setting) (key : String) (zero : α)
    (read : String → Setting → Except (List String) α) : α × List String :=
  match pick key with
  | none => (zero, [])
  | some v =>
    match read key v with
    | .ok x => (x, [])
    | .error es => (zero, es)

/-- Fits the chosen values to the fields, collecting every field that does not fit. -/
def fit (pick : String → Option Setting) : ClientConfig × List String :=
  let text := fun (key : String) => fitField pick key "" fun k v => (asText k v).mapError ([·])
  let flag := fun (key : String) => fitField pick key false fun k v => (asBool k v).mapError ([·])
  let int := fun (key : String) =>
    fitField pick key (0 : Int) fun k v => (asInt k "int" v).mapError ([·])
  let span := fun (key : String) =>
    fitField pick key (0 : Int) fun k v => (asDuration k v).mapError ([·])
  let texts := fun (key : String) => fitField pick key ([] : List String) asTexts
  let relayUrl := text "relay_url"
  let room := text "room"
  let name := text "name"
  let secure := flag "secure"
  let ice := texts "ice_servers"
  let retryDelay := span "retry_delay"
  let retryMax := int "retry_max_attempts"
  let rejoin := span "rejoin_delay"
  let ping := span "ping_period"
  let camera := text "camera_file"
  let mic := text "mic_file"
  let screen := text "screen_file"
  let screenAudio := text "screen_audio_file"
  let stateFile := text "state_file"
  let threshold := int "speaking_threshold"
  let stats := span "stats_interval"
  let debug := flag "debug"
  ({ relayUrl := relayUrl.1, room := room.1, name := name.1, secure := secure.1,
     iceServers := ice.1, retryDelay := retryDelay.1, retryMaxAttempts := retryMax.1,
     rejoinDelay := rejoin.1, pingPeriod := ping.1, cameraFile := camera.1, micFile := mic.1,
     screenFile := screen.1, screenAudioFile := screenAudio.1, stateFile := stateFile.1,
     speakingThreshold := threshold.1, statsInterval := stats.1, debug := debug.1 },
   relayUrl.2 ++ room.2 ++ name.2 ++ secure.2 ++ ice.2 ++ retryDelay.2 ++ retryMax.2 ++ rejoin.2 ++
     ping.2 ++ camera.2 ++ mic.2 ++ screen.2 ++ screenAudio.2 ++ stateFile.2 ++ threshold.2 ++
     stats.2 ++ debug.2)

end Settings

/-- Loads the configuration: parses the flags, reads the file, layers the sources, fits the
values and checks the ranges. `-h` gives the help sentinel. -/
def ClientConfig.load (l : Settings.Launch) : Except Fault ClientConfig := do
  let given ← match Flags.parse l.args with
    | .ok g => pure g
    | .error .help => throw ⟨"pflag: help requested", [.help]⟩
    | .error (.message m) => throw (Fault.plain m)
  let (path, file) ← Settings.readFile l given
  let defaults := Settings.defaults l.configDir
  let settings := (Settings.layers l given file defaults).settings
  let (cfg, errors) := Settings.fit (Setting.field settings)
  if !errors.isEmpty then
    throw (Fault.plain ("parse config: decoding failed due to the following error(s):\n\n" ++
      "\n".intercalate errors))
  let cfg := { cfg with file := path }
  cfg.validate
  return cfg

end MeshCall
