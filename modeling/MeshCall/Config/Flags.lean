import MeshCall.Config.Duration
import MeshCall.Config.Scalar
import MeshCall.Config.Csv
import MeshCall.Config.Setting
/-!
# Command-line flags

The client's flags. A long flag is `--name value` or `--name=value`; a boolean flag given
without `=value` is true. A short flag is `-r value`, `-rvalue` or `-r=value`. Arguments that are
not flags are skipped, and `--` ends the flags. `-h` and `--help`, when no flag of that name
exists, ask for help. A list flag reads each value as comma-separated fields and adds them to
what earlier occurrences gave.

A value that does not suit its flag stops parsing with
`invalid argument "V" for "--name" flag: REASON`, naming the flag as `-r, --room` when it has a
short form.
-/

namespace MeshCall.Flags

/-- What a flag holds. -/
inductive Kind where
  | text
  | toggle
  | list
  | duration
  | number
  deriving DecidableEq, Repr

structure Spec where
  name : String
  short : Option Char
  kind : Kind
  deriving DecidableEq, Repr

/-- The client's flags. -/
def specs : List Spec :=
  [ ⟨"config", some 'f', .text⟩, ⟨"relay-url", none, .text⟩, ⟨"room", some 'r', .text⟩,
    ⟨"name", some 'n', .text⟩, ⟨"secure", none, .toggle⟩, ⟨"ice-servers", none, .list⟩,
    ⟨"retry-delay", none, .duration⟩, ⟨"retry-max-attempts", none, .number⟩,
    ⟨"rejoin-delay", none, .duration⟩, ⟨"ping-period", none, .duration⟩,
    ⟨"camera-file", none, .text⟩, ⟨"mic-file", none, .text⟩, ⟨"screen-file", none, .text⟩,
    ⟨"screen-audio-file", none, .text⟩, ⟨"state-file", none, .text⟩,
    ⟨"speaking-threshold", none, .number⟩, ⟨"stats-interval", none, .duration⟩,
    ⟨"debug", none, .toggle⟩ ]

/-- A flag's value once set. -/
inductive Value where
  | text (s : String)
  | toggle (b : Bool)
  | list (items : List String)
  | duration (d : Int)
  | number (n : Int)
  deriving DecidableEq, Repr

/-- Why the command line was refused. -/
inductive Failure where
  | help
  | message (text : String)
  deriving DecidableEq, Repr

def Failure.text : Failure → String
  | .help => "pflag: help requested"
  | .message t => t

/-- The flags given, each once, with the value of its last occurrence. -/
abbrev Given := List (String × Value)

def Spec.display (s : Spec) : String :=
  match s.short with
  | some c => "-" ++ c.toString ++ ", --" ++ s.name
  | none => "--" ++ s.name

/-- The value a flag takes from one occurrence, given what earlier ones set. -/
def parseValue (s : Spec) (before : Option Value) (v : String) : Except String Value :=
  match s.kind with
  | .text => .ok (.text v)
  | .toggle => (Scalar.parseBool v).map Value.toggle |>.mapError (·.message)
  | .number => (Scalar.parseInt v 0).map Value.number |>.mapError (·.message)
  | .duration => (Duration.parse v).map Value.duration |>.mapError (·.message)
  | .list =>
    let fresh : Except String (List String) :=
      if v.isEmpty then .ok [] else (Csv.readRecord v).mapError (·.message)
    fresh.map fun items =>
      match before with
      | some (.list old) => .list (old ++ items)
      | _ => .list items

def set (given : Given) (s : Spec) (v : String) : Except Failure Given :=
  match parseValue s (given.lookup s.name) v with
  | .ok value => .ok ((given.filter (·.1 != s.name)) ++ [(s.name, value)])
  | .error e =>
    .error (.message ("invalid argument " ++ Quoted.string v ++ " for " ++
      Quoted.string s.display ++ " flag: " ++ e))

def byName (n : String) : Option Spec := specs.find? (·.name == n)

def byShort (c : Char) : Option Spec := specs.find? (·.short == some c)

/-- One long flag `s` (without its dashes in `body`), taking its value from `rest` if needed. -/
def long (s body : String) (rest : List String) (given : Given) :
    Except Failure (Given × List String) :=
  if body.isEmpty || body.startsWith "-" || body.startsWith "=" then
    .error (.message ("bad flag syntax: " ++ s))
  else
    let (name, value) := match body.splitOn "=" with
      | n :: v :: more => (n, some ("=".intercalate (v :: more)))
      | _ => (body, none)
    match byName name with
    | none =>
      if name == "help" then .error .help
      else .error (.message ("unknown flag: --" ++ name))
    | some spec =>
      match value with
      | some v => (set given spec v).map (·, rest)
      | none =>
        if spec.kind == .toggle then (set given spec "true").map (·, rest)
        else match rest with
          | v :: more => (set given spec v).map (·, more)
          | [] => .error (.message ("flag needs an argument: " ++ s))

/-- The character an unknown short flag is reported as. Short flags are looked up by the first
byte of their group, and the byte is reported as the first byte of its own Latin-1 character's
UTF-8 form: itself below `0x80`, then `Â` for the bytes below `0xC0` and `Ã` for the rest. -/
def reportedShort (c : Char) : Char :=
  let b := ((Utf8.encode c.toString).headD 0).toNat
  if b < 0x80 then Char.ofNat b else if b < 0xC0 then 'Â' else 'Ã'

/-- A group of short flags such as `-r` or `-rvalue`; each takes the rest of the group or the
next argument as its value. What is left of a group from `test.` on belongs to a test runner
and is passed over. -/
def short (group : List Char) (rest : List String) (given : Given) :
    Except Failure (Given × List String) :=
  let rec go : Nat → List Char → Given → List String → Except Failure (Given × List String)
    | 0, _, g, out => .ok (g, out)
    | _, [], g, out => .ok (g, out)
    | n + 1, c :: cs, g, _ =>
      let groupText := String.ofList (c :: cs)
      if groupText.startsWith "test." then .ok (g, rest) else
      match byShort c with
      | none =>
        if c == 'h' then .error .help
        else
          .error (.message ("unknown shorthand flag: " ++ Quoted.char (reportedShort c) ++
            " in -" ++ groupText))
      | some spec =>
        match cs with
        | '=' :: v :: more =>
          (set g spec (String.ofList (v :: more))).map (·, rest)
        | _ =>
          if spec.kind == .toggle then
            match set g spec "true" with
            | .ok g => go n cs g rest
            | .error e => .error e
          else if !cs.isEmpty then (set g spec (String.ofList cs)).map (·, rest)
          else match rest with
            | v :: more => (set g spec v).map (·, more)
            | [] =>
              .error (.message ("flag needs an argument: " ++ Quoted.char c ++ " in -" ++ groupText))
  go (group.length + 1) group given rest

/-- Parses the arguments into the flags they set. -/
def parse (args : List String) : Except Failure Given :=
  let rec go : Nat → List String → Given → Except Failure Given
    | 0, _, g => .ok g
    | _, [], g => .ok g
    | n + 1, s :: rest, g =>
      match s.toList with
      | '-' :: '-' :: [] => .ok g
      | '-' :: '-' :: body =>
        match long s (String.ofList body) rest g with
        | .ok (g, rest) => go n rest g
        | .error e => .error e
      | '-' :: c :: cs =>
        match short (c :: cs) rest g with
        | .ok (g, rest) => go n rest g
        | .error e => .error e
      | _ => go n rest g
  go (args.length + 1) args []

/-- The value of a set flag as configuration reads it back: text for text and durations (a
duration in its printed form), a boolean, an integer, or the list as its fields survive being
written as one record and read again. -/
def Value.setting : Value → Setting
  | .text s => .text s
  | .toggle b => .bool b
  | .number n => .int n
  | .duration d => .text (Duration.text d)
  | .list items =>
    let written := Csv.writeRecord items
    match (if written.isEmpty then .ok [] else Csv.readRecord written) with
    | .ok fs => .list (fs.map Setting.text)
    | .error _ => .null

end MeshCall.Flags
