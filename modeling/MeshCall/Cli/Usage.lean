import MeshCall.Config.Flags
/-!
# The flags' help

What `-h` prints: `Usage of huddle:` and one line per flag, sorted by name. A line shows the
flag's short and long forms, the kind of value it takes (nothing for a toggle), and its help,
which starts in one column for all lines. No flag has a default worth showing: every one starts
at its zero value, and the built-in defaults belong to the configuration.
-/

namespace MeshCall.Flags

/-- What a flag is for. -/
def helpOf (name : String) : String :=
  match name with
  | "config" => "config file (default ./huddle.yaml or <user config dir>/huddle/huddle.yaml)"
  | "relay-url" => "relay base URL, e.g. wss://relay.example.com"
  | "room" => "room to join"
  | "name" => "display name"
  | "secure" => "force wss:// for the relay"
  | "ice-servers" => "STUN/TURN URLs (comma separated)"
  | "retry-delay" => "delay before rebuilding a failed peer connection"
  | "retry-max-attempts" => "consecutive rebuilds per peer, 0 = unbounded"
  | "rejoin-delay" => "delay before redialing a lost relay"
  | "ping-period" => "relay keepalive interval"
  | "camera-file" => "IVF file played as the camera"
  | "mic-file" => "Ogg/Opus file played as the microphone (default silence)"
  | "screen-file" => "IVF file played as the screen share"
  | "screen-audio-file" => "Ogg/Opus file sent as system audio while sharing"
  | "state-file" => "where the current call is saved for automatic rejoin"
  | "speaking-threshold" => "speaking threshold in -dBov (1~127)"
  | "stats-interval" => "print traffic stats at this interval, 0 = off"
  | "debug" => "enable debug logging"
  | _ => ""

/-- The word for the value a flag takes; a toggle takes none. -/
def Kind.valueName : Kind → String
  | .text => "string"
  | .toggle => ""
  | .list => "strings"
  | .duration => "duration"
  | .number => "int"

/-- The left part of a flag's help line. -/
def Spec.usageHead (s : Spec) : String :=
  let names := match s.short with
    | some c => "  -" ++ c.toString ++ ", --" ++ s.name
    | none => "      --" ++ s.name
  if s.kind.valueName.isEmpty then names else names ++ " " ++ s.kind.valueName

/-- The help printed for `-h`: every head is padded to the longest, plus two blanks. -/
def usage (program : String) : String :=
  let sorted := specs.mergeSort fun a b => decide (a.name ≤ b.name)
  let width := sorted.foldl (fun m s => max m s.usageHead.length) 0
  let line := fun (s : Spec) =>
    s.usageHead ++ String.ofList (List.replicate (width + 2 - s.usageHead.length) ' ') ++
      " " ++ helpOf s.name ++ "\n"
  "Usage of " ++ program ++ ":\n" ++ String.join (sorted.map line)

end MeshCall.Flags
