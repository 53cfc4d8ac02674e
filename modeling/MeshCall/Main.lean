import MeshCall.Cli.Start
import MeshCall.Cli.Usage
/-!
# The command-line client

Loads the configuration from the flags, the `HUDDLE_*` environment and the configuration file,
settles room and name (asking for what is missing), opens the capture devices and starts the
call, then reads commands from standard input until `q` or the end of input.

Everything the client decides is made by the pure layer; this file only gathers the arguments,
the environment and the files it needs, writes out what the call printed or logged, and keeps
the saved-call file on disk in step with the call's. The relay is never reached from here, so
the call runs as one whose relay is down: nothing is sent and no peer joins.
-/

namespace MeshCall.Cli

/-- Writes out printed text and log lines; debug lines only with debug logging. -/
def emit (debug : Bool) (lines : List Line) : IO Unit := do
  let stdout ← IO.getStdout
  for l in lines do
    match l with
    | .text s => stdout.putStr s
    | .log level message =>
      if level != .debug || debug then stdout.putStrLn (level.tag ++ " " ++ message)
  stdout.flush

/-- The text of a file, if it can be read. -/
def readText? (path : String) : IO (Option String) := do
  try
    return some (← IO.FS.readFile path)
  catch _ =>
    return none

/-- The bytes of a file, if it can be read. -/
def readBytes? (path : String) : IO (Option (List UInt8)) := do
  try
    return some (← IO.FS.readBinFile path).toList
  catch _ =>
    return none

/-- What stands at a path: a file and its text, a directory (taken as not empty), or nothing. -/
def entryAt (path : String) : IO (Option StateFile.Entry) := do
  try
    return some (.file (← IO.FS.readFile path))
  catch e =>
    match e with
    | .inappropriateType _ 21 _ => return some (.dir true)
    | _ => return none

/-- The saved-call file and its directory as they are on disk. -/
def diskAt (place : StateFile.Place) : IO StateFile.Disk := do
  let dir ← entryAt place.dirLabel
  match dir with
  | some (.dir _) => return { dir := dir, path := ← entryAt place.pathLabel }
  | _ => return { dir := dir }

/-- Brings the disk in step with the call's view of the saved-call file. -/
def sync (debug : Bool) (place : StateFile.Place) (before after : StateFile.Disk) : IO Unit := do
  try
    if before.dir != after.dir then
      if let some (.dir _) := after.dir then IO.FS.createDirAll place.dirLabel
    if before.path != after.path then
      match after.path with
      | some (.file text) => IO.FS.writeFile place.pathLabel text
      | none => IO.FS.removeFile place.pathLabel
      | some (.dir _) => pure ()
  catch e =>
    emit debug [.log .warn ("save call state: " ++ toString e)]

/-- Asks until an answer that is not blank is given, offering `dflt`; none at the end of input. -/
partial def ask (debug : Bool) (prompt dflt : String) : IO (Option String) := do
  let stdout ← IO.getStdout
  stdout.putStr (promptText prompt dflt)
  stdout.flush
  let raw ← (← IO.getStdin).getLine
  if raw.isEmpty then return none
  stdout.putStrLn ""
  match answerOf raw dflt with
  | some v => return some v
  | none =>
    emit debug [.log .warn "a value is required"]
    ask debug prompt dflt

/-- Runs one command after another until the call is left or the input ends. -/
partial def commands (debug : Bool) (call : Call Desk) : IO Unit := do
  let raw ← (← IO.getStdin).getLine
  let before := call.world.disk
  let (finished, call) :=
    if raw.isEmpty then (true, interrupt call)
    else match Command.ofLine raw with
      | none => (false, call)
      | some cmd => cmd.run.run call
  sync debug call.world.place before call.world.disk
  let (lines, call) := drain call
  emit debug lines
  if !finished then commands debug call

/-- The client. -/
def run (args : List String) : IO UInt32 := do
  let env ← envNames.filterMapM fun n => do return (← IO.getEnv n).map (n, ·)
  let configDir := configDirOf (← IO.getEnv "XDG_CONFIG_HOME") (← IO.getEnv "HOME")
  let launch : Settings.Launch := ⟨args, env, [], configDir⟩
  let files ← (Settings.wantedFiles launch).filterMapM fun p => do
    return (← readText? p).map (p, ·)
  match ClientConfig.load { launch with files := files } with
  | .error f =>
    if f.has .help then
      (← IO.getStderr).putStr (Flags.usage "huddle")
      return 0
    emit false [.log .error f.message]
    return 2
  | .ok cfg =>
    let debug := cfg.debug
    emit debug [.text " INFO  Huddle vdev\n"]
    if cfg.file != "" then emit debug [.log .debug ("config loaded from " ++ cfg.file)]
    emit debug [.text "\n"]
    let place := statePlace cfg.stateFile
    let disk ← diskAt place
    let (p, saved, lines) := resolve cfg.room cfg.name (StateFile.load place disk)
    emit debug lines
    let some room ← (if p.room.isEmpty then ask debug "Room to join" saved.room else pure (some p.room))
      | return 1
    let some name ← (if p.name.isEmpty then ask debug "Your display name" saved.name else pure (some p.name))
      | return 1
    let p := { p with room := room, name := name }
    let media ← (mediaFiles cfg).filterMapM fun path => do return (← readBytes? path).map (path, ·)
    let random ← (List.range 4).mapM fun _ => do return (← IO.rand 0 255).toUInt8
    match startCall cfg p (Identity.fresh p.name random) ⟨media⟩ disk with
    | .error e =>
      emit debug (refusal e)
      return 1
    | .ok call =>
      sync debug place disk call.world.disk
      let (lines, call) := drain call
      emit debug (lines ++ [.text call.world.view.print])
      commands debug call
      emit debug [leftRoom p]
      return 0

end MeshCall.Cli

def main (args : List String) : IO UInt32 := MeshCall.Cli.run args
