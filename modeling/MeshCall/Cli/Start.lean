import MeshCall.Cli.Command
import MeshCall.Config.Load
import MeshCall.Media.Capture
import MeshCall.Relay.Url
/-!
# Starting a call from the command line

Room and name come from the flags or the configuration; without either, a saved call that can be
rejoined gives both. The saved microphone and camera toggles apply when the room is the saved
one. What is still missing is asked for.

Starting opens the camera and the microphone with those toggles and makes them the active
stream, then builds the relay URL; either failure stops the start. A device that cannot be
opened is a media access error, which the user is told how to fix.
-/

namespace MeshCall.Cli

/-- What a call is started with. -/
structure Params where
  room : String
  name : String
  prefs : Media.Prefs := {}
  deriving DecidableEq, Repr

/-- The params as far as the flags, the configuration and the saved call decide them, the saved
call whose room and name a prompt offers, and what to log. A saved call that cannot be read is
ignored with a warning. -/
def resolve (room name : String) (loaded : Except Fault (Option SavedCall)) :
    Params × SavedCall × List Line :=
  let (saved, found, lines) : SavedCall × Bool × List Line := match loaded with
    | .error f => ({}, false, [.log .warn ("ignoring saved call: " ++ f.message)])
    | .ok none => ({}, false, [])
    | .ok (some s) => (s, true, [])
  if found && saved.canRejoin then
    let rejoin := room == "" && name == ""
    let (room, name) := if rejoin then (saved.room, saved.name) else (room, name)
    let lines := if rejoin then
        lines ++ [.log .info ("rejoining room " ++ Quoted.string saved.room ++ " as " ++ saved.name)]
      else lines
    let prefs : Media.Prefs :=
      if room == saved.room then ⟨saved.micMuted, saved.cameraOff⟩ else {}
    (⟨room, name, prefs⟩, saved, lines)
  else (⟨room, name, {}⟩, saved, lines)

/-- The directory of a path: what comes before its last slash, `/` at the root, `.` without one. -/
def directoryOf (path : String) : String :=
  match (path.splitOn "/").dropLast with
  | [] => "."
  | [""] => "/"
  | parts => "/".intercalate parts

/-- The places of the saved-call file, named by their own paths. -/
def statePlace (path : String) : StateFile.Place :=
  ⟨directoryOf path, path, StateFile.formatOf path⟩

/-- A capture device as a stream opens it: opening reads the device's file header. -/
def deviceOf (disk : Media.Disk) (c : Media.Capture) : Media.Device :=
  { label := c.label, kind := c.kind, opens := (Media.openFeed disk c).map fun _ => () }

/-- The configured devices over the files that could be read. -/
def devicesOf (disk : Media.Disk) (cfg : ClientConfig) : Media.Devices :=
  let set := Media.captureSet cfg.cameraFile cfg.micFile cfg.screenFile cfg.screenAudioFile
  { camera := set.camera.map (deviceOf disk), mic := some (deviceOf disk set.mic),
    screen := set.screen.map (deviceOf disk), screenAudio := set.screenAudio.map (deviceOf disk) }

/-- The media files a configuration names. -/
def mediaFiles (cfg : ClientConfig) : List String :=
  [cfg.cameraFile, cfg.micFile, cfg.screenFile, cfg.screenAudioFile].filter (· != "")

/-- Why a call did not start, and what to log about it. -/
def refusal (e : Fault) : List Line :=
  .log .error ("cannot start the call: " ++ e.message) ::
    (if e.has .mediaAccess then
      [.log .info "set --camera-file (and optionally --mic-file) to an IVF / Ogg file"]
    else [])

/-- Starts the call: opens the camera and the microphone, builds the relay URL, shows the local
participant and announces the join. -/
def startCall (cfg : ClientConfig) (p : Params) (self : Identity) (media : Media.Disk)
    (disk : StateFile.Disk) : Except Fault (Call Desk) := do
  let m0 : Media.Manager := { devices := devicesOf media cfg }
  let (m1, cam) ← (m0.acquireCameraAndMic p.prefs).mapError fun e =>
    if e.has .mediaAccess then e else Fault.wrap "acquire camera and microphone" e
  let url ← RelayUrl.build cfg.relayUrl p.room cfg.secure
  let callCfg : CallConfig :=
    { self := self, room := p.room, retry := ⟨cfg.retryDelay / 1000000, cfg.retryMaxAttempts⟩,
      threshold := (cfg.speakingThreshold % 256).toNat }
  let c0 : Call Desk :=
    ⟨Controller.create callCfg (m1.setActive (some cam)), { disk := disk, place := statePlace cfg.stateFile }⟩
  let c1 := ((start links).run c0).2
  let joining := "joining room " ++ Quoted.string p.room ++ " as " ++ self.name ++ " via " ++ url
  return { c1 with world := c1.world.log .info joining }

/-- Takes the lines the desk has kept, leaving none. -/
def drain (c : Call Desk) : List Line × Call Desk :=
  (c.world.out, { c with world := { c.world with out := [] } })

/-- Ends the call without forgetting it, as an interrupt does. -/
def interrupt (c : Call Desk) : Call Desk := ((shutdown links false).run c).2

/-- The settings an environment variable can give. -/
def settingKeys : List String :=
  ["relay_url", "room", "name", "secure", "ice_servers", "retry_delay", "retry_max_attempts",
    "rejoin_delay", "ping_period", "camera_file", "mic_file", "screen_file", "screen_audio_file",
    "state_file", "speaking_threshold", "stats_interval", "debug"]

/-- The environment variables loading looks at. -/
def envNames : List String :=
  (Settings.envPrefix ++ "_CONFIG") :: settingKeys.map fun k => Settings.envPrefix ++ "_" ++ k.toUpper

/-- The user's configuration directory: `XDG_CONFIG_HOME` when set and absolute, else
`.config` in the home directory; none when neither can be used. -/
def configDirOf (xdg home : Option String) : Option String :=
  match xdg with
  | some d =>
    if d.isEmpty then (home.filter (· != "")).map (· ++ "/.config")
    else if d.startsWith "/" then some d else none
  | none => (home.filter (· != "")).map (· ++ "/.config")

/-- The answer a typed line gives to a prompt offering `dflt`: the trimmed line, or the offer
when the line is blank; none when both are blank. -/
def answerOf (line dflt : String) : Option String :=
  let v := Space.trim line
  let v := if v.isEmpty then dflt else v
  if v.isEmpty then none else some v

/-- How a prompt reads: the question, and the offer in brackets when there is one. -/
def promptText (prompt dflt : String) : String :=
  prompt ++ (if dflt.isEmpty then "" else " [" ++ dflt ++ "]") ++ ": "

/-- The last line of a call. -/
def leftRoom (p : Params) : Line := .log .info ("left room " ++ Quoted.string p.room)

end MeshCall.Cli
