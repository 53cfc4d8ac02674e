import MeshCall.Media.Manager
/-!
# Scripted media runs

Drives a media manager through a list of steps. Streams are named by source and ordinal, such as
`camera#1` or `screen#2`; `none` names no stream.
-/

namespace MeshCall.Sim

open Media

def streamName (s : Stream) : String := s.source.name ++ "#" ++ toString s.ordinal

/-- The stream a name names. -/
def streamNamed? (m : Manager) (name : String) : Option Stream :=
  m.streams.find? fun s => streamName s == name

inductive MediaStep where
  | acquireCamera (prefs : Prefs)
  | acquireScreen
  | setActive (name : String)
  | toggleAudio
  | toggleVideo
  | stopAll
  | stopStream (name : String)
  | show (name : String)
  deriving Repr

inductive MediaResult where
  | stream (s : Stream)
  | failed (f : Fault)
  | enabled (b : Bool)
  | missing
  deriving Repr

/-- What one step answers: its result, if it has one, and the manager afterwards. -/
structure MediaOutcome where
  result : Option MediaResult
  manager : Manager

def acquired (m : Manager) : Except Fault (Manager × Nat) → Manager × Option MediaResult
  | .ok (m', id) => (m', (m'.stream? id).map .stream)
  | .error f => (m, some (.failed f))

def toggled (m : Manager) : Except Fault (Manager × Bool) → Manager × Option MediaResult
  | .ok (m', b) => (m', some (.enabled b))
  | .error f => (m, some (.failed f))

def mediaStep (m : Manager) : MediaStep → Manager × Option MediaResult
  | .acquireCamera prefs => acquired m (m.acquireCameraAndMic prefs)
  | .acquireScreen => acquired m m.acquireScreenShare
  | .setActive name => (m.setActive ((streamNamed? m name).map (·.id)), none)
  | .toggleAudio => toggled m m.toggleAudio
  | .toggleVideo => toggled m m.toggleVideo
  | .stopAll => (m.stopAll, none)
  | .stopStream name =>
    match streamNamed? m name with
    | some s => (m.stopStream s.id, none)
    | none => (m, none)
  | .show name => (m, some ((streamNamed? m name).map MediaResult.stream |>.getD .missing))

/-- Runs the steps on a manager of these devices. -/
def runMedia (devices : Devices) (steps : List MediaStep) : List MediaOutcome :=
  (steps.foldl (fun (m, acc) st =>
    let (m', r) := mediaStep m st
    (m', acc ++ [⟨r, m'⟩])) (({ devices := devices } : Manager), [])).2

end MeshCall.Sim
