import MeshCall.Call.Handlers
import MeshCall.Store.File
import MeshCall.Roster.Terminal
/-!
# A call at the desk, with the relay out of reach

The world of a call run from the command line while no relay connection is up. Nothing the
controller sends gets through (`relay not connected`, logged as a warning), so no peer ever joins
and no connection is made; the saved call lives in its file; every change of the view prints its
line. What the world prints or logs is kept, in order, for the outer layer to write out.
-/

namespace MeshCall.Cli

/-- How much a log line matters. -/
inductive Level where
  | debug
  | info
  | warn
  | error
  deriving DecidableEq, Repr

/-- The level as the log shows it, padded to one width. -/
def Level.tag : Level → String
  | .debug => "DEBUG"
  | .info => "INFO "
  | .warn => "WARN "
  | .error => "ERROR"

/-- Something for the user: printed text, or a log line. -/
inductive Line where
  | text (s : String)
  | log (level : Level) (message : String)
  deriving DecidableEq, Repr

/-- The world of a desk call: the disk holding the saved call, the view, and what was printed or
logged and not yet written out. -/
structure Desk where
  disk : StateFile.Disk
  place : StateFile.Place
  view : Terminal := {}
  out : List Line := []
  nextTimer : Nat := 0
  deriving Inhabited

namespace Desk

def say (d : Desk) (l : Line) : Desk := { d with out := d.out ++ [l] }

def log (d : Desk) (level : Level) (message : String) : Desk := d.say (.log level message)

/-- A refused request to a peer connection; there are none while the relay is away. -/
def noPeer : Fault := Fault.plain "no peer connection"

/-- Saves the call; a failure is only warned about. -/
def save (s : SavedCall) (d : Desk) : Option Fault × Desk :=
  match StateFile.save d.place s d.disk with
  | (none, disk) => (none, { d with disk := disk })
  | (some f, disk) => (some f, { d with disk := disk }.log .warn ("save call state: " ++ f.message))

/-- Forgets the saved call; a failure is only warned about. -/
def clear (d : Desk) : Option Fault × Desk :=
  match StateFile.clear d.place d.disk with
  | .ok disk => (none, { d with disk := disk })
  | .error f => (some f, d.log .warn ("clear saved call: " ++ f.message))

/-- Applies a change to the view and keeps what it printed. -/
def present (v : ViewCall) (d : Desk) : Desk :=
  let (view, printed) := d.view.apply v
  let d := { d with view := view }
  if printed.isEmpty then d else d.say (.text printed)

end Desk

/-- The desk as the world of a controller. -/
def links : Links Desk where
  send m d := (some Fault.notConnected, d.log .warn ("send " ++ m.type ++ ": " ++ Fault.notConnected.message))
  closeRelay d := d
  newConn _ _ d := (some Desk.noPeer, d)
  request _ _ _ d := (some Desk.noPeer, d)
  describe _ _ _ d := (.error Desk.noPeer, d)
  save := Desk.save
  clear := Desk.clear
  arm _ _ d := (d.nextTimer, { d with nextTimer := d.nextTimer + 1 })
  disarm _ d := d
  present := Desk.present

end MeshCall.Cli
