import MeshCall.Cli.Desk
import MeshCall.Text.Space
/-!
# Commands typed during a call

A typed line is trimmed and lower-cased, and its first letter picks the command: `m` mutes or
unmutes the microphone, `c` turns the camera off or on, `s` starts or stops sharing the screen,
`l` prints the roster, `q` leaves the room for good. Blank lines are skipped; anything else is
warned about. A command that fails is logged as an error and the call goes on.
-/

namespace MeshCall.Cli

inductive Command where
  | mute
  | camera
  | share
  | list
  | leave
  | unknown (text : String)
  deriving DecidableEq, Repr

/-- The command a typed line gives; none for a blank line. -/
def Command.ofLine (line : String) : Option Command :=
  let cmd := (Space.trim line).toLower
  match cmd.toList with
  | [] => none
  | 'm' :: _ => some .mute
  | 'c' :: _ => some .camera
  | 's' :: _ => some .share
  | 'l' :: _ => some .list
  | 'q' :: _ => some .leave
  | _ => some (.unknown cmd)

def onOff (on : Bool) : String := if on then "on" else "off"

/-- Adds a line to what the desk has to write out. -/
def note (l : Line) : CallM Desk Unit :=
  modify fun c => { c with world := c.world.say l }

/-- Reports a toggle: its outcome as an info line, or its failure as an error. -/
def report (r : Except Fault Bool) (describe : Bool → String) : CallM Desk Unit :=
  match r with
  | .ok b => note (.log .info (describe b))
  | .error e => note (.log .error e.message)

/-- Runs a command; answers whether the call is over. -/
def Command.run : Command → CallM Desk Bool
  | .mute => do
    report (← toggleMute links) fun muted => "microphone " ++ onOff !muted
    return false
  | .camera => do
    report (← toggleCamera links) fun off => "camera " ++ onOff !off
    return false
  | .share => do
    report (← shareScreen links) fun sharing => "screen share " ++ onOff sharing
    return false
  | .list => do
    note (.text (← get).world.view.print)
    return false
  | .leave => do
    endCall links
    return true
  | .unknown text => do
    note (.log .warn ("unknown command " ++ Quoted.string text ++ " (m, c, s, l, q)"))
    return false

end MeshCall.Cli
