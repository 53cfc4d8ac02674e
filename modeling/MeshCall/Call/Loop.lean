import MeshCall.Call.Handlers
/-!
# The event loop

A running call handles one input at a time: an event posted by the relay, a connection, a
timer or a meter; a command of the user; or the cancellation of the call. Once the call has
ended, events are dropped and commands are refused with `call ended`.
-/

namespace MeshCall

/-- What the user can ask of a running call. -/
inductive Command where
  | toggleMute
  | toggleCamera
  | shareScreen
  | setActiveStream (stream : Nat)
  | endCall
  deriving DecidableEq, Repr

/-- One input of the event loop. -/
inductive Input where
  | event (e : Event)
  | command (c : Command)
  /-- The context the call runs in was cancelled. -/
  | cancel
  deriving DecidableEq, Repr

/-- The error of an answer, if it is one. -/
def faultOf {α : Type} : Except Fault α → Option Fault
  | .error e => some e
  | .ok _ => none

section

variable {σ : Type} (L : Links σ)

/-- Runs a command; it answers with the error it failed with, if any. -/
def runCommand : Command → CallM σ (Option Fault)
  | .toggleMute => faultOf <$> toggleMute L
  | .toggleCamera => faultOf <$> toggleCamera L
  | .shareScreen => faultOf <$> shareScreen L
  | .setActiveStream stream => do
    setActiveStream L stream
    return none
  | .endCall => do
    endCall L
    return none

/-- Handles one input; a command answers with the error it failed with, if any. -/
def dispatch : Input → CallM σ (Option Fault)
  | .event e => do
    if (← ctl).ended then return none
    handleEvent L e
    return none
  | .command c => do
    if (← ctl).ended then return some Fault.ended
    runCommand L c
  | .cancel => do
    shutdown L false
    return none

end

end MeshCall
