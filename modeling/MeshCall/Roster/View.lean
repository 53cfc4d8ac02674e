import MeshCall.Session.State
/-!
# What the call shows

The changes a call reports to whatever presents it: the local participant, one tile per remote
participant with its name, microphone, speaking and connection state, and the toggled state of
the local controls.
-/

namespace MeshCall

/-- The toggled state of the local controls. -/
structure Buttons where
  muted : Bool := false
  cameraOff : Bool := false
  sharing : Bool := false
  deriving DecidableEq, Repr, Inhabited

/-- One visible change. -/
inductive ViewCall where
  | showLocal (id name : String) (audio : Bool)
  | addTile (id name : String) (audio : Bool)
  | removeTile (id : String)
  | setName (id name : String)
  | setPeerState (id : String) (state : SessionState)
  | setMic (id : String) (enabled : Bool)
  | setSpeaking (id : String) (speaking : Bool)
  | setButtons (b : Buttons)
  | clear
  deriving DecidableEq, Repr, Inhabited

end MeshCall
