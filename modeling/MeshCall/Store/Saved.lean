/-!
# The saved call

What survives a restart of the client: the room, the display name and the two toggles. A saved
call can be rejoined without asking when both the room and the name are known.
-/

namespace MeshCall

structure SavedCall where
  room : String := ""
  name : String := ""
  micMuted : Bool := false
  cameraOff : Bool := false
  deriving DecidableEq, Repr, Inhabited

/-- Whether enough was saved to rejoin without asking. -/
def SavedCall.canRejoin (s : SavedCall) : Bool := s.room != "" && s.name != ""

end MeshCall
