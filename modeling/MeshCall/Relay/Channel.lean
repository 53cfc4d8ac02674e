import MeshCall.Envelope.Wire
/-!
# The relay channel

The client side of the room relay: one connection carrying one JSON envelope per frame. Sending
writes the envelope first, so an envelope that cannot go on the wire fails the same way whether
or not the relay is up; otherwise the frame is handed to the live connection, and without one
the send fails with `relay not connected`.
-/

namespace MeshCall.Relay

/-- The relay channel as a sender sees it: whether a connection is up. -/
structure Channel where
  connected : Bool := false
  deriving DecidableEq, Repr, Inhabited

/-- The frame that goes out for an envelope. -/
def Channel.send (c : Channel) (m : Envelope) : Except Fault String :=
  match m.encode with
  | .error e => .error (Fault.plain ("encode " ++ m.type ++ ": " ++ e.message))
  | .ok frame => if c.connected then .ok frame else .error Fault.notConnected

end MeshCall.Relay
