/-!
Errors as they travel up through the layers. Each layer may add context in front of the text of
the error it received; a few errors are *named*, so that a caller can recognise them anywhere in
the chain of causes, however much context was added on top.
-/

namespace MeshCall

/-- The named errors a caller can recognise anywhere down a chain of causes. -/
inductive Sentinel where
  | mediaAccess
  | negotiation
  | trackReplace
  | unknownType
  | noStream
  | ended
  | malformedJson
  | jsonMismatch
  | help
  | notConnected
  | endOfInput
  | truncated
  deriving DecidableEq, Repr, Inhabited

/-- An error: its text, and the named errors along its chain of causes, outermost first. -/
structure Fault where
  message : String
  marks : List Sentinel := []
  deriving DecidableEq, Repr, Inhabited

namespace Fault

/-- An error with nothing named in it. -/
def plain (message : String) : Fault := ⟨message, []⟩

/-- A named error with no cause. -/
def named (s : Sentinel) (message : String) : Fault := ⟨message, [s]⟩

/-- Context in front of a cause, which stays recognisable. -/
def wrap (context : String) (cause : Fault) : Fault :=
  ⟨context ++ ": " ++ cause.message, cause.marks⟩

/-- Whether the chain holds the named error `s`. -/
def has (f : Fault) (s : Sentinel) : Bool := f.marks.contains s

/-- The text of a cause that may be missing. -/
def causeText : Option Fault → String
  | some f => f.message
  | none => "<nil>"

/-- The end of an input. -/
def eof : Fault := named .endOfInput "EOF"

/-- An input that ends in the middle of a unit it promised. -/
def unexpectedEof : Fault := named .truncated "unexpected EOF"

/-- A capture device that is missing, unreadable or in a format that is not supported. -/
def mediaAccess (device : String) (cause : Option Fault) : Fault :=
  ⟨"media access denied for " ++ device ++ ": " ++ causeText cause,
    .mediaAccess :: (cause.map marks).getD []⟩

/-- A step of the offer/answer exchange that could not be applied. -/
def negotiation (remote step : String) (cause : Option Fault) : Fault :=
  match cause with
  | some c => ⟨"negotiation with " ++ remote ++ ": " ++ step ++ ": " ++ c.message,
      .negotiation :: c.marks⟩
  | none => ⟨"negotiation with " ++ remote ++ ": " ++ step, [.negotiation]⟩

/-- A session that refused to swap the track of one kind. -/
def trackReplace (kind remote : String) (cause : Option Fault) : Fault :=
  ⟨"replace " ++ kind ++ " track for " ++ remote ++ ": " ++ causeText cause,
    .trackReplace :: (cause.map marks).getD []⟩

/-- A command issued after the call ended. -/
def ended : Fault := named .ended "call ended"

/-- A toggle before any local stream was acquired. -/
def noStream : Fault := named .noStream "no local stream"

/-- A send while the relay is down. -/
def notConnected : Fault := named .notConnected "relay not connected"

/-- A device slot that is empty. -/
def noDevice : Fault := plain "no device configured"

end Fault

end MeshCall
