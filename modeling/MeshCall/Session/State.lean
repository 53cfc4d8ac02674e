/-!
The negotiation state of one remote session. A session starts `new`, moves to `offerSent` or
`answerSent` when it negotiates, to `connected` or `failed` as the transport reports, and to
`closed` when it is torn down, which is final. States are numbered in that order; a number
outside it is a state with no name, which counts as healthy.
-/

namespace MeshCall

inductive SessionState where
  | new
  | offerSent
  | answerSent
  | connected
  | failed
  | closed
  | unnamed (code : Int)
  deriving DecidableEq, Repr, Inhabited

namespace SessionState

def name : SessionState → String
  | .new => "new"
  | .offerSent => "offer-sent"
  | .answerSent => "answer-sent"
  | .connected => "connected"
  | .failed => "failed"
  | .closed => "closed"
  | .unnamed _ => "unknown"

/-- A session in a healthy state can still reach `connected` without being rebuilt. -/
def healthy : SessionState → Bool
  | .failed | .closed => false
  | _ => true

/-- The state numbered `n` in the order above, counting from zero. -/
def ofCode (n : Int) : SessionState :=
  match n with
  | 0 => .new
  | 1 => .offerSent
  | 2 => .answerSent
  | 3 => .connected
  | 4 => .failed
  | 5 => .closed
  | n => .unnamed n

/-- The state a name spells; any other name is a state with no name. -/
def ofName : String → SessionState
  | "new" => .new
  | "offer-sent" => .offerSent
  | "answer-sent" => .answerSent
  | "connected" => .connected
  | "failed" => .failed
  | "closed" => .closed
  | _ => .unnamed (-1)

end SessionState

end MeshCall
