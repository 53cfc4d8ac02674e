/-!
JSON values as the wire format carries them. Numbers keep the text they were written with, so
that a reader can decide how to interpret them and an error can quote them; object members keep
their order and repeated names, so that the last of a repeated name can win.
-/

namespace MeshCall.Json

inductive Value where
  | null
  | bool (b : Bool)
  | number (literal : String)
  | string (s : String)
  | array (items : List Value)
  | object (members : List (String × Value))
  deriving Inhabited, Repr

namespace Value

/-- The kind of a value as error messages name it. -/
def kind : Value → String
  | null => "null"
  | bool _ => "bool"
  | number _ => "number"
  | string _ => "string"
  | array _ => "array"
  | object _ => "object"

end Value

end MeshCall.Json
