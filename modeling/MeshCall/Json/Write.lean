import MeshCall.Text.Quoted
import MeshCall.Json.Value
/-!
Writing JSON text in the compact form the wire uses: no whitespace, object members in the order
given. Strings are safe to embed in HTML and script: besides the quote, the backslash and the
controls, `<`, `>`, `&`, U+2028 and U+2029 are written as `\u` escapes.
-/

namespace MeshCall.Json.Write

/-- The escape of one character inside a written string. -/
def escapeChar (c : Char) : String :=
  match c with
  | '"' => "\\\""
  | '\\' => "\\\\"
  | '\x08' => "\\b"
  | '\x0c' => "\\f"
  | '\n' => "\\n"
  | '\r' => "\\r"
  | '\t' => "\\t"
  | '<' => "\\u003c"
  | '>' => "\\u003e"
  | '&' => "\\u0026"
  | _ =>
    if c.toNat < 0x20 || c.toNat == 0x2028 || c.toNat == 0x2029 then
      "\\u" ++ Quoted.hexPad 4 c.toNat
    else c.toString

/-- A string value. -/
def string (s : String) : String :=
  "\"" ++ String.join (s.toList.map escapeChar) ++ "\""

def bool (b : Bool) : String := if b then "true" else "false"

def nat (n : Nat) : String := toString n

/-- An object from members whose values are already written. -/
def object (members : List (String × String)) : String :=
  "\x7b" ++ ",".intercalate (members.map fun (k, v) => string k ++ ":" ++ v) ++ "\x7d"

mutual

/-- A value in compact form; number literals are kept as written. -/
def value : Value → String
  | .null => "null"
  | .bool b => bool b
  | .number lit => lit
  | .string s => string s
  | .array items => "[" ++ elements items ++ "]"
  | .object ms => "\x7b" ++ members ms ++ "\x7d"

def elements : List Value → String
  | [] => ""
  | [v] => value v
  | v :: vs => value v ++ "," ++ elements vs

def members : List (String × Value) → String
  | [] => ""
  | [(k, v)] => string k ++ ":" ++ value v
  | (k, v) :: ms => string k ++ ":" ++ value v ++ "," ++ members ms

end

end MeshCall.Json.Write
