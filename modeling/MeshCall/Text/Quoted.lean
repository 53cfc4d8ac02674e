import MeshCall.Text.Utf8
import MeshCall.Text.Printable
/-!
Quoted text, as error messages show a value: the text stands between double quotes (or, for a
single character, single quotes); the quote itself and the backslash are escaped with a
backslash; printable characters stand as themselves; the common controls use their one-letter
escapes; other characters below U+0080 and bytes that are not UTF-8 use `\xNN`; the rest use
`\uNNNN` or `\UNNNNNNNN`. Hex digits are lower case.
-/

namespace MeshCall.Quoted

/-- Lower-case hex digits of `v`, padded with zeros to `width`. -/
def hexPad (width v : Nat) : String :=
  let ds := Nat.toDigits 16 v
  String.ofList (List.replicate (width - ds.length) '0' ++ ds)

/-- The escape of one character inside quotes `q`. -/
def escapeChar (q : Char) (c : Char) : String :=
  if c == q || c == '\\' then "\\" ++ c.toString
  else if Printable.isPrint c then c.toString
  else match c with
    | '\x07' => "\\a"
    | '\x08' => "\\b"
    | '\x0c' => "\\f"
    | '\n' => "\\n"
    | '\r' => "\\r"
    | '\t' => "\\t"
    | '\x0b' => "\\v"
    | _ =>
      let v := c.toNat
      if v < 0x20 || v == 0x7F then "\\x" ++ hexPad 2 v
      else if v < 0x10000 then "\\u" ++ hexPad 4 v
      else "\\U" ++ hexPad 8 v

/-- The escaped body of a byte string: well-formed UTF-8 is read as characters, any other byte
is written `\xNN`. -/
def body (q : Char) (bs : List UInt8) : String :=
  go bs ""
where
  go : List UInt8 → String → String
    | [], acc => acc
    | b :: bs, acc =>
      match _hf : Utf8.front? (b :: bs) with
      | some (v, n) => go ((b :: bs).drop n) (acc ++ escapeChar q (Char.ofNat v))
      | none => go bs (acc ++ "\\x" ++ hexPad 2 b.toNat)
  termination_by bs => bs.length
  decreasing_by
    · have := Utf8.front?_length_pos _hf
      simp only [List.length_drop, List.length_cons]
      omega
    · simp

/-- A byte string between double quotes. -/
def bytes (bs : List UInt8) : String := "\"" ++ body '"' bs ++ "\""

/-- A text between double quotes. -/
def string (s : String) : String := bytes (Utf8.encode s)

/-- One character between single quotes. -/
def char (c : Char) : String := "'" ++ escapeChar '\'' c ++ "'"

/-- The first character of a byte string between single quotes, or the first byte written
`'\xNN'` when it starts no well-formed sequence. -/
def leadingChar (bs : List UInt8) : String :=
  match bs with
  | [] => "''"
  | b :: _ =>
    match Utf8.front? bs with
    | some (v, _) => char (Char.ofNat v)
    | none => "'\\x" ++ String.ofList (Nat.toDigits 16 b.toNat) ++ "'"

end MeshCall.Quoted
