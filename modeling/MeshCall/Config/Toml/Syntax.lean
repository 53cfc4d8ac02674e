import MeshCall.Text.Utf8
import MeshCall.Text.Printable
/-!
# TOML syntax

The first stage of reading TOML: bytes to expressions, one at a time. An expression is a
`key = value` pair, a `[table]` header or an `[[array]]` header, and expressions stand on lines
of their own. Values are kept as written where their meaning is settled later (numbers, dates
and times); strings are decoded here, escapes included.

Every reader is a step `Bytes → Except String (α × Bytes)`: it consumes a prefix and hands on
the rest, or fails with the message the document's error reports. Faults are found in reading
order, so of two faults the earlier wins.
-/

namespace MeshCall.Toml

abbrev Bytes := List UInt8

/-- A failure, in the words the reader reports it. -/
def fail (msg : String) : Except String α := .error ("toml: " ++ msg)

def isDigit (b : UInt8) : Bool := 0x30 ≤ b && b ≤ 0x39

def isHexDigit (b : UInt8) : Bool :=
  isDigit b || (0x61 ≤ b && b ≤ 0x66) || (0x41 ≤ b && b ≤ 0x46)

def hexValue (b : UInt8) : Nat :=
  if isDigit b then b.toNat - 0x30
  else if 0x61 ≤ b then b.toNat - 0x61 + 10
  else b.toNat - 0x41 + 10

/-- Control characters that may not stand unescaped: those below the space other than tab, line
feed and carriage return, and DEL. -/
def isControl (b : UInt8) : Bool := (b < 0x20 && b != 0x09 && b != 0x0A && b != 0x0D) || b == 0x7F

def isBlank (b : UInt8) : Bool := b == 0x20 || b == 0x09

def skipBlanks (bs : Bytes) : Bytes := bs.dropWhile isBlank

/-- A byte read as the character with that code point. -/
def byteChar (b : UInt8) : Char := Char.ofNat b.toNat

/-- A byte as the code point of the same number, `U+XXXX`, with the character in quotes after it
when it is printable. -/
def codePoint (b : UInt8) : String :=
  let digits := (Nat.toDigits 16 b.toNat).map Char.toUpper
  let hex := String.ofList (List.replicate (4 - digits.length) '0' ++ digits)
  let shown := if Printable.isPrint (byteChar b) then " '" ++ (byteChar b).toString ++ "'" else ""
  "U+" ++ hex ++ shown

/-- Whether the bytes start with the text. -/
def follows (bs : Bytes) (s : String) : Bool := (Utf8.encode s).isPrefixOf bs

def text (bs : Bytes) : String := Utf8.decode bs

/-- One byte `x`, or the failure of its absence. -/
def expect (x : UInt8) : Bytes → Except String Bytes
  | [] => fail ("expected character " ++ (byteChar x).toString ++ " but the document ended here")
  | b :: r => if b == x then .ok r else fail ("expected character " ++ (byteChar x).toString)

/-- A line break: a line feed, or a carriage return and a line feed. -/
def newline : Bytes → Except String Bytes
  | 0x0A :: r => .ok r
  | 0x0D :: r =>
    match r with
    | 0x0A :: r => .ok r
    | [] => fail "windows new line expected"
    | _ => fail "windows new line should be \\r\\n"
  | b :: _ => fail ("expected newline but got " ++ codePoint b)
  | [] => .ok []

/-- The rest after a comment's text (the bytes after its `#`): it runs to the line feed, which
is handed on; a carriage return must come right before that line feed. -/
def afterComment : Bytes → Except String Bytes
  | [] => .ok []
  | 0x0A :: r => .ok (0x0A :: r)
  | 0x0D :: r =>
    match r with
    | 0x0A :: r => .ok (0x0A :: r)
    | _ => fail "invalid character in comment"
  | b :: r => if isControl b then fail "invalid character in comment" else afterComment r

/-! ## Strings -/

/-- The body of a basic string after its opening quote (last byte first in `acc`), whether it
holds an escape, and the rest after the closing quote. -/
def scanBasic : Bytes → Bytes → Bool → Except String (Bytes × Bool × Bytes)
  | [], _, _ => fail "basic string not terminated by \""
  | 0x22 :: r, acc, esc => .ok (acc.reverse, esc, r)
  | 0x0A :: _, _, _ => fail "basic strings cannot have new lines"
  | 0x0D :: _, _, _ => fail "basic strings cannot have new lines"
  | 0x5C :: r, acc, _ =>
    match r with
    | c :: r => scanBasic r (c :: 0x5C :: acc) true
    | [] => fail "need a character after \\"
  | b :: r, acc, esc => scanBasic r (b :: acc) esc

/-- The body of a multi-line basic string after its opening `"""`, whether it holds an escape,
and the rest. Up to two quotes right before the closing `"""` belong to the body. -/
def scanMultiBasic : Bytes → Bytes → Bool → Except String (Bytes × Bool × Bytes)
  | 0x22 :: 0x22 :: 0x22 :: r, acc, esc =>
    match r with
    | 0x22 :: 0x22 :: 0x22 :: _ => fail "\"\"\" not allowed in multiline basic string"
    | 0x22 :: 0x22 :: r => .ok ((0x22 :: 0x22 :: acc).reverse, esc, r)
    | 0x22 :: r => .ok ((0x22 :: acc).reverse, esc, r)
    | _ => .ok (acc.reverse, esc, r)
  | 0x5C :: r, acc, _ =>
    match r with
    | c :: r => scanMultiBasic r (c :: 0x5C :: acc) true
    | [] => fail "need a character after \\"
  | 0x0D :: r, acc, esc =>
    match r with
    | 0x0A :: r => scanMultiBasic r (0x0A :: 0x0D :: acc) esc
    | _ => fail "need a \\n after \\r"
  | b :: r, acc, esc => scanMultiBasic r (b :: acc) esc
  | [], _, _ => fail "multiline basic string not terminated by \"\"\""

/-- The body of a literal string after its opening quote, and the rest. -/
def scanLiteral : Bytes → Bytes → Except String (Bytes × Bytes)
  | 0x27 :: r, acc => .ok (acc.reverse, r)
  | 0x0A :: _, _ => fail "literal strings cannot have new lines"
  | 0x0D :: _, _ => fail "literal strings cannot have new lines"
  | b :: r, acc => if isControl b then fail "invalid character" else scanLiteral r (b :: acc)
  | [], _ => fail "unterminated literal string"

/-- The body of a multi-line literal string after its opening `'''`, and the rest. -/
def scanMultiLiteral : Bytes → Bytes → Except String (Bytes × Bytes)
  | 0x27 :: 0x27 :: 0x27 :: r, acc =>
    match r with
    | 0x27 :: 0x27 :: 0x27 :: _ => fail "''' not allowed in multiline literal string"
    | 0x27 :: 0x27 :: r => .ok ((0x27 :: 0x27 :: acc).reverse, r)
    | 0x27 :: r => .ok ((0x27 :: acc).reverse, r)
    | _ => .ok (acc.reverse, r)
  | 0x0D :: r, acc =>
    match r with
    | 0x0A :: r => scanMultiLiteral r (0x0A :: 0x0D :: acc)
    | _ => fail "need a \\n after \\r"
  | b :: r, acc => if isControl b then fail "invalid character" else scanMultiLiteral r (b :: acc)
  | [], _ => fail "multiline literal string not terminated by '''"

/-- A body without the line break that directly follows the opening delimiter. -/
def dropFirstBreak : Bytes → Bytes
  | 0x0A :: r => r
  | 0x0D :: 0x0A :: r => r
  | bs => bs

/-- The code point of `n` hex digits at the front of `bs`; `bs` is what the escape may use. -/
def codeUnit (bs : Bytes) (n : Nat) : Except String Nat :=
  if bs.length < n then
    fail ("unicode point needs " ++ toString n ++ " character, not " ++ toString bs.length)
  else
    let ds := bs.take n
    if !ds.all isHexDigit then fail "non-hex character"
    else
      let v := ds.foldl (fun acc d => acc * 16 + hexValue d) 0
      if v > 0x10FFFF || (0xD800 ≤ v && v < 0xE000) then
        fail "escape sequence is invalid Unicode code point"
      else .ok v

/-- The byte of a one-letter escape. -/
def simpleEscape : UInt8 → Option UInt8
  | 0x22 => some 0x22
  | 0x5C => some 0x5C
  | 0x62 => some 0x08
  | 0x65 => some 0x1B
  | 0x66 => some 0x0C
  | 0x6E => some 0x0A
  | 0x72 => some 0x0D
  | 0x74 => some 0x09
  | _ => none

/-- Whether only blanks stand between here and a line break. -/
def endsLine : Bytes → Bool
  | 0x20 :: r => endsLine r
  | 0x09 :: r => endsLine r
  | 0x0D :: 0x0A :: _ => true
  | 0x0A :: _ => true
  | _ => false

def isSpaceOrBreak (b : UInt8) : Bool := b == 0x20 || b == 0x09 || b == 0x0A || b == 0x0D

/-- Decodes the escapes of a string body. In a multi-line body (`multi`) a backslash that ends
its line drops the break and all white space after it. `tail` is the closing delimiter, which a
`\u` or `\U` escape counts among the characters it may take. -/
def unescape (multi : Bool) (tail : Bytes) (bs : Bytes) (acc : Array UInt8) :
    Except String (Array UInt8) :=
  match bs with
  | [] => .ok acc
  | 0x5C :: r =>
    if multi && endsLine r then unescape multi tail (r.dropWhile isSpaceOrBreak) acc
    else
      match r with
      | [] => .ok acc
      | c :: r =>
        match simpleEscape c with
        | some e => unescape multi tail r (acc.push e)
        | none =>
          if c == 0x75 || c == 0x55 then
            let n := if c == 0x75 then 4 else 8
            let avail := (r ++ tail).take n
            match codeUnit avail n with
            | .ok v =>
              unescape multi tail (r.drop n) (acc ++ (Utf8.encode (Char.ofNat v).toString).toArray)
            | .error e => .error e
          else fail ("invalid escaped character " ++ codePoint c)
  | b :: r =>
    if isControl b then fail ("invalid character " ++ codePoint b)
    else unescape multi tail r (acc.push b)
termination_by bs.length
decreasing_by
  all_goals simp only [List.length_cons, List.length_drop]
  all_goals first
    | omega
    | exact Nat.lt_succ_of_le (List.dropWhile_sublist _).length_le

/-- The text of a string body: with escapes decoded when it has any, else as it stands, which
must then be free of control characters. -/
def bodyText (multi escaped : Bool) (tail body : Bytes) : Except String String :=
  if escaped then (unescape multi tail body #[]).map fun a => text a.toList
  else if body.any isControl then fail "invalid UTF-8"
  else .ok (text body)

/-- A string in any of its four forms, at the front of `bs`. -/
def stringValue (bs : Bytes) : Except String (String × Bytes) :=
  if follows bs "\"\"\"" then do
    let (body, esc, rest) ← scanMultiBasic (bs.drop 3) [] false
    let s ← bodyText true esc [0x22, 0x22, 0x22] (dropFirstBreak body)
    pure (s, rest)
  else if follows bs "'''" then do
    let (body, rest) ← scanMultiLiteral (bs.drop 3) []
    pure (text (dropFirstBreak body), rest)
  else match bs with
    | 0x27 :: r => do
      let (body, rest) ← scanLiteral r []
      pure (text body, rest)
    | _ => do
      let (body, esc, rest) ← scanBasic (bs.drop 1) [] false
      let s ← bodyText false esc [0x22] body
      pure (s, rest)

/-! ## Keys -/

/-- Letters, digits, `-` and `_`: the characters of a bare key. -/
def isKeyChar (b : UInt8) : Bool :=
  isDigit b || (0x41 ≤ b && b ≤ 0x5A) || (0x61 ≤ b && b ≤ 0x7A) || b == 0x2D || b == 0x5F

/-- One part of a key: bare, or a one-line basic or literal string. -/
def simpleKey (bs : Bytes) : Except String (String × Bytes) :=
  match bs with
  | [] => fail "expected key but found none"
  | 0x27 :: r => do
    let (body, rest) ← scanLiteral r []
    pure (text body, rest)
  | 0x22 :: r => do
    let (body, esc, rest) ← scanBasic r [] false
    let s ← bodyText false esc [0x22] body
    pure (s, rest)
  | b :: _ =>
    if isKeyChar b then
      let k := bs.takeWhile isKeyChar
      .ok (text k, bs.drop k.length)
    else fail ("invalid character at start of key: " ++ (byteChar b).toString)

/-- A key: parts joined by dots, with blanks allowed around each dot. -/
def key (bs : Bytes) : Except String (List String × Bytes) := do
  let (first, rest) ← simpleKey bs
  let rec more : Nat → List String → Bytes → Except String (List String × Bytes)
    | 0, acc, bs => .ok (acc, bs)
    | n + 1, acc, bs =>
      match skipBlanks bs with
      | 0x2E :: r => do
        let (part, rest) ← simpleKey (skipBlanks r)
        more n (acc ++ [part]) rest
      | r => .ok (acc, r)
  more (bs.length + 1) [first] rest

/-! ## Values -/

/-- What kind of moment a date or time value names. -/
inductive Moment where
  | offsetDateTime
  | localDateTime
  | localDate
  | localTime
  deriving DecidableEq, Repr

/-- A value as written: strings decoded, numbers and moments still in their text. -/
inductive Lit where
  | str (s : String)
  | bool (b : Bool)
  | integer (raw : Bytes)
  | float (raw : Bytes)
  | moment (kind : Moment) (raw : Bytes)
  | array (items : List Lit)
  | inline (pairs : List (List String × Lit))
  deriving Repr, Inhabited

/-- The extent of a date or time: digits, `-`, `T`, `t`, `:`, `.`, `+`, a `Z` or `z` that ends
it, and once a space with a digit after it, which takes the byte after that digit along. A `-`
from the ninth byte on starts a zone. -/
def momentAt (a : Array UInt8) : Nat × Moment :=
  let rec go : Nat → Nat → Bool → Bool → Bool → Bool → Nat × Bool × Bool × Bool
    | 0, i, d, t, z, _ => (i, d, t, z)
    | fuel + 1, i, d, t, z, space =>
      match a[i]? with
      | none => (i, d, t, z)
      | some c =>
        if isDigit c then go fuel (i + 1) d t z space
        else if c == 0x2D then go fuel (i + 1) true t (z || 8 ≤ i) space
        else if c == 0x54 || c == 0x74 || c == 0x3A || c == 0x2E then go fuel (i + 1) d true z space
        else if c == 0x2B then go fuel (i + 1) d t true space
        else if c == 0x5A || c == 0x7A then (i + 1, d, t, true)
        else if c == 0x20 && !space && (a[i + 1]?.map isDigit).getD false then
          let j := if i + 2 ≥ a.size then i + 1 else i + 2
          go fuel (j + 1) d true z true
        else (i, d, t, z)
  let (i, d, t, z) := go (a.size + 1) 0 false false false false
  let kind := if t then (if d then (if z then .offsetDateTime else .localDateTime) else .localTime)
    else .localDate
  (i, kind)

/-- A number at the front of `bs`: an integer, or a float when it holds a point or an exponent
mark; a leading `0` with `x`, `o` or `b` after it starts a prefixed integer. -/
def numberAt (bs : Bytes) : Except String (Lit × Bytes) :=
  match bs with
  | 0x30 :: c :: _ :: _ =>
    if c == 0x2E || c == 0x65 || c == 0x45 then plainNumber bs
    else
      let digitOk : Option (UInt8 → Bool) :=
        if c == 0x78 then some fun b => isHexDigit b || b == 0x5F
        else if c == 0x6F then some fun b => (0x30 ≤ b && b ≤ 0x37) || b == 0x5F
        else if c == 0x62 then some fun b => b == 0x30 || b == 0x31 || b == 0x5F
        else none
      match digitOk with
      | some ok =>
        let n := 2 + ((bs.drop 2).takeWhile ok).length
        .ok (.integer (bs.take n), bs.drop n)
      | none => .ok (.integer (bs.take 1), bs.drop 1)
  | _ => plainNumber bs
where
  plainNumber (bs : Bytes) : Except String (Lit × Bytes) :=
    let rec go : Nat → Bytes → Nat → Bool → Except String (Lit × Bytes)
      | 0, _, i, f => finish i f
      | fuel + 1, r, i, f =>
        match r with
        | c :: r' =>
          if isDigit c || c == 0x2B || c == 0x2D || c == 0x5F then go fuel r' (i + 1) f
          else if c == 0x2E || c == 0x65 || c == 0x45 then go fuel r' (i + 1) true
          else if c == 0x69 then
            if follows r "inf" then .ok (.float (bs.take (i + 3)), bs.drop (i + 3))
            else fail "unexpected character 'i' while scanning for a number"
          else if c == 0x6E then
            if follows r "nan" then .ok (.float (bs.take (i + 3)), bs.drop (i + 3))
            else fail "unexpected character 'n' while scanning for a number"
          else finish i f
        | [] => finish i f
    go (bs.length + 1) bs 0 false
  finish (i : Nat) (f : Bool) : Except String (Lit × Bytes) :=
    if i == 0 then fail "incomplete number"
    else .ok (if f then .float (bs.take i) else .integer (bs.take i), bs.drop i)

/-- A number, a date or a time, or `inf` or `nan`. Among the first five bytes, the first that is
not a digit decides: a `:` third or a `-` fifth starts a date or time. -/
def numberOrMoment (bs : Bytes) : Except String (Lit × Bytes) :=
  match bs with
  | 0x69 :: _ =>
    if follows bs "inf" then .ok (.float (bs.take 3), bs.drop 3) else fail "expected 'inf'"
  | 0x6E :: _ =>
    if follows bs "nan" then .ok (.float (bs.take 3), bs.drop 3) else fail "expected 'nan'"
  | 0x2B :: _ | 0x2D :: _ => numberAt bs
  | _ =>
    if bs.length < 3 then numberAt bs
    else
      match (bs.take 5).zipIdx.find? (fun (c, _) => !isDigit c) with
      | some (c, idx) =>
        if (idx == 2 && c == 0x3A) || (idx == 4 && c == 0x2D) then
          let (n, kind) := momentAt bs.toArray
          .ok (.moment kind (bs.take n), bs.drop n)
        else numberAt bs
      | none => numberAt bs

/-- Blanks, comments and line breaks, as they may stand between the elements of an array. -/
def gaps : Nat → Bytes → Except String Bytes
  | 0, bs => .ok bs
  | n + 1, bs => do
    let bs := skipBlanks bs
    let bs ← match bs with
      | 0x23 :: r => afterComment r
      | _ => pure bs
    match bs with
    | 0x0A :: _ | 0x0D :: _ => gaps n (← newline bs)
    | _ => pure bs

mutual

/-- A value at the front of `bs`. -/
def value (fuel : Nat) (bs : Bytes) : Except String (Lit × Bytes) :=
  match fuel with
  | 0 => fail "document is too deeply nested"
  | fuel + 1 =>
    match bs with
    | [] => fail "expected value, not eof"
    | 0x22 :: _ | 0x27 :: _ => (stringValue bs).map fun (s, r) => (.str s, r)
    | 0x74 :: _ =>
      if follows bs "true" then .ok (.bool true, bs.drop 4) else fail "expected 'true'"
    | 0x66 :: _ =>
      if follows bs "false" then .ok (.bool false, bs.drop 5) else fail "expected 'false'"
    | 0x5B :: r => arrayItems fuel r true []
    | 0x7B :: r => inlinePairs fuel r true []
    | _ => numberOrMoment bs

/-- The elements of an array after its `[`: separated by commas, with a comma allowed after the
last, and blanks, comments and line breaks anywhere between. -/
def arrayItems (fuel : Nat) (bs : Bytes) (first : Bool) (acc : List Lit) :
    Except String (Lit × Bytes) :=
  match fuel with
  | 0 => fail "document is too deeply nested"
  | fuel + 1 => do
    if bs.isEmpty then return (.array acc, ← expect 0x5D bs)
    let bs ← gaps (bs.length + 1) bs
    match bs with
    | [] => fail "array is incomplete"
    | 0x5D :: r => return (.array acc, r)
    | _ =>
      let bs ← match bs with
        | 0x2C :: r =>
          if first then fail "array cannot start with comma" else gaps (r.length + 1) r
        | _ => if first then pure bs else fail "array elements must be separated by commas"
      match bs with
      | 0x5D :: r => return (.array acc, r)
      | _ =>
        let (v, bs) ← value fuel bs
        let bs ← gaps (bs.length + 1) bs
        arrayItems fuel bs false (acc ++ [v])

/-- The pairs of an inline table after its `{`: on one line, separated by commas. -/
def inlinePairs (fuel : Nat) (bs : Bytes) (first : Bool) (acc : List (List String × Lit)) :
    Except String (Lit × Bytes) :=
  match fuel with
  | 0 => fail "document is too deeply nested"
  | fuel + 1 => do
    if bs.isEmpty then return (.inline acc, ← expect 0x7D bs)
    let r := skipBlanks bs
    match r with
    | [] => fail "inline table is incomplete"
    | 0x7D :: rest => return (.inline acc, rest)
    | _ =>
      let r ← if first then pure r else do pure (skipBlanks (← expect 0x2C r))
      let (k, v, rest) ← keyValue fuel r
      inlinePairs fuel rest false (acc ++ [(k, v)])

/-- A `key = value` pair. -/
def keyValue (fuel : Nat) (bs : Bytes) : Except String (List String × Lit × Bytes) := do
  let (k, rest) ← key bs
  let rest := skipBlanks rest
  if rest.isEmpty then fail "expected = after a key, but the document ends there"
  let rest ← expect 0x3D rest
  let (v, rest) ← value fuel (skipBlanks rest)
  pure (k, v, rest)

end

/-! ## Expressions -/

/-- A line's content: a pair, a table header or an array-of-tables header. -/
inductive Expr where
  | pair (k : List String) (v : Lit)
  | table (k : List String)
  | arrayTable (k : List String)
  deriving Repr

/-- An expression at the front of a line, with any comment after it; `none` for a line that
holds only blanks or a comment. -/
def expression (bs : Bytes) : Except String (Option Expr × Bytes) := do
  let bs := skipBlanks bs
  match bs with
  | [] => pure (none, [])
  | 0x23 :: r => pure (none, ← afterComment r)
  | 0x0A :: _ | 0x0D :: _ => pure (none, bs)
  | _ =>
    let (e, rest) ← match bs with
      | 0x5B :: 0x5B :: r => do
        let (k, rest) ← key (skipBlanks r)
        let rest ← expect 0x5D (skipBlanks rest)
        pure (Expr.arrayTable k, ← expect 0x5D rest)
      | 0x5B :: r => do
        let (k, rest) ← key (skipBlanks r)
        pure (Expr.table k, ← expect 0x5D (skipBlanks rest))
      | _ => do
        let (k, v, rest) ← keyValue (bs.length + 1) bs
        pure (Expr.pair k v, rest)
    match skipBlanks rest with
    | 0x23 :: r => pure (some e, ← afterComment r)
    | r => pure (some e, r)

/-- The next expression of a document and the rest after it, or `none` at the end. Unless it is
the first, every line starts after a line break. -/
def nextExpression : Nat → Bool → Bytes → Except String (Option (Expr × Bytes))
  | 0, _, _ => .ok none
  | n + 1, first, bs => do
    if bs.isEmpty then return none
    let bs ← if first then pure bs else newline bs
    if bs.isEmpty then return none
    match ← expression bs with
    | (some e, rest) => return some (e, rest)
    | (none, rest) => nextExpression n false rest

end MeshCall.Toml
