import MeshCall.Json.Value
import MeshCall.Text.Quoted
/-!
Reading JSON text from bytes, with the errors a reader reports at the first byte that breaks the
grammar of RFC 8259. Strings are decoded as they are read: escapes are resolved, a surrogate
escape that is not half of a pair becomes U+FFFD, and bytes that are not UTF-8 become U+FFFD as
well. Nesting deeper than `maxDepth` is refused.

The reader consumes the input from the front; every call on a nested value gets one unit of fuel
less, and since every call consumes at least one byte, a fuel of one more than the input length
is never exhausted (`read` supplies it).
-/

namespace MeshCall.Json

/-- How deep arrays and objects may nest. -/
def maxDepth : Nat := 10000

/-- Where in the grammar a byte was refused. -/
inductive Place where
  | valueStart
  | nameStart
  | afterName
  | afterMember
  | afterElement
  | afterTopLevel
  | inString
  | inNumber
  | inLiteral (literal : String) (expected : Char)
  deriving DecidableEq, Repr

/-- The words that follow the refused character in a message. -/
def Place.phrase : Place → String
  | .valueStart => "looking for beginning of value"
  | .nameStart => "looking for beginning of object key string"
  | .afterName => "after object key"
  | .afterMember => "after object key:value pair"
  | .afterElement => "after array element"
  | .afterTopLevel => "after top-level value"
  | .inString => "in string"
  | .inNumber => "in numeric literal"
  | .inLiteral lit c => "in literal " ++ lit ++ " (expecting " ++ Quoted.char c ++ ")"

/-- A break of the grammar. `invalidCharacter` keeps the bytes from the refused one on. -/
inductive SyntaxError where
  | unexpectedEnd
  | invalidCharacter (rest : List UInt8) (place : Place)
  | invalidEscape (sequence : List UInt8)
  | tooDeep
  deriving Repr

/-- A whitespace character of a character class used when an escape is shown. -/
def isSpaceChar (c : Char) : Bool :=
  c == ' ' || c == '\t' || c == '\n' || c == '\x0b' || c == '\x0c' || c == '\r' ||
    c.toNat == 0x85 || c.toNat == 0xA0 || c.toNat == 0x1680 ||
    (0x2000 ≤ c.toNat && c.toNat ≤ 0x200A) || c.toNat == 0x2028 || c.toNat == 0x2029 ||
    c.toNat == 0x202F || c.toNat == 0x205F || c.toNat == 0x3000

/-- An escape is shown between backquotes unless it holds a backquote, a space, a character
that is not printable or a byte that is not UTF-8; then it is shown quoted. -/
def escapeText (seq : List UInt8) : String :=
  let text := Utf8.decode seq
  let awkward := text.toList.any fun c =>
    c == '`' || c == Utf8.replacement || isSpaceChar c || !Printable.isPrint c
  if awkward then Quoted.bytes seq else "`" ++ text ++ "`"

def SyntaxError.message : SyntaxError → String
  | .unexpectedEnd => "unexpected end of JSON input"
  | .invalidCharacter rest place =>
    "invalid character " ++ Quoted.leadingChar rest ++ " " ++ place.phrase
  | .invalidEscape seq => "invalid escape sequence " ++ escapeText seq ++ " in string"
  | .tooDeep => "exceeded max depth"

/-- What a reading step yields: a piece and the bytes after it. -/
abbrev Reading (α : Type) := Except SyntaxError (α × List UInt8)

def isWs (b : UInt8) : Bool := b == 0x20 || b == 0x09 || b == 0x0A || b == 0x0D

def skipWs (bs : List UInt8) : List UInt8 := bs.dropWhile isWs

def isDigit (b : UInt8) : Bool := 0x30 ≤ b && b ≤ 0x39

def hexValue? (b : UInt8) : Option Nat :=
  if isDigit b then some (b.toNat - 0x30)
  else if 0x61 ≤ b && b ≤ 0x66 then some (b.toNat - 0x57)
  else if 0x41 ≤ b && b ≤ 0x46 then some (b.toNat - 0x37)
  else none

/-- The value of four hex digits. -/
def hex4? : List UInt8 → Option Nat
  | [a, b, c, d] => do
    let a ← hexValue? a
    let b ← hexValue? b
    let c ← hexValue? c
    let d ← hexValue? d
    pure (((a * 16 + b) * 16 + c) * 16 + d)
  | _ => none

/-- The character a one-letter escape stands for. -/
def simpleEscape? (b : UInt8) : Option Char :=
  match b with
  | 0x22 => some '"'
  | 0x5C => some '\\'
  | 0x2F => some '/'
  | 0x62 => some '\x08'
  | 0x66 => some '\x0c'
  | 0x6E => some '\n'
  | 0x72 => some '\r'
  | 0x74 => some '\t'
  | _ => none

def isHighSurrogate (v : Nat) : Bool := 0xD800 ≤ v && v ≤ 0xDBFF

def isLowSurrogate (v : Nat) : Bool := 0xDC00 ≤ v && v ≤ 0xDFFF

/-- The low half of a surrogate pair written as `\uXXXX` at the front of `bs`. -/
def lowSurrogate? (bs : List UInt8) : Option Nat :=
  match bs with
  | 0x5C :: 0x75 :: rest =>
    match hex4? (rest.take 4) with
    | some v => if isLowSurrogate v then some v else none
    | none => none
  | _ => none

/-- Reads the rest of a string whose opening quote is already consumed. -/
def readString (acc : String) : List UInt8 → Reading String
  | [] => .error .unexpectedEnd
  | b :: rest =>
    if b == 0x22 then .ok (acc, rest)
    else if b == 0x5C then
      match rest with
      | [] => .error .unexpectedEnd
      | e :: tail =>
        match simpleEscape? e with
        | some c => readString (acc.push c) tail
        | none =>
          if e == 0x75 then
            if tail.length < 4 then
              if tail.all fun x => (hexValue? x).isSome then .error .unexpectedEnd
              else .error (.invalidEscape (b :: rest))
            else
              match hex4? (tail.take 4) with
              | none => .error (.invalidEscape (b :: e :: tail.take 4))
              | some v =>
                let after := tail.drop 4
                if isHighSurrogate v then
                  match lowSurrogate? after with
                  | some lo =>
                    let c := Char.ofNat (0x10000 + (v - 0xD800) * 0x400 + (lo - 0xDC00))
                    readString (acc.push c) (after.drop 6)
                  | none => readString (acc.push Utf8.replacement) after
                else if isLowSurrogate v then readString (acc.push Utf8.replacement) after
                else readString (acc.push (Char.ofNat v)) after
          else .error (.invalidEscape [b, e])
    else if b < 0x20 then .error (.invalidCharacter (b :: rest) .inString)
    else
      have _hstep := Utf8.step_pos (b :: rest)
      readString (acc.push (Utf8.step (b :: rest)).1) ((b :: rest).drop (Utf8.step (b :: rest)).2)
  termination_by bs => bs.length
  decreasing_by
    all_goals
      simp only [List.length_drop, List.length_cons] at *
      omega

/-- The digits at the front and the bytes after them. -/
def spanDigits (bs : List UInt8) : List UInt8 × List UInt8 :=
  (bs.takeWhile isDigit, bs.dropWhile isDigit)

/-- At least one digit, as the integer, fraction and exponent parts require. -/
def readDigits (bs : List UInt8) : Except SyntaxError ((List UInt8) × List UInt8) :=
  match bs with
  | [] => .error .unexpectedEnd
  | b :: _ =>
    if isDigit b then .ok (spanDigits bs) else .error (.invalidCharacter bs .inNumber)

/-- Reads a number; its text is kept as written. -/
def readNumber (bs : List UInt8) : Except SyntaxError (String × List UInt8) := do
  let (sign, bs) := match bs with
    | 0x2D :: rest => ([(0x2D : UInt8)], rest)
    | _ => ([], bs)
  let (int, bs) ← match bs with
    | 0x30 :: rest => pure ([(0x30 : UInt8)], rest)
    | _ => readDigits bs
  let (frac, bs) ← match bs with
    | 0x2E :: rest => do
      let (ds, rest) ← readDigits rest
      pure ((0x2E : UInt8) :: ds, rest)
    | _ => pure ([], bs)
  let (exp, bs) ← match bs with
    | e :: rest =>
      if e == 0x65 || e == 0x45 then do
        let (sgn, rest) := match rest with
          | s :: r => if s == 0x2B || s == 0x2D then ([s], r) else ([], rest)
          | [] => ([], rest)
        let (ds, rest) ← readDigits rest
        pure (e :: sgn ++ ds, rest)
      else pure ([], bs)
    | [] => pure ([], bs)
  pure (Utf8.decode (sign ++ int ++ frac ++ exp), bs)

/-- Reads one of the literals `true`, `false` and `null`. -/
def readLiteral (lit : String) (bs : List UInt8) : Except SyntaxError (List UInt8) :=
  go lit.toList bs
where
  go : List Char → List UInt8 → Except SyntaxError (List UInt8)
    | [], rest => .ok rest
    | _ :: _, [] => .error .unexpectedEnd
    | c :: cs, b :: rest =>
      if b.toNat == c.toNat then go cs rest
      else .error (.invalidCharacter (b :: rest) (.inLiteral lit c))

mutual

/-- Reads one value after optional whitespace, inside `depth` enclosing containers. -/
def readValue (fuel depth : Nat) (bs : List UInt8) : Except SyntaxError (Value × List UInt8) :=
  match fuel with
  | 0 => .error .unexpectedEnd
  | fuel + 1 =>
    match skipWs bs with
    | [] => .error .unexpectedEnd
    | b :: rest =>
      if b == 0x7B then
        if depth ≥ maxDepth then .error .tooDeep else readObject fuel (depth + 1) rest
      else if b == 0x5B then
        if depth ≥ maxDepth then .error .tooDeep else readArray fuel (depth + 1) rest
      else if b == 0x22 then
        (readString "" rest).map fun (s, r) => (.string s, r)
      else if b == 0x2D || isDigit b then
        (readNumber (b :: rest)).map fun (s, r) => (.number s, r)
      else if b == 0x74 then (readLiteral "true" (b :: rest)).map fun r => (.bool true, r)
      else if b == 0x66 then (readLiteral "false" (b :: rest)).map fun r => (.bool false, r)
      else if b == 0x6E then (readLiteral "null" (b :: rest)).map fun r => (.null, r)
      else .error (.invalidCharacter (b :: rest) .valueStart)

/-- Reads the members of an object whose opening brace is consumed. -/
def readObject (fuel depth : Nat) (bs : List UInt8) : Except SyntaxError (Value × List UInt8) :=
  match skipWs bs with
  | [] => .error .unexpectedEnd
  | b :: rest =>
    if b == 0x7D then .ok (.object [], rest)
    else if b == 0x22 then readMembers fuel depth [] rest
    else .error (.invalidCharacter (b :: rest) .nameStart)

/-- Reads members from just after the opening quote of a name, adding them to `acc`. -/
def readMembers (fuel depth : Nat) (acc : List (String × Value)) (bs : List UInt8) :
    Except SyntaxError (Value × List UInt8) :=
  match fuel with
  | 0 => .error .unexpectedEnd
  | fuel + 1 => do
    let (name, rest) ← readString "" bs
    match skipWs rest with
    | [] => .error .unexpectedEnd
    | c :: rest =>
      if c != 0x3A then .error (.invalidCharacter (c :: rest) .afterName)
      else do
        let (v, rest) ← readValue fuel depth rest
        let acc := (name, v) :: acc
        match skipWs rest with
        | [] => .error .unexpectedEnd
        | d :: rest =>
          if d == 0x7D then .ok (.object acc.reverse, rest)
          else if d == 0x2C then
            match skipWs rest with
            | [] => .error .unexpectedEnd
            | q :: rest =>
              if q == 0x22 then readMembers fuel depth acc rest
              else .error (.invalidCharacter (q :: rest) .nameStart)
          else .error (.invalidCharacter (d :: rest) .afterMember)

/-- Reads the elements of an array whose opening bracket is consumed. -/
def readArray (fuel depth : Nat) (bs : List UInt8) : Except SyntaxError (Value × List UInt8) :=
  match skipWs bs with
  | [] => .error .unexpectedEnd
  | b :: rest =>
    if b == 0x5D then .ok (.array [], rest)
    else readElements fuel depth [] (b :: rest)

/-- Reads elements, the first starting at the front of `bs`, adding them to `acc`. -/
def readElements (fuel depth : Nat) (acc : List Value) (bs : List UInt8) : Except SyntaxError (Value × List UInt8) :=
  match fuel with
  | 0 => .error .unexpectedEnd
  | fuel + 1 => do
    let (v, rest) ← readValue fuel depth bs
    let acc := v :: acc
    match skipWs rest with
    | [] => .error .unexpectedEnd
    | d :: rest =>
      if d == 0x5D then .ok (.array acc.reverse, rest)
      else if d == 0x2C then readElements fuel depth acc rest
      else .error (.invalidCharacter (d :: rest) .afterElement)

end

/-- Reads the one value of a text and returns it with what follows it, whitespace skipped.
Anything that follows is a fault that `trailing` names. -/
def readTop (bs : List UInt8) : Except SyntaxError (Value × List UInt8) := do
  let (v, rest) ← readValue (bs.length + 1) 0 bs
  pure (v, skipWs rest)

/-- The fault of bytes left after the value, if any. -/
def trailing : List UInt8 → Option SyntaxError
  | [] => none
  | b :: rest => some (.invalidCharacter (b :: rest) .afterTopLevel)

/-- Reads a text that holds exactly one value. -/
def read (bs : List UInt8) : Except SyntaxError Value := do
  let (v, rest) ← readTop bs
  match trailing rest with
  | some e => .error e
  | none => pure v

end MeshCall.Json
