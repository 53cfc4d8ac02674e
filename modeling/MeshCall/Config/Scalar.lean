import MeshCall.Text.Quoted
import MeshCall.Numeric.Decimal
/-!
# Reading numbers and booleans from text

Integers are read the way command-line flags and configuration values read them: an optional
sign, then a base prefix (`0b`, `0o`, `0x`, or a bare leading `0` for octal), then digits, with
underscores allowed between digits only when the base comes from the prefix. A value that does
not fit in 64 bits is out of range; anything else that is not a number is malformed. Booleans are
`1 t T TRUE true True` and `0 f F FALSE false False`.
-/

namespace MeshCall.Scalar

/-- Why text is not a number. -/
inductive Problem where
  | malformed
  | outOfRange
  deriving DecidableEq, Repr, Inhabited

def Problem.text : Problem → String
  | .malformed => "invalid syntax"
  | .outOfRange => "value out of range"

/-- A failed conversion: the function that failed, the text it was given and why. -/
structure NumError where
  func : String
  num : String
  problem : Problem
  deriving DecidableEq, Repr, Inhabited

/-- The full message, with the text quoted. -/
def NumError.message (e : NumError) : String :=
  "strconv." ++ e.func ++ ": parsing " ++ Quoted.string e.num ++ ": " ++ e.problem.text

/-- The message without the text, as configuration decoding reports it. -/
def NumError.brief (e : NumError) : String := "strconv." ++ e.func ++ ": " ++ e.problem.text

def maxUint64 : Nat := Nat.pow 2 64 - 1

/-- The byte with the ASCII case bit set, so that letters compare in lower case. -/
def lower (c : UInt8) : UInt8 := c ||| 0x20

/-- The value of a digit or letter as a digit of any base up to 36. -/
def digitOf (c : UInt8) : Option Nat :=
  if 48 ≤ c.toNat && c.toNat ≤ 57 then some (c.toNat - 48)
  else if 97 ≤ (lower c).toNat && (lower c).toNat ≤ 122 then some ((lower c).toNat - 87)
  else none

/-- What the underscore check saw last. -/
inductive Seen where
  | start
  | digit
  | underscore
  | other
  deriving DecidableEq

def isDecimal (c : UInt8) : Bool := 48 ≤ c.toNat && c.toNat ≤ 57

def isHexLetter (c : UInt8) : Bool := 97 ≤ (lower c).toNat && (lower c).toNat ≤ 102

/-- Scans the digits of a number for misplaced underscores. -/
def underscoreScan (hex : Bool) : List UInt8 → Seen → Bool
  | [], saw => saw != .underscore
  | c :: cs, saw =>
    if isDecimal c || (hex && isHexLetter c) then underscoreScan hex cs .digit
    else if c == 95 then saw == .digit && underscoreScan hex cs .underscore
    else saw != .underscore && underscoreScan hex cs .other

/-- Whether underscores only separate digits: each follows a digit or the base prefix and is
followed by a digit. -/
def underscoresOk (s : List UInt8) : Bool :=
  let s := match s with
    | c :: rest => if c == 45 || c == 43 then rest else s
    | [] => []
  match s with
  | 48 :: b :: rest =>
    if lower b == 98 || lower b == 111 || lower b == 120 then underscoreScan (lower b == 120) rest .digit
    else underscoreScan false s .start
  | _ => underscoreScan false s .start

/-- Accumulates digits of `base` into `n`; underscores are skipped when `separators` allows
them, and the result says whether any was seen. -/
def digits (base : Nat) (separators : Bool) : List UInt8 → Nat → Bool → Except Problem (Nat × Bool)
  | [], n, saw => .ok (n, saw)
  | c :: cs, n, saw =>
    if c == 95 && separators then digits base separators cs n true
    else match digitOf c with
      | none => .error .malformed
      | some d =>
        if d ≥ base then .error .malformed
        else if n ≥ maxUint64 / base + 1 then .error .outOfRange
        else if n * base + d > maxUint64 then .error .outOfRange
        else digits base separators cs (n * base + d) saw

/-- An unsigned 64-bit number; `base` 0 takes the base from the prefix. -/
def parseUnsigned (s : List UInt8) (base : Nat) : Except Problem Nat :=
  if s.isEmpty then .error .malformed
  else
    let (b, body) :=
      if base != 0 then (base, s)
      else match s with
        | 48 :: c :: rest =>
          if s.length ≥ 3 && lower c == 98 then (2, rest)
          else if s.length ≥ 3 && lower c == 111 then (8, rest)
          else if s.length ≥ 3 && lower c == 120 then (16, rest)
          else (8, c :: rest)
        | 48 :: rest => (8, rest)
        | _ => (10, s)
    match digits b (base == 0) body 0 false with
    | .error e => .error e
    | .ok (n, saw) => if saw && !underscoresOk s then .error .malformed else .ok n

/-- An unsigned 64-bit number as `ParseUint` reads it. -/
def parseUint (s : String) (base : Nat) : Except NumError Nat :=
  (parseUnsigned (Utf8.encode s) base).mapError fun p => ⟨"ParseUint", s, p⟩

/-- A signed 64-bit number as `ParseInt` reads it. -/
def parseInt (s : String) (base : Nat) : Except NumError Int :=
  let bs := Utf8.encode s
  let (neg, body) := match bs with
    | 43 :: rest => (false, rest)
    | 45 :: rest => (true, rest)
    | _ => (false, bs)
  if bs.isEmpty then .error ⟨"ParseInt", s, .malformed⟩
  else
    let un : Option Nat := match parseUnsigned body base with
      | .ok n => some n
      | .error .outOfRange => some maxUint64
      | .error .malformed => none
    match un with
    | none => .error ⟨"ParseInt", s, .malformed⟩
    | some un =>
      if !neg && un ≥ Nat.pow 2 63 then .error ⟨"ParseInt", s, .outOfRange⟩
      else if neg && un > Nat.pow 2 63 then .error ⟨"ParseInt", s, .outOfRange⟩
      else .ok (if neg then -(un : Int) else un)

/-- The value of decimal digits. -/
def decimalValue (ds : List UInt8) : Nat := ds.foldl (fun n d => n * 10 + (d.toNat - 48)) 0

/-- A decimal float split into its sign, its digits as one number and the power of ten they are
scaled by. The text must be all of: an optional sign; digits with at most one point among them,
at least one digit in all; and optionally `e` or `E`, an optional sign and digits. -/
def decimalParts (bs : List UInt8) : Option (Bool × Nat × Int) := do
  let (negative, body) := match bs with
    | 43 :: rest => (false, rest)
    | 45 :: rest => (true, rest)
    | _ => (false, bs)
  let whole := body.takeWhile isDecimal
  let (frac, rest) := match body.drop whole.length with
    | 46 :: r => (r.takeWhile isDecimal, r.dropWhile isDecimal)
    | r => ([], r)
  if whole.isEmpty && frac.isEmpty then none
  let exponent : Int ← match rest with
    | [] => some 0
    | c :: r =>
      if lower c != 101 then none
      else
        let (down, ds) := match r with
          | 43 :: ds => (false, ds)
          | 45 :: ds => (true, ds)
          | ds => (false, ds)
        if ds.isEmpty || !ds.all isDecimal then none
        else some (if down then -(decimalValue ds : Int) else decimalValue ds)
  pure (negative, decimalValue (whole ++ frac), exponent - frac.length)

def infinity : Float := Decimal.nearest false 1 1000

/-- The words for special values: `inf` or `infinity` with an optional sign, and `nan`, in any
case. -/
def specialFloat (bs : List UInt8) : Option Float :=
  let (negative, signed, body) := match bs with
    | 43 :: rest => (false, true, rest)
    | 45 :: rest => (true, true, rest)
    | _ => (false, false, bs)
  let word := body.map lower
  if word == Utf8.encode "inf" || word == Utf8.encode "infinity" then
    some (if negative then -infinity else infinity)
  else if !signed && word == Utf8.encode "nan" then some (infinity - infinity)
  else none

/-- A decimal float as `ParseFloat` reads it: rounded to the nearest double, and out of range
when that is past the largest finite double. -/
def parseFloat (s : String) : Except NumError Float :=
  let bs := Utf8.encode s
  match specialFloat bs with
  | some f => .ok f
  | none =>
    match decimalParts bs with
    | none => .error ⟨"ParseFloat", s, .malformed⟩
    | some (negative, m, e) =>
      let f := Decimal.nearest negative m e
      if f.isInf then .error ⟨"ParseFloat", s, .outOfRange⟩ else .ok f

/-- A boolean as `ParseBool` reads it. -/
def parseBool (s : String) : Except NumError Bool :=
  if ["1", "t", "T", "TRUE", "true", "True"].contains s then .ok true
  else if ["0", "f", "F", "FALSE", "false", "False"].contains s then .ok false
  else .error ⟨"ParseBool", s, .malformed⟩

end MeshCall.Scalar
