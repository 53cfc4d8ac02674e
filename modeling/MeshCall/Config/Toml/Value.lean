import MeshCall.Config.Toml.Syntax
import MeshCall.Config.Setting
import MeshCall.Config.Scalar
/-!
# TOML values

The meaning of a value as written: integers in four bases, floats, and the four kinds of date
and time. Reading the text of a number or a moment is checked here, after the document's syntax,
so a malformed number is found when its pair is stored.

* An integer may hold underscores, each between two digits. A decimal integer has no leading
  zero and must fit in 64 bits, as must a hexadecimal, octal or binary one.
* A float has digits on both sides of its point, no leading zero, and underscores only between
  digits; `inf` and `nan` with or without a sign are floats too.
* A date is `YYYY-MM-DD` naming a real day; a time is `HH:MM:SS` with an optional fraction; a
  local date-time joins them with `T` or a space, and an offset date-time adds `Z` or `±HH:MM`.
-/

namespace MeshCall.Toml

/-- The numeral without its underscores, each of which must stand between two other characters
(a sign does not count as one). -/
def dropUnderscores (b : Bytes) : Except String Bytes :=
  let body := match b with
    | 0x2B :: r | 0x2D :: r => r
    | _ => b
  match body with
  | [] => .ok b
  | first :: _ =>
    if first == 0x5F then fail "number cannot start with underscore"
    else if b.getLast? == some 0x5F then fail "number cannot end with underscore"
    else if (b.zip b.tail).any (fun (x, y) => x == 0x5F && y == 0x5F) then
      fail "number must have at least one digit between underscores"
    else .ok (b.filter (· != 0x5F))

/-- A decimal integer. -/
def decimalInteger (b : Bytes) : Except String Int := do
  let cleaned ← dropUnderscores b
  let digits := match cleaned with
    | 0x2B :: r | 0x2D :: r => r
    | _ => cleaned
  if digits.length > 1 && digits.head? == some 0x30 then
    fail "leading zero not allowed on decimal number"
  match Scalar.parseInt (text cleaned) 10 with
  | .ok i => pure i
  | .error e => fail ("couldn't parse decimal number: " ++ e.message)

/-- An integer after a base prefix: `base` and its name. -/
def prefixedInteger (base : Nat) (name : String) (b : Bytes) : Except String Int := do
  let cleaned ← dropUnderscores (b.drop 2)
  match Scalar.parseInt (text cleaned) base with
  | .ok i => pure i
  | .error e => fail ("couldn't parse " ++ name ++ " number: " ++ e.message)

/-- An integer: prefixed when it is longer than two characters and starts with `0`. -/
def integerValue (b : Bytes) : Except String Int :=
  match b with
  | 0x30 :: c :: _ :: _ =>
    if c == 0x78 then prefixedInteger 16 "hexadecimal" b
    else if c == 0x62 then prefixedInteger 2 "binary" b
    else prefixedInteger 8 "octal" b
  | _ => decimalInteger b

/-- A float's numeral without its underscores, each of which must stand between digits: not
next to the exponent mark or the point. -/
def dropFloatUnderscores (b : Bytes) : Except String Bytes :=
  let rec go : Bytes → Option UInt8 → Bool → Except String Unit
    | [], _, _ => .ok ()
    | c :: r, prev, digitBefore =>
      let next := r.head?
      if c == 0x5F then
        if !digitBefore then fail "number must have at least one digit between underscores"
        else if next == some 0x65 || next == some 0x45 then
          fail "cannot have underscore before exponent"
        else go r (some c) false
      else if c == 0x2B || c == 0x2D then go r (some c) false
      else if c == 0x65 || c == 0x45 then
        if next == some 0x5F then fail "cannot have underscore after exponent"
        else go r (some c) digitBefore
      else if c == 0x2E then
        if next == some 0x5F then fail "cannot have underscore after decimal point"
        else if prev == some 0x5F then fail "cannot have underscore before decimal point"
        else go r (some c) digitBefore
      else go r (some c) true
  if b.head? == some 0x5F then fail "number cannot start with underscore"
  else if b.getLast? == some 0x5F then fail "number cannot end with underscore"
  else if !b.contains 0x5F then .ok b
  else (go b none false).map fun _ => b.filter (· != 0x5F)

/-- Whether every point of a float has a digit on each side, and there is at most one. -/
def checkPoints (c : Bytes) : Except String Unit :=
  let rec go : Bytes → Option UInt8 → Bool → Except String Unit
    | [], _, _ => .ok ()
    | x :: r, prev, seen =>
      if x == 0x2E then
        if seen then fail "float can have at most one decimal point"
        else if !(prev.map isDigit).getD false then
          fail "float decimal point must be preceded by a digit"
        else if !(r.head?.map isDigit).getD false then
          fail "float decimal point must be followed by a digit"
        else go r (some x) true
      else go r (some x) seen
  go c none false

/-- A float. -/
def floatValue (b : Bytes) : Except String Float := do
  if b == Utf8.encode "+nan" || b == Utf8.encode "-nan" then
    return Scalar.infinity - Scalar.infinity
  let cleaned ← dropFloatUnderscores b
  if cleaned.head? == some 0x2E then fail "float cannot start with a dot"
  if cleaned.getLast? == some 0x2E then fail "float cannot end with a dot"
  checkPoints cleaned
  let body := match cleaned with
    | 0x2B :: r | 0x2D :: r => r
    | _ => cleaned
  match body with
  | 0x30 :: d :: _ => if isDigit d then fail "float integer part cannot have leading zeroes"
  | _ => pure ()
  match Scalar.parseFloat (text cleaned) with
  | .ok f => pure f
  | .error e => fail ("unable to parse float: " ++ e.message)

/-! ## Dates and times -/

/-- Digits as a number. -/
def digitsValue (b : Bytes) : Except String Nat :=
  if b.all isDigit then .ok (b.foldl (fun n d => n * 10 + (d.toNat - 0x30)) 0)
  else fail "expected digit (0-9)"

def isLeap (year : Nat) : Bool := year % 4 == 0 && (year % 100 != 0 || year % 400 == 0)

/-- The number of days of a month, 1 to 12. -/
def daysIn (month year : Nat) : Nat :=
  if month == 2 then (if isLeap year then 29 else 28)
  else if month == 4 || month == 6 || month == 9 || month == 11 then 30
  else 31

/-- A date `YYYY-MM-DD` naming a real day. -/
def localDate (b : Bytes) : Except String Unit := do
  if b.length != 10 || b[4]? != some 0x2D || b[7]? != some 0x2D then
    fail "dates are expected to have the format YYYY-MM-DD"
  let year ← digitsValue (b.take 4)
  let month ← digitsValue ((b.drop 5).take 2)
  let day ← digitsValue ((b.drop 8).take 2)
  if !(0 < month && month < 13 && 0 < day && day ≤ daysIn month year) then fail "impossible date"

/-- A time `HH:MM:SS` with an optional fraction, and what follows it. -/
def localTime (b : Bytes) : Except String Bytes := do
  if b.length < 8 then fail "times are expected to have the format HH:MM:SS[.NNNNNN]"
  let hour ← digitsValue (b.take 2)
  if hour > 23 then fail "hour cannot be greater 23"
  if b[2]? != some 0x3A then fail "expecting colon between hours and minutes"
  let minute ← digitsValue ((b.drop 3).take 2)
  if minute > 59 then fail "minutes cannot be greater 59"
  if b[5]? != some 0x3A then fail "expecting colon between minutes and seconds"
  let second ← digitsValue ((b.drop 6).take 2)
  if second > 60 then fail "seconds cannot be greater 60"
  match b.drop 8 with
  | 0x2E :: r =>
    match r with
    | [] => fail "nanoseconds need at least one digit"
    | d :: _ =>
      if isDigit d then pure (r.dropWhile isDigit)
      else fail "need at least one digit after fraction point"
  | r => pure r

/-- A date and a time joined by `T`, `t` or a space, and what follows them. -/
def localDateTime (b : Bytes) : Except String Bytes := do
  if b.length < 11 then
    fail "local datetimes are expected to have the format YYYY-MM-DDTHH:MM:SS[.NNNNNNNNN]"
  localDate (b.take 10)
  let sep := b[10]?
  if !(sep == some 0x54 || sep == some 0x20 || sep == some 0x74) then
    fail "datetime separator is expected to be T or a space"
  localTime (b.drop 11)

/-- A date-time with a zone: `Z`, `z`, or a sign and `HH:MM` within a day. -/
def offsetDateTime (b : Bytes) : Except String Unit := do
  let rest ← localDateTime b
  let rest ← match rest with
    | 0x5A :: r | 0x7A :: r => pure r
    | [c, h1, h2, colon, m1, m2] => do
      if c != 0x2D && c != 0x2B then fail "invalid timezone offset character"
      if colon != 0x3A then fail "expected a : separator"
      let hours ← digitsValue [h1, h2]
      if hours > 23 then fail "invalid timezone offset hours"
      let minutes ← digitsValue [m1, m2]
      if minutes > 59 then fail "invalid timezone offset minutes"
      pure []
    | _ => fail "invalid date-time timezone"
  if !rest.isEmpty then fail "extra bytes at the end of the timezone"

/-- A moment checked, and the type its value takes. -/
def momentValue (kind : Moment) (b : Bytes) : Except String Setting :=
  match kind with
  | .offsetDateTime => (offsetDateTime b).map fun _ => .other "time.Time"
  | .localDateTime => do
    let rest ← localDateTime b
    if !rest.isEmpty then fail "extra characters at the end of a local date time"
    pure (.other "toml.LocalDateTime")
  | .localDate => (localDate b).map fun _ => .other "toml.LocalDate"
  | .localTime => do
    let rest ← localTime b
    if !rest.isEmpty then fail "extra characters at the end of a local time"
    pure (.other "toml.LocalTime")

/-- Puts a value at a dotted path of a table, making the tables on the way. -/
def place (t : List (String × Setting)) : List String → Setting → List (String × Setting)
  | [], _ => t
  | [k], v => t ++ [(k, v)]
  | k :: more, v =>
    match t.lookup k with
    | some (.table inner) =>
      t.map fun (k', x) => if k' == k then (k', .table (place inner more v)) else (k', x)
    | _ => t ++ [(k, .table (place [] more v))]

mutual

/-- The meaning of a value, its elements and pairs taken in order. -/
def Lit.setting : Lit → Except String Setting
  | .str s => .ok (.text s)
  | .bool b => .ok (.bool b)
  | .integer raw => (integerValue raw).map .int
  | .float raw => (floatValue raw).map .float
  | .moment kind raw => momentValue kind raw
  | .array items => (Lit.settings items).map .list
  | .inline pairs =>
    (Lit.pairSettings pairs).map fun ps => .table (ps.foldl (fun t (k, v) => place t k v) [])

def Lit.settings : List Lit → Except String (List Setting)
  | [] => .ok []
  | x :: xs => do
    let v ← x.setting
    pure (v :: (← Lit.settings xs))

def Lit.pairSettings : List (List String × Lit) → Except String (List (List String × Setting))
  | [] => .ok []
  | (k, x) :: xs => do
    let v ← x.setting
    pure ((k, v) :: (← Lit.pairSettings xs))

end

end MeshCall.Toml
