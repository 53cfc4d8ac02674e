/-!
# YAML timestamps

A plain scalar that begins with a four-digit year and a dash is tried as a timestamp before it is
tried as a number. Four forms are timestamps: a date `Y-M-D`; a date, one or more spaces and a
time `h:m:s`; and a date, `T` or `t`, a time and a zone. Month, day, hour, minute and second take
one or two digits; a second may carry a fraction (a point or comma and any number of digits); a
zone is `Z` or a sign with `hh:mm`. The fields must name a real moment: months 1 to 12, days up
to the length of the month (February has 29 days in leap years), hours below 24, minutes and
seconds below 60, zone offsets up to 24 hours and 60 minutes. Nothing may follow.

A timestamp still decodes to its text; what changes is the tag it reports.
-/

namespace MeshCall.Yaml.Timestamp

def digitValue (c : Char) : Nat := c.toNat - '0'.toNat

/-- One or two digits, as many as there are. -/
def field : List Char → Option (Nat × List Char)
  | a :: b :: r =>
    if !a.isDigit then none
    else if b.isDigit then some (digitValue a * 10 + digitValue b, r)
    else some (digitValue a, b :: r)
  | [a] => if a.isDigit then some (digitValue a, []) else none
  | [] => none

/-- Exactly the character `c`. -/
def expect (c : Char) : List Char → Option (List Char)
  | d :: r => if d == c then some r else none
  | [] => none

def isLeap (year : Nat) : Bool := year % 4 == 0 && (year % 100 != 0 || year % 400 == 0)

/-- The number of days of a month, 1 to 12. -/
def daysIn (month year : Nat) : Nat :=
  if month == 2 then (if isLeap year then 29 else 28)
  else if month == 4 || month == 6 || month == 9 || month == 11 then 30
  else 31

/-- A date `Y-M-D` naming a real day, and what follows it. -/
def date (cs : List Char) : Option (List Char) := do
  let year := cs.take 4
  if year.length != 4 || !year.all Char.isDigit then none
  let year := year.foldl (fun n c => n * 10 + digitValue c) 0
  let r ← expect '-' (cs.drop 4)
  let (month, r) ← field r
  let r ← expect '-' r
  let (day, r) ← field r
  if month < 1 || 12 < month || day < 1 || daysIn month year < day then none
  pure r

/-- A fraction of a second, if one follows: a point or comma and at least one digit. -/
def fraction : List Char → List Char
  | c :: d :: r => if (c == '.' || c == ',') && d.isDigit then r.dropWhile Char.isDigit else c :: d :: r
  | cs => cs

/-- A time `h:m:s` with an optional fraction, and what follows it. -/
def time (cs : List Char) : Option (List Char) := do
  let (hour, r) ← field cs
  let r ← expect ':' r
  let (minute, r) ← field r
  let r ← expect ':' r
  let (second, r) ← field r
  if 24 ≤ hour || 60 ≤ minute || 60 ≤ second then none
  pure (fraction r)

/-- A zone: `Z`, or a sign, two digits of hours, a colon and two digits of minutes. -/
def zone : List Char → Option (List Char)
  | 'Z' :: r => some r
  | s :: h1 :: h2 :: ':' :: m1 :: m2 :: r =>
    if (s == '+' || s == '-') && [h1, h2, m1, m2].all Char.isDigit &&
        digitValue h1 * 10 + digitValue h2 ≤ 24 && digitValue m1 * 10 + digitValue m2 ≤ 60 then
      some r
    else none
  | _ => none

/-- One or more spaces; at the very end, none. -/
def spaces : List Char → Option (List Char)
  | [] => some []
  | ' ' :: r => some (r.dropWhile (· == ' '))
  | _ => none

/-- Whether a text reads as a timestamp in one of the four forms. -/
def accepts (s : String) : Bool :=
  let cs := s.toList
  let dated := date cs
  let ends (r : Option (List Char)) : Bool := r == some []
  ends dated ||
  ends (do time (← spaces (← dated))) ||
  ends (do
    let r ← dated
    let r ← match r with
      | 'T' :: r | 't' :: r => some r
      | _ => none
    zone (← time r))

end MeshCall.Yaml.Timestamp
