import MeshCall.Text.Utf8
import MeshCall.Text.Quoted
/-!
# Durations as text

A duration is a signed 64-bit count of nanoseconds. As text it is an optional sign and a
sequence of decimal numbers, each with an optional fraction and a unit (`ns`, `us`, `µs`, `μs`,
`ms`, `s`, `m`, `h`), such as `300ms`, `-1.5h` or `2h45m`; a lone `0` is zero. The value must fit
in 64 bits. Printing gives the shortest form of the same shape: hours, minutes and seconds with a
fraction, or for less than a second one of `ms`, `µs` and `ns`; zero is `0s`.
-/

namespace MeshCall.Duration

def second : Nat := 1000000000

def limit : Nat := Nat.pow 2 63

/-- The text quoted as duration errors quote it: control and non-ASCII bytes as `\xNN`, the
quote and the backslash escaped. -/
def quote (s : String) : String :=
  "\"" ++ String.join ((Utf8.encode s).map fun b =>
    if b.toNat < 0x20 || b.toNat ≥ 0x80 then "\\x" ++ Quoted.hexPad 2 b.toNat
    else if b == 34 || b == 92 then "\\" ++ (Char.ofNat b.toNat).toString
    else (Char.ofNat b.toNat).toString) ++ "\""

def isDigit (c : UInt8) : Bool := 48 ≤ c.toNat && c.toNat ≤ 57

/-- The leading decimal digits, or `none` when their value passes `2^63`. -/
def leadingInt : List UInt8 → Nat → Option (Nat × List UInt8)
  | [], x => some (x, [])
  | c :: cs, x =>
    if !isDigit c then some (x, c :: cs)
    else if x > limit / 10 then none
    else
      let x := x * 10 + (c.toNat - 48)
      if x > limit then none else leadingInt cs x

/-- The leading digits of a fraction: their value and `10^k` as a float for the `k` digits kept;
digits past the point where the value would pass `2^63` are skipped. -/
def leadingFraction : List UInt8 → Nat → Float → Bool → Nat × Float × List UInt8
  | [], x, scale, _ => (x, scale, [])
  | c :: cs, x, scale, past =>
    if !isDigit c then (x, scale, c :: cs)
    else if past then leadingFraction cs x scale true
    else if x > (limit - 1) / 10 then leadingFraction cs x scale true
    else
      let y := x * 10 + (c.toNat - 48)
      if y > limit then leadingFraction cs x scale true
      else leadingFraction cs y (scale * 10) false

/-- The nanoseconds of a unit. -/
def unitOf : List UInt8 → Option Nat
  | [110, 115] => some 1
  | [117, 115] => some 1000
  | [0xC2, 0xB5, 115] => some 1000
  | [0xCE, 0xBC, 115] => some 1000
  | [109, 115] => some 1000000
  | [115] => some second
  | [109] => some (60 * second)
  | [104] => some (3600 * second)
  | _ => none

/-- Why text is not a duration. -/
inductive ParseError where
  | invalid (text : String)
  | missingUnit (text : String)
  | unknownUnit (unit text : String)
  deriving DecidableEq, Repr

def ParseError.message : ParseError → String
  | .invalid t => "time: invalid duration " ++ quote t
  | .missingUnit t => "time: missing unit in duration " ++ quote t
  | .unknownUnit u t => "time: unknown unit " ++ quote u ++ " in duration " ++ quote t

/-- Reads the numbers and units after the sign, adding to `d`; the sum is kept modulo `2^64`, as
an unsigned accumulator would. -/
def terms (orig : String) : Nat → List UInt8 → Nat → Except ParseError Nat
  | 0, _, d => .ok d
  | _, [], d => .ok d
  | fuel + 1, c :: cs, d => do
    let s := c :: cs
    if !(c == 46 || isDigit c) then .error (.invalid orig)
    let some (v, afterInt) := leadingInt s 0 | .error (.invalid orig)
    let pre := afterInt.length != s.length
    let (f, scale, rest, post) := match afterInt with
      | 46 :: r =>
        let (f, scale, rest) := leadingFraction r 0 1 false
        (f, scale, rest, rest.length != r.length)
      | r => (0, 1, r, false)
    if !pre && !post then .error (.invalid orig)
    let u := rest.takeWhile fun b => !(b == 46 || isDigit b)
    let rest := rest.drop u.length
    if u.isEmpty then .error (.missingUnit orig)
    let some unit := unitOf u | .error (.unknownUnit (Utf8.decode u) orig)
    if v > limit / unit then .error (.invalid orig)
    let v := v * unit
    let v := if f > 0 then v + (Float.ofNat f * (Float.ofNat unit / scale)).toUInt64.toNat else v
    if v > limit then .error (.invalid orig)
    let d := (d + v) % Nat.pow 2 64
    if d > limit then .error (.invalid orig)
    terms orig fuel rest d

/-- Reads a duration. -/
def parse (s : String) : Except ParseError Int := do
  let bs := Utf8.encode s
  let (neg, body) := match bs with
    | 45 :: r => (true, r)
    | 43 :: r => (false, r)
    | _ => (false, bs)
  if body == [48] then return 0
  if body.isEmpty then .error (.invalid s)
  let d ← terms s body.length body 0
  if neg then return -(d : Int)
  if d > limit - 1 then .error (.invalid s)
  return d

/-- The digits of `v / 10^prec` fraction part, trailing zeros dropped (and the point with them
when nothing is left), and the integer part. -/
def fraction (v prec : Nat) : String × Nat :=
  let digits := (List.range prec).map fun i => v / Nat.pow 10 i % 10
  let kept := digits.dropWhile (· == 0)
  let text := String.ofList (kept.reverse.map fun d => Char.ofNat (48 + d))
  ((if kept.isEmpty then "" else "." ++ text), v / Nat.pow 10 prec)

/-- The text of a duration. -/
def text (d : Int) : String :=
  let u := d.natAbs
  let sign := if d < 0 then "-" else ""
  if u = 0 then "0s"
  else if u < second then
    let (prec, unit) :=
      if u < 1000 then (0, "ns") else if u < 1000000 then (3, "µs") else (6, "ms")
    let (frac, whole) := fraction u prec
    sign ++ toString whole ++ frac ++ unit
  else
    let (frac, secs) := fraction u 9
    let s := toString (secs % 60) ++ frac ++ "s"
    let mins := secs / 60
    if mins = 0 then sign ++ s
    else
      let m := toString (mins % 60) ++ "m" ++ s
      let hours := mins / 60
      if hours = 0 then sign ++ m else sign ++ toString hours ++ "h" ++ m

end MeshCall.Duration
