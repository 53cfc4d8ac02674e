/-!
Decimal numbers to binary64. A decimal `m · 10^e` is turned into the nearest double: the exact
quotient is scaled so that the integer part has fifty-three bits (fewer below the normal range),
and the remainder decides the rounding, a tie going to the even mantissa. Values past the largest
double become infinite.
-/

namespace MeshCall.Decimal

/-- The number of bits of `n`: zero for zero. -/
def bitLength (n : Nat) : Nat := if n = 0 then 0 else Nat.log2 n + 1

/-- `num / den` rounded to the nearest integer, a tie going to the even one. -/
def roundEven (num den : Nat) : Nat :=
  let q := num / den
  let r := num % den
  if 2 * r > den then q + 1 else if 2 * r = den then q + q % 2 else q

/-- `num · 2^(-k)` over `den`: the exact quotient at binary exponent `k`, rounded. -/
def atExponent (num den : Nat) (k : Int) : Nat :=
  if k ≤ 0 then roundEven (num * Nat.pow 2 (-k).toNat) den else roundEven num (den * Nat.pow 2 k.toNat)

/-- The bit pattern of the double nearest to the positive rational `num / den`. -/
def nearestRatioBits (num den : Nat) : Nat :=
  if num = 0 then 0 else
  -- the binary exponent that leaves a 53-bit quotient, at least the subnormal exponent
  let guess : Int := (bitLength num : Int) - bitLength den - 53
  let k0 : Int := if num * Nat.pow 2 (-guess).toNat ≥ den * Nat.pow 2 guess.toNat * Nat.pow 2 53 then guess + 1
    else if num * Nat.pow 2 (-guess).toNat < den * Nat.pow 2 guess.toNat * Nat.pow 2 52 then guess - 1 else guess
  let k := max k0 (-1074)
  let q := atExponent num den k
  let (q, k) := if q ≥ Nat.pow 2 53 then (q / 2, k + 1) else (q, k)
  if k + 52 > 1023 then 2047 * Nat.pow 2 52
  else if q < Nat.pow 2 52 then q
  else (k + 1075).toNat * Nat.pow 2 52 + (q - Nat.pow 2 52)

/-- The double nearest to `m · 10^e`, negated when `negative`. A value whose decimal exponent is
far past either end of the double range is infinite or zero without computing the power. -/
def nearest (negative : Bool) (m : Nat) (e : Int) : Float :=
  let width : Int := (Nat.toDigits 10 m).length
  let bits :=
    if m = 0 then 0
    else if e + width > 400 then 2047 * Nat.pow 2 52
    else if e + width < -400 then 0
    else if 0 ≤ e then nearestRatioBits (m * Nat.pow 10 e.toNat) 1
    else nearestRatioBits m (Nat.pow 10 (-e).toNat)
  Float.ofBits (UInt64.ofNat (if negative then bits + Nat.pow 2 63 else bits))

/-- The value of a digit string; `none` when it is empty or holds anything else. -/
def digitsValue? (s : String) : Option Nat :=
  if s.isEmpty || !s.all Char.isDigit then none
  else some (s.foldl (fun n c => n * 10 + (c.toNat - 48)) 0)

/-- The double nearest to a number written in JSON grammar: an optional minus, digits, an
optional fraction and an optional exponent. -/
def ofLiteral? (lit : String) : Option Float := do
  let negative := lit.startsWith "-"
  let body := if negative then (lit.drop 1).toString else lit
  let (mant, expText) := match body.split (fun c => c == 'e' || c == 'E') |>.toList with
    | [m, x] => (m.toString, some x.toString)
    | _ => (body, none)
  let (whole, frac) := match mant.splitOn "." with
    | [w, f] => (w, f)
    | _ => (mant, "")
  let m ← digitsValue? (whole ++ frac)
  let e : Int ← match expText with
    | none => pure 0
    | some x =>
      if x.startsWith "-" then (digitsValue? (x.drop 1).toString).map fun n => -(n : Int)
      else if x.startsWith "+" then (digitsValue? (x.drop 1).toString).map Int.ofNat
      else (digitsValue? x).map Int.ofNat
  pure (nearest negative m (e - frac.length))

end MeshCall.Decimal
