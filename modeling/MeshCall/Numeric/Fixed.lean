/-!
Fixed-point text of binary floating-point numbers. A finite number is taken at its exact binary
value `m · 2^e` and rounded to a fixed number of decimal places; a tie goes to the even neighbour.
The sign of a negative number, and of negative zero, is kept. NaN and the infinities have names
of their own.
-/

namespace MeshCall.Fixed

/-- The parts of a float: sign, and for a finite value the mantissa `m` and exponent `e` with
value `m · 2^e`. -/
inductive Parts where
  | finite (negative : Bool) (m : Nat) (e : Int)
  | infinite (negative : Bool)
  | nan
  deriving DecidableEq, Repr

/-- Decodes the IEEE 754 binary64 layout: one sign bit, eleven exponent bits, fifty-two fraction
bits. -/
def parts (x : Float) : Parts :=
  let bits : Nat := x.toBits.toNat
  let negative : Bool := bits / Nat.pow 2 63 % 2 == 1
  let expBits : Nat := bits / Nat.pow 2 52 % Nat.pow 2 11
  let frac : Nat := bits % Nat.pow 2 52
  if expBits == 2047 then (if frac == 0 then .infinite negative else .nan)
  else if expBits == 0 then .finite negative frac (-1074)
  else .finite negative (frac + Nat.pow 2 52) ((expBits : Int) - 1075)

/-- `num / den` rounded to the nearest integer, a tie going to the even one. -/
def roundHalfEven (num den : Nat) : Nat :=
  let q := num / den
  let r := num % den
  if 2 * r > den then q + 1
  else if 2 * r == den then q + q % 2
  else q

/-- `m · 2^e · 10^places`, rounded to an integer. -/
def scaled (m : Nat) (e : Int) (places : Nat) : Nat :=
  if 0 ≤ e then m * Nat.pow 2 e.toNat * Nat.pow 10 places
  else roundHalfEven (m * Nat.pow 10 places) (Nat.pow 2 (-e).toNat)

/-- Digits of a finite magnitude with `places` decimals. -/
def digits (n places : Nat) : String :=
  let unit := Nat.pow 10 places
  let whole := toString (n / unit)
  if places == 0 then whole
  else
    let f := toString (n % unit)
    whole ++ "." ++ String.ofList (List.replicate (places - f.length) '0') ++ f

/-- The text of `x` with `places` decimals. -/
def text (places : Nat) (x : Float) : String :=
  match parts x with
  | .nan => "NaN"
  | .infinite neg => if neg then "-Inf" else "+Inf"
  | .finite neg m e => (if neg then "-" else "") ++ digits (scaled m e places) places

/-- Pads on the left with spaces to at least `width` characters. -/
def padLeft (width : Nat) (s : String) : String :=
  String.ofList (List.replicate (width - s.length) ' ') ++ s

end MeshCall.Fixed
