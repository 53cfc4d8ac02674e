import MeshCall.Numeric.Decimal
import MeshCall.Text.Case
/-!
# Setting values

The values a configuration source yields before they are fitted to the fields of a
configuration: what a YAML, JSON or TOML file holds, and the text of environment variables and
flags. Integers that do not fit in a signed 64-bit number are kept apart as unsigned, as YAML
reads them. A float turned into text takes its shortest decimal form that reads back the same,
in positional notation.
-/

namespace MeshCall

/-- A configuration value. -/
inductive Setting where
  | null
  | bool (b : Bool)
  | int (i : Int)
  | uint (n : Nat)
  | float (f : Float)
  | text (s : String)
  | list (items : List Setting)
  | table (entries : List (String × Setting))
  /-- A value of a kind no field can take, such as a date, by the name of its type. -/
  | other (typeName : String)
  deriving Inhabited, Repr

namespace Setting

/-- The name of the value's type, as decoding errors name it. -/
def typeName : Setting → String
  | .null => "<nil>"
  | .bool _ => "bool"
  | .int _ => "int"
  | .uint _ => "uint64"
  | .float _ => "float64"
  | .text _ => "string"
  | .list _ => "[]interface \x7b\x7d"
  | .table _ => "map[string]interface \x7b\x7d"
  | .other n => n

/-- The value under a key of a table, the last one when the key repeats. -/
def lookup (entries : List (String × Setting)) (k : String) : Option Setting :=
  (entries.reverse.find? (·.1 == k)).map (·.2)

/-- The value a record field named `name` (ASCII) takes from a table: the value under that exact
key, else the value of the first key that equals the name when case is ignored. -/
def field (entries : List (String × Setting)) (name : String) : Option Setting :=
  match lookup entries name with
  | some v => some v
  | none => (entries.find? fun (k, _) => Case.fold k == Case.fold name).map (·.2)

end Setting

namespace FloatText

/-- The exact value of a finite double as a sign and a ratio of naturals. -/
def ratio (f : Float) : Bool × Nat × Nat :=
  let bits := f.toBits.toNat
  let negative := bits ≥ Nat.pow 2 63
  let e : Nat := bits / Nat.pow 2 52 % 2048
  let frac : Nat := bits % Nat.pow 2 52
  let m : Nat := if e = 0 then frac else frac + Nat.pow 2 52
  let exp : Int := if e = 0 then -1074 else (e : Int) - 1075
  if exp ≥ 0 then (negative, m * Nat.pow 2 exp.toNat, 1)
  else (negative, m, Nat.pow 2 (-exp).toNat)

/-- The position of the leading decimal digit of `num / den > 0`: the `L` with
`10^L ≤ num / den < 10^(L+1)`. -/
def leadingPower (num den : Nat) : Int :=
  if num ≥ den then ((Nat.toDigits 10 (num / den)).length : Int) - 1
  else
    -- the smallest t with num · 10^t ≥ den
    let t := (List.range 1100).find? (fun t => num * Nat.pow 10 t ≥ den) |>.getD 1100
    -(t : Int)

/-- `num / den` rounded to the nearest integer, a tie going to the even one. -/
def roundRatio (num den : Nat) : Nat := Decimal.roundEven num den

/-- The digits of `num / den` at `p` significant digits, as the neighbours `n` and `n + 1` below
and above it (one, when it is exact there), with the exponent `x` that goes with them and the
one the value rounds to. -/
def neighbours (num den : Nat) (lead : Int) (p : Nat) : List Nat × Nat × Int :=
  let q : Int := (p : Int) - 1 - lead
  let (a, b) := if q ≥ 0 then (num * Nat.pow 10 q.toNat, den)
    else (num, den * Nat.pow 10 (-q).toNat)
  let down := a / b
  ((if a % b == 0 then [down] else [down, down + 1]), roundRatio a b, -q)

/-- The shortest digits `n` and exponent `x` with `n · 10^x` reading back as the positive double
`num / den` whose bits are `bits`; of two such of that length, the one nearer the value. Both
neighbours at each length are tried, since next to a power of two the range that reads back
reaches less far below the value than above it. -/
def shortest (num den bits : Nat) : Nat × Int :=
  let lead := leadingPower num den
  let fits := fun (n : Nat) (x : Int) => (Decimal.nearest false n x).toBits.toNat == bits
  let pick := fun (p : Nat) =>
    let (near, rounded, x) := neighbours num den lead p
    match near.filter (fits · x) with
    | [] => none
    | [n] => some (n, x)
    | _ => some (rounded, x)
  match (List.range 17).findSome? fun i => pick (i + 1) with
  | some c => c
  | none => let (_, rounded, x) := neighbours num den lead 17; (rounded, x)

/-- Drops trailing zero digits into the exponent. -/
def trim : Nat → Nat × Nat
  | 0 => (0, 0)
  | n + 1 =>
    if (n + 1) % 10 = 0 then
      let (m, k) := trim ((n + 1) / 10)
      (m, k + 1)
    else (n + 1, 0)
  decreasing_by omega

/-- `n · 10^x` in positional notation. -/
def positional (n : Nat) (x : Int) : String :=
  let ds := toString n
  if x ≥ 0 then ds ++ String.ofList (List.replicate x.toNat '0')
  else
    let k := (-x).toNat
    if ds.length > k then
      (ds.take (ds.length - k)).toString ++ "." ++ (ds.drop (ds.length - k)).toString
    else "0." ++ String.ofList (List.replicate (k - ds.length) '0') ++ ds

end FloatText

/-- A float as text: the shortest decimal that reads back the same, without exponent; infinities
are `+Inf` and `-Inf`, not-a-number is `NaN`. -/
def Setting.floatText (f : Float) : String :=
  if f.isNaN then "NaN"
  else if f.isInf then (if f > 0 then "+Inf" else "-Inf")
  else
    let (negative, num, den) := FloatText.ratio f
    let sign := if negative then "-" else ""
    if num = 0 then sign ++ "0"
    else
      let bits := f.toBits.toNat % Nat.pow 2 63
      let (n, x) := FloatText.shortest num den bits
      let (n, k) := FloatText.trim n
      sign ++ FloatText.positional n (x + k)

end MeshCall
