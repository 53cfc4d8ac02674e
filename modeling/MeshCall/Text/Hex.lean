/-!
Hexadecimal text of bytes: two lower-case digits per byte. Reading accepts either case and
refuses an odd number of digits.
-/

namespace MeshCall.Hex

/-- The lower-case digit of a value below sixteen. -/
def digit (v : Nat) : Char :=
  if v < 10 then Char.ofNat (0x30 + v) else Char.ofNat (0x57 + v)

/-- The value of one hex digit. -/
def value? (c : Char) : Option Nat :=
  if '0' ≤ c && c ≤ '9' then some (c.toNat - 0x30)
  else if 'a' ≤ c && c ≤ 'f' then some (c.toNat - 0x57)
  else if 'A' ≤ c && c ≤ 'F' then some (c.toNat - 0x37)
  else none

/-- Two digits per byte. -/
def encode (bs : List UInt8) : String :=
  String.ofList (bs.flatMap fun b => [digit (b.toNat / 16), digit (b.toNat % 16)])

/-- The bytes that pairs of digits spell. -/
def decodeChars : List Char → Option (List UInt8)
  | [] => some []
  | hi :: lo :: rest => do
    let h ← value? hi
    let l ← value? lo
    let tail ← decodeChars rest
    pure ((h * 16 + l).toUInt8 :: tail)
  | [_] => none

def decode? (s : String) : Option (List UInt8) := decodeChars s.toList

end MeshCall.Hex
