/-!
Base64 text of bytes: the standard alphabet, padded with `=` to whole groups of four. Line breaks
are skipped. Any other character outside the alphabet, padding that is missing, longer than two
or not at the end, makes the text invalid. Bits past the last whole byte are dropped.
-/

namespace MeshCall.Base64

/-- The value of an alphabet character: `A-Z`, `a-z`, `0-9`, `+`, `/` in that order. -/
def value? (c : Char) : Option Nat :=
  if 'A' ≤ c && c ≤ 'Z' then some (c.toNat - 0x41)
  else if 'a' ≤ c && c ≤ 'z' then some (c.toNat - 0x61 + 26)
  else if '0' ≤ c && c ≤ '9' then some (c.toNat - 0x30 + 52)
  else if c == '+' then some 62
  else if c == '/' then some 63
  else none

/-- Six bits at a time, emitting a byte whenever eight have arrived. The state holds the bytes so
far (last first), the bits not yet emitted and how many there are; those stay below `2 ^ 8`. -/
def step (st : List UInt8 × Nat × Nat) (v : Nat) : List UInt8 × Nat × Nat :=
  let (out, acc, nbits) := st
  let acc := acc * 64 + v
  let nbits := nbits + 6
  if 8 ≤ nbits then
    let rest := Nat.pow 2 (nbits - 8)
    ((acc / rest).toUInt8 :: out, acc % rest, nbits - 8)
  else (out, acc, nbits)

/-- The bytes a base64 text spells, if it is valid. -/
def decode? (s : String) : Option (List UInt8) := do
  let cs := s.toList.filter fun c => c != '\n' && c != '\r'
  let npad := (cs.reverse.takeWhile (· == '=')).length
  guard (npad ≤ 2 && cs.length % 4 == 0)
  let vs ← (cs.take (cs.length - npad)).mapM value?
  let (out, _, _) := vs.foldl step ([], 0, 0)
  return out.reverse

end MeshCall.Base64
