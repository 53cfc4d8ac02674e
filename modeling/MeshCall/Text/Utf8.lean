/-!
UTF-8 as it is read from the wire: a byte sequence is decoded scalar by scalar, and every byte
that does not start a well-formed sequence stands for one replacement character U+FFFD. Main
statement: a decoding step always consumes at least one byte, so decoding ends.
-/

namespace MeshCall.Utf8

/-- The replacement character that stands for a byte that starts no well-formed sequence. -/
def replacement : Char := '�'

/-- A continuation byte lies in `0x80 ..= 0xBF`. -/
def isCont (b : UInt8) : Bool := 0x80 ≤ b && b ≤ 0xBF

/-- The scalar of a well-formed two-, three- or four-byte sequence. -/
def scalar2 (b0 b1 : UInt8) : Nat := (b0.toNat % 0x20) * 0x40 + b1.toNat % 0x40

def scalar3 (b0 b1 b2 : UInt8) : Nat :=
  (b0.toNat % 0x10) * 0x1000 + (b1.toNat % 0x40) * 0x40 + b2.toNat % 0x40

def scalar4 (b0 b1 b2 b3 : UInt8) : Nat :=
  (b0.toNat % 0x08) * 0x40000 + (b1.toNat % 0x40) * 0x1000 + (b2.toNat % 0x40) * 0x40 +
    b3.toNat % 0x40

/-- The well-formed sequence at the front of `bs`: its scalar and its length. Overlong forms,
surrogates and values above U+10FFFF are not well formed, as RFC 3629 says. -/
def front? : List UInt8 → Option (Nat × Nat)
  | [] => none
  | b0 :: rest =>
    if b0 < 0x80 then some (b0.toNat, 1)
    else if 0xC2 ≤ b0 && b0 ≤ 0xDF then
      match rest with
      | b1 :: _ => if isCont b1 then some (scalar2 b0 b1, 2) else none
      | _ => none
    else if 0xE0 ≤ b0 && b0 ≤ 0xEF then
      let lo : UInt8 := if b0 == 0xE0 then 0xA0 else 0x80
      let hi : UInt8 := if b0 == 0xED then 0x9F else 0xBF
      match rest with
      | b1 :: b2 :: _ =>
        if lo ≤ b1 && b1 ≤ hi && isCont b2 then some (scalar3 b0 b1 b2, 3) else none
      | _ => none
    else if 0xF0 ≤ b0 && b0 ≤ 0xF4 then
      let lo : UInt8 := if b0 == 0xF0 then 0x90 else 0x80
      let hi : UInt8 := if b0 == 0xF4 then 0x8F else 0xBF
      match rest with
      | b1 :: b2 :: b3 :: _ =>
        if lo ≤ b1 && b1 ≤ hi && isCont b2 && isCont b3 then some (scalar4 b0 b1 b2 b3, 4)
        else none
      | _ => none
    else none

/-- One decoding step: the character at the front and the number of bytes it takes. A byte
that starts no well-formed sequence is one replacement character. -/
def step (bs : List UInt8) : Char × Nat :=
  match front? bs with
  | some (v, n) => (Char.ofNat v, n)
  | none => (replacement, 1)

/-- A well-formed sequence is never empty. -/
theorem front?_length_pos {bs : List UInt8} {v n : Nat} (h : front? bs = some (v, n)) :
    0 < n := by
  unfold front? at h
  repeat' split at h
  all_goals simp at h
  all_goals grind

theorem step_pos (bs : List UInt8) : 0 < (step bs).2 := by
  unfold step
  split
  · next v n h => exact front?_length_pos h
  · decide

/-- Decodes bytes to text, each malformed byte becoming U+FFFD. -/
def decode (bs : List UInt8) : String :=
  go bs ""
where
  go : List UInt8 → String → String
    | [], acc => acc
    | b :: bs, acc =>
      let s := step (b :: bs)
      go ((b :: bs).drop s.2) (acc.push s.1)
  termination_by bs => bs.length
  decreasing_by
    have := step_pos (b :: bs)
    simp only [List.length_drop, List.length_cons]
    omega

/-- The UTF-8 bytes of a text. -/
def encode (s : String) : List UInt8 := s.toUTF8.toList

/-- The first character of `bs` as a decoding step reads it, or `none` for no bytes. -/
def head? (bs : List UInt8) : Option Char :=
  if bs.isEmpty then none else some (step bs).1

end MeshCall.Utf8
