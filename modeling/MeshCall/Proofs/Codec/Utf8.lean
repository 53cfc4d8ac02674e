import Mathlib
import MeshCall.Text.Utf8
/-!
# UTF-8 reads back what it writes

The bytes of a text are the UTF-8 forms of its characters one after the other, and reading the
form of a character gives back that character and the length of its form: its first byte says how
long it is, its other bytes are continuation bytes, and no form is overlong, a surrogate or past
U+10FFFF. So decoding the bytes of a text gives back the text (`Utf8.decode_encode`).
-/

namespace MeshCall

/-- A byte array lists its bytes in order. -/
theorem ByteArray.toList_eq_data (bs : ByteArray) : bs.toList = bs.data.toList := by
  -- the loop has reversed the first `i` bytes onto `r` and will add the others
  suffices h : ∀ i r, ByteArray.toList.loop bs i r = r.reverse ++ bs.data.toList.drop i by
    simpa [ByteArray.toList] using h 0 []
  intro i r
  fun_induction ByteArray.toList.loop bs i r with
  | case1 i r hi ih =>
    have hi' : i < bs.data.toList.length := by simpa using hi
    rw [ih, List.drop_eq_getElem_cons hi']
    simp [ByteArray.get!, hi]
  | case2 i r hi =>
    have hle : bs.data.toList.length ≤ i := by simpa using hi
    simp [List.drop_eq_nil_of_le hle]

namespace Utf8

/-- The bytes of a text are the UTF-8 forms of its characters, one after the other. -/
theorem encode_eq_flatMap (s : String) : encode s = s.toList.flatMap String.utf8EncodeChar := by
  rw [encode, String.toUTF8, ByteArray.toList_eq_data, ← String.utf8Encode_toList,
    List.utf8Encode, List.toList_data_toByteArray]

@[simp] theorem encode_append (s t : String) : encode (s ++ t) = encode s ++ encode t := by
  simp [encode_eq_flatMap, String.toList_append]

@[simp] theorem encode_singleton (c : Char) :
    encode (String.singleton c) = String.utf8EncodeChar c := by
  simp [encode_eq_flatMap]

/-- A character's code is a scalar value: below the surrogates, or above them and at most
U+10FFFF. -/
theorem toNat_valid (c : Char) :
    c.toNat < 0xD800 ∨ (0xDFFF < c.toNat ∧ c.toNat < 0x110000) := by
  have h := c.valid
  rw [UInt32.isValidChar] at h
  exact h

/-- Reading the UTF-8 form of a character gives back its code and the length of the form. -/
theorem front?_utf8EncodeChar (c : Char) (rest : List UInt8) :
    front? (String.utf8EncodeChar c ++ rest) = some (c.toNat, (String.utf8EncodeChar c).length) := by
  have hv := toNat_valid c
  have hc : c.val.toNat = c.toNat := rfl
  simp only [String.utf8EncodeChar, hc]
  -- one case per length of the form; each byte is named and read as a number
  split_ifs with h1 h2 h3
  · generalize hb0 : UInt8.ofNat c.toNat = b0
    have e0 : b0.toNat = c.toNat := by rw [← hb0, UInt8.toNat_ofNat']; omega
    simp only [front?, List.cons_append, UInt8.lt_iff_toNat_lt, e0, UInt8.reduceToNat,
      List.length_singleton]
    rw [if_pos (by omega)]
  · generalize hb0 : UInt8.ofNat (c.toNat / 64 % 32 + 192) = b0
    generalize hb1 : UInt8.ofNat (c.toNat % 64 + 128) = b1
    have e0 : b0.toNat = c.toNat / 64 + 192 := by rw [← hb0, UInt8.toNat_ofNat']; omega
    have e1 : b1.toNat = c.toNat % 64 + 128 := by rw [← hb1, UInt8.toNat_ofNat']; omega
    simp only [front?, List.cons_append, isCont, scalar2, UInt8.le_iff_toNat_le,
      UInt8.lt_iff_toNat_lt, e0, e1, UInt8.reduceToNat, Bool.and_eq_true, decide_eq_true_eq]
    split_ifs <;> (try simp only [Option.some.injEq, Prod.mk.injEq, List.length_cons,
      List.length_nil, and_true]) <;> omega
  · generalize hb0 : UInt8.ofNat (c.toNat / 4096 % 16 + 224) = b0
    generalize hb1 : UInt8.ofNat (c.toNat / 64 % 64 + 128) = b1
    generalize hb2 : UInt8.ofNat (c.toNat % 64 + 128) = b2
    have e0 : b0.toNat = c.toNat / 4096 + 224 := by rw [← hb0, UInt8.toNat_ofNat']; omega
    have e1 : b1.toNat = c.toNat / 64 % 64 + 128 := by rw [← hb1, UInt8.toNat_ofNat']; omega
    have e2 : b2.toNat = c.toNat % 64 + 128 := by rw [← hb2, UInt8.toNat_ofNat']; omega
    simp only [front?, List.cons_append, isCont, scalar3, UInt8.le_iff_toNat_le,
      UInt8.lt_iff_toNat_lt, beq_iff_eq, ← UInt8.toNat_inj, e0, e1, e2, UInt8.reduceToNat,
      Bool.and_eq_true, decide_eq_true_eq, apply_ite UInt8.toNat]
    split_ifs <;> (try simp only [Option.some.injEq, Prod.mk.injEq, List.length_cons,
      List.length_nil, and_true]) <;> omega
  · generalize hb0 : UInt8.ofNat (c.toNat / 262144 % 8 + 240) = b0
    generalize hb1 : UInt8.ofNat (c.toNat / 4096 % 64 + 128) = b1
    generalize hb2 : UInt8.ofNat (c.toNat / 64 % 64 + 128) = b2
    generalize hb3 : UInt8.ofNat (c.toNat % 64 + 128) = b3
    have e0 : b0.toNat = c.toNat / 262144 + 240 := by rw [← hb0, UInt8.toNat_ofNat']; omega
    have e1 : b1.toNat = c.toNat / 4096 % 64 + 128 := by rw [← hb1, UInt8.toNat_ofNat']; omega
    have e2 : b2.toNat = c.toNat / 64 % 64 + 128 := by rw [← hb2, UInt8.toNat_ofNat']; omega
    have e3 : b3.toNat = c.toNat % 64 + 128 := by rw [← hb3, UInt8.toNat_ofNat']; omega
    simp only [front?, List.cons_append, isCont, scalar4, UInt8.le_iff_toNat_le,
      UInt8.lt_iff_toNat_lt, beq_iff_eq, ← UInt8.toNat_inj, e0, e1, e2, e3, UInt8.reduceToNat,
      Bool.and_eq_true, decide_eq_true_eq, apply_ite UInt8.toNat]
    split_ifs <;> (try simp only [Option.some.injEq, Prod.mk.injEq, List.length_cons,
      List.length_nil, and_true]) <;> omega

/-- A decoding step at the form of a character reads that character. -/
theorem step_utf8EncodeChar (c : Char) (rest : List UInt8) :
    step (String.utf8EncodeChar c ++ rest) = (c, (String.utf8EncodeChar c).length) := by
  simp [step, front?_utf8EncodeChar, Char.ofNat_toNat]

theorem decode_go_flatMap (cs : List Char) (acc : String) :
    decode.go (cs.flatMap String.utf8EncodeChar) acc = acc ++ String.ofList cs := by
  induction cs generalizing acc with
  | nil => simp [decode.go]
  | cons c cs ih =>
    obtain ⟨b, bs, hbs⟩ := List.exists_cons_of_ne_nil (String.utf8EncodeChar_ne_nil (c := c))
    have hstep := step_utf8EncodeChar c (cs.flatMap String.utf8EncodeChar)
    rw [List.flatMap_cons, hbs, List.cons_append, decode.go, ← List.cons_append, ← hbs, hstep,
      List.drop_left, ih, String.push_eq_append, String.append_assoc, ← String.ofList_cons]

/-- Decoding the bytes of a text gives back the text. -/
theorem decode_encode (s : String) : decode (encode s) = s := by
  rw [decode, encode_eq_flatMap, decode_go_flatMap, String.empty_append, String.ofList_toList]

end Utf8

end MeshCall
