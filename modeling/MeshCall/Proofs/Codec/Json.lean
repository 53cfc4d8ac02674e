import Mathlib
import MeshCall.Proofs.Codec.Utf8
import MeshCall.Json.Read
import MeshCall.Json.Write
/-!
# Reading written JSON

The reader takes back every value the writer writes, as long as its numbers are natural numbers
in decimal and its containers nest no deeper than `maxDepth` (`read_write`).

The argument follows the writer. A written string is read back character by character: each
escape the writer chooses is one the reader resolves to the same character, and a character
written as itself is read by one decoding step. A written number is a run of digits that the
reader keeps as it was written. A container is read member by member, each member value with one
unit of fuel less than the member before it had; the length of the text bounds all the fuel the
reading needs.
-/

namespace MeshCall.Json

/-! ## Reading strings -/

section ReadString

variable {acc : String} {rest : List UInt8}

theorem readString_quote (acc : String) (rest : List UInt8) :
    readString acc (0x22 :: rest) = .ok (acc, rest) := by
  rw [readString.eq_def]
  rfl

theorem readString_simpleEscape {e : UInt8} {c : Char} (h : simpleEscape? e = some c) :
    readString acc (0x5C :: e :: rest) = readString (acc.push c) rest := by
  rw [readString.eq_def]
  simp [h]

/-- A `\u` escape of a code that is not a surrogate stands for the character of that code. -/
theorem readString_hexEscape (ds : List UInt8) {v : Nat} (hlen : ds.length = 4)
    (hv : hex4? ds = some v) (hhigh : isHighSurrogate v = false)
    (hlow : isLowSurrogate v = false) :
    readString acc (0x5C :: 0x75 :: (ds ++ rest)) = readString (acc.push (Char.ofNat v)) rest := by
  have hs : simpleEscape? 0x75 = none := rfl
  have htake : (ds ++ rest).take 4 = ds := by simp [← hlen]
  have hdrop : (ds ++ rest).drop 4 = rest := by simp [← hlen]
  rw [readString.eq_def]
  simp [hs, htake, hdrop, hv, hhigh, hlow, hlen]

/-- A byte that is neither a quote, a backslash nor a control starts a character that one
decoding step reads. -/
theorem readString_plain {b : UInt8} (hquote : b ≠ 0x22) (hback : b ≠ 0x5C) (hctl : 0x20 ≤ b) :
    readString acc (b :: rest) =
      readString (acc.push (Utf8.step (b :: rest)).1) ((b :: rest).drop (Utf8.step (b :: rest)).2) := by
  have hlt : ¬ b < 0x20 := by
    rw [UInt8.le_iff_toNat_le] at hctl
    rw [UInt8.lt_iff_toNat_lt]
    omega
  rw [readString.eq_def]
  simp [hquote, hback, hlt]

/-! ## The escapes the writer chooses -/

/-- The first byte of a character's form: the code itself below U+0080, and otherwise a lead byte
from 0xC0 on. -/
theorem utf8EncodeChar_head (c : Char) : ∃ b bs, String.utf8EncodeChar c = b :: bs ∧
    (c.toNat < 0x80 → b.toNat = c.toNat) ∧ (0x80 ≤ c.toNat → 0xC0 ≤ b.toNat) := by
  have hc : c.val.toNat = c.toNat := rfl
  have hv := Utf8.toNat_valid c
  simp only [String.utf8EncodeChar, hc]
  split_ifs <;> refine ⟨_, _, rfl, ?_, ?_⟩ <;> intro h <;> simp only [UInt8.toNat_ofNat'] <;> omega

/-- The four hex digits a control character or a line or paragraph separator is padded to are
read back as its code. -/
theorem hexPad_escape {v : Nat} (hv : v < 0x20 ∨ v = 0x2028 ∨ v = 0x2029) :
    (Utf8.encode (Quoted.hexPad 4 v)).length = 4 ∧
      hex4? (Utf8.encode (Quoted.hexPad 4 v)) = some v := by
  simp only [Utf8.encode_eq_flatMap, Quoted.hexPad, String.toList_ofList]
  rcases hv with hv | rfl | rfl
  · revert v
    decide
  · decide
  · decide

/-- Reading the escape the writer chooses for a character gives back the character. -/
theorem readString_escapeChar (acc : String) (c : Char) (rest : List UInt8) :
    readString acc (Utf8.encode (Write.escapeChar c) ++ rest) = readString (acc.push c) rest := by
  unfold Write.escapeChar
  split
  case h_1 | h_2 | h_3 | h_4 | h_5 | h_6 | h_7 =>
    simp [Utf8.encode_eq_flatMap, String.utf8EncodeChar]
    exact readString_simpleEscape rfl
  case h_8 | h_9 | h_10 =>
    simp [Utf8.encode_eq_flatMap, String.utf8EncodeChar]
    first
      | exact readString_hexEscape [0x30, 0x30, 0x33, 0x63] rfl rfl rfl rfl
      | exact readString_hexEscape [0x30, 0x30, 0x33, 0x65] rfl rfl rfl rfl
      | exact readString_hexEscape [0x30, 0x30, 0x32, 0x36] rfl rfl rfl rfl
  case h_11 hquote hback _ _ _ _ _ _ _ _ =>
    split
    · -- a control or a separator: a \u escape of four hex digits
      next hesc =>
      have hv : c.toNat < 0x20 ∨ c.toNat = 0x2028 ∨ c.toNat = 0x2029 := by simpa [or_assoc] using hesc
      obtain ⟨hlen, hhex⟩ := hexPad_escape hv
      have hhigh : isHighSurrogate c.toNat = false := by simp [isHighSurrogate]; omega
      have hlow : isLowSurrogate c.toNat = false := by simp [isLowSurrogate]; omega
      have hu : Utf8.encode "\\u" = [0x5C, 0x75] := by simp [Utf8.encode_eq_flatMap, String.utf8EncodeChar]
      rw [Utf8.encode_append, hu, List.append_assoc, List.cons_append, List.cons_append,
        List.nil_append, readString_hexEscape _ hlen hhex hhigh hlow, Char.ofNat_toNat]
    · -- any other character stands as itself
      next hesc =>
      have hv : 0x20 ≤ c.toNat := by simp at hesc; omega
      have hq : c.toNat ≠ 0x22 := fun h => hquote (Char.toNat_inj.mp h)
      have hb : c.toNat ≠ 0x5C := fun h => hback (Char.toNat_inj.mp h)
      obtain ⟨b, bs, hbs, hlo, hhi⟩ := utf8EncodeChar_head c
      have hb0 : b.toNat ≠ 0x22 ∧ b.toNat ≠ 0x5C ∧ 0x20 ≤ b.toNat := by
        by_cases hc : c.toNat < 0x80
        · have := hlo hc; omega
        · have := hhi (by omega); omega
      have hquote' : b ≠ 0x22 := fun h => hb0.1 (by simp [h])
      have hback' : b ≠ 0x5C := fun h => hb0.2.1 (by simp [h])
      have hctl : 0x20 ≤ b := by rw [UInt8.le_iff_toNat_le]; exact hb0.2.2
      have hstep := Utf8.step_utf8EncodeChar c rest
      rw [Char.toString, Utf8.encode_singleton, hbs, List.cons_append,
        readString_plain hquote' hback' hctl, ← List.cons_append, ← hbs, hstep, List.drop_left]

/-- Reading escaped characters up to a closing quote gives back the characters. -/
theorem readString_escaped (acc : String) (cs : List Char) (rest : List UInt8) :
    readString acc ((cs.flatMap fun c => Utf8.encode (Write.escapeChar c)) ++ 0x22 :: rest) =
      .ok (acc ++ String.ofList cs, rest) := by
  induction cs generalizing acc with
  | nil => simp [readString_quote]
  | cons c cs ih =>
    rw [List.flatMap_cons, List.append_assoc, readString_escapeChar, ih, String.push_eq_append,
      String.append_assoc, ← String.ofList_cons]

end ReadString

/-! ## The bytes of written values -/

theorem encode_join (l : List String) : Utf8.encode (String.join l) = l.flatMap Utf8.encode := by
  induction l with
  | nil => simp [Utf8.encode_eq_flatMap]
  | cons s l ih => rw [String.join_cons, Utf8.encode_append, ih, List.flatMap_cons]

/-- A written string is its escaped characters between quotes. -/
theorem encode_string (s : String) :
    Utf8.encode (Write.string s) =
      0x22 :: ((s.toList.flatMap fun c => Utf8.encode (Write.escapeChar c)) ++ [0x22]) := by
  have hq : Utf8.encode "\"" = [0x22] := by simp [Utf8.encode_eq_flatMap, String.utf8EncodeChar]
  simp [Write.string, hq, encode_join, List.flatMap_map]

theorem encode_object (ms : List (String × Value)) :
    Utf8.encode (Write.value (.object ms)) = 0x7B :: (Utf8.encode (Write.members ms) ++ [0x7D]) := by
  have ho : Utf8.encode "\x7b" = [0x7B] := by simp [Utf8.encode_eq_flatMap, String.utf8EncodeChar]
  have hc : Utf8.encode "\x7d" = [0x7D] := by simp [Utf8.encode_eq_flatMap, String.utf8EncodeChar]
  rw [Write.value, Utf8.encode_append, Utf8.encode_append, ho, hc]
  rfl

theorem encode_array (items : List Value) :
    Utf8.encode (Write.value (.array items)) =
      0x5B :: (Utf8.encode (Write.elements items) ++ [0x5D]) := by
  have ho : Utf8.encode "[" = [0x5B] := by simp [Utf8.encode_eq_flatMap, String.utf8EncodeChar]
  have hc : Utf8.encode "]" = [0x5D] := by simp [Utf8.encode_eq_flatMap, String.utf8EncodeChar]
  rw [Write.value, Utf8.encode_append, Utf8.encode_append, ho, hc]
  rfl

theorem encode_members_single (k : String) (v : Value) :
    Utf8.encode (Write.members [(k, v)]) =
      Utf8.encode (Write.string k) ++ 0x3A :: Utf8.encode (Write.value v) := by
  have hc : Utf8.encode ":" = [0x3A] := by simp [Utf8.encode_eq_flatMap, String.utf8EncodeChar]
  rw [Write.members, Utf8.encode_append, Utf8.encode_append, hc, List.append_assoc,
    List.singleton_append]

theorem encode_members_cons (k : String) (v : Value) (m : String × Value)
    (ms : List (String × Value)) :
    Utf8.encode (Write.members ((k, v) :: m :: ms)) =
      Utf8.encode (Write.string k) ++ 0x3A :: Utf8.encode (Write.value v) ++
        0x2C :: Utf8.encode (Write.members (m :: ms)) := by
  have hc : Utf8.encode ":" = [0x3A] := by simp [Utf8.encode_eq_flatMap, String.utf8EncodeChar]
  have hs : Utf8.encode "," = [0x2C] := by simp [Utf8.encode_eq_flatMap, String.utf8EncodeChar]
  rw [Write.members.eq_3 _ _ _ (List.cons_ne_nil m ms)]
  simp [hc, hs]

theorem encode_elements_single (v : Value) :
    Utf8.encode (Write.elements [v]) = Utf8.encode (Write.value v) := by
  rw [Write.elements]

theorem encode_elements_cons (v w : Value) (vs : List Value) :
    Utf8.encode (Write.elements (v :: w :: vs)) =
      Utf8.encode (Write.value v) ++ 0x2C :: Utf8.encode (Write.elements (w :: vs)) := by
  have hs : Utf8.encode "," = [0x2C] := by simp [Utf8.encode_eq_flatMap, String.utf8EncodeChar]
  rw [Write.elements.eq_3 _ _ (List.cons_ne_nil w vs)]
  simp [hs]

/-! ## Numbers -/

/-- What may follow a written value: the end of the text, a comma, or a closing bracket or
brace. -/
def Delimited : List UInt8 → Prop
  | [] => True
  | b :: _ => b = 0x2C ∨ b = 0x5D ∨ b = 0x7D

instance (rest : List UInt8) : Decidable (Delimited rest) := by
  cases rest <;> unfold Delimited <;> infer_instance

theorem Delimited.head_not_digit {rest : List UInt8} (h : Delimited rest) :
    ∀ b ∈ rest.head?, isDigit b = false := by
  cases rest with
  | nil => simp
  | cons b r =>
    simp only [List.head?_cons, Option.mem_def, Option.some.injEq, forall_eq']
    rcases h with rfl | rfl | rfl <;> decide

@[simp] theorem ok_bind {ε α β : Type} (a : α) (f : α → Except ε β) : (Except.ok a >>= f) = f a :=
  rfl

@[simp] theorem pure_eq_ok {ε α : Type} (a : α) : (pure a : Except ε α) = .ok a := rfl

theorem spanDigits_append {ds rest : List UInt8} (hds : ∀ d ∈ ds, isDigit d = true)
    (hr : Delimited rest) : spanDigits (ds ++ rest) = (ds, rest) := by
  have hstop : rest.takeWhile isDigit = [] ∧ rest.dropWhile isDigit = rest := by
    cases rest with
    | nil => simp
    | cons b r =>
      have hb := hr.head_not_digit b rfl
      simp [hb]
  simp [spanDigits, List.takeWhile_append_of_pos hds, List.dropWhile_append_of_pos hds, hstop]

/-- A run of digits with no leading zero, or a lone zero, is read as a number and kept as
written. -/
theorem readNumber_digits {d : UInt8} {ds rest : List UInt8} (hd : isDigit d = true)
    (hds : ∀ x ∈ ds, isDigit x = true) (h0 : d = 0x30 → ds = []) (hr : Delimited rest) :
    readNumber (d :: ds ++ rest) = .ok (Utf8.decode (d :: ds), rest) := by
  by_cases hz : d = 0x30
  · -- a lone zero: the fraction and exponent parts see a delimiter or the end
    subst hz
    rw [h0 rfl]
    rcases rest with _ | ⟨b, r⟩
    · simp [readNumber]
    · rcases hr with rfl | rfl | rfl <;> simp [readNumber]
  have hm : d ≠ 0x2D := by rintro rfl; simp [isDigit] at hd
  have hspan : spanDigits (d :: (ds ++ rest)) = (d :: ds, rest) := by
    simpa using spanDigits_append (List.forall_mem_cons.mpr ⟨hd, hds⟩) hr
  unfold readNumber
  simp only [List.cons_append]
  split
  next h =>
    -- the integer part would be a lone zero, but the first digit is not zero
    split at h
    next h' => exact absurd (List.cons.inj h').1 hm
    next => exact absurd (List.cons.inj h).1 hz
  next =>
    split
    next h => exact absurd (List.cons.inj h).1 hm
    next =>
      simp only [readDigits, hd, if_true, hspan]
      rcases rest with _ | ⟨b, r⟩
      · simp
      · rcases hr with rfl | rfl | rfl <;> simp

theorem isDigit_toNat {c : Char} (h : c.isDigit = true) : 48 ≤ c.toNat ∧ c.toNat ≤ 57 := by
  simp only [Char.isDigit, Bool.and_eq_true, decide_eq_true_eq] at h
  exact ⟨h.1, h.2⟩

/-- A character below U+0080 is written as the one byte of its code. -/
theorem utf8EncodeChar_ascii {c : Char} (h : c.toNat < 0x80) :
    String.utf8EncodeChar c = [UInt8.ofNat c.toNat] := by
  have hc : c.val.toNat = c.toNat := rfl
  simp only [String.utf8EncodeChar, hc]
  rw [if_pos (by omega)]

theorem isDigit_ofNat {c : Char} (h : c.isDigit = true) : isDigit (UInt8.ofNat c.toNat) = true := by
  have hc := isDigit_toNat h
  simp only [isDigit, Bool.and_eq_true, decide_eq_true_eq, UInt8.le_iff_toNat_le,
    UInt8.toNat_ofNat', UInt8.reduceToNat]
  omega

/-- Only the number zero is written with a leading zero. -/
theorem toDigits_eq_zero_cons {n : Nat} {cs : List Char} (h : Nat.toDigits 10 n = '0' :: cs) :
    n = 0 := by
  induction n using Nat.strong_induction_on generalizing cs with
  | _ n ih =>
  rw [Nat.toDigits_eq_if (by decide)] at h
  split at h
  · exact Nat.digitChar_eq_zero.mp (List.cons.inj h).1
  · -- the leading digit is the leading digit of `n / 10`, which is not zero either
    obtain ⟨c, cs', hc⟩ := List.exists_cons_of_ne_nil (@Nat.toDigits_ne_nil (n / 10) 10)
    rw [hc, List.cons_append] at h
    have h0 : n / 10 = 0 := ih (n / 10) (by omega) (by rw [hc, (List.cons.inj h).1])
    omega

/-- A natural number is written as digit bytes, with a leading zero only when it is zero. -/
theorem encode_toString (n : Nat) : ∃ d ds, Utf8.encode (toString n) = d :: ds ∧
    isDigit d = true ∧ (∀ x ∈ ds, isDigit x = true) ∧ (d = 0x30 → ds = []) := by
  have hdig : ∀ c ∈ Nat.toDigits 10 n, c.isDigit = true :=
    fun c hc => Nat.isDigit_of_mem_toDigits (by decide) (by decide) hc
  obtain ⟨c, cs, hcs⟩ := List.exists_cons_of_ne_nil (@Nat.toDigits_ne_nil n 10)
  have hc := isDigit_toNat (hdig c (by simp [hcs]))
  refine ⟨UInt8.ofNat c.toNat, cs.flatMap String.utf8EncodeChar, ?_, ?_, ?_, ?_⟩
  · rw [Utf8.encode_eq_flatMap, Nat.toString_eq_ofList_toDigits, String.toList_ofList, hcs,
      List.flatMap_cons, utf8EncodeChar_ascii (by omega), List.singleton_append]
  · exact isDigit_ofNat (hdig c (by simp [hcs]))
  · intro x hx
    obtain ⟨c', hc', hx⟩ := List.mem_flatMap.mp hx
    have hd := hdig c' (by simp [hcs, hc'])
    rw [utf8EncodeChar_ascii (by have := isDigit_toNat hd; omega), List.mem_singleton] at hx
    exact hx ▸ isDigit_ofNat hd
  · intro h0
    have hc0 : c = '0' := by
      have h48 := congrArg UInt8.toNat h0
      rw [UInt8.toNat_ofNat', Nat.mod_eq_of_lt (by omega)] at h48
      exact Char.toNat_inj.mp h48
    subst hc0
    have hn := toDigits_eq_zero_cons hcs
    subst hn
    simp [Nat.toDigits_zero] at hcs
    simp [hcs]

/-! ## Values -/

theorem skipWs_cons {b : UInt8} (hb : isWs b = false) (rest : List UInt8) :
    skipWs (b :: rest) = b :: rest := by
  simp [skipWs, hb]

theorem isDigit_not_special {c : UInt8} (h : isDigit c = true) :
    isWs c = false ∧ c ≠ 0x7B ∧ c ≠ 0x5B ∧ c ≠ 0x22 ∧ c ≠ 0x5D := by
  simp only [isDigit, Bool.and_eq_true, decide_eq_true_eq, UInt8.le_iff_toNat_le,
    UInt8.reduceToNat] at h
  simp only [isWs, ne_eq, ← UInt8.toNat_inj, UInt8.reduceToNat, Bool.or_eq_false_iff,
    beq_eq_false_iff_ne]
  omega

/-- The values the reader takes back as written: numbers are natural numbers in decimal, and
arrays and objects nest at most `d` deep. -/
inductive Writable : Nat → Value → Prop
  | null (d : Nat) : Writable d .null
  | bool (d : Nat) (b : Bool) : Writable d (.bool b)
  | number (d n : Nat) : Writable d (.number (toString n))
  | string (d : Nat) (s : String) : Writable d (.string s)
  | array (d : Nat) (items : List Value) :
      (∀ v ∈ items, Writable d v) → Writable (d + 1) (.array items)
  | object (d : Nat) (ms : List (String × Value)) :
      (∀ m ∈ ms, Writable d m.2) → Writable (d + 1) (.object ms)

theorem encode_null : Utf8.encode (Write.value .null) = [0x6E, 0x75, 0x6C, 0x6C] := by
  simp [Write.value, Utf8.encode_eq_flatMap, String.utf8EncodeChar]

theorem encode_true : Utf8.encode (Write.value (.bool true)) = [0x74, 0x72, 0x75, 0x65] := by
  simp [Write.value, Write.bool, Utf8.encode_eq_flatMap, String.utf8EncodeChar]

theorem encode_false :
    Utf8.encode (Write.value (.bool false)) = [0x66, 0x61, 0x6C, 0x73, 0x65] := by
  simp [Write.value, Write.bool, Utf8.encode_eq_flatMap, String.utf8EncodeChar]

/-- A written value starts with a byte that is neither whitespace nor a closing bracket. -/
theorem Writable.encode_head {d : Nat} {v : Value} (h : Writable d v) :
    ∃ b bs, Utf8.encode (Write.value v) = b :: bs ∧ isWs b = false ∧ b ≠ 0x5D := by
  cases h with
  | null => exact ⟨_, _, encode_null, by decide, by decide⟩
  | bool _ b =>
    cases b
    · exact ⟨_, _, encode_false, by decide, by decide⟩
    · exact ⟨_, _, encode_true, by decide, by decide⟩
  | number _ n =>
    obtain ⟨c, cs, he, hc, -, -⟩ := encode_toString n
    have hs := isDigit_not_special hc
    exact ⟨c, cs, he, hs.1, hs.2.2.2.2⟩
  | string _ s => exact ⟨_, _, encode_string s, by decide, by decide⟩
  | array _ items => exact ⟨_, _, encode_array items, by decide, by decide⟩
  | object _ ms => exact ⟨_, _, encode_object ms, by decide, by decide⟩

/-- `v` is read back from its bytes followed by anything that may follow a value, inside any
containers that leave room for `d` more levels, given more fuel than it has bytes. -/
def ReadsBack (d : Nat) (v : Value) : Prop :=
  ∀ fuel depth rest, depth + d ≤ maxDepth → (Utf8.encode (Write.value v)).length < fuel →
    Delimited rest → readValue fuel depth (Utf8.encode (Write.value v) ++ rest) = .ok (v, rest)

theorem readsBack_null (d : Nat) : ReadsBack d .null := by
  intro fuel depth rest _ hfuel _
  rw [encode_null] at hfuel ⊢
  obtain ⟨f, rfl⟩ : ∃ f, fuel = f + 1 := ⟨fuel - 1, by simp at hfuel; omega⟩
  rw [readValue.eq_2, List.cons_append, skipWs_cons (by decide)]
  simp [readLiteral, readLiteral.go, isDigit, Except.map]

theorem readsBack_bool (d : Nat) (b : Bool) : ReadsBack d (.bool b) := by
  intro fuel depth rest _ hfuel _
  cases b
  · rw [encode_false] at hfuel ⊢
    obtain ⟨f, rfl⟩ : ∃ f, fuel = f + 1 := ⟨fuel - 1, by simp at hfuel; omega⟩
    rw [readValue.eq_2, List.cons_append, skipWs_cons (by decide)]
    simp [readLiteral, readLiteral.go, isDigit, Except.map]
  · rw [encode_true] at hfuel ⊢
    obtain ⟨f, rfl⟩ : ∃ f, fuel = f + 1 := ⟨fuel - 1, by simp at hfuel; omega⟩
    rw [readValue.eq_2, List.cons_append, skipWs_cons (by decide)]
    simp [readLiteral, readLiteral.go, isDigit, Except.map]

theorem readsBack_number (d n : Nat) : ReadsBack d (.number (toString n)) := by
  intro fuel depth rest _ hfuel hr
  obtain ⟨c, cs, he, hc, hcs, h0⟩ := encode_toString n
  have hdec : Utf8.decode (c :: cs) = toString n := by rw [← he, Utf8.decode_encode]
  have hread := readNumber_digits hc hcs h0 hr
  have hs := isDigit_not_special hc
  rw [show Write.value (.number (toString n)) = toString n from rfl, he] at hfuel ⊢
  obtain ⟨f, rfl⟩ : ∃ f, fuel = f + 1 := ⟨fuel - 1, by simp at hfuel; omega⟩
  rw [readValue.eq_2, List.cons_append, skipWs_cons hs.1]
  rw [List.cons_append] at hread
  simp [hs.2.1, hs.2.2.1, hs.2.2.2.1, hc, hread, hdec, Except.map]

theorem readsBack_string (d : Nat) (s : String) : ReadsBack d (.string s) := by
  intro fuel depth rest _ hfuel _
  rw [show Write.value (.string s) = Write.string s from rfl, encode_string] at hfuel ⊢
  obtain ⟨f, rfl⟩ : ∃ f, fuel = f + 1 := ⟨fuel - 1, by simp at hfuel; omega⟩
  rw [readValue.eq_2, List.cons_append, skipWs_cons (by decide), List.append_assoc,
    List.singleton_append]
  simp [readString_escaped, Except.map]

section Containers

variable {d depth : Nat}

theorem encode_string_length (s : String) : 2 ≤ (Utf8.encode (Write.string s)).length := by
  simp [encode_string]

/-- Written members open with the quote of the first name. -/
theorem encode_members_head (k : String) (v : Value) (ms : List (String × Value)) :
    ∃ t, Utf8.encode (Write.members ((k, v) :: ms)) = 0x22 :: t := by
  cases ms with
  | nil => simp [encode_members_single, encode_string]
  | cons m ms => simp [encode_members_cons, encode_string]

/-- Written elements open with the first element. -/
theorem encode_elements_head (v : Value) (vs : List Value) :
    ∃ t, Utf8.encode (Write.elements (v :: vs)) = Utf8.encode (Write.value v) ++ t := by
  cases vs with
  | nil => exact ⟨[], by simp [encode_elements_single]⟩
  | cons w vs => exact ⟨_, encode_elements_cons v w vs⟩

/-- The members of an object after the quote that opens the first name are read back, each
member value with one unit of fuel less than the member before it. -/
theorem readMembers_written (hdepth : depth + d ≤ maxDepth) (rest : List UInt8) :
    ∀ (ms : List (String × Value)) (k : String) (v : Value),
      (∀ m ∈ (k, v) :: ms, ReadsBack d m.2) → ∀ acc fuel,
      (Utf8.encode (Write.members ((k, v) :: ms))).length ≤ fuel →
      readMembers fuel depth acc
          ((Utf8.encode (Write.members ((k, v) :: ms))).tail ++ 0x7D :: rest) =
        .ok (.object (acc.reverse ++ (k, v) :: ms), rest) := by
  intro ms
  induction ms with
  | nil =>
    intro k v hms acc fuel hfuel
    have hk := encode_string_length k
    have hrb : ReadsBack d v := hms (k, v) (by simp)
    rw [encode_members_single] at hfuel ⊢
    rw [List.length_append, List.length_cons] at hfuel
    obtain ⟨f, rfl⟩ : ∃ f, fuel = f + 1 := ⟨fuel - 1, by omega⟩
    have hv := hrb f depth (0x7D :: rest) hdepth (by omega) (by simp [Delimited])
    simp only [encode_string, List.cons_append, List.tail_cons, List.append_assoc]
    rw [readMembers.eq_2, readString_escaped]
    simp [skipWs_cons, isWs, hv]
  | cons m ms ih =>
    intro k v hms acc fuel hfuel
    obtain ⟨k', v'⟩ := m
    have hk := encode_string_length k
    have hrb : ReadsBack d v := hms (k, v) (by simp)
    have hrest := ih k' v' (fun m hm => hms m (List.mem_cons_of_mem _ hm)) ((k, v) :: acc)
    -- the next member opens with the quote of its name
    obtain ⟨t, ht⟩ := encode_members_head k' v' ms
    rw [encode_members_cons, ht] at hfuel ⊢
    rw [ht] at hrest
    simp only [List.length_append, List.length_cons] at hfuel
    obtain ⟨f, rfl⟩ : ∃ f, fuel = f + 1 := ⟨fuel - 1, by omega⟩
    have hv := hrb f depth (0x2C :: 0x22 :: (t ++ 0x7D :: rest)) hdepth (by omega)
      (by simp [Delimited])
    simp only [encode_string, List.cons_append, List.tail_cons, List.append_assoc]
    rw [readMembers.eq_2, readString_escaped]
    have hnext := hrest f (by simp; omega)
    simp only [List.tail_cons, List.reverse_cons, List.append_assoc, List.singleton_append]
      at hnext
    simp [skipWs_cons, isWs, hv, hnext]

/-- The elements of an array are read back, each with one unit of fuel less than the element
before it. -/
theorem readElements_written (hdepth : depth + d ≤ maxDepth) (rest : List UInt8) :
    ∀ (vs : List Value) (v : Value), (∀ w ∈ v :: vs, ReadsBack d w) → ∀ acc fuel,
      (Utf8.encode (Write.elements (v :: vs))).length + 2 ≤ fuel →
      readElements fuel depth acc (Utf8.encode (Write.elements (v :: vs)) ++ 0x5D :: rest) =
        .ok (.array (acc.reverse ++ v :: vs), rest) := by
  intro vs
  induction vs with
  | nil =>
    intro v hvs acc fuel hfuel
    have hrb : ReadsBack d v := hvs v (by simp)
    rw [encode_elements_single] at hfuel ⊢
    obtain ⟨f, rfl⟩ : ∃ f, fuel = f + 1 := ⟨fuel - 1, by omega⟩
    have hv := hrb f depth (0x5D :: rest) hdepth (by omega) (by simp [Delimited])
    rw [readElements.eq_2]
    simp [skipWs_cons, isWs, hv]
  | cons w vs ih =>
    intro v hvs acc fuel hfuel
    have hrb : ReadsBack d v := hvs v (by simp)
    have hrest := ih w (fun u hu => hvs u (List.mem_cons_of_mem _ hu)) (v :: acc)
    rw [encode_elements_cons] at hfuel ⊢
    simp only [List.length_append, List.length_cons] at hfuel
    obtain ⟨f, rfl⟩ : ∃ f, fuel = f + 1 := ⟨fuel - 1, by omega⟩
    have hv := hrb f depth (0x2C :: (Utf8.encode (Write.elements (w :: vs)) ++ 0x5D :: rest))
      hdepth (by omega) (by simp [Delimited])
    have hnext := hrest f (by omega)
    simp only [List.reverse_cons, List.append_assoc, List.singleton_append] at hnext
    rw [readElements.eq_2, List.append_assoc, List.cons_append]
    simp [skipWs_cons, isWs, hv, hnext]

end Containers

theorem readsBack_array (d : Nat) (items : List Value) (hw : ∀ v ∈ items, Writable d v)
    (hitems : ∀ v ∈ items, ReadsBack d v) : ReadsBack (d + 1) (.array items) := by
  intro fuel depth rest hdepth hfuel _
  rw [encode_array] at hfuel ⊢
  simp only [List.length_cons, List.length_append, List.length_nil] at hfuel
  obtain ⟨f, rfl⟩ : ∃ f, fuel = f + 1 := ⟨fuel - 1, by omega⟩
  have hroom : ¬ maxDepth ≤ depth := by omega
  rw [readValue.eq_2, List.cons_append, skipWs_cons (by decide), List.append_assoc,
    List.singleton_append]
  cases items with
  | nil =>
    have hnone : Utf8.encode (Write.elements []) = [] := by simp [Write.elements, Utf8.encode_eq_flatMap]
    simp [hroom, hnone, readArray.eq_1, skipWs_cons, isWs]
  | cons v vs =>
    -- the first element opens with a byte that is neither whitespace nor a closing bracket
    obtain ⟨b, bs, hb, hws, hclose⟩ := (hw v (by simp)).encode_head
    obtain ⟨t, ht⟩ := encode_elements_head v vs
    have hread := @readElements_written d (depth + 1) (by omega) rest vs v hitems [] f (by omega)
    rw [ht, hb] at hread
    simp only [List.cons_append, List.append_assoc, List.reverse_nil, List.nil_append] at hread
    rw [ht, hb]
    simp [hroom, readArray.eq_1, skipWs_cons hws, hclose, hread]

theorem readsBack_object (d : Nat) (ms : List (String × Value))
    (hms : ∀ m ∈ ms, ReadsBack d m.2) : ReadsBack (d + 1) (.object ms) := by
  intro fuel depth rest hdepth hfuel _
  rw [encode_object] at hfuel ⊢
  simp only [List.length_cons, List.length_append, List.length_nil] at hfuel
  obtain ⟨f, rfl⟩ : ∃ f, fuel = f + 1 := ⟨fuel - 1, by omega⟩
  have hroom : ¬ maxDepth ≤ depth := by omega
  rw [readValue.eq_2, List.cons_append, skipWs_cons (by decide), List.append_assoc,
    List.singleton_append]
  cases ms with
  | nil =>
    have hnone : Utf8.encode (Write.members []) = [] := by simp [Write.members, Utf8.encode_eq_flatMap]
    simp [hroom, hnone, readObject.eq_1, skipWs_cons, isWs]
  | cons m ms =>
    obtain ⟨k, v⟩ := m
    obtain ⟨t, ht⟩ := encode_members_head k v ms
    have hread := @readMembers_written d (depth + 1) (by omega) rest ms k v hms [] f (by omega)
    rw [ht, List.tail_cons, List.reverse_nil, List.nil_append] at hread
    rw [ht, List.cons_append]
    simp [hroom, readObject.eq_1, skipWs_cons, isWs, hread]

/-- Every writable value is read back from its bytes. -/
theorem Writable.readsBack {d : Nat} {v : Value} (h : Writable d v) : ReadsBack d v := by
  induction h with
  | null d => exact readsBack_null d
  | bool d b => exact readsBack_bool d b
  | number d n => exact readsBack_number d n
  | string d s => exact readsBack_string d s
  | array d items hw ih => exact readsBack_array d items hw ih
  | object d ms _ ih => exact readsBack_object d ms ih

/-- The reader takes back every value the writer writes whose numbers are natural numbers and
whose containers nest at most `maxDepth` deep. -/
theorem read_write {d : Nat} {v : Value} (hv : Writable d v) (hd : d ≤ maxDepth) :
    read (Utf8.encode (Write.value v)) = .ok v := by
  have h := hv.readsBack (Utf8.encode (Write.value v)).length.succ 0 [] (by omega) (by omega)
    trivial
  rw [List.append_nil] at h
  simp [read, readTop, h, skipWs, trailing]

end MeshCall.Json
