import Mathlib
import MeshCall.Proofs.Codec.Json
import MeshCall.Envelope.Wire
/-!
# Envelopes read back as written

Writing an envelope and reading the frame gives the envelope back, for every envelope that reading
can return: the fields its type needs are there, a description is an offer or an answer, and a
candidate's line index fits in sixteen bits (`Envelope.Decodable`). Reading returns only such
envelopes, so a frame that reads is read the same after writing its envelope again.

A frame is the JSON value `Envelope.toJson`, written compactly; `Json.read_write` reads it back.
The members of that value are matched to the fields regardless of case, and no two member names
the writer uses fold to the same text, so each member lands in its own field.
-/

namespace MeshCall

/-! ## Decimal literals -/

/-- The digit loop of `String.Slice.isNat` over digits ends without refusing, having seen a digit
if there was one. -/
theorem forIn_isNat_digits (l : List Char) (h : ∀ c ∈ l, c.isDigit = true) (x : Bool) :
    (forIn l ((none : Option Bool), x) (fun c (st : Option Bool × Bool) =>
      if c = '_' then
        if (!st.2) = true then pure (ForInStep.done (some false, st.2))
        else pure (ForInStep.yield (none, false))
      else if c.isDigit = true then pure (ForInStep.yield (none, true))
      else pure (ForInStep.done (some false, st.2))) : Id (Option Bool × Bool)) =
      ((none : Option Bool), x || !l.isEmpty) := by
  induction l generalizing x with
  | nil => simp; rfl
  | cons c cs ih =>
    have hc : c.isDigit = true := h c (by simp)
    have hne : c ≠ '_' := by rintro rfl; simp at hc
    simp only [List.forIn_cons, hne, hc, if_false, if_true]
    simpa using ih (fun d hd => h d (by simp [hd])) true

theorem isNat_of_digits (s : String) (hne : s ≠ "") (h : ∀ c ∈ s.toList, c.isDigit = true) :
    s.toSlice.isNat = true := by
  unfold String.Slice.isNat
  simp only [String.Slice.forIn_eq_forIn_toList]
  rw [String.copy_toSlice, forIn_isNat_digits _ h]
  have hl : s.toList.isEmpty = false := by simpa using hne
  simp [Id.run, hl]
  rfl

theorem foldl_digits (l : List Char) (h : '_' ∉ l) (init : Nat) :
    l.foldl (fun n c => if c = '_' then n else n * 10 + (c.toNat - '0'.toNat)) init =
      Nat.ofDigitChars 10 l init := by
  induction l generalizing init with
  | nil => simp
  | cons c cs ih =>
    have hc : c ≠ '_' := fun e => h (e ▸ List.mem_cons_self)
    rw [List.foldl_cons, if_neg hc, ih (fun m => h (List.mem_cons_of_mem _ m)),
      Nat.ofDigitChars_cons, Nat.mul_comm]

theorem toString_ne_empty (n : Nat) : toString n ≠ "" := by
  rw [Nat.toString_eq_repr]
  exact Nat.repr_ne_empty

theorem isDigit_of_mem_toString {n : Nat} {c : Char} (hc : c ∈ (toString n).toList) :
    c.isDigit = true := by
  rw [Nat.toString_eq_ofList_toDigits, String.toList_ofList] at hc
  exact Nat.isDigit_of_mem_toDigits (by decide) (by decide) hc

/-- A natural number written in decimal is read back. -/
theorem toNat!_toString (n : Nat) : (toString n).toNat! = n := by
  rw [String.toNat!, String.Slice.toNat!,
    if_pos (isNat_of_digits _ (toString_ne_empty n) fun _ => isDigit_of_mem_toString),
    String.Slice.foldl_eq_foldl_toList, String.copy_toSlice, Nat.toString_eq_ofList_toDigits,
    String.toList_ofList, foldl_digits _ Nat.underscore_not_in_toDigits,
    Nat.ofDigitChars_ten_toDigits]

theorem digitsValue_toString (n : Nat) : WireFields.digitsValue? (toString n) = some n := by
  have hall : (toString n).all Char.isDigit = true := by
    rw [String.all_bool_eq, List.all_eq_true]
    exact fun _ => isDigit_of_mem_toString
  have hemp : (toString n).isEmpty = false := by simp
  rw [WireFields.digitsValue?, hemp, hall, toNat!_toString]
  rfl

/-- A line index written below 65536 is taken. -/
theorem optIndex_repr {n : Nat} (h : n < 65536) (path : String) :
    WireFields.optIndex path (.number n.repr) = .ok (some n) := by
  simp only [WireFields.optIndex, ← Nat.toString_eq_repr, digitsValue_toString]
  rw [if_pos h]

/-! ## Member names -/

/-- The names the writer gives members, as a case-blind comparison sees them. No two fold to the
same text, so each member read back lands in the field of its own name. -/
theorem fold_names :
    Case.fold "type" = "TYPE" ∧ Case.fold "from" = "FROM" ∧ Case.fold "to" = "TO" ∧
      Case.fold "name" = "NAME" ∧ Case.fold "sdp" = "SDP" ∧
      Case.fold "audioEnabled" = "AUDIOENABLED" ∧ Case.fold "enabled" = "ENABLED" ∧
      Case.fold "candidate" = "CANDIDATE" ∧ Case.fold "id" = "ID" ∧
      Case.fold "sdpMid" = "SDPMID" ∧ Case.fold "sdpMLineIndex" = "SDPMLINEINDEX" ∧
      Case.fold "usernameFragment" = "USERNAMEFRAGMENT" := by
  decide +kernel

/-! ## Frames as JSON values -/

namespace Envelope

/-- The members of a candidate object: absent parts are left out. -/
def candidateMembers (c : IceCandidate) : List (String × Json.Value) :=
  [("candidate", .string c.candidate)] ++
    (c.sdpMid.map fun v => ("sdpMid", .string v)).toList ++
    (c.sdpMLineIndex.map fun v => ("sdpMLineIndex", .number (toString v))).toList ++
    (c.usernameFragment.map fun v => ("usernameFragment", .string v)).toList

/-- The JSON value a frame holds. -/
def toJson : Envelope → Json.Value
  | join m => .object [("type", .string "join"), ("from", .string m.sender),
      ("name", .string m.name), ("audioEnabled", .bool m.audioEnabled)]
  | description m => .object [("type", .string m.type), ("sdp", .string m.sdp),
      ("from", .string m.sender), ("to", .string m.recipient), ("name", .string m.name),
      ("audioEnabled", .bool m.audioEnabled)]
  | candidate m => .object [("type", .string "candidate"),
      ("candidate", .object (candidateMembers m.candidate)), ("from", .string m.sender),
      ("to", .string m.recipient)]
  | audioToggle m => .object [("type", .string "audio-toggle"), ("from", .string m.sender),
      ("enabled", .bool m.enabled)]
  | userLeft m => .object [("type", .string "user-left"), ("id", .string m.id)]

/-- A candidate whose line index, if any, fits in sixteen bits. -/
def IndexFits (c : IceCandidate) : Prop := c.sdpMLineIndex.all (· < 65536) = true

instance : DecidablePred IndexFits := fun _ => inferInstanceAs (Decidable (_ = true))

/-- The envelopes reading returns: the fields each type needs are not empty, a description is
an offer or an answer, and a candidate's line index fits in sixteen bits. -/
def Decodable : Envelope → Prop
  | join m => m.sender ≠ ""
  | description m =>
    (m.type = "offer" ∨ m.type = "answer") ∧ m.sdp ≠ "" ∧ m.sender ≠ "" ∧ m.recipient ≠ ""
  | candidate m => m.sender ≠ "" ∧ m.recipient ≠ "" ∧ IndexFits m.candidate
  | audioToggle m => m.sender ≠ ""
  | userLeft m => m.id ≠ ""

instance : DecidablePred Decodable := fun m => by
  cases m <;> unfold Decodable <;> infer_instance

/-- Writing an object whose member values are written is writing the object. -/
theorem object_members (ms : List (String × Json.Value)) :
    Json.Write.object (ms.map fun m => (m.1, Json.Write.value m.2)) =
      Json.Write.value (.object ms) := by
  rw [Json.Write.object, Json.Write.value]
  -- the members joined by commas are the written members
  congr 2
  induction ms with
  | nil => rfl
  | cons m ms ih =>
    cases ms with
    | nil => simp [Json.Write.members]
    | cons m' ms' =>
      obtain ⟨k, v⟩ := m
      rw [List.map_cons, List.map_cons, String.intercalate_cons_of_ne_nil (by simp), ih,
        Json.Write.members.eq_3 _ _ _ (List.cons_ne_nil m' ms')]

theorem writeCandidate_eq (c : IceCandidate) :
    writeCandidate c = Json.Write.value (.object (candidateMembers c)) := by
  rw [← object_members]
  rcases c with ⟨cand, _ | mid, _ | idx, _ | frag⟩ <;> rfl

/-- Writing an envelope that reading can return succeeds, with its JSON value. -/
theorem encode_eq {m : Envelope} (hm : m.Decodable) :
    m.encode = .ok (Json.Write.value m.toJson) := by
  cases m with
  | join m => rw [encode, toJson, ← object_members]; rfl
  | description m =>
    have hw : writableType m.type = true := by
      rcases hm.1 with h | h <;> simp [writableType, h]
    rw [encode, if_pos hw, toJson, ← object_members]; rfl
  | candidate m => rw [encode, toJson, ← object_members, writeCandidate_eq]; rfl
  | audioToggle m => rw [encode, toJson, ← object_members]; rfl
  | userLeft m => rw [encode, toJson, ← object_members]; rfl

/-- A frame nests two levels deep: the envelope and its candidate. -/
theorem toJson_writable (m : Envelope) : Json.Writable 2 m.toJson := by
  have hcand : ∀ c, Json.Writable 1 (.object (candidateMembers c)) := by
    intro c
    refine .object 0 _ fun kv hkv => ?_
    rcases c with ⟨cand, _ | mid, _ | idx, _ | frag⟩ <;>
      simp [candidateMembers] at hkv <;> rcases hkv with rfl | rfl | rfl | rfl <;> constructor
  cases m <;> refine .object 1 _ fun kv hkv => ?_ <;> simp at hkv <;>
    rcases hkv with rfl | rfl | rfl | rfl | rfl | rfl <;> first | exact hcand _ | constructor

/-- The fields a frame of the envelope fills. -/
def fields : Envelope → WireFields
  | join m =>
    { type := "join", sender := m.sender, name := m.name, audioEnabled := some m.audioEnabled }
  | description m =>
    { type := m.type, sdp := some m.sdp, sender := m.sender, recipient := m.recipient,
      name := m.name, audioEnabled := some m.audioEnabled }
  | candidate m =>
    { type := "candidate", candidate := some m.candidate, sender := m.sender,
      recipient := m.recipient }
  | audioToggle m => { type := "audio-toggle", sender := m.sender, enabled := some m.enabled }
  | userLeft m => { type := "user-left", id := m.id }

/-- Each member of a candidate object lands in its own part, and a line index below 65536 is
taken. -/
theorem candidateField_members (c : IceCandidate) (hidx : IndexFits c) :
    WireFields.candidateField "candidate" none (.object (candidateMembers c)) = .ok (some c) := by
  rcases c with ⟨cand, mid, _ | idx, frag⟩
  · cases mid <;> cases frag <;>
      simp [WireFields.candidateField, candidateMembers, WireFields.setCandidateMember,
        WireFields.text, WireFields.optText, Except.map, sameName, fold_names]
  · have hlt : idx < 65536 := by simpa [IndexFits] using hidx
    cases mid <;> cases frag <;>
      simp [WireFields.candidateField, candidateMembers, WireFields.setCandidateMember,
        WireFields.text, WireFields.optText, optIndex_repr hlt, Except.map, sameName, fold_names]

/-- Each member of a frame lands in its own field. -/
theorem ofValue_toJson {m : Envelope} (hm : m.Decodable) :
    WireFields.ofValue m.toJson = .ok m.fields := by
  cases m with
  | join m =>
    simp [toJson, fields, WireFields.ofValue, WireFields.setMember, WireFields.text,
      WireFields.optBool, sameName, fold_names]
  | description m =>
    simp [toJson, fields, WireFields.ofValue, WireFields.setMember, WireFields.text,
      WireFields.optText, WireFields.optBool, sameName, fold_names]
  | candidate m =>
    simp [toJson, fields, WireFields.ofValue, WireFields.setMember, WireFields.text,
      candidateField_members m.candidate hm.2.2, sameName, fold_names]
  | audioToggle m =>
    simp [toJson, fields, WireFields.ofValue, WireFields.setMember, WireFields.text,
      WireFields.optBool, sameName, fold_names]
  | userLeft m =>
    simp [toJson, fields, WireFields.ofValue, WireFields.setMember, WireFields.text,
      sameName, fold_names]

/-- The fields of an envelope that reading can return make that envelope again. -/
theorem toEnvelope_fields {m : Envelope} (hm : m.Decodable) : m.fields.toEnvelope = .ok m := by
  cases m with
  | join m => simpa [fields, WireFields.toEnvelope, Decodable] using hm
  | description m =>
    obtain ⟨type, sdp, sender, recipient, name, audio⟩ := m
    obtain ⟨htype | htype, hsdp, hs, hr⟩ := hm <;> subst htype <;>
      simp [fields, WireFields.toEnvelope, hsdp, hs, hr]
  | candidate m =>
    obtain ⟨hs, hr, -⟩ := hm
    simp [fields, WireFields.toEnvelope, hs, hr]
  | audioToggle m => simpa [fields, WireFields.toEnvelope, Decodable] using hm
  | userLeft m => simpa [fields, WireFields.toEnvelope, Decodable] using hm

/-- The frame of an envelope that reading can return is read as that envelope. -/
theorem decode_toJson {m : Envelope} (hm : m.Decodable) :
    Envelope.decode (Utf8.encode (Json.Write.value m.toJson)) = .ok m := by
  rw [Envelope.decode, Json.read_write (toJson_writable m) (by decide)]
  simp [Except.mapError, ofValue_toJson hm, toEnvelope_fields hm]

/-! ## What reading returns -/

/-- A step that keeps a property keeps it over a whole fold. -/
theorem foldlM_invariant {α β ε : Type} (P : β → Prop) {f : β → α → Except ε β}
    (hf : ∀ b a b', P b → f b a = .ok b' → P b') (l : List α) :
    ∀ b b', P b → l.foldlM f b = .ok b' → P b' := by
  induction l with
  | nil =>
    intro b b' hb h
    simp only [List.foldlM_nil, Except.pure, pure, Except.ok.injEq] at h
    exact h ▸ hb
  | cons a l ih =>
    intro b b' hb h
    rw [List.foldlM_cons] at h
    cases hfa : f b a with
    | error e => simp [hfa, bind, Except.bind] at h
    | ok b₁ =>
      rw [hfa] at h
      exact ih b₁ b' (hf b a b₁ hb hfa) h

/-- A line index is only taken below 65536. -/
theorem optIndex_fits {path : String} {v : Json.Value} {o : Option Nat}
    (h : WireFields.optIndex path v = .ok o) : o.all (· < 65536) = true := by
  unfold WireFields.optIndex at h
  split at h
  · split at h
    · split at h
      · cases h
        simpa
      · cases h
    · cases h
  · cases h
    rfl
  · cases h

theorem bind_eq_ok {ε α β : Type} {x : Except ε α} {f : α → Except ε β} {b : β}
    (h : (x >>= f) = .ok b) : ∃ a, x = .ok a ∧ f a = .ok b := by
  cases x with
  | error e => cases h
  | ok a => exact ⟨a, rfl, h⟩

theorem map_eq_ok {ε α β : Type} {x : Except ε α} {f : α → β} {b : β}
    (h : x.map f = .ok b) : ∃ a, x = .ok a ∧ f a = b := by
  cases x with
  | error e => cases h
  | ok a =>
    cases h
    exact ⟨a, rfl, rfl⟩

/-- Setting a part of a candidate keeps its line index below 65536. -/
theorem setCandidateMember_fits {outer name : String} {v : Json.Value} {c c' : IceCandidate}
    (hc : IndexFits c) (h : WireFields.setCandidateMember outer c name v = .ok c') :
    IndexFits c' := by
  unfold WireFields.setCandidateMember at h
  split_ifs at h
  · obtain ⟨_, -, h⟩ := bind_eq_ok h
    cases h
    exact hc
  · obtain ⟨_, -, h⟩ := bind_eq_ok h
    cases h
    exact hc
  · -- the line index itself
    obtain ⟨o, ho, h⟩ := bind_eq_ok h
    cases h
    exact optIndex_fits ho
  · obtain ⟨_, -, h⟩ := bind_eq_ok h
    cases h
    exact hc
  · cases h
    exact hc

/-- Reading a candidate member gives a candidate whose line index fits. -/
theorem candidateField_fits {name : String} {current : Option IceCandidate} {v : Json.Value}
    {r : Option IceCandidate} (hc : ∀ c ∈ current, IndexFits c)
    (h : WireFields.candidateField name current v = .ok r) : ∀ c ∈ r, IndexFits c := by
  unfold WireFields.candidateField at h
  split at h
  · next members =>
    -- the members are folded into the candidate already there, or a fresh one
    have hstart : IndexFits (current.getD {}) := by
      cases current with
      | none => rfl
      | some c => exact hc c rfl
    obtain ⟨c, hfold, rfl⟩ := map_eq_ok h
    intro c' hc'
    cases hc'
    exact foldlM_invariant IndexFits
      (fun _ _ _ hb hs => setCandidateMember_fits hb hs) _ _ _ hstart hfold
  · cases h
    intro c hc'
    cases hc'
  · cases h

/-- Setting a member keeps the candidate's line index fitting. -/
theorem setMember_fits {f f' : WireFields} {name : String} {v : Json.Value}
    (hf : ∀ c ∈ f.candidate, IndexFits c) (h : WireFields.setMember f name v = .ok f') :
    ∀ c ∈ f'.candidate, IndexFits c := by
  unfold WireFields.setMember at h
  -- only the candidate member changes the candidate; every other member leaves it
  split_ifs at h <;> first
    | (obtain ⟨r, hr, h⟩ := bind_eq_ok h
       cases h
       exact candidateField_fits hf hr)
    | (obtain ⟨_, -, h⟩ := bind_eq_ok h
       cases h
       exact hf)
    | (cases h
       exact hf)

/-- The fields read from a value carry a candidate whose line index fits. -/
theorem ofValue_fits {v : Json.Value} {f : WireFields} (h : WireFields.ofValue v = .ok f) :
    ∀ c ∈ f.candidate, IndexFits c := by
  unfold WireFields.ofValue at h
  split at h
  · exact foldlM_invariant (fun f : WireFields => ∀ c ∈ f.candidate, IndexFits c)
      (fun _ _ _ hb hs => setMember_fits hb hs) _ _ _ (fun c hc => by cases hc) h
  · cases h
    intro c hc
    cases hc
  · cases h

/-- Fields make only envelopes that reading can return. -/
theorem toEnvelope_decodable {f : WireFields} {m : Envelope} (hf : ∀ c ∈ f.candidate, IndexFits c)
    (h : f.toEnvelope = .ok m) : m.Decodable := by
  unfold WireFields.toEnvelope at h
  -- every branch that returns an envelope has checked the fields its type needs
  split_ifs at h <;> (try split at h) <;> (try split_ifs at h) <;> cases h <;>
    simp_all [Decodable, IndexFits]

/-- Reading returns only envelopes that `Decodable` admits. -/
theorem decode_decodable {d : List UInt8} {m : Envelope} (h : Envelope.decode d = .ok m) :
    m.Decodable := by
  unfold Envelope.decode at h
  obtain ⟨v, -, h⟩ := bind_eq_ok h
  obtain ⟨f, hf, h⟩ := bind_eq_ok h
  have hfields : WireFields.ofValue v = .ok f := by
    cases hv : WireFields.ofValue v with
    | error e => simp [hv, Except.mapError] at hf
    | ok f' =>
      simp only [hv, Except.mapError, Except.ok.injEq] at hf
      rw [hf]
  exact toEnvelope_decodable (ofValue_fits hfields) h

end Envelope

/-- Writing an envelope that reading can return succeeds, and reading its frame gives the envelope
back. Reading returns only such envelopes, so whatever a frame reads as is written again and read
the same. -/
theorem envelope_codec_round_trip :
    (∀ m : Envelope, m.Decodable →
      ∃ frame, m.encode = .ok frame ∧ Envelope.decode (Utf8.encode frame) = .ok m) ∧
    (∀ (d : List UInt8) (m : Envelope), Envelope.decode d = .ok m →
      ∃ frame, m.encode = .ok frame ∧
        Envelope.decode (Utf8.encode frame) = Envelope.decode d) := by
  have hround : ∀ m : Envelope, m.Decodable →
      ∃ frame, m.encode = .ok frame ∧ Envelope.decode (Utf8.encode frame) = .ok m :=
    fun m hm => ⟨_, Envelope.encode_eq hm, Envelope.decode_toJson hm⟩
  refine ⟨hround, fun d m hd => ?_⟩
  obtain ⟨frame, henc, hdec⟩ := hround m (Envelope.decode_decodable hd)
  exact ⟨frame, henc, hdec.trans hd.symm⟩

/-- A candidate with every optional part present goes through a frame unchanged. -/
theorem candidate_frame_round_trip :
    let m := Envelope.candidate
      ⟨⟨"candidate:1 1 udp 2122260223 10.0.0.1 5000 typ host", some "0", some 0, some "ufrag"⟩,
        "alice", "bob"⟩
    m.Decodable ∧ ∃ frame, m.encode = .ok frame ∧ Envelope.decode (Utf8.encode frame) = .ok m := by
  intro m
  have hm : m.Decodable := by decide +kernel
  exact ⟨hm, envelope_codec_round_trip.1 m hm⟩

end MeshCall
