import Mathlib
import MeshCall.Proofs.Release
import MeshCall.Proofs.Codec.Envelope
import MeshCall.Sim.Capture
/-!
# What one pass over a media file plays

A reader takes one unit at a time off the front of a file: an IVF frame, or an Ogg page. `Reads`
says which units it yields one after another, and what bytes it leaves after the last; every
unit is at least a header long, so a pass ends. An Ogg source skips the pages whose granule
position is not above that of the last page it played, so it plays the `fresh` pages of a pass,
each for the time its granule position moved on.

Main statements: through one pass, `takeSamples` plays exactly the fresh pages, in file order,
each for `Ogg.duration` of the granule positions it moved on (`samples_are_fresh_pages`); that
duration is the elapsed time truncated to whole nanoseconds, and positive, as long as the count
of samples times a second stays below 2^63 nanoseconds; past that the multiplication wraps, and a
page far enough ahead plays for a negative time (`far_page_plays_negative_time`).
-/

namespace MeshCall.Media

open Envelope (bind_eq_ok)

/-- The units a reader yields from `bs` one after another, and the bytes after the last. -/
inductive Reads {α : Type} (read : List UInt8 → Except Fault (α × List UInt8)) :
    List UInt8 → List α → List UInt8 → Prop
  | nil (bs : List UInt8) : Reads read bs [] bs
  | cons {bs rest tail : List UInt8} {x : α} {xs : List α} :
      read bs = .ok (x, rest) → Reads read rest xs tail → Reads read bs (x :: xs) tail

/-- A reader that consumes at least one byte per unit yields no more units than there are
bytes. -/
theorem Reads.length_le {α : Type} {read : List UInt8 → Except Fault (α × List UInt8)}
    (hread : ∀ bs x rest, read bs = .ok (x, rest) → rest.length < bs.length)
    {bs tail : List UInt8} {xs : List α} (h : Reads read bs xs tail) :
    xs.length + tail.length ≤ bs.length := by
  induction h with
  | nil => simp
  | cons hx _ ih =>
    have := hread _ _ _ hx
    simp only [List.length_cons]
    omega

theorem readFull_ok {n : Nat} {bs a rest : List UInt8} (h : readFull n bs = .ok (a, rest)) :
    rest = bs.drop n ∧ n ≤ bs.length := by
  unfold readFull at h
  split_ifs at h with h0 he hl
  · cases h
    simp [h0]
  · cases h
    exact ⟨rfl, by omega⟩

/-- A page takes at least its 27-byte header. -/
theorem Ogg.readPage_length {bs rest : List UInt8} {p : Ogg.Page}
    (h : Ogg.readPage bs = .ok (p, rest)) : rest.length + 27 ≤ bs.length := by
  unfold Ogg.readPage at h
  obtain ⟨⟨hd, r₁⟩, h₁, h⟩ := bind_eq_ok h
  obtain ⟨⟨tb, r₂⟩, h₂, h⟩ := bind_eq_ok h
  obtain ⟨⟨pl, r₃⟩, h₃, h⟩ := bind_eq_ok h
  -- past the checksum test the page is returned with the bytes after its payload
  simp only [bind, Except.bind, pure, Except.pure] at h
  split at h
  · cases h
  cases h
  obtain ⟨rfl, hl₁⟩ := readFull_ok h₁
  obtain ⟨rfl, -⟩ := readFull_ok h₂
  obtain ⟨rfl, -⟩ := readFull_ok h₃
  simp only [List.length_drop]
  omega

theorem Ogg.Reads.length_le {bs tail : List UInt8} {ps : List Ogg.Page}
    (h : Reads Ogg.readPage bs ps tail) : ps.length ≤ bs.length := by
  have := h.length_le fun _ _ _ hr => by have := Ogg.readPage_length hr; omega
  omega

namespace Ogg

/-- The pages a source that skips stale pages plays, from a last granule position `last` on:
each page whose position is above that of the last page played, with the position before it. -/
def fresh : Nat → List Page → List (Page × Nat)
  | _, [] => []
  | last, p :: ps => if last < p.granule then (p, last) :: fresh p.granule ps else fresh last ps

/-- What a fresh page plays: its payload, for the granule positions it moved on. -/
def sampleOf (q : Page × Nat) : Sample := ⟨q.1.payload, duration (q.1.granule - q.2)⟩

-- Stated through simp: the kernel, asked for this by rfl, unfolds duration down to 2^64 first.
@[simp] theorem sampleOf_duration (q : Page × Nat) :
    (sampleOf q).duration = duration (q.1.granule - q.2) := by
  simp only [sampleOf]

/-- Every fresh page moves the granule position on from the one before it. -/
theorem lt_of_mem_fresh {q : Page × Nat} :
    ∀ {last : Nat} {ps : List Page}, q ∈ fresh last ps → q.2 < q.1.granule
  | _, [], h => by simp [fresh] at h
  | last, p :: ps, h => by
    unfold fresh at h
    split at h
    · rcases List.mem_cons.mp h with rfl | h
      · assumption
      · exact lt_of_mem_fresh h
    · exact lt_of_mem_fresh h

/-- The fresh pages come in file order. -/
theorem fresh_sublist : ∀ (last : Nat) (ps : List Page), ((fresh last ps).map Prod.fst).Sublist ps
  | _, [] => by simp [fresh]
  | last, p :: ps => by
    unfold fresh
    split
    · exact (fresh_sublist p.granule ps).cons_cons p
    · exact (fresh_sublist last ps).cons p

end Ogg

/-! ## One call: skipping stale pages up to a fresh one -/

section NextPage

variable {disk : Disk}

theorem nextPage_stale {fuel : Nat} {rw : Bool} {s : Feed} {p : Ogg.Page} {rest : List UInt8}
    (hr : Ogg.readPage s.rest = .ok (p, rest)) (hg : p.granule ≤ s.lastGranule) :
    nextPage disk (fuel + 1) rw s = nextPage disk fuel rw { s with rest := rest } := by
  simp [nextPage, hr, hg]

theorem nextPage_fresh {fuel : Nat} {rw : Bool} {s : Feed} {p : Ogg.Page} {rest : List UInt8}
    (hr : Ogg.readPage s.rest = .ok (p, rest)) (hg : s.lastGranule < p.granule) :
    nextPage disk (fuel + 1) rw s =
      .ok (Ogg.sampleOf (p, s.lastGranule), { s with rest := rest, lastGranule := p.granule }) := by
  simp [nextPage, hr, Nat.not_le.mpr hg, Ogg.sampleOf]

/-- At the end of its bytes a looping source not yet rewound in this call opens its file again. -/
theorem nextPage_rewind {fuel : Nat} {s s₀ : Feed} {e : Fault}
    (hr : Ogg.readPage s.rest = .error e) (he : e.has .endOfInput = true) (hl : s.loops = true)
    (ho : openFeed disk s.device = .ok s₀) :
    nextPage disk (fuel + 1) false s = nextPage disk fuel true s₀ := by
  simp [nextPage, hr, he, hl, ho]

/-- Any other failure to read a page ends the call, an unexpected end counting as the end. -/
theorem nextPage_stop {fuel : Nat} {rw : Bool} {s : Feed} {e : Fault}
    (hr : Ogg.readPage s.rest = .error e)
    (hstop : ¬(e.has .endOfInput = true ∧ s.loops = true ∧ rw = false)) :
    nextPage disk (fuel + 1) rw s = .error (endOf e) := by
  have : (e.has .endOfInput && s.loops && !rw) = false := by
    cases h₁ : e.has .endOfInput <;> cases h₂ : s.loops <;> cases rw <;> simp_all
  simp [nextPage, hr, this]

/-- From a feed whose bytes yield pages `ps`, a call plays the first fresh page and leaves the
feed just after it, given fuel for every page. -/
theorem nextPage_reads {ps : List Ogg.Page} {tail : List UInt8} :
    ∀ {s : Feed} {fuel : Nat} {rw : Bool} {q : Ogg.Page × Nat} {qs : List (Ogg.Page × Nat)},
    Reads Ogg.readPage s.rest ps tail → Ogg.fresh s.lastGranule ps = q :: qs → ps.length < fuel →
    ∃ rest ps', Reads Ogg.readPage rest ps' tail ∧ Ogg.fresh q.1.granule ps' = qs ∧
      nextPage disk fuel rw s =
        .ok (Ogg.sampleOf q, { s with rest := rest, lastGranule := q.1.granule }) := by
  induction ps with
  | nil => intro s fuel rw q qs _ hf; simp [Ogg.fresh] at hf
  | cons p ps ih =>
    intro s fuel rw q qs hy hf hfuel
    obtain ⟨fuel, rfl⟩ : ∃ f, fuel = f + 1 := ⟨fuel - 1, by simp at hfuel; omega⟩
    cases hy with
    | cons hr hy =>
      rename_i rest
      by_cases hg : s.lastGranule < p.granule
      · -- the first page is fresh: it is played
        simp only [Ogg.fresh, hg, if_true, List.cons.injEq] at hf
        obtain ⟨rfl, rfl⟩ := hf
        exact ⟨rest, ps, hy, rfl, nextPage_fresh hr hg⟩
      · -- the first page is stale: it is skipped
        simp only [Ogg.fresh, hg, if_false] at hf
        obtain ⟨rest', ps', hy', hf', hnext⟩ :=
          ih (s := { s with rest := rest }) hy hf (by simp at hfuel; omega)
        exact ⟨rest', ps', hy', hf', by rw [nextPage_stale hr (Nat.not_lt.mp hg), hnext]⟩

/-- Pages that are all stale are skipped, one unit of fuel each. -/
theorem nextPage_skip {ps : List Ogg.Page} {tail : List UInt8} :
    ∀ {s : Feed} {fuel : Nat} {rw : Bool},
    Reads Ogg.readPage s.rest ps tail → Ogg.fresh s.lastGranule ps = [] → ps.length ≤ fuel →
      nextPage disk fuel rw s = nextPage disk (fuel - ps.length) rw { s with rest := tail } := by
  induction ps with
  | nil =>
    intro s fuel rw hy _ _
    cases hy
    simp
  | cons p ps ih =>
    intro s fuel rw hy hf hfuel
    obtain ⟨fuel, rfl⟩ : ∃ f, fuel = f + 1 := ⟨fuel - 1, by simp at hfuel; omega⟩
    cases hy with
    | cons hr hy =>
      rename_i rest
      -- a fresh page would have been played
      have hg : p.granule ≤ s.lastGranule := by
        by_contra hlt
        simp [Ogg.fresh, Nat.not_le.mp hlt] at hf
      simp only [Ogg.fresh, Nat.not_lt.mpr hg, if_false] at hf
      rw [nextPage_stale hr hg, ih (s := { s with rest := rest }) hy hf (by simp at hfuel; omega)]
      simp

end NextPage

/-- An Ogg source calls `nextPage` with fuel for every byte it has left, and for its file again. -/
theorem Feed.next_ogg {disk : Disk} {s : Feed} {path name : String} {loop : Bool}
    (hdev : s.device = .file .ogg path loop name) :
    s.next disk = nextPage disk
      (s.rest.length + ((disk.read path).toOption.map List.length).getD 0 + 2) false s := by
  simp [Feed.next, hdev]

/-- Through one pass over its bytes an Ogg source plays exactly its fresh pages, in file order,
each for the granule positions it moved on. -/
theorem takeSamples_fresh {disk : Disk} {path name : String} {loop : Bool} {tail : List UInt8} :
    ∀ (k : Nat) {s : Feed} {ps : List Ogg.Page}, s.device = .file .ogg path loop name →
    Reads Ogg.readPage s.rest ps tail → k ≤ (Ogg.fresh s.lastGranule ps).length →
    Sim.takeSamples disk k s = (((Ogg.fresh s.lastGranule ps).take k).map Ogg.sampleOf, none)
  | 0, _, _, _, _, _ => rfl
  | k + 1, s, ps, hdev, hy, hk => by
    obtain ⟨q, qs, hf⟩ : ∃ q qs, Ogg.fresh s.lastGranule ps = q :: qs := by
      cases h : Ogg.fresh s.lastGranule ps with
      | nil => simp [h] at hk
      | cons q qs => exact ⟨q, qs, rfl⟩
    have hfuel : ps.length < s.rest.length + ((disk.read path).toOption.map List.length).getD 0 + 2 := by
      have := Ogg.Reads.length_le hy
      omega
    obtain ⟨rest, ps', hy', hf', hnext⟩ := @nextPage_reads disk _ _ s _ false _ _ hy hf hfuel
    have hrest := @takeSamples_fresh disk path name loop tail k
      { s with rest := rest, lastGranule := q.1.granule } ps' hdev hy'
      (by simp [hf', hf] at hk ⊢; omega)
    simp only at hrest
    simp [Sim.takeSamples, Feed.next_ogg hdev, hnext, hrest, hf, hf']

/-! ## How long a page plays -/

theorem wrap64_of_lt {x : Int} (h₀ : 0 ≤ x) (h : x < 2 ^ 63) : wrap64 x = x := by
  have h63 : Int.pow 2 63 = 2 ^ 63 := rfl
  have h64 : Int.pow 2 64 = 2 ^ 64 := rfl
  unfold wrap64
  rw [h63, h64, Int.emod_eq_of_lt (by omega) (by omega)]
  omega

/-- While a count of samples times a second stays below 2^63 nanoseconds, the time it plays is
the elapsed time truncated to whole nanoseconds, and a positive count plays for a positive
time. -/
theorem Ogg.duration_exact {d : Nat} (hd : 0 < d) (hlt : d * 1000000000 < 2 ^ 63) :
    Ogg.duration d = ((d * 1000000000 / 48000 : Nat) : Int) ∧ 0 < Ogg.duration d := by
  have hd' : wrap64 (d : Int) = d := wrap64_of_lt (by omega) (by omega)
  have hmul : wrap64 ((d : Int) * 1000000000) = ((d * 1000000000 : Nat) : Int) :=
    wrap64_of_lt (by omega) (by omega)
  have hexact : Ogg.duration d = ((d * 1000000000 / 48000 : Nat) : Int) := by
    unfold Ogg.duration Ogg.clockRate
    rw [hd', hmul, Int.tdiv_eq_ediv_of_nonneg (by omega)]
    exact (Int.natCast_div _ _).symm
  refine ⟨hexact, ?_⟩
  rw [hexact]
  omega

/-- Through one pass over its bytes an Ogg source plays exactly its fresh pages (those whose
granule position is above that of the last page played), in file order, each for `Ogg.duration`
of the granule positions it moved on; that time is the elapsed time truncated to whole
nanoseconds, and positive, while it stays below 2^63 nanoseconds. -/
theorem samples_are_fresh_pages {disk : Disk} {s : Feed} {path name : String} {loop : Bool}
    {ps : List Ogg.Page} {tail : List UInt8} (hdev : s.device = .file .ogg path loop name)
    (hy : Reads Ogg.readPage s.rest ps tail) :
    (∀ k ≤ (Ogg.fresh s.lastGranule ps).length,
      Sim.takeSamples disk k s = (((Ogg.fresh s.lastGranule ps).take k).map Ogg.sampleOf, none)) ∧
    ((Ogg.fresh s.lastGranule ps).map Prod.fst).Sublist ps ∧
    ∀ q ∈ Ogg.fresh s.lastGranule ps, q.2 < q.1.granule ∧
      ((q.1.granule - q.2) * 1000000000 < 2 ^ 63 →
        (Ogg.sampleOf q).duration = (((q.1.granule - q.2) * 1000000000 / 48000 : Nat) : Int) ∧
        0 < (Ogg.sampleOf q).duration) := by
  refine ⟨fun k hk => takeSamples_fresh k hdev hy hk, Ogg.fresh_sublist _ _, fun q hq => ?_⟩
  have hlt : q.2 < q.1.granule := Ogg.lt_of_mem_fresh hq
  refine ⟨hlt, fun hbound => ?_⟩
  have hpos : 0 < q.1.granule - q.2 := Nat.sub_pos_of_lt hlt
  rw [Ogg.sampleOf_duration]
  exact Ogg.duration_exact hpos hbound

/-! ## Sample files -/

/-- The identification page of a stereo Opus stream. -/
def Ogg.opusHeadPage : List UInt8 :=
  [0x4F, 0x67, 0x67, 0x53, 0x00, 0x02, 0x00, 0x00, 0x00, 0x00, 0x00, 0x00, 0x00, 0x00, 0x01, 0x00,
   0x00, 0x00, 0x00, 0x00, 0x00, 0x00, 0x02, 0x62, 0x85, 0x5C, 0x01, 0x13, 0x4F, 0x70, 0x75, 0x73,
   0x48, 0x65, 0x61, 0x64, 0x01, 0x02, 0x38, 0x01, 0x80, 0xBB, 0x00, 0x00, 0x00, 0x00, 0x00]

/-- A comment page with no comments, at granule position 0. -/
def Ogg.opusTagsPage : List UInt8 :=
  [0x4F, 0x67, 0x67, 0x53, 0x00, 0x00, 0x00, 0x00, 0x00, 0x00, 0x00, 0x00, 0x00, 0x00, 0x01, 0x00,
   0x00, 0x00, 0x01, 0x00, 0x00, 0x00, 0x87, 0x58, 0x60, 0x1A, 0x01, 0x10, 0x4F, 0x70, 0x75, 0x73,
   0x54, 0x61, 0x67, 0x73, 0x00, 0x00, 0x00, 0x00, 0x00, 0x00, 0x00, 0x00]

/-- An audio page of one 20 ms frame, at granule position 960. -/
def Ogg.firstAudioPage : List UInt8 :=
  [0x4F, 0x67, 0x67, 0x53, 0x00, 0x00, 0xC0, 0x03, 0x00, 0x00, 0x00, 0x00, 0x00, 0x00, 0x01, 0x00,
   0x00, 0x00, 0x02, 0x00, 0x00, 0x00, 0xC4, 0x8A, 0xDF, 0x57, 0x01, 0x03, 0xFC, 0xFF, 0xFE]

/-- An audio page of one frame at granule position 10^10: ten billion samples on. -/
def Ogg.farAudioPage : List UInt8 :=
  [0x4F, 0x67, 0x67, 0x53, 0x00, 0x00, 0x00, 0xE4, 0x0B, 0x54, 0x02, 0x00, 0x00, 0x00, 0x01, 0x00,
   0x00, 0x00, 0x02, 0x00, 0x00, 0x00, 0x6A, 0x6A, 0x68, 0xA3, 0x01, 0x03, 0xFC, 0xFF, 0xFE]

/-- A comment page then a 20 ms audio page: the comment page is skipped and the audio page
plays for 20 ms. -/
theorem comment_skipped_audio_played :
    let s : Feed := ⟨.file .ogg Sim.benchPath false "mic", "audio/opus",
      Ogg.opusTagsPage ++ Ogg.firstAudioPage, 0, 0⟩
    let ps : List Ogg.Page :=
      [⟨[0x4F, 0x67, 0x67, 0x53], 0, 0, [0x4F, 0x70, 0x75, 0x73, 0x54, 0x61, 0x67, 0x73, 0, 0, 0, 0,
        0, 0, 0, 0]⟩, ⟨[0x4F, 0x67, 0x67, 0x53], 0, 960, [0xFC, 0xFF, 0xFE]⟩]
    s.device = .file .ogg Sim.benchPath false "mic" ∧ Reads Ogg.readPage s.rest ps [] ∧
    ((∀ k ≤ (Ogg.fresh s.lastGranule ps).length,
      Sim.takeSamples {} k s = (((Ogg.fresh s.lastGranule ps).take k).map Ogg.sampleOf, none)) ∧
    ((Ogg.fresh s.lastGranule ps).map Prod.fst).Sublist ps ∧
    ∀ q ∈ Ogg.fresh s.lastGranule ps, q.2 < q.1.granule ∧
      ((q.1.granule - q.2) * 1000000000 < 2 ^ 63 →
        (Ogg.sampleOf q).duration = (((q.1.granule - q.2) * 1000000000 / 48000 : Nat) : Int) ∧
        0 < (Ogg.sampleOf q).duration)) := by
  intro s ps
  have hy : Reads Ogg.readPage s.rest ps [] :=
    @Reads.cons _ _ _ Ogg.firstAudioPage _ _ _ (by decide +kernel)
      (.cons (by decide +kernel) (.nil []))
  exact ⟨rfl, hy, samples_are_fresh_pages rfl hy⟩

/-- The disk of a file whose only audio page lies 10^10 granule positions on. -/
def Ogg.farDisk : Disk :=
  ⟨[(Sim.benchPath, Ogg.opusHeadPage ++ Ogg.opusTagsPage ++ Ogg.farAudioPage)]⟩

/-- A page 10^10 granule positions on plays, by the elapsed time, for 208333333333333 ns; but the
count times a second wraps in 64 bits, and the page plays for a negative time. -/
theorem far_page_plays_negative_time :
    ((openFeed Ogg.farDisk (.file .ogg Sim.benchPath false "mic")).toOption.map
      fun s => Sim.takeSamples Ogg.farDisk 1 s) =
      some ([⟨[0xFC, 0xFF, 0xFE], -175973834868948⟩], none) := by
  decide +kernel

end MeshCall.Media
