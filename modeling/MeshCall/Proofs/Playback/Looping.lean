import Mathlib
import MeshCall.Proofs.Playback.Pages
/-!
# Looping sources

A looping source starts its file over when reading reaches the end of its bytes. A pass over the
file reads units (IVF frames, Ogg pages) until the reader fails on what is left; whether the
source loops or stops then depends only on how the reader fails there.

Main statement (`looping_source_cycles_iff_clean_end`): for a looping IVF or Ogg source, if the
reader fails on the tail of the file with an end of input, the source plays the samples of one
pass over and over and never fails; any other failure (a truncated frame or page) ends the
source after one pass, with that failure.
-/

namespace MeshCall.Media

open Envelope (bind_eq_ok)

/-- `k` items of `xs` repeated without end, from its `j`-th on. -/
def cyclic {α : Type} [Inhabited α] (xs : List α) (j k : Nat) : List α :=
  (List.range k).map fun i => xs.getD ((j + i) % xs.length) default

theorem cyclic_succ {α : Type} [Inhabited α] (xs : List α) (j k : Nat) :
    cyclic xs j (k + 1) = xs.getD (j % xs.length) default :: cyclic xs (j + 1) k := by
  unfold cyclic
  rw [List.range_succ_eq_map, List.map_cons, List.map_map, Nat.add_zero]
  congr 1
  apply List.map_congr_left
  intro i _
  show xs.getD ((j + (i + 1)) % xs.length) default = xs.getD ((j + 1 + i) % xs.length) default
  congr 2
  omega

theorem cyclic_congr {α : Type} [Inhabited α] (xs : List α) {j j' : Nat}
    (h : j % xs.length = j' % xs.length) (k : Nat) : cyclic xs j k = cyclic xs j' k := by
  simp only [cyclic]
  congr 1
  funext i
  rw [Nat.add_mod, h, ← Nat.add_mod]

/-! ## Runs of a source that walks through one pass -/

/-- A sample taken is followed by the samples of the feed it leaves. -/
theorem takeSamples_of_next {disk : Disk} {n : Nat} {s s' : Feed} {x : Sample}
    (h : s.next disk = .ok (x, s')) :
    Sim.takeSamples disk (n + 1) s =
      (x :: (Sim.takeSamples disk n s').1, (Sim.takeSamples disk n s').2) := by
  rw [Sim.takeSamples.eq_2, h]

section Runs

variable {disk : Disk} {xs : List Sample} {At : Nat → Feed → Prop}
  (hstep : ∀ j s, j < xs.length → At j s →
    ∃ s', s.next disk = .ok (xs.getD j default, s') ∧ At (j + 1) s')
include hstep

/-- A source that plays sample `j` of a pass at each position `j` of it, and at the end of the
pass goes on with the first sample, plays the pass over and over and never fails. -/
theorem takeSamples_cyclic (hne : xs ≠ [])
    (hwrap : ∀ s, At xs.length s → ∃ s', s.next disk = .ok (xs.getD 0 default, s') ∧ At 1 s') :
    ∀ k j s, j ≤ xs.length → At j s → Sim.takeSamples disk k s = (cyclic xs j k, none)
  | 0, _, _, _, _ => rfl
  | k + 1, j, s, hj, hs => by
    have hlen : 0 < xs.length := List.length_pos_iff.mpr hne
    rw [cyclic_succ]
    rcases Nat.lt_or_eq_of_le hj with hlt | rfl
    · -- inside the pass
      obtain ⟨s', hnext, hs'⟩ := hstep j s hlt hs
      rw [takeSamples_of_next hnext, takeSamples_cyclic hne hwrap k (j + 1) s' hlt hs',
        Nat.mod_eq_of_lt hlt]
    · -- at the end of the pass the source starts over
      obtain ⟨s', hnext, hs'⟩ := hwrap s hs
      have hmod : (xs.length + 1) % xs.length = 1 % xs.length := Nat.add_mod_left _ _
      rw [takeSamples_of_next hnext, takeSamples_cyclic hne hwrap k 1 s' hlen hs',
        cyclic_congr xs hmod, Nat.mod_self]

/-- A source that fails with `err` at the end of a pass plays the rest of the pass, then
fails. -/
theorem takeSamples_pass {err : Fault} (hend : ∀ s, At xs.length s → s.next disk = .error err) :
    ∀ n s, n ≤ xs.length → At (xs.length - n) s →
      Sim.takeSamples disk (n + 1) s = (xs.drop (xs.length - n), some err)
  | 0, s, _, hs => by simp [Sim.takeSamples, hend s hs]
  | n + 1, s, hn, hs => by
    have hlt : xs.length - (n + 1) < xs.length := by omega
    obtain ⟨s', hnext, hs'⟩ := hstep _ s hlt hs
    have hj : xs.length - (n + 1) + 1 = xs.length - n := by omega
    rw [hj] at hs'
    rw [List.getD_eq_getElem _ _ hlt] at hnext
    rw [takeSamples_of_next hnext, takeSamples_pass hend n s' (by omega) hs',
      List.drop_eq_getElem_cons hlt, hj]

end Runs

/-! ## Opening a file -/

/-- An open feed is at granule position 0 of the device it was opened for. -/
theorem openFeed_device {disk : Disk} {dev : Capture} {s : Feed} (h : openFeed disk dev = .ok s) :
    s.device = dev ∧ s.lastGranule = 0 := by
  unfold openFeed at h
  split at h
  · cases h
    exact ⟨rfl, rfl⟩
  · simp only [bind, Except.bind, pure, Except.pure] at h
    -- every branch that succeeds builds the feed for the device, at granule position 0
    repeat' split at h
    all_goals cases h <;> exact ⟨rfl, rfl⟩

/-- Past its checks, reading the headers of an Opus stream leaves the bytes after its
identification page. -/
theorem Ogg.readHeaders_length {bs rest : List UInt8} (h : Ogg.readHeaders bs = .ok rest) :
    rest.length + 27 ≤ bs.length := by
  unfold Ogg.readHeaders at h
  obtain ⟨⟨page, r⟩, hp, h⟩ := bind_eq_ok h
  have hlen := Ogg.readPage_length hp
  have hr : r = rest := by
    simp only [bind, Except.bind, pure, Except.pure] at h
    repeat' split at h
    all_goals cases h <;> rfl
  subst hr
  omega

/-- A VP8 device opens on the bytes after the header of its file, with frames as long as the
header's time base says. -/
theorem openFeed_ivf_ok {disk : Disk} {path name : String} {loop : Bool} {bytes rest : List UInt8}
    {h : Ivf.Header} (hp : path ≠ "") (hr : disk.read path = .ok bytes)
    (hh : Ivf.readHeader bytes = .ok (h, rest)) (hcc : h.fourcc = [0x56, 0x50, 0x38, 0x30]) :
    openFeed disk (.file .ivf path loop name) =
      .ok ⟨.file .ivf path loop name, "video/VP8", rest, Ivf.frameDuration h, 0⟩ := by
  simp [openFeed, hp, hr, hh, hcc, Except.mapError, bind, Except.bind, pure, Except.pure]

/-- An Ogg device opens on the bytes after the headers of its file. -/
theorem openFeed_ogg_ok {disk : Disk} {path name : String} {loop : Bool} {bytes rest : List UInt8}
    (hp : path ≠ "") (hr : disk.read path = .ok bytes) (hh : Ogg.readHeaders bytes = .ok rest) :
    openFeed disk (.file .ogg path loop name) =
      .ok ⟨.file .ogg path loop name, "audio/opus", rest, 0, 0⟩ := by
  simp [openFeed, hp, hr, hh, Except.mapError, bind, Except.bind, pure, Except.pure]

/-- An Ogg source starts with no more bytes than its file has. -/
theorem openFeed_ogg_rest {disk : Disk} {path name : String} {loop : Bool} {s : Feed}
    (h : openFeed disk (.file .ogg path loop name) = .ok s) :
    s.rest.length ≤ ((disk.read path).toOption.map List.length).getD 0 := by
  cases hr : disk.read path with
  | error e =>
    simp [openFeed, hr, Except.mapError, bind, Except.bind] at h
    split_ifs at h
  | ok bytes =>
    cases hh : Ogg.readHeaders bytes with
    | error e =>
      simp [openFeed, hr, hh, Except.mapError, bind, Except.bind] at h
      split_ifs at h
    | ok rest =>
      simp [openFeed, hr, hh, Except.mapError, bind, Except.bind, pure, Except.pure] at h
      split_ifs at h
      cases h
      have := Ogg.readHeaders_length hh
      simp [Except.toOption]
      omega

/-! ## IVF sources -/

section Ivf

variable {disk : Disk} {path name : String} {loop : Bool}

theorem Feed.next_ivf_frame {s : Feed} {frame rest : List UInt8}
    (hdev : s.device = .file .ivf path loop name) (hr : Ivf.readFrame s.rest = .ok (frame, rest)) :
    s.next disk = .ok (⟨frame, s.frameDuration⟩, { s with rest := rest }) := by
  simp [Feed.next, hdev, hr]

/-- At the end of its bytes a looping IVF source opens its file again and reads the first
frame. -/
theorem Feed.next_ivf_rewind {s s₀ : Feed} {e : Fault} {frame rest : List UInt8}
    (hdev : s.device = .file .ivf path true name) (hr : Ivf.readFrame s.rest = .error e)
    (he : e.has .endOfInput = true) (ho : openFeed disk s.device = .ok s₀)
    (hr₀ : Ivf.readFrame s₀.rest = .ok (frame, rest)) :
    s.next disk = .ok (⟨frame, s₀.frameDuration⟩, { s₀ with rest := rest }) := by
  rw [hdev] at ho
  simp [Feed.next, Feed.loops, hdev, hr, he, ho, hr₀, bind, Except.bind]

/-- Any other failure to read a frame ends an IVF source, looping or not. -/
theorem Feed.next_ivf_stop {s : Feed} {e : Fault} (hdev : s.device = .file .ivf path loop name)
    (hr : Ivf.readFrame s.rest = .error e) (he : e.has .endOfInput = false) :
    s.next disk = .error (endOf e) := by
  simp [Feed.next, hdev, hr, he]

/-- An IVF source `j` frames into a pass over the frames `fs` of its file, which end at `tail`:
the open feed `s₀` at the bytes of the frames still to come. -/
def IvfAt (s₀ : Feed) (fs : List (List UInt8)) (tail : List UInt8) (j : Nat) (s : Feed) : Prop :=
  ∃ mid, s = { s₀ with rest := mid } ∧ Reads Ivf.readFrame mid (fs.drop j) tail

variable {s₀ : Feed} {fs : List (List UInt8)} {tail : List UInt8}

/-- The samples of one pass: each frame, for the time base of the file. -/
abbrev ivfPass (s₀ : Feed) (fs : List (List UInt8)) : List Sample :=
  fs.map fun f => ⟨f, s₀.frameDuration⟩

theorem IvfAt.start (hy : Reads Ivf.readFrame s₀.rest fs tail) : IvfAt s₀ fs tail 0 s₀ :=
  ⟨s₀.rest, rfl, by simpa using hy⟩

theorem IvfAt.step (hdev : s₀.device = .file .ivf path loop name) {j : Nat} {s : Feed}
    (hj : j < fs.length) (hs : IvfAt s₀ fs tail j s) :
    ∃ s', s.next disk = .ok ((ivfPass s₀ fs).getD j default, s') ∧ IvfAt s₀ fs tail (j + 1) s' := by
  obtain ⟨mid, rfl, hy⟩ := hs
  rw [List.drop_eq_getElem_cons hj] at hy
  cases hy with
  | cons hr hy =>
    have hdev' : ({ s₀ with rest := mid } : Feed).device = .file .ivf path loop name := hdev
    refine ⟨_, ?_, _, rfl, hy⟩
    rw [Feed.next_ivf_frame hdev' hr]
    simp [hj]

/-- At the end of a pass that ends cleanly a looping IVF source starts the next pass. -/
theorem IvfAt.wrap (hdev : s₀.device = .file .ivf path true name)
    (ho : openFeed disk s₀.device = .ok s₀) (hy : Reads Ivf.readFrame s₀.rest fs tail)
    (hne : fs ≠ []) {e : Fault} (ht : Ivf.readFrame tail = .error e) (he : e.has .endOfInput = true)
    {s : Feed} (hs : IvfAt s₀ fs tail fs.length s) :
    ∃ s', s.next disk = .ok ((ivfPass s₀ fs).getD 0 default, s') ∧ IvfAt s₀ fs tail 1 s' := by
  obtain ⟨mid, rfl, hmid⟩ := hs
  rw [List.drop_length] at hmid
  cases hmid
  obtain ⟨f, fs', rfl⟩ := List.exists_cons_of_ne_nil hne
  cases hy with
  | cons hr₀ hy =>
    exact ⟨_, Feed.next_ivf_rewind hdev ht he ho hr₀, _, rfl, by simpa using hy⟩

/-- At the end of a pass that ends in any other failure an IVF source fails. -/
theorem IvfAt.stop (hdev : s₀.device = .file .ivf path loop name) {e : Fault}
    (ht : Ivf.readFrame tail = .error e) (he : e.has .endOfInput = false) {s : Feed}
    (hs : IvfAt s₀ fs tail fs.length s) : s.next disk = .error (endOf e) := by
  obtain ⟨mid, rfl, hmid⟩ := hs
  rw [List.drop_length] at hmid
  cases hmid
  exact Feed.next_ivf_stop hdev ht he

end Ivf

/-! ## Ogg sources -/

section Ogg

variable {disk : Disk} {path name : String} {loop : Bool}

/-- An Ogg source `j` fresh pages into a pass over the pages `ps` of its file, which end at
`tail`: the open feed `s₀` at the bytes of some pages still to come, whose fresh pages are those
of the pass still to play. -/
def OggAt (s₀ : Feed) (ps : List Ogg.Page) (tail : List UInt8) (j : Nat) (s : Feed) : Prop :=
  ∃ mid g ps', s = { s₀ with rest := mid, lastGranule := g } ∧ Reads Ogg.readPage mid ps' tail ∧
    Ogg.fresh g ps' = (Ogg.fresh 0 ps).drop j

variable {s₀ : Feed} {ps : List Ogg.Page} {tail : List UInt8}

/-- The samples of one pass: its fresh pages, from granule position 0. -/
abbrev oggPass (ps : List Ogg.Page) : List Sample := (Ogg.fresh 0 ps).map Ogg.sampleOf

theorem OggAt.start (hg : s₀.lastGranule = 0) (hy : Reads Ogg.readPage s₀.rest ps tail) :
    OggAt s₀ ps tail 0 s₀ :=
  ⟨s₀.rest, 0, ps, by rw [← hg], hy, rfl⟩

theorem OggAt.step (hdev : s₀.device = .file .ogg path loop name) {j : Nat} {s : Feed}
    (hj : j < (Ogg.fresh 0 ps).length) (hs : OggAt s₀ ps tail j s) :
    ∃ s', s.next disk = .ok ((oggPass ps).getD j default, s') ∧ OggAt s₀ ps tail (j + 1) s' := by
  obtain ⟨mid, g, ps', rfl, hy, hf⟩ := hs
  rw [List.drop_eq_getElem_cons hj] at hf
  have hdev' : ({ s₀ with rest := mid, lastGranule := g } : Feed).device =
      .file .ogg path loop name := hdev
  have hfuel : ps'.length < mid.length + ((disk.read path).toOption.map List.length).getD 0 + 2 := by
    have := Ogg.Reads.length_le hy
    omega
  obtain ⟨rest, ps'', hy', hf', hnext⟩ :=
    @nextPage_reads disk _ _ { s₀ with rest := mid, lastGranule := g } _ false _ _ hy hf hfuel
  refine ⟨_, ?_, rest, _, ps'', rfl, hy', hf'⟩
  rw [Feed.next_ogg hdev', hnext]
  simp [hj]

/-- At the end of a pass an Ogg source skips the stale pages left and reads the tail, with fuel
for its whole file still to spare. -/
theorem OggAt.skip_to_tail (hdev : s₀.device = .file .ogg path loop name) {s : Feed}
    (hs : OggAt s₀ ps tail (Ogg.fresh 0 ps).length s) :
    ∃ g fuel, ((disk.read path).toOption.map List.length).getD 0 < fuel ∧
      s.next disk = nextPage disk (fuel + 1) false { s₀ with rest := tail, lastGranule := g } := by
  obtain ⟨mid, g, ps', rfl, hy, hf⟩ := hs
  rw [List.drop_length] at hf
  have hdev' : ({ s₀ with rest := mid, lastGranule := g } : Feed).device =
      .file .ogg path loop name := hdev
  have hlen := Ogg.Reads.length_le hy
  refine ⟨g, mid.length - ps'.length + ((disk.read path).toOption.map List.length).getD 0 + 1,
    by omega, ?_⟩
  rw [Feed.next_ogg hdev']
  dsimp only
  rw [nextPage_skip hy hf (by omega)]
  congr 1
  omega

/-- At the end of a pass that ends cleanly a looping Ogg source opens its file again and plays
the first fresh page. -/
theorem OggAt.wrap (hdev : s₀.device = .file .ogg path true name)
    (ho : openFeed disk s₀.device = .ok s₀) (hy : Reads Ogg.readPage s₀.rest ps tail)
    (hfile : s₀.rest.length ≤ ((disk.read path).toOption.map List.length).getD 0)
    (hne : Ogg.fresh 0 ps ≠ []) {e : Fault} (ht : Ogg.readPage tail = .error e)
    (he : e.has .endOfInput = true) {s : Feed} (hs : OggAt s₀ ps tail (Ogg.fresh 0 ps).length s) :
    ∃ s', s.next disk = .ok ((oggPass ps).getD 0 default, s') ∧ OggAt s₀ ps tail 1 s' := by
  obtain ⟨g, fuel, hfuel, hnext⟩ := @OggAt.skip_to_tail disk _ _ _ _ _ _ hdev _ hs
  obtain ⟨q, qs, hq⟩ := List.exists_cons_of_ne_nil hne
  have hq₀ : Ogg.fresh s₀.lastGranule ps = q :: qs := by rw [(openFeed_device ho).2, hq]
  have hlen := Ogg.Reads.length_le hy
  obtain ⟨rest, ps', hy', hf', hread⟩ :=
    @nextPage_reads disk _ _ s₀ fuel true _ _ hy hq₀ (by omega)
  have hloops : ({ s₀ with rest := tail, lastGranule := g } : Feed).loops = true := by
    simp [Feed.loops, hdev]
  refine ⟨_, ?_, rest, _, ps', rfl, hy', by rw [hf', hq]; rfl⟩
  rw [hnext, nextPage_rewind ht he hloops ho, hread]
  simp [hq]

/-- At the end of a pass that ends in any other failure an Ogg source fails. -/
theorem OggAt.stop (hdev : s₀.device = .file .ogg path loop name) {e : Fault}
    (ht : Ogg.readPage tail = .error e) (he : e.has .endOfInput = false) {s : Feed}
    (hs : OggAt s₀ ps tail (Ogg.fresh 0 ps).length s) : s.next disk = .error (endOf e) := by
  obtain ⟨g, fuel, -, hnext⟩ := hs.skip_to_tail hdev
  rw [hnext, nextPage_stop ht (by simp [he])]

end Ogg

/-! ## Looping over a whole file -/

/-- What a looping source does from `s₀`, given the samples `pass` of one pass over its file and
the failure `e` of the reader on what follows them: if `e` is an end of input it plays the pass
over and over and never fails; otherwise it plays the pass once and then fails. -/
def LoopsOrStops (disk : Disk) (s₀ : Feed) (pass : List Sample) (e : Fault) : Prop :=
  (e.has .endOfInput = true → pass ≠ [] →
    ∀ k, Sim.takeSamples disk k s₀ = (cyclic pass 0 k, none)) ∧
  (e.has .endOfInput = false → Sim.takeSamples disk (pass.length + 1) s₀ = (pass, some (endOf e)))

section Whole

variable {disk : Disk} {path name : String} {s₀ : Feed} {tail : List UInt8} {e : Fault}

theorem ivf_source_loops_or_stops {fs : List (List UInt8)}
    (ho : openFeed disk (.file .ivf path true name) = .ok s₀)
    (hy : Reads Ivf.readFrame s₀.rest fs tail) (ht : Ivf.readFrame tail = .error e) :
    LoopsOrStops disk s₀ (ivfPass s₀ fs) e := by
  obtain ⟨hdev, -⟩ := openFeed_device ho
  rw [← hdev] at ho
  have hstep : ∀ j s, j < (ivfPass s₀ fs).length → IvfAt s₀ fs tail j s →
      ∃ s', s.next disk = .ok ((ivfPass s₀ fs).getD j default, s') ∧ IvfAt s₀ fs tail (j + 1) s' :=
    fun j s hj hs => IvfAt.step hdev (by simpa using hj) hs
  refine ⟨fun he hne k => ?_, fun he => ?_⟩
  · -- a clean end: each pass is followed by the next
    have hne' : fs ≠ [] := by simpa using hne
    exact takeSamples_cyclic hstep hne
      (fun s hs => IvfAt.wrap hdev ho hy hne' ht he (by simpa using hs)) k 0 s₀ (Nat.zero_le _)
      (IvfAt.start hy)
  · -- any other failure ends the first pass
    have hpass := takeSamples_pass hstep (fun s hs => IvfAt.stop hdev ht he (by simpa using hs))
      (ivfPass s₀ fs).length s₀ le_rfl (by simpa using IvfAt.start hy)
    simpa using hpass

theorem ogg_source_loops_or_stops {ps : List Ogg.Page}
    (ho : openFeed disk (.file .ogg path true name) = .ok s₀)
    (hy : Reads Ogg.readPage s₀.rest ps tail) (ht : Ogg.readPage tail = .error e) :
    LoopsOrStops disk s₀ (oggPass ps) e := by
  have hfile := openFeed_ogg_rest ho
  obtain ⟨hdev, hg⟩ := openFeed_device ho
  rw [← hdev] at ho
  have hstep : ∀ j s, j < (oggPass ps).length → OggAt s₀ ps tail j s →
      ∃ s', s.next disk = .ok ((oggPass ps).getD j default, s') ∧ OggAt s₀ ps tail (j + 1) s' :=
    fun j s hj hs => OggAt.step hdev (by simpa using hj) hs
  refine ⟨fun he hne k => ?_, fun he => ?_⟩
  · -- a clean end: each pass is followed by the next
    have hne' : Ogg.fresh 0 ps ≠ [] := by simpa using hne
    exact takeSamples_cyclic hstep hne
      (fun s hs => OggAt.wrap hdev ho hy hfile hne' ht he (by simpa using hs)) k 0 s₀
      (Nat.zero_le _) (OggAt.start hg hy)
  · -- any other failure ends the first pass
    have hpass := takeSamples_pass hstep (fun s hs => OggAt.stop hdev ht he (by simpa using hs))
      (oggPass ps).length s₀ le_rfl (by simpa using OggAt.start hg hy)
    simpa using hpass

end Whole

/-- A looping source plays its file over and over exactly when the file ends cleanly. The bytes
of a file read as units (IVF frames, Ogg pages) up to a tail on which the reader fails: if it
fails there with an end of input, the source replays the samples of one pass for ever and never
fails; if it fails otherwise, as on a truncated frame or page, the source plays one pass and then
fails. -/
theorem looping_source_cycles_iff_clean_end (disk : Disk) (path name : String) (s₀ : Feed)
    (tail : List UInt8) (e : Fault) :
    (∀ fs : List (List UInt8), openFeed disk (.file .ivf path true name) = .ok s₀ →
      Reads Ivf.readFrame s₀.rest fs tail → Ivf.readFrame tail = .error e →
      LoopsOrStops disk s₀ (ivfPass s₀ fs) e) ∧
    (∀ ps : List Ogg.Page, openFeed disk (.file .ogg path true name) = .ok s₀ →
      Reads Ogg.readPage s₀.rest ps tail → Ogg.readPage tail = .error e →
      LoopsOrStops disk s₀ (oggPass ps) e) :=
  ⟨fun _ ho hy ht => ivf_source_loops_or_stops ho hy ht,
    fun _ ho hy ht => ogg_source_loops_or_stops ho hy ht⟩

/-! ## Sample files -/

/-- The header of a VP8 file of 64×48 frames at 30 frames a second. -/
def Ivf.sampleHeader : List UInt8 :=
  [0x44, 0x4B, 0x49, 0x46, 0x00, 0x00, 0x20, 0x00, 0x56, 0x50, 0x38, 0x30, 0x40, 0x00, 0x30, 0x00,
   0x1E, 0x00, 0x00, 0x00, 0x01, 0x00, 0x00, 0x00, 0x01, 0x00, 0x00, 0x00, 0x00, 0x00, 0x00, 0x00]

/-- A frame of three bytes. -/
def Ivf.sampleFrame : List UInt8 :=
  [0x03, 0x00, 0x00, 0x00, 0x00, 0x00, 0x00, 0x00, 0x00, 0x00, 0x00, 0x00, 0x10, 0x02, 0x00]

/-- A camera on a file of one frame and a microphone on a file of one 20 ms page, both ending
cleanly, replay their one sample for ever. -/
theorem looping_devices_replay_their_file :
    let camera : Disk := ⟨[(Sim.benchPath, Ivf.sampleHeader ++ Ivf.sampleFrame)]⟩
    let cam₀ : Feed := ⟨.file .ivf Sim.benchPath true "camera", "video/VP8", Ivf.sampleFrame,
      33333333, 0⟩
    let mic : Disk := ⟨[(Sim.benchPath, Ogg.opusHeadPage ++ Ogg.firstAudioPage)]⟩
    let mic₀ : Feed := ⟨.file .ogg Sim.benchPath true "mic", "audio/opus", Ogg.firstAudioPage, 0, 0⟩
    let audio : Ogg.Page := ⟨[0x4F, 0x67, 0x67, 0x53], 0, 960, [0xFC, 0xFF, 0xFE]⟩
    (openFeed camera (.file .ivf Sim.benchPath true "camera") = .ok cam₀ ∧
      Reads Ivf.readFrame cam₀.rest [[0x10, 0x02, 0x00]] [] ∧ Ivf.readFrame [] = .error Fault.eof ∧
      LoopsOrStops camera cam₀ (ivfPass cam₀ [[0x10, 0x02, 0x00]]) Fault.eof) ∧
    (openFeed mic (.file .ogg Sim.benchPath true "mic") = .ok mic₀ ∧
      Reads Ogg.readPage mic₀.rest [audio] [] ∧ Ogg.readPage [] = .error Fault.eof ∧
      LoopsOrStops mic mic₀ (oggPass [audio]) Fault.eof) := by
  intro camera cam₀ mic mic₀ audio
  have hdur : Ivf.frameDuration ⟨[0x56, 0x50, 0x38, 0x30], 30, 1⟩ = 33333333 := by decide +kernel
  have hcam : openFeed camera (.file .ivf Sim.benchPath true "camera") = .ok cam₀ := by
    rw [@openFeed_ivf_ok camera _ _ _ (Ivf.sampleHeader ++ Ivf.sampleFrame) Ivf.sampleFrame
      ⟨[0x56, 0x50, 0x38, 0x30], 30, 1⟩ (by decide) (by decide +kernel) (by decide +kernel) rfl, hdur]
  have hframe : Reads Ivf.readFrame cam₀.rest [[0x10, 0x02, 0x00]] [] :=
    .cons (by decide +kernel) (.nil [])
  have hmic : openFeed mic (.file .ogg Sim.benchPath true "mic") = .ok mic₀ :=
    @openFeed_ogg_ok mic _ _ _ (Ogg.opusHeadPage ++ Ogg.firstAudioPage) Ogg.firstAudioPage
      (by decide) (by decide +kernel) (by decide +kernel)
  have hpage : Reads Ogg.readPage mic₀.rest [audio] [] := .cons (by decide +kernel) (.nil [])
  have hivf : Ivf.readFrame [] = .error Fault.eof := by decide
  have hogg : Ogg.readPage [] = .error Fault.eof := by decide
  exact ⟨⟨hcam, hframe, hivf,
      (looping_source_cycles_iff_clean_end camera _ _ cam₀ [] Fault.eof).1 _ hcam hframe hivf⟩,
    ⟨hmic, hpage, hogg,
      (looping_source_cycles_iff_clean_end mic _ _ mic₀ [] Fault.eof).2 _ hmic hpage hogg⟩⟩

/-- The file of one frame followed by five bytes, too few for a frame header. -/
def Ivf.truncatedDisk : Disk :=
  ⟨[(Sim.benchPath, Ivf.sampleHeader ++ Ivf.sampleFrame ++ [0x01, 0x02, 0x03, 0x04, 0x05])]⟩

/-- The file of one 20 ms page followed by the first five bytes of a page header. -/
def Ogg.truncatedDisk : Disk :=
  ⟨[(Sim.benchPath,
    Ogg.opusHeadPage ++ Ogg.opusTagsPage ++ Ogg.firstAudioPage ++ [0x4F, 0x67, 0x67, 0x53, 0x00])]⟩

/-- A looping device whose file ends in a truncated frame or page does not start over: the
camera fails with the reader's own error, and the microphone with an end of file. -/
theorem truncated_tail_stops_looping_devices :
    ((openFeed Ivf.truncatedDisk (.file .ivf Sim.benchPath true "camera")).toOption.map
      fun s => Sim.takeSamples Ivf.truncatedDisk 3 s) =
      some ([⟨[0x10, 0x02, 0x00], 33333333⟩], some (Fault.plain "incomplete frame header")) ∧
    ((openFeed Ogg.truncatedDisk (.file .ogg Sim.benchPath true "mic")).toOption.map
      fun s => Sim.takeSamples Ogg.truncatedDisk 3 s) =
      some ([⟨[0xFC, 0xFF, 0xFE], 20000000⟩], some Fault.eof) := by
  constructor
  · decide +kernel
  · decide +kernel

end MeshCall.Media
