import Mathlib
import MeshCall.Proofs.Playback.Looping
/-!
# One call of an Ogg source ends

A call for the next sample of an Ogg source reads pages until one moves the granule position on.
When reading meets the end of the bytes, a looping source opens its file again, at most once in a
call: the flag that says it did is all that keeps a file without audio pages from being opened
over and over.

`PageRun disk rw s n r` is the loop of one call as rules, with no fuel: from the feed `s`, opened
again in this call (`rw`) or not, the call ends with `r` after opening its file `n` times. The
rules leave no choice (`PageRun.unique`), and a run exists from every feed (`PageRun.exists_run`):
every page read takes at least its 27-byte header, so the pair (`rw`, bytes left) goes down at
every turn of the loop, the bytes left growing back only when the flag is set. The fuel that
`nextPage` is given covers every turn (`PageRun.nextPage_eq`), so a call returns what its run ends
with.

Main statement (`ogg_call_ends_within_one_reopen`): from any feed of an Ogg device, looping or
not, a call ends after opening its file at most once, with a page above the last granule position
(above 0 once the file was opened again) or a failure; on a looping file whose pages carry no
audio it ends with the end of file.
-/

namespace MeshCall.Media

open Envelope (bind_eq_ok)

/-! ## Failures of the page reader -/

theorem bind_eq_error {ε α β : Type} {x : Except ε α} {f : α → Except ε β} {e : ε}
    (h : (x >>= f) = .error e) : x = .error e ∨ ∃ a, x = .ok a ∧ f a = .error e := by
  cases x with
  | error e' =>
    cases h
    exact .inl rfl
  | ok a => exact .inr ⟨a, rfl, h⟩

theorem readFull_error {n : Nat} {bs : List UInt8} {e : Fault} (h : readFull n bs = .error e) :
    e = Fault.eof ∨ e = Fault.unexpectedEof := by
  unfold readFull at h
  split_ifs at h <;> cases h <;> simp

/-- Reading a page fails with the end of the bytes, with a truncated page, or with a fault that is
neither. -/
theorem Ogg.readPage_error {bs : List UInt8} {e : Fault} (h : Ogg.readPage bs = .error e) :
    e = Fault.eof ∨ e = Fault.unexpectedEof ∨
      (e.has .endOfInput = false ∧ e.has .truncated = false) := by
  unfold Ogg.readPage at h
  obtain h₁ | ⟨⟨hd, r₁⟩, -, h⟩ := bind_eq_error h
  · exact (readFull_error h₁).imp_right Or.inl
  obtain h₂ | ⟨⟨tb, r₂⟩, -, h⟩ := bind_eq_error h
  · exact (readFull_error h₂).imp_right Or.inl
  obtain h₃ | ⟨⟨pl, r₃⟩, -, h⟩ := bind_eq_error h
  · exact (readFull_error h₃).imp_right Or.inl
  -- past the three reads only the checksum can fail
  simp only [bind, Except.bind, pure, Except.pure] at h
  split at h
  · cases h
    simp [Fault.has, Fault.plain]
  · cases h

/-- A page reader that meets the end of the bytes, or a truncated page, ends the call with the end
of file. -/
theorem Ogg.endOf_readPage {bs : List UInt8} {e : Fault} (h : Ogg.readPage bs = .error e)
    (hend : e.has .endOfInput = true ∨ e.has .truncated = true) : endOf e = Fault.eof := by
  rcases Ogg.readPage_error h with rfl | rfl | ⟨h₁, h₂⟩
  · decide
  · decide
  · simp [h₁, h₂] at hend

/-! ## The loop of one call -/

/-- The loop of one call for the next sample of an Ogg source, turn by turn: from the feed `s`,
opened again in this call already (`rw`) or not, the call ends with `r` after opening its file
`n` times. -/
inductive PageRun (disk : Disk) : Bool → Feed → Nat → Except Fault (Sample × Feed) → Prop
  /-- A page above the last granule position is played. -/
  | fresh {rw : Bool} {s : Feed} {p : Ogg.Page} {rest : List UInt8} :
      Ogg.readPage s.rest = .ok (p, rest) → s.lastGranule < p.granule →
      PageRun disk rw s 0
        (.ok (Ogg.sampleOf (p, s.lastGranule), { s with rest := rest, lastGranule := p.granule }))
  /-- Any other page is skipped. -/
  | stale {rw : Bool} {s : Feed} {p : Ogg.Page} {rest : List UInt8} {n : Nat}
      {r : Except Fault (Sample × Feed)} :
      Ogg.readPage s.rest = .ok (p, rest) → p.granule ≤ s.lastGranule →
      PageRun disk rw { s with rest := rest } n r → PageRun disk rw s n r
  /-- At the end of its bytes a looping source opens its file again, once. -/
  | reopen {s s' : Feed} {e : Fault} {n : Nat} {r : Except Fault (Sample × Feed)} :
      Ogg.readPage s.rest = .error e → e.has .endOfInput = true → s.loops = true →
      openFeed disk s.device = .ok s' → PageRun disk true s' n r → PageRun disk false s (n + 1) r
  /-- Opening the file again fails. -/
  | reopenFails {s : Feed} {e e' : Fault} :
      Ogg.readPage s.rest = .error e → e.has .endOfInput = true → s.loops = true →
      openFeed disk s.device = .error e' → PageRun disk false s 1 (.error e')
  /-- Any other failure to read ends the call, an unexpected end counting as the end. -/
  | stop {rw : Bool} {s : Feed} {e : Fault} :
      Ogg.readPage s.rest = .error e → ¬(e.has .endOfInput = true ∧ s.loops = true ∧ rw = false) →
      PageRun disk rw s 0 (.error (endOf e))

/-- What a call that plays a page returns: a page above the granule position `base`, played for
the positions it moved on, with the feed left at that page's position. -/
def Plays (base : Nat) : Except Fault (Sample × Feed) → Prop
  | .ok (x, s') => ∃ p : Ogg.Page, base < p.granule ∧ x = Ogg.sampleOf (p, base) ∧
      s'.lastGranule = p.granule
  | .error _ => True

namespace PageRun

variable {disk : Disk}

/-- A run opens its file at most once, and not at all once it has. -/
theorem reopens_le {rw : Bool} {s : Feed} {n : Nat} {r : Except Fault (Sample × Feed)}
    (h : PageRun disk rw s n r) : n ≤ 1 ∧ (rw = true → n = 0) := by
  induction h with
  | fresh => simp
  | stale _ _ _ ih => exact ih
  | reopen _ _ _ _ _ ih =>
    have := ih.2 rfl
    exact ⟨by omega, by simp⟩
  | reopenFails => simp
  | stop => simp

/-- The rules leave no choice: from a feed there is one run. -/
theorem unique {rw : Bool} {s : Feed} {n n' : Nat} {r r' : Except Fault (Sample × Feed)}
    (h : PageRun disk rw s n r) (h' : PageRun disk rw s n' r') : n' = n ∧ r' = r := by
  induction h generalizing n' r' with
  | fresh hr hg =>
    cases h' with
    | fresh hr' _ => rw [hr] at hr'; cases hr'; exact ⟨rfl, rfl⟩
    | stale hr' hg' _ => rw [hr] at hr'; cases hr'; omega
    | reopen hr' | reopenFails hr' | stop hr' => rw [hr] at hr'; cases hr'
  | stale hr hg _ ih =>
    cases h' with
    | fresh hr' hg' => rw [hr] at hr'; cases hr'; omega
    | stale hr' _ h' => rw [hr] at hr'; cases hr'; exact ih h'
    | reopen hr' | reopenFails hr' | stop hr' => rw [hr] at hr'; cases hr'
  | reopen hr he hl ho _ ih =>
    cases h' with
    | fresh hr' | stale hr' => rw [hr] at hr'; cases hr'
    | reopen _ _ _ ho' h' =>
      rw [ho] at ho'
      cases ho'
      obtain ⟨rfl, rfl⟩ := ih h'
      exact ⟨rfl, rfl⟩
    | reopenFails _ _ _ ho' => rw [ho] at ho'; cases ho'
    | stop hr' hstop => rw [hr] at hr'; cases hr'; exact absurd ⟨he, hl, rfl⟩ hstop
  | reopenFails hr he hl ho =>
    cases h' with
    | fresh hr' | stale hr' => rw [hr] at hr'; cases hr'
    | reopen _ _ _ ho' => rw [ho] at ho'; cases ho'
    | reopenFails _ _ _ ho' => rw [ho] at ho'; cases ho'; exact ⟨rfl, rfl⟩
    | stop hr' hstop => rw [hr] at hr'; cases hr'; exact absurd ⟨he, hl, rfl⟩ hstop
  | stop hr hstop =>
    cases h' with
    | fresh hr' | stale hr' => rw [hr] at hr'; cases hr'
    | reopen hr' he hl => rw [hr] at hr'; cases hr'; exact absurd ⟨he, hl, rfl⟩ hstop
    | reopenFails hr' he hl => rw [hr] at hr'; cases hr'; exact absurd ⟨he, hl, rfl⟩ hstop
    | stop hr' => rw [hr] at hr'; cases hr'; exact ⟨rfl, rfl⟩

/-- Every feed has a run. The pair (`rw`, bytes left) goes down at every turn: a page read takes
some bytes, and the bytes grow back only when the file is opened again, which sets `rw`. -/
theorem exists_run (rw : Bool) (s : Feed) : ∃ n r, PageRun disk rw s n r := by
  cases hr : Ogg.readPage s.rest with
  | error e =>
    by_cases hre : e.has .endOfInput = true ∧ s.loops = true ∧ rw = false
    · obtain ⟨he, hl, rfl⟩ := hre
      cases ho : openFeed disk s.device with
      | error e' => exact ⟨1, _, .reopenFails hr he hl ho⟩
      | ok s' =>
        obtain ⟨n, r, h⟩ := exists_run true s'
        exact ⟨n + 1, r, .reopen hr he hl ho h⟩
    · exact ⟨0, _, .stop hr hre⟩
  | ok pr =>
    obtain ⟨p, rest⟩ := pr
    by_cases hg : s.lastGranule < p.granule
    · exact ⟨0, _, .fresh hr hg⟩
    · have hshort : rest.length < s.rest.length := by
        have := Ogg.readPage_length hr
        omega
      obtain ⟨n, r, h⟩ := exists_run rw { s with rest := rest }
      exact ⟨n, r, .stale hr (Nat.not_lt.mp hg) h⟩
termination_by ((if rw then 0 else 1 : Nat), s.rest.length)
decreasing_by
  · exact Prod.Lex.left _ _ (by simp [‹rw = false›])
  · exact Prod.Lex.right _ hshort

/-- A run that plays a page plays one above the last granule position, or above 0 once the file
was opened again. -/
theorem plays {rw : Bool} {s : Feed} {n : Nat} {r : Except Fault (Sample × Feed)}
    (h : PageRun disk rw s n r) : Plays (if n = 0 then s.lastGranule else 0) r := by
  induction h with
  | fresh _ hg => exact ⟨_, hg, rfl, rfl⟩
  | stale _ _ _ ih => exact ih
  | reopen _ _ _ ho _ ih =>
    rw [(openFeed_device ho).2] at ih
    simpa using ih
  | reopenFails => trivial
  | stop => trivial

/-- Stale pages ahead are skipped. -/
theorem skip {ps : List Ogg.Page} {tail : List UInt8} :
    ∀ {rw : Bool} {s : Feed} {n : Nat} {r : Except Fault (Sample × Feed)},
    Reads Ogg.readPage s.rest ps tail → Ogg.fresh s.lastGranule ps = [] →
    PageRun disk rw { s with rest := tail } n r → PageRun disk rw s n r := by
  induction ps with
  | nil =>
    intro rw s n r hy _ h
    cases hy
    exact h
  | cons p ps ih =>
    intro rw s n r hy hf h
    cases hy with
    | cons hr hy =>
      -- a page above the last position would have been fresh
      have hg : p.granule ≤ s.lastGranule := by
        by_contra hlt
        simp [Ogg.fresh, Nat.not_le.mp hlt] at hf
      simp only [Ogg.fresh, Nat.not_lt.mpr hg, if_false] at hf
      exact .stale hr hg (ih (s := { s with rest := _ }) hy hf h)

end PageRun

/-! ## What a call returns -/

section NextPage

variable {disk : Disk}

theorem nextPage_reopen_fails {fuel : Nat} {s : Feed} {e e' : Fault}
    (hr : Ogg.readPage s.rest = .error e) (he : e.has .endOfInput = true) (hl : s.loops = true)
    (ho : openFeed disk s.device = .error e') : nextPage disk (fuel + 1) false s = .error e' := by
  simp [nextPage, hr, he, hl, ho]

/-- The fuel `nextPage` is given covers every turn of a run: one per page left, and, while the
file may still be opened again, one more and one per byte of the file. -/
theorem PageRun.nextPage_eq {rw : Bool} {s : Feed} {n : Nat} {r : Except Fault (Sample × Feed)}
    (h : PageRun disk rw s n r) {path name : String} {loop : Bool}
    (hdev : s.device = .file .ogg path loop name) (fuel : Nat)
    (hfuel : s.rest.length +
      (if rw then 0 else ((disk.read path).toOption.map List.length).getD 0 + 1) < fuel) :
    nextPage disk fuel rw s = r := by
  induction h generalizing fuel with
  | fresh hr hg =>
    obtain ⟨fuel, rfl⟩ : ∃ f, fuel = f + 1 := ⟨fuel - 1, by omega⟩
    exact nextPage_fresh hr hg
  | stale hr hg _ ih =>
    obtain ⟨fuel, rfl⟩ : ∃ f, fuel = f + 1 := ⟨fuel - 1, by omega⟩
    have := Ogg.readPage_length hr
    rw [nextPage_stale hr hg]
    exact ih hdev fuel (by simp only at hfuel ⊢; omega)
  | reopen hr he hl ho _ ih =>
    obtain ⟨fuel, rfl⟩ : ∃ f, fuel = f + 1 := ⟨fuel - 1, by omega⟩
    obtain ⟨hdev', -⟩ := openFeed_device ho
    rw [hdev] at ho hdev'
    have hfile := openFeed_ogg_rest ho
    rw [nextPage_rewind hr he hl (by rw [hdev]; exact ho)]
    exact ih hdev' fuel (by simp only [Bool.false_eq_true, ↓reduceIte] at hfuel ⊢; omega)
  | reopenFails hr he hl ho =>
    obtain ⟨fuel, rfl⟩ : ∃ f, fuel = f + 1 := ⟨fuel - 1, by omega⟩
    exact nextPage_reopen_fails hr he hl ho
  | stop hr hstop =>
    obtain ⟨fuel, rfl⟩ : ∃ f, fuel = f + 1 := ⟨fuel - 1, by omega⟩
    exact nextPage_stop hr hstop

end NextPage

/-- Every call for the next sample of an Ogg source ends, looping or not: the loop of the call has
one run, which opens the file at most once, and the call returns what it ends with, a page above
the last granule position (above 0 once the file was opened again) or a failure. On a looping
file whose pages after the header all stand at granule position 0, and which ends cleanly or in a
truncated page, the call on the open file ends with the end of file instead of opening it over
and over. -/
theorem ogg_call_ends_within_one_reopen (disk : Disk) (path name : String) (loop : Bool) :
    (∀ s : Feed, s.device = .file .ogg path loop name →
      ∃ n r, PageRun disk false s n r ∧ (∀ n' r', PageRun disk false s n' r' → n' = n ∧ r' = r) ∧
        n ≤ 1 ∧ s.next disk = r ∧ Plays (if n = 0 then s.lastGranule else 0) r) ∧
    (loop = true → ∀ (s₀ : Feed) (ps : List Ogg.Page) (tail : List UInt8) (e : Fault),
      openFeed disk (.file .ogg path loop name) = .ok s₀ → Reads Ogg.readPage s₀.rest ps tail →
      (∀ p ∈ ps, p.granule = 0) → Ogg.readPage tail = .error e →
      (e.has .endOfInput = true ∨ e.has .truncated = true) → s₀.next disk = .error Fault.eof) := by
  have hcall : ∀ s : Feed, s.device = .file .ogg path loop name →
      ∀ n r, PageRun disk false s n r → s.next disk = r := by
    intro s hdev n r h
    rw [Feed.next_ogg hdev]
    exact h.nextPage_eq hdev _ (by simp only [Bool.false_eq_true, if_false]; omega)
  refine ⟨fun s hdev => ?_, fun hloop s₀ ps tail e ho hy hzero ht hend => ?_⟩
  · obtain ⟨n, r, h⟩ := @PageRun.exists_run disk false s
    exact ⟨n, r, h, fun _ _ h' => h.unique h', h.reopens_le.1, hcall s hdev n r h, h.plays⟩
  · obtain ⟨hdev, hg⟩ := openFeed_device ho
    subst hloop
    -- no page of the file moves the granule position on from 0
    have hstale : Ogg.fresh s₀.lastGranule ps = [] := by
      rw [hg]
      clear hy
      induction ps with
      | nil => rfl
      | cons p ps ih =>
        simp only [List.mem_cons, forall_eq_or_imp] at hzero
        simp [Ogg.fresh, hzero.1, ih hzero.2]
    have hloops : ({ s₀ with rest := tail } : Feed).loops = true := by simp [Feed.loops, hdev]
    have hrun : PageRun disk false s₀ (if e.has .endOfInput then 1 else 0) (.error (endOf e)) := by
      apply PageRun.skip hy hstale
      by_cases he : e.has .endOfInput = true
      · -- the end of the bytes: the file is opened again, read through, and the call ends
        rw [if_pos he]
        refine .reopen ht he hloops (by rw [← hdev] at ho; exact ho) (PageRun.skip hy hstale ?_)
        exact .stop ht (by simp)
      · rw [if_neg he]
        exact .stop ht (by simp [he])
    rw [hcall s₀ hdev _ _ hrun, Ogg.endOf_readPage ht hend]

/-- A looping microphone on a file with no audio page: the call on the open file reads the
comment page, opens the file again, reads it once more, and ends with the end of file. -/
theorem silent_microphone_call_ends :
    let disk : Disk := ⟨[(Sim.benchPath, Ogg.opusHeadPage ++ Ogg.opusTagsPage)]⟩
    let s₀ : Feed := ⟨.file .ogg Sim.benchPath true "mic", "audio/opus", Ogg.opusTagsPage, 0, 0⟩
    let tags : Ogg.Page := ⟨[0x4F, 0x67, 0x67, 0x53], 0, 0,
      [0x4F, 0x70, 0x75, 0x73, 0x54, 0x61, 0x67, 0x73, 0, 0, 0, 0, 0, 0, 0, 0]⟩
    openFeed disk (.file .ogg Sim.benchPath true "mic") = .ok s₀ ∧
    Reads Ogg.readPage s₀.rest [tags] [] ∧ Ogg.readPage [] = .error Fault.eof ∧
    (∃ n r, PageRun disk false s₀ n r ∧ (∀ n' r', PageRun disk false s₀ n' r' → n' = n ∧ r' = r) ∧
      n ≤ 1 ∧ s₀.next disk = r ∧ Plays (if n = 0 then s₀.lastGranule else 0) r) ∧
    s₀.next disk = .error Fault.eof := by
  intro disk s₀ tags
  have ho : openFeed disk (.file .ogg Sim.benchPath true "mic") = .ok s₀ :=
    @openFeed_ogg_ok disk _ _ _ (Ogg.opusHeadPage ++ Ogg.opusTagsPage) Ogg.opusTagsPage
      (by decide) (by decide +kernel) (by decide +kernel)
  have hy : Reads Ogg.readPage s₀.rest [tags] [] := .cons (by decide +kernel) (.nil [])
  have ht : Ogg.readPage [] = .error Fault.eof := by decide
  have hcall := ogg_call_ends_within_one_reopen disk Sim.benchPath "mic" true
  exact ⟨ho, hy, ht, hcall.1 s₀ rfl,
    hcall.2 rfl s₀ [tags] [] Fault.eof ho hy (by decide) ht (.inl (by decide))⟩

end MeshCall.Media
