import Mathlib
import MeshCall.Config.Flags
/-!
# The flags a command line sets

Parsing sets only the client's own flags: every flag in what `parse` returns is named in `specs`,
whether a long flag, a short one or a group of short toggles gave it (`parse_declared`). Each
way of setting a flag goes through `set` with a flag found in `specs`, so the invariant is kept
by one lemma about `set` and carried through the two loops by their functional induction.
-/

namespace MeshCall.Flags

/-- Every flag in `g` is one of the client's flags. -/
def Declared (g : Given) : Prop := ∀ e ∈ g, e.1 ∈ specs.map (·.name)

theorem byName_mem {n : String} {s : Spec} (h : byName n = some s) : s ∈ specs :=
  List.mem_of_find?_eq_some h

theorem byShort_mem {c : Char} {s : Spec} (h : byShort c = some s) : s ∈ specs :=
  List.mem_of_find?_eq_some h

/-- Setting one of the client's flags keeps every flag given one of the client's. -/
theorem Declared.set {g g' : Given} {s : Spec} {v : String} (hg : Declared g) (hs : s ∈ specs)
    (h : Flags.set g s v = .ok g') : Declared g' := by
  unfold Flags.set at h
  split at h
  · cases h
    intro e he
    rcases List.mem_append.mp he with he | he
    · exact hg e (List.mem_filter.mp he).1
    · rw [List.mem_singleton.mp he]
      exact List.mem_map_of_mem hs
  · cases h

theorem eq_ok_of_map {x : Except Failure Given} {r r' : List String} {g' : Given}
    (h : x.map (·, r) = .ok (g', r')) : x = .ok g' := by
  cases x with
  | error e => cases h
  | ok a =>
    simp only [Except.map, Except.ok.injEq, Prod.mk.injEq] at h
    rw [h.1]

/-- A long flag that parses sets one of the client's flags. -/
theorem Declared.long {g g' : Given} {s body : String} {rest rest' : List String}
    (hg : Declared g) (h : Flags.long s body rest g = .ok (g', rest')) : Declared g' := by
  unfold Flags.long at h
  split at h
  · cases h
  split at h
  split at h
  · -- no flag of that name
    split at h <;> cases h
  rename_i spec hspec
  have hs := byName_mem hspec
  -- the value follows `=`, is implied for a toggle, or is the next argument
  split at h
  · exact hg.set hs (eq_ok_of_map h)
  split at h
  · exact hg.set hs (eq_ok_of_map h)
  split at h
  · exact hg.set hs (eq_ok_of_map h)
  · cases h

/-- A group of short flags that parses sets only the client's flags. -/
theorem Declared.short_go {rest : List String} {n : Nat} {cs : List Char} {g g' : Given}
    {out rest' : List String} (hg : Declared g) (h : short.go rest n cs g out = .ok (g', rest')) :
    Declared g' := by
  fun_induction short.go rest n cs g out
  case case1 | case2 | case3 => cases h; exact hg
  case case4 | case5 | case8 => cases h
  case case6 hspec _ _ _ _ => exact hg.set (byShort_mem hspec) (eq_ok_of_map h)
  case case7 hspec _ _ hset _ ih =>
    -- a toggle in the group is set and the rest of the group read on
    exact ih (hg.set (byShort_mem hspec) hset) h
  case case9 hspec _ hcs _ =>
    rw [if_pos hcs] at h
    exact hg.set (byShort_mem hspec) (eq_ok_of_map h)
  case case10 hspec _ hcs _ _ _ _ =>
    rw [if_neg hcs] at h
    exact hg.set (byShort_mem hspec) (eq_ok_of_map h)
  case case11 hcs _ _ =>
    rw [if_neg hcs] at h
    cases h

theorem Declared.parse_go {n : Nat} {args : List String} {g g' : Given} (hg : Declared g)
    (h : parse.go n args g = .ok g') : Declared g' := by
  fun_induction parse.go n args g
  case case1 | case2 | case3 => cases h; exact hg
  case case4 hlong ih => exact ih (hg.long hlong) h
  case case6 hshort ih => exact ih (Declared.short_go hg hshort) h
  case case5 | case7 => cases h
  -- an argument that is no flag is passed over
  case case8 ih => exact ih hg h

/-- Parsing sets only the client's own flags. -/
theorem parse_declared {args : List String} {g : Given} (h : parse args = .ok g) : Declared g :=
  Declared.parse_go (by simp [Declared]) h

end MeshCall.Flags
