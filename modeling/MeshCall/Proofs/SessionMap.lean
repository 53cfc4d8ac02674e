import Mathlib.Data.Finmap
import MeshCall.Proofs.Tables
/-!
# The registry is a finite map

A registry keeps its sessions in a list, and stands for the finite map from remote id to session
that the same operations build on a `Finmap`. Whatever sequence of upserts, removals and drains
built it, the registry finds by id what the map holds, counts the map's domain, lists the map's
sessions strictly by id, and drains them in that order. An upsert hands back the entry it
overwrites; a removal deletes the entry of its id only when that entry is the very same session,
so a session that was displaced never evicts the one that replaced it.

The invariant that carries this is `Registry.Represents`: one session per id, and `get?` agreeing
with the map's lookup. Each operation keeps it, and so a sequence of them does
(`Represents.replay`).
-/

namespace MeshCall

/-- The finite map from remote id to session that a registry stands for. -/
abbrev SessionMap := Finmap fun _ : String => Session

namespace Registry

/-- The operations that change a registry; `get?`, `len` and `snapshot` only read it. -/
inductive Op where
  | upsert (s : Session)
  | remove (s : Session)
  | drain
  deriving DecidableEq, Repr

/-- An operation on the registry itself. -/
def Op.run : Op → Registry → Registry
  | .upsert s, r => (r.upsert s).1
  | .remove s, r => (r.remove s).1
  | .drain, r => r.drain.2

/-- The operation on the map: an upsert sets the entry of its id, a removal deletes the entry of
its id if that is the very same session, and a drain empties the map. -/
def Op.onMap : Op → SessionMap → SessionMap
  | .upsert s, M => M.insert s.id s
  | .remove s, M => if (M.lookup s.id).any (·.same s) then M.erase s.id else M
  | .drain, _ => ∅

/-- The registry a sequence of operations builds from an empty one. -/
def replay (ops : List Op) : Registry := ops.foldl (fun r op => op.run r) {}

/-- The map the same sequence builds from the empty map. -/
def replayMap (ops : List Op) : SessionMap := ops.foldl (fun M op => op.onMap M) ∅

variable {r : Registry} {s : Session} {k : String}

/-! ## What each operation does to the list -/

/-- An upsert hands back the session the id had. -/
theorem upsert_snd : (r.upsert s).2 = r.get? s.id := by
  unfold upsert
  split <;> simp_all

/-- After an upsert the id finds the new session, and every other id what it found before. -/
theorem get?_upsert : (r.upsert s).1.get? k = if k = s.id then some s else r.get? k := by
  unfold upsert
  split
  · rename_i old hold
    simp only [get?, List.find?_map]
    by_cases e : k = s.id
    · subst e
      -- the entries overwritten are exactly those of the id, and the first of them is `old`
      have hp : ((fun x : Session => x.id == s.id) ∘
          fun x => if x.id == s.id then s else x) = fun x => x.id == s.id := by
        funext x; by_cases hx : x.id = s.id <;> simp [hx]
      have hid : old.id = s.id := (get?_eq_some hold).2
      rw [hp, show List.find? (fun x => x.id == s.id) r.sessions = some old from hold]
      simp [hid]
    · have hp : ((fun x : Session => x.id == k) ∘
          fun x => if x.id == s.id then s else x) = fun x => x.id == k := by
        funext x
        by_cases hx : x.id = s.id
        · simp [hx]
        · simp [hx]
      rw [hp, if_neg e]
      cases hf : List.find? (fun x => x.id == k) r.sessions with
      | none => rfl
      | some y =>
        have hy : y.id = k := by simpa using List.find?_some hf
        simp [hy, e]
  · rename_i hnone
    simp only [get?, List.find?_append]
    by_cases e : k = s.id
    · subst e
      simp [show List.find? (fun x => x.id == s.id) r.sessions = none from hnone]
    · simp [e, Ne.symm e]

/-- An upsert keeps one session per id. -/
theorem nodup_upsert (hn : (r.sessions.map (·.id)).Nodup) :
    ((r.upsert s).1.sessions.map (·.id)).Nodup := by
  unfold upsert
  split
  · -- overwriting in place keeps every id where it was
    have hids : (r.sessions.map fun x => if x.id == s.id then s else x).map (·.id) =
        r.sessions.map (·.id) := by
      rw [List.map_map]
      refine List.map_congr_left fun x _ => ?_
      by_cases hx : x.id = s.id <;> simp [hx]
    rw [hids]
    exact hn
  · rename_i hnone
    rw [List.map_append, List.nodup_append]
    refine ⟨hn, List.nodup_singleton _, fun a ha b hb e => ?_⟩
    simp only [List.map_cons, List.map_nil, List.mem_singleton] at hb
    have hmem : s.id ∈ r.sessions.map (·.id) := by rw [← hb, ← e]; exact ha
    exact id_not_mem_of_get?_eq_none hnone hmem

/-- A removal answers whether the id held the very same session. -/
theorem remove_snd : (r.remove s).2 = (r.get? s.id).any (·.same s) := by
  unfold remove
  split
  · split <;> simp_all
  · simp_all

/-- Taking out the entries of the id leaves every other id as it was. -/
theorem get?_filter_ne : (⟨r.sessions.filter (·.id != s.id)⟩ : Registry).get? k =
    if k = s.id then none else r.get? k := by
  split
  · rename_i e
    subst e
    exact get?_filter_self
  · rename_i e
    simp only [get?, List.find?_filter]
    refine List.find?_congr fun a _ => ?_
    by_cases ha : a.id = k
    · simp [ha, e]
    · simp [ha]

/-- A removal that found its session leaves the id without one, and every other id as it was. -/
theorem get?_remove :
    (r.remove s).1.get? k = if (r.get? s.id).any (·.same s) ∧ k = s.id then none else r.get? k := by
  unfold remove
  split
  · rename_i cur hcur
    split
    · rename_i hsame
      rw [get?_filter_ne]
      simp [hcur, hsame]
    · rename_i hsame
      simp [hcur, hsame]
  · rename_i hnone
    simp [hnone]

theorem nodup_remove (hn : (r.sessions.map (·.id)).Nodup) :
    ((r.remove s).1.sessions.map (·.id)).Nodup := by
  unfold remove
  split
  · split
    · exact hn.sublist (List.filter_sublist.map _)
    · exact hn
  · exact hn

/-- In byte order of ids, not before is at or after. -/
theorem not_idBefore_iff {a b : String} : (!idBefore b a) = true ↔ a ≤ b := by
  simp only [idBefore, Bool.not_eq_eq_eq_not, Bool.not_true, decide_eq_false_iff_not, not_lt]

/-! ## The invariant -/

/-- A registry stands for a map when it holds one session per id and finds by id what the map
holds. -/
structure Represents (r : Registry) (M : SessionMap) : Prop where
  nodup : (r.sessions.map (·.id)).Nodup
  get? : ∀ id, r.get? id = M.lookup id

namespace Represents

variable {M : SessionMap}

theorem empty : Represents {} ∅ where
  nodup := List.nodup_nil
  get? _ := rfl

theorem upsert (h : Represents r M) (s : Session) : Represents (r.upsert s).1 (M.insert s.id s) where
  nodup := nodup_upsert h.nodup
  get? k := by
    rw [get?_upsert]
    by_cases e : k = s.id
    · subst e
      simp
    · simp [e, Finmap.lookup_insert_of_ne _ e, h.get?]

theorem remove (h : Represents r M) (s : Session) :
    Represents (r.remove s).1 ((Op.remove s).onMap M) where
  nodup := nodup_remove h.nodup
  get? k := by
    rw [get?_remove, h.get? s.id, h.get? k]
    simp only [Op.onMap]
    by_cases hs : (M.lookup s.id).any (·.same s) = true
    · by_cases e : k = s.id
      · subst e
        simp [hs]
      · simp [hs, e, Finmap.lookup_erase_ne e]
    · simp [hs]

theorem run (h : Represents r M) : ∀ op : Op, Represents (op.run r) (op.onMap M)
  | .upsert s => h.upsert s
  | .remove s => h.remove s
  | .drain => empty

/-- Every sequence of operations keeps the invariant, run on both sides from where it holds. -/
theorem foldl (h : Represents r M) (ops : List Op) :
    Represents (ops.foldl (fun r op => op.run r) r) (ops.foldl (fun M op => op.onMap M) M) := by
  induction ops generalizing r M with
  | nil => exact h
  | cons op ops ih => exact ih (h.run op)

theorem replay (ops : List Op) : Represents (Registry.replay ops) (replayMap ops) :=
  empty.foldl ops

/-! ## What reading the registry gives -/

/-- The registry's length is the size of the map's domain. -/
theorem len (h : Represents r M) : r.len = M.keys.card := by
  have hkeys : M.keys = (r.sessions.map (·.id)).toFinset := by
    ext id
    rw [Finmap.mem_keys, ← Finmap.lookup_isSome, ← h.get? id, List.mem_toFinset]
    constructor
    · intro hs
      obtain ⟨x, hx⟩ := Option.isSome_iff_exists.mp hs
      obtain ⟨hm, hid⟩ := get?_eq_some hx
      exact hid ▸ List.mem_map_of_mem hm
    · intro hm
      cases hx : r.get? id with
      | none => exact absurd hm (id_not_mem_of_get?_eq_none hx)
      | some _ => rfl
  rw [hkeys, List.toFinset_card_of_nodup h.nodup, List.length_map]
  rfl

/-- The snapshot holds exactly the sessions of the map. -/
theorem mem_snapshot (h : Represents r M) : s ∈ r.snapshot ↔ M.lookup s.id = some s := by
  rw [snapshot_perm.mem_iff, ← h.get? s.id]
  exact ⟨get?_of_mem h.nodup, fun hs => (get?_eq_some hs).1⟩

/-- With one session per id, the snapshot's ids are strictly increasing. -/
theorem snapshot_sortedLT (h : Represents r M) : (r.snapshot.map (·.id)).SortedLT := by
  -- the merge sort orders by "not after", which is `≤` on ids
  have hle : r.snapshot.Pairwise fun a b => (!idBefore b.id a.id) = true :=
    @List.pairwise_mergeSort _ (fun a b => !idBefore b.id a.id)
      (fun a b c hab hbc => not_idBefore_iff.mpr
        ((not_idBefore_iff.mp hab).trans (not_idBefore_iff.mp hbc)))
      (fun a b => by
        rw [Bool.or_eq_true, not_idBefore_iff, not_idBefore_iff]
        exact le_total a.id b.id)
      r.sessions
  have hne : r.snapshot.Pairwise fun a b => a.id ≠ b.id :=
    List.pairwise_map.mp (List.nodup_iff_pairwise_ne.mp
      ((snapshot_perm.map (·.id)).nodup_iff.mpr h.nodup))
  rw [List.sortedLT_iff_pairwise, List.pairwise_map]
  exact (hle.and hne).imp fun ⟨hab, hne⟩ => lt_of_le_of_ne (not_idBefore_iff.mp hab) hne

end Represents

end Registry

/-- A registry is a finite map. Run any sequence of upserts, removals and drains on an empty
registry and on an empty `Finmap`: the registry then finds by id what the map holds, its length
is the size of the map's domain, its snapshot lists the map's sessions with strictly increasing
ids, and draining hands back that snapshot. An upsert hands back the map's entry for the id (and
`Op.onMap` overwrites it); a removal reports, and performs, a deletion exactly when the map holds
the very same session under its id. -/
theorem registry_is_finite_map (ops : List Registry.Op) :
    let r := Registry.replay ops
    let M := Registry.replayMap ops
    (∀ id, r.get? id = M.lookup id) ∧ r.len = M.keys.card ∧
      (r.snapshot.map (·.id)).SortedLT ∧ (∀ s, s ∈ r.snapshot ↔ M.lookup s.id = some s) ∧
      r.drain.1 = r.snapshot ∧ (∀ s, (r.upsert s).2 = M.lookup s.id) ∧
      (∀ s, (r.remove s).2 = true ↔ ∃ cur, M.lookup s.id = some cur ∧ cur.same s = true) := by
  intro r M
  have h : Registry.Represents r M := Registry.Represents.replay ops
  refine ⟨h.get?, h.len, h.snapshot_sortedLT, fun s => h.mem_snapshot, rfl,
    fun s => ?_, fun s => ?_⟩
  · rw [Registry.upsert_snd, h.get?]
  · rw [Registry.remove_snd, h.get?, Option.any_eq_true]

end MeshCall
