import Mathlib
import MeshCall.Call.Controller
/-!
# Lookups in the controller's tables

What the id-keyed tables of a call give back: the association lists of retries, attempts and
meters, and the session registry. The registry facts assume what every reachable registry has,
one session per id; under it a session is found by its own id, and taking out the session of an
id leaves the others in place, in order.
-/

namespace MeshCall

namespace Assoc

variable {α : Type} {xs : List (String × α)} {k : String} {v : α}

theorem mem_of_get?_eq_some (h : get? xs k = some v) : (k, v) ∈ xs := by
  obtain ⟨p, hp, rfl⟩ := Option.map_eq_some_iff.mp h
  have hk := List.find?_some hp
  simp only [beq_iff_eq] at hk
  rw [← hk]
  exact List.mem_of_find?_eq_some hp

theorem key_ne_of_get?_eq_none (h : get? xs k = none) : ∀ p ∈ xs, p.1 ≠ k := by
  intro p hp hk
  have := List.find?_eq_none.mp (Option.map_eq_none_iff.mp h) p hp
  simp [hk] at this

@[simp] theorem mem_erase {p : String × α} : p ∈ erase xs k ↔ p ∈ xs ∧ p.1 ≠ k := by
  simp [erase]

/-- An entry after setting `k` is the new one, or an entry of another key that was there. -/
theorem mem_set {p : String × α} (h : p ∈ set xs k v) : p = (k, v) ∨ (p ∈ xs ∧ p.1 ≠ k) := by
  unfold set at h
  split at h
  · obtain ⟨q, hq, rfl⟩ := List.mem_map.mp h
    by_cases e : q.1 = k
    · simp [e]
    · simp [e, hq]
  · rcases List.mem_append.mp h with hq | hq
    · rename_i hn
      exact Or.inr ⟨hq, fun e => hn (List.any_eq_true.mpr ⟨p, hq, by simp [e]⟩)⟩
    · simp only [List.mem_singleton] at hq
      exact Or.inl hq

@[simp] theorem get?_nil (k : String) : get? ([] : List (String × α)) k = none := rfl

theorem get?_cons (p : String × α) (xs : List (String × α)) (k : String) :
    get? (p :: xs) k = if p.1 = k then some p.2 else get? xs k := by
  by_cases h : p.1 = k <;> simp [get?, h]

theorem get?_append (xs ys : List (String × α)) (k : String) :
    get? (xs ++ ys) k = (get? xs k).or (get? ys k) := by
  induction xs with
  | nil => simp
  | cons p xs ih => by_cases h : p.1 = k <;> simp [get?_cons, h, ih]

theorem get?_erase (k' : String) : get? (erase xs k) k' = if k' = k then none else get? xs k' := by
  induction xs with
  | nil => simp [erase]
  | cons p xs ih =>
    by_cases hk : k' = k
    · subst hk
      by_cases hp : p.1 = k' <;> simp_all [erase, get?_cons]
    · by_cases hp : p.1 = k <;> simp_all [erase, get?_cons, Ne.symm hk]

/-- Overwriting the entries of `k` in place. -/
theorem get?_map_overwrite (k' : String) :
    get? (xs.map fun p => if p.1 == k then (k, v) else p) k' =
      if k' = k then (get? xs k).map fun _ => v else get? xs k' := by
  induction xs with
  | nil => simp
  | cons p xs ih =>
    by_cases hk : k' = k
    · subst hk
      by_cases hp : p.1 = k' <;> simp_all [get?_cons]
    · by_cases hp : p.1 = k <;> simp_all [get?_cons, Ne.symm hk]

theorem get?_set (k' : String) : get? (set xs k v) k' = if k' = k then some v else get? xs k' := by
  unfold set
  split
  · rename_i hany
    -- an entry of `k` is there, and is overwritten
    obtain ⟨⟨a, b⟩, hp, hpk⟩ := List.any_eq_true.mp hany
    have : (get? xs k).isSome := by
      simp only [beq_iff_eq] at hpk
      subst hpk
      simpa [get?] using ⟨b, hp⟩
    rw [get?_map_overwrite]
    split
    · obtain ⟨x, hx⟩ := Option.isSome_iff_exists.mp this
      simp [hx]
    · rfl
  · rename_i hany
    by_cases hk : k' = k
    · subst hk
      have : get? xs k' = none := by
        simp only [List.any_eq_true, beq_iff_eq, not_exists, not_and] at hany
        simp only [get?, Option.map_eq_none_iff, List.find?_eq_none, beq_iff_eq]
        exact fun p hp e => hany p hp e
      simp [get?_append, this, get?_cons]
    · simp [get?_append, get?_cons, hk, Ne.symm hk]

end Assoc

/-- What outlives forgetting the meter of `s`: entries of other ids, and an entry of its id
that belongs to another generation. -/
theorem mem_forgetMeter {meters : List (String × MeterRef)} {s : Session} {p : String × MeterRef}
    (h : p ∈ forgetMeter meters s) :
    p ∈ meters ∧ (p.1 = s.id → ∃ m, Assoc.get? meters s.id = some m ∧ m.gen ≠ s.gen) := by
  unfold forgetMeter at h
  split at h
  · rename_i m hm
    split at h
    · simp only [Assoc.mem_erase] at h
      exact ⟨h.1, fun e => absurd e h.2⟩
    · rename_i hg
      exact ⟨h, fun _ => ⟨m, hm, by simpa using hg⟩⟩
  · rename_i hm
    exact ⟨h, fun e => absurd e (Assoc.key_ne_of_get?_eq_none hm p h)⟩

namespace Session

variable {s : Session}

@[simp] theorem setName_id (name : String) : (s.setName name).id = s.id := by
  unfold setName; split <;> rfl

@[simp] theorem setName_state (name : String) : (s.setName name).state = s.state := by
  unfold setName; split <;> rfl

@[simp] theorem setName_gen (name : String) : (s.setName name).gen = s.gen := by
  unfold setName; split <;> rfl

@[simp] theorem setName_closeDone (name : String) : (s.setName name).closeDone = s.closeDone := by
  unfold setName; split <;> rfl

@[simp] theorem setAudio_id (audio : Bool) : (s.setAudio audio).id = s.id := rfl

@[simp] theorem setAudio_state (audio : Bool) : (s.setAudio audio).state = s.state := rfl

@[simp] theorem setAudio_gen (audio : Bool) : (s.setAudio audio).gen = s.gen := rfl

@[simp] theorem setAudio_closeDone (audio : Bool) : (s.setAudio audio).closeDone = s.closeDone :=
  rfl

@[simp] theorem setState_id (st : SessionState) : (s.setState st).1.id = s.id := by
  unfold setState; split <;> rfl

@[simp] theorem setState_gen (st : SessionState) : (s.setState st).1.gen = s.gen := by
  unfold setState; split <;> rfl

@[simp] theorem setState_closeDone (st : SessionState) :
    (s.setState st).1.closeDone = s.closeDone := by
  unfold setState; split <;> rfl

/-- A closed session stays closed; any other takes the new state. -/
theorem setState_state (st : SessionState) :
    (s.setState st).1.state = if s.state = .closed then .closed else st := by
  unfold setState; split <;> simp_all

end Session

namespace Registry

variable {r : Registry} {id : String} {s : Session}

@[grind →] theorem get?_eq_some (h : r.get? id = some s) : s ∈ r.sessions ∧ s.id = id :=
  ⟨List.mem_of_find?_eq_some h, by simpa using List.find?_some h⟩

theorem get?_eq_none : r.get? id = none ↔ ∀ s ∈ r.sessions, s.id ≠ id := by
  simp [get?, List.find?_eq_none]

/-- With one session per id, every session is the one its own id finds. -/
theorem get?_of_mem (hn : (r.sessions.map (·.id)).Nodup) (hs : s ∈ r.sessions) :
    r.get? s.id = some s := by
  cases h : r.get? s.id with
  | none => exact absurd rfl (get?_eq_none.mp h s hs)
  | some s' =>
    obtain ⟨hs', hid⟩ := get?_eq_some h
    rw [List.inj_on_of_nodup_map hn hs' hs hid]

theorem id_not_mem_of_get?_eq_none (h : r.get? id = none) : id ∉ r.sessions.map (·.id) := by
  intro hm
  obtain ⟨s', hs', e⟩ := List.mem_map.mp hm
  exact get?_eq_none.mp h s' hs' e

/-- The current session of an id, if it is that generation. -/
@[simp] theorem lookup_eq_some {gen : Nat} :
    r.lookup id gen = some s ↔ r.get? id = some s ∧ s.gen = gen := by
  unfold lookup
  split
  · rename_i s' h
    by_cases hg : s'.gen = gen
    · simp only [hg, beq_self_eq_true, if_true, Option.some.injEq, h]
      constructor
      · rintro rfl
        exact ⟨rfl, hg⟩
      · rintro ⟨rfl, -⟩
        rfl
    · simp only [h, Option.some.injEq]
      simp only [beq_iff_eq, hg, if_false, reduceCtorEq, false_iff, not_and]
      rintro rfl
      exact hg
  · rename_i h
    simp [h]

theorem remove_of_get? (h : r.get? s.id = some s) :
    r.remove s = (⟨r.sessions.filter (·.id != s.id)⟩, true) := by
  simp [remove, h, Session.same]

theorem get?_filter_self : (⟨r.sessions.filter (·.id != id)⟩ : Registry).get? id = none :=
  get?_eq_none.mpr fun s hs => by simpa using (List.mem_filter.mp hs).2

/-- The current session of an id, taken out, leaves the id without one. -/
theorem get?_remove_of_lookup {gen : Nat} (h : r.lookup id gen = some s) :
    (r.remove s).1.get? s.id = none := by
  obtain ⟨hg, -⟩ := lookup_eq_some.mp h
  have hid : s.id = id := (get?_eq_some hg).2
  rw [remove_of_get? (hid ▸ hg)]
  exact get?_filter_self

theorem upsert_of_get?_none (h : r.get? s.id = none) : r.upsert s = (⟨r.sessions ++ [s]⟩, none) := by
  simp [upsert, h]

theorem get?_append_of_get?_none (h : r.get? s.id = none) :
    (⟨r.sessions ++ [s]⟩ : Registry).get? s.id = some s := by
  simp only [get?] at h ⊢
  rw [List.find?_append, h]
  simp

theorem snapshot_perm : r.snapshot.Perm r.sessions := List.mergeSort_perm _ _

/-- Taking out the session of an id, when ids are unique, leaves the others in place. -/
theorem filter_perm (hn : (r.sessions.map (·.id)).Nodup) (h : r.get? s.id = some s) :
    (r.sessions.filter (·.id != s.id) ++ [s]).Perm r.sessions := by
  obtain ⟨hs, -⟩ := get?_eq_some h
  obtain ⟨sessions⟩ := r
  clear h
  induction sessions with
  | nil => simp at hs
  | cons x xs ih =>
    simp only [List.map_cons, List.nodup_cons, List.mem_map] at hn
    obtain ⟨hx, hn⟩ := hn
    by_cases e : x = s
    · subst e
      have hrest : xs.filter (·.id != x.id) = xs :=
        List.filter_eq_self.mpr fun y hy => by simpa using fun h => hx ⟨y, hy, h⟩
      simp [hrest, List.perm_append_singleton]
    · have hs' : s ∈ xs := (List.mem_cons.mp hs).resolve_left (Ne.symm e)
      have hid : x.id ≠ s.id := fun h => hx ⟨s, hs', h.symm⟩
      simpa [hid] using (ih hn hs').cons x

end Registry

end MeshCall
