import Mathlib
import MeshCall.Proofs.Tables
/-!
# The books of a call's connections

A connection is known by the remote id and the generation it was made for. The books relate
the sessions that are not closed yet to the connections made, those closed and the generations
asked for: each live session owns a connection that was made and not closed, every other
connection made was closed exactly once, the traffic counters balance, and every speaking meter
belongs to a live session's generation.

Each way the controller changes its sessions is one lemma here: a creation refused or made, a
session registered, changed, or closed, a meter registered.
-/

namespace MeshCall

/-- The connection of a session. -/
def Session.key (s : Session) : String × Nat := (s.id, s.gen)

/-- A live session: its connection was made and not closed, and it is not closed itself. -/
structure Live (lastGen : Nat) (made shut : List (String × Nat)) (s : Session) : Prop where
  made : s.key ∈ made
  unshut : s.key ∉ shut
  not_closed : s.state ≠ .closed
  not_done : s.closeDone = false
  gen_le : s.gen ≤ lastGen

/-- The books of a call's connections. `live` are the sessions not closed yet, `made` the
connections created, `shut` those asked to close and `tried` the generation of every creation
asked for, each in order. -/
structure Ledger (live : List Session) (lastGen opened closed : Nat)
    (meters : List (String × MeterRef)) (made shut : List (String × Nat)) (tried : List Nat) :
    Prop where
  ids : (live.map (·.id)).Nodup
  alive : ∀ s ∈ live, Live lastGen made shut s
  owned : ∀ k ∈ made, (∃ s ∈ live, s.key = k) ∨ shut.count k = 1
  shut_le : ∀ k ∈ shut, k.2 ≤ lastGen
  counted : opened = closed + live.length
  meters : ∀ p ∈ meters, ∃ s ∈ live, s.id = p.1 ∧ s.gen = p.2.gen
  tried_lt : tried.Pairwise (· < ·)
  tried_le : ∀ g ∈ tried, g ≤ lastGen

/-- A change to a session that keeps its connection: the id, the generation and the close flag
stay, and a session that is not closed stays so. -/
structure Keeps (f : Session → Session) : Prop where
  key : ∀ s, (f s).key = s.key
  closeDone : ∀ s, (f s).closeDone = s.closeDone
  not_closed : ∀ s, s.state ≠ .closed → (f s).state ≠ .closed

theorem keeps_setState {st : SessionState} (h : st ≠ .closed) : Keeps fun s => (s.setState st).1 where
  key s := by unfold Session.setState; split <;> rfl
  closeDone s := by unfold Session.setState; split <;> rfl
  not_closed s hs := by simp [Session.setState, hs, h]

theorem keeps_setAudio (audio : Bool) : Keeps (·.setAudio audio) :=
  ⟨fun _ => rfl, fun _ => rfl, fun _ h => h⟩

theorem keeps_setName (name : String) : Keeps (·.setName name) where
  key s := by unfold Session.setName; split <;> rfl
  closeDone s := by unfold Session.setName; split <;> rfl
  not_closed s h := by unfold Session.setName; split <;> exact h

theorem Keeps.comp {f g : Session → Session} (hf : Keeps f) (hg : Keeps g) : Keeps (f ∘ g) :=
  ⟨fun s => (hf.key _).trans (hg.key s), fun s => (hf.closeDone _).trans (hg.closeDone s),
    fun s h => hf.not_closed _ (hg.not_closed s h)⟩

namespace Ledger

variable {live live' rest : List Session} {g o cl : Nat} {m : List (String × MeterRef)}
  {made shut : List (String × Nat)} {tr : List Nat} {s : Session}

/-- The calls before anything happened. -/
theorem init : Ledger [] 0 0 0 [] [] [] [] where
  ids := List.nodup_nil
  alive _ h := absurd h List.not_mem_nil
  owned _ h := absurd h List.not_mem_nil
  shut_le _ h := absurd h List.not_mem_nil
  counted := rfl
  meters _ h := absurd h List.not_mem_nil
  tried_lt := List.Pairwise.nil
  tried_le _ h := absurd h List.not_mem_nil

theorem perm (h : Ledger live g o cl m made shut tr) (hp : live.Perm live') :
    Ledger live' g o cl m made shut tr where
  ids := (hp.map _).nodup_iff.mp h.ids
  alive s hs := h.alive s (hp.mem_iff.mpr hs)
  owned k hk := (h.owned k hk).imp (fun ⟨s, hs, e⟩ => ⟨s, hp.mem_iff.mp hs, e⟩) id
  shut_le := h.shut_le
  counted := hp.length_eq ▸ h.counted
  meters p hp' := let ⟨s, hs, e⟩ := h.meters p hp'; ⟨s, hp.mem_iff.mp hs, e⟩
  tried_lt := h.tried_lt
  tried_le := h.tried_le

theorem id_ne_of_mem {s' : Session} (h : Ledger (s :: live) g o cl m made shut tr)
    (hs : s' ∈ live) : s'.id ≠ s.id := by
  intro e
  have := (List.nodup_cons.mp (List.map_cons .. ▸ h.ids)).1
  exact this (List.mem_map.mpr ⟨s', hs, e⟩)

/-- Closing a live session: its connection is closed once, and it leaves the books. -/
theorem close (h : Ledger (s :: live) g o cl m made shut tr) :
    Ledger live g o (cl + 1) (forgetMeter m s) made (shut ++ [s.key]) tr where
  ids := (List.nodup_cons.mp (List.map_cons .. ▸ h.ids)).2
  alive s' hs' := by
    have a := h.alive s' (List.mem_cons_of_mem _ hs')
    have hne : s'.key ≠ s.key := fun e => h.id_ne_of_mem hs' (congrArg Prod.fst e)
    exact ⟨a.made, by simpa [hne] using a.unshut, a.not_closed, a.not_done, a.gen_le⟩
  owned k hk := by
    have hs := h.alive s List.mem_cons_self
    rcases h.owned k hk with ⟨s', hs', rfl⟩ | hk1
    · rcases List.mem_cons.mp hs' with rfl | hs'
      · right
        simp [List.count_eq_zero_of_not_mem hs.unshut]
      · exact Or.inl ⟨s', hs', rfl⟩
    · right
      have hne : s.key ≠ k := fun e => by
        rw [← e, List.count_eq_zero_of_not_mem hs.unshut] at hk1
        exact absurd hk1 zero_ne_one
      rw [List.count_append, hk1, List.count_singleton]
      simp [hne]
  shut_le k hk := by
    rcases List.mem_append.mp hk with hk | hk
    · exact h.shut_le k hk
    · simp only [List.mem_singleton] at hk
      subst hk
      exact (h.alive s List.mem_cons_self).gen_le
  counted := by simp [h.counted]; omega
  meters p hp := by
    obtain ⟨hp, hkeep⟩ := mem_forgetMeter hp
    obtain ⟨s', hs', hid, hgen⟩ := h.meters p hp
    rcases List.mem_cons.mp hs' with rfl | hs'
    · -- the meter of `s`'s id outlived it only if it is of another generation: another session's
      obtain ⟨m, hm, hne⟩ := hkeep hid.symm
      obtain ⟨s'', hs'', hid'', hgen''⟩ := h.meters _ (Assoc.mem_of_get?_eq_some hm)
      rcases List.mem_cons.mp hs'' with rfl | hs''
      · exact absurd hgen''.symm hne
      · exact absurd hid'' (h.id_ne_of_mem hs'')
    · exact ⟨s', hs', hid, hgen⟩
  tried_lt := h.tried_lt
  tried_le := h.tried_le

/-- Closing a live session wherever it stands among the others. -/
theorem close_middle (h : Ledger (live ++ s :: rest) g o cl m made shut tr) :
    Ledger (live ++ rest) g o (cl + 1) (forgetMeter m s) made (shut ++ [s.key]) tr :=
  (h.perm List.perm_middle).close

theorem live_middle (h : Ledger (live ++ s :: rest) g o cl m made shut tr) :
    Live g made shut s :=
  h.alive s (List.mem_append_right _ List.mem_cons_self)

theorem tried_append (h : Ledger live g o cl m made shut tr) :
    (tr ++ [g + 1]).Pairwise (· < ·) := by
  refine List.pairwise_append.mpr ⟨h.tried_lt, by simp, ?_⟩
  intro x hx y hy
  simp only [List.mem_singleton] at hy
  have := h.tried_le x hx
  omega

/-- A creation that was refused: the generation is used up, and nothing else changes. -/
theorem refuse (h : Ledger live g o cl m made shut tr) :
    Ledger live (g + 1) o cl m made shut (tr ++ [g + 1]) where
  ids := h.ids
  alive s hs :=
    let a := h.alive s hs
    ⟨a.made, a.unshut, a.not_closed, a.not_done, by have := a.gen_le; omega⟩
  owned := h.owned
  shut_le k hk := by have := h.shut_le k hk; omega
  counted := h.counted
  meters := h.meters
  tried_lt := h.tried_append
  tried_le x hx := by
    rcases List.mem_append.mp hx with hx | hx
    · have := h.tried_le x hx; omega
    · simp at hx; omega

/-- No connection of the next generation was closed yet. -/
theorem next_not_shut (h : Ledger live g o cl m made shut tr) (id : String) :
    (id, g + 1) ∉ shut :=
  fun hm => by have := h.shut_le _ hm; simp at this

/-- A connection made for the next generation and counted as closed already balances the
books: the state a creation is in until the connection is owned or closed. -/
theorem made_shut (h : Ledger live g o cl m made shut tr) (id : String) :
    Ledger live (g + 1) o cl m (made ++ [(id, g + 1)]) (shut ++ [(id, g + 1)])
      (tr ++ [g + 1]) := by
  have h' := h.refuse
  exact
  { ids := h'.ids
    alive := fun s hs => by
      have a := h'.alive s hs
      refine ⟨List.mem_append_left _ a.made, ?_, a.not_closed, a.not_done, a.gen_le⟩
      have : s.key ≠ (id, g + 1) := fun e => by
        have := (h.alive s hs).gen_le
        simp [Session.key] at e
        omega
      simpa [this] using a.unshut
    owned := fun k hk => by
      rcases List.mem_append.mp hk with hk | hk
      · rcases h.owned k hk with ⟨s, hs, e⟩ | hk1
        · exact Or.inl ⟨s, hs, e⟩
        · right
          have : k ≠ (id, g + 1) := fun e => by
            have := h.shut_le k (List.count_pos_iff.mp (by omega))
            rw [e] at this
            simp at this
          rw [List.count_append, hk1, List.count_singleton]
          simp [Ne.symm this]
      · simp only [List.mem_singleton] at hk
        subst hk
        right
        simp [List.count_append, List.count_eq_zero_of_not_mem (h.next_not_shut id)]
    shut_le := fun k hk => by
      rcases List.mem_append.mp hk with hk | hk
      · exact h'.shut_le k hk
      · simp at hk; simp [hk]
    counted := h'.counted
    meters := h'.meters
    tried_lt := h'.tried_lt
    tried_le := h'.tried_le }

/-- The new session takes over the connection that was held as closed. -/
theorem register (h : Ledger live g o cl m made (shut ++ [s.key]) tr)
    (hmade : s.key ∈ made) (hshut : s.key ∉ shut) (hid : s.id ∉ live.map (·.id))
    (hgen : s.gen ≤ g) (hst : s.state ≠ .closed) (hdone : s.closeDone = false) :
    Ledger (live ++ [s]) g (o + 1) cl m made shut tr where
  ids := by
    simpa [List.nodup_append] using ⟨h.ids, fun a ha e => hid (List.mem_map.mpr ⟨a, ha, e⟩)⟩
  alive s' hs' := by
    rcases List.mem_append.mp hs' with hs' | hs'
    · have a := h.alive s' hs'
      exact ⟨a.made, fun hm => a.unshut (List.mem_append_left _ hm), a.not_closed, a.not_done,
        a.gen_le⟩
    · simp only [List.mem_singleton] at hs'
      subst hs'
      exact ⟨hmade, hshut, hst, hdone, hgen⟩
  owned k hk := by
    by_cases e : s.key = k
    · exact Or.inl ⟨s, by simp, e⟩
    · rcases h.owned k hk with ⟨s', hs', e'⟩ | hk1
      · exact Or.inl ⟨s', List.mem_append_left _ hs', e'⟩
      · right
        simpa [List.count_append, e] using hk1
  shut_le k hk := h.shut_le k (List.mem_append_left _ hk)
  counted := by simp [h.counted]; omega
  meters p hp := let ⟨s', hs', e⟩ := h.meters p hp; ⟨s', List.mem_append_left _ hs', e⟩
  tried_lt := h.tried_lt
  tried_le := h.tried_le

/-- Changing the registered session of an id in a way that keeps its connection. -/
theorem modify {f : Session → Session} {r : Registry}
    (h : Ledger r.sessions g o cl m made shut tr) (hf : Keeps f) (id : String) :
    Ledger (r.modify id f).sessions g o cl m made shut tr := by
  -- the change keeps every connection, so the books read the same through it
  let f' := fun x : Session => if x.id == id then f x else x
  have hk : ∀ x, (f' x).key = x.key := fun x => by
    simp only [f']
    split
    · exact hf.key x
    · rfl
  have hid : ∀ x, (f' x).id = x.id := fun x => congrArg Prod.fst (hk x)
  have hids : (r.sessions.map f').map (·.id) = r.sessions.map (·.id) := by
    rw [List.map_map]
    exact List.map_congr_left fun x _ => hid x
  exact
  { ids := hids ▸ h.ids
    alive := fun s' hs' => by
      obtain ⟨x, hx, rfl⟩ := List.mem_map.mp hs'
      have a := h.alive x hx
      have hg : (f' x).gen = x.gen := congrArg Prod.snd (hk x)
      refine ⟨(hk x) ▸ a.made, (hk x) ▸ a.unshut, ?_, ?_, hg ▸ a.gen_le⟩
      · split
        · exact hf.not_closed x a.not_closed
        · exact a.not_closed
      · split
        · exact (hf.closeDone x).trans a.not_done
        · exact a.not_done
    owned := fun k hk' => (h.owned k hk').imp
      (fun ⟨x, hx, e⟩ => ⟨f' x, List.mem_map_of_mem hx, (hk x).trans e⟩) fun h => h
    shut_le := h.shut_le
    counted := by simp [Registry.modify, h.counted]
    meters := fun p hp => by
      obtain ⟨x, hx, e1, e2⟩ := h.meters p hp
      exact ⟨f' x, List.mem_map_of_mem hx, (hid x).trans e1, (congrArg Prod.snd (hk x)).trans e2⟩
    tried_lt := h.tried_lt
    tried_le := h.tried_le }

/-- Registering the meter of a live session's generation. -/
theorem setMeter (h : Ledger live g o cl m made shut tr) (hs : s ∈ live) (ref : MeterRef)
    (hg : ref.gen = s.gen) :
    Ledger live g o cl (Assoc.set m s.id ref) made shut tr :=
  { h with
    meters := fun p hp => by
      rcases Assoc.mem_set hp with rfl | ⟨hp, -⟩
      · exact ⟨s, hs, rfl, hg.symm⟩
      · exact h.meters p hp }

end Ledger

end MeshCall
