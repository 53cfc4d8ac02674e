import Mathlib
import MeshCall.Proofs.Tables
import MeshCall.Roster.Terminal
/-!
# The roster on a terminal

The terminal view keeps one tile per id, and each view call changes the tile of one id: a tile
is made or refreshed, renamed, given a state or a microphone flag, or taken down. The local
participant's tile is special: it is made once, renaming leaves it alone, and taking it down is
refused. Below, the tile of every id after each view call, and the agreement between a list of
sessions and the roster (`Roster`): the local tile is the local participant's, and each session
is shown on a tile of its own id with its state, its microphone and its display name. Each
change a handler makes to its sessions, paired with the view calls it makes, keeps the
agreement.
-/

namespace MeshCall

/-! ## The tile of an id after a view call -/

namespace Terminal

variable (t : Terminal) (id id' : String)

theorem tile?_eq : t.tile? id = Assoc.get? t.tiles id := rfl

theorem put_tiles (x : Tile) : (t.put id x).tiles = Assoc.set t.tiles id x := by
  unfold put Assoc.set
  split <;> rfl

@[simp] theorem tile?_put (x : Tile) :
    (t.put id x).tile? id' = if id' = id then some x else t.tile? id' := by
  simp only [tile?_eq, put_tiles, Assoc.get?_set]

/-- Adding a tile for an id that has one refreshes it: the name and the microphone are set and
the state is `new`, while the speaking flag is kept. -/
@[simp] theorem tile?_addTile (name : String) (audio : Bool) :
    (t.apply (.addTile id name audio)).1.tile? id' =
      if id' = id then
        some ((t.tile? id).elim { name := name, audio := audio }
          fun cur => { cur with name := name, audio := audio, state := .new })
      else t.tile? id' := by
  cases h : t.tile? id <;> simp [apply, h]

/-- The local participant's tile is never taken down. -/
@[simp] theorem tile?_removeTile :
    (t.apply (.removeTile id)).1.tile? id' =
      if id' = id then (t.tile? id).filter (·.isLocal) else t.tile? id' := by
  have erased : (⟨t.localId, t.tiles.filter (·.1 != id), t.buttons⟩ : Terminal).tile? id' =
      if id' = id then none else t.tile? id' := Assoc.get?_erase id'
  by_cases hid : id' = id
  · subst hid
    cases h : t.tile? id' with
    | none => simp [apply, h]
    | some cur => by_cases hl : cur.isLocal <;> simp_all [apply, Option.filter]
  · cases h : t.tile? id with
    | none => simp [apply, h, hid]
    | some cur => by_cases hl : cur.isLocal <;> simp_all [apply]

/-- Renaming leaves the local participant's tile alone. -/
@[simp] theorem tile?_setName (name : String) :
    (t.apply (.setName id name)).1.tile? id' =
      if id' = id then
        (t.tile? id).map fun cur => if cur.isLocal then cur else { cur with name := name }
      else t.tile? id' := by
  by_cases hid : id' = id
  · subst hid
    cases h : t.tile? id' with
    | none => simp [apply, h]
    | some cur => by_cases hl : cur.isLocal <;> simp [apply, h, hl]
  · cases h : t.tile? id with
    | none => simp [apply, h, hid]
    | some cur => by_cases hl : cur.isLocal <;> simp [apply, h, hl, hid]

@[simp] theorem tile?_setPeerState (st : SessionState) :
    (t.apply (.setPeerState id st)).1.tile? id' =
      if id' = id then (t.tile? id).map fun cur => { cur with state := st } else t.tile? id' := by
  by_cases hid : id' = id
  · subst hid
    cases h : t.tile? id' with
    | none => simp [apply, h]
    | some cur =>
      by_cases hs : cur.state = st
      · subst hs
        simp [apply, h]
      · simp [apply, h, hs]
  · cases h : t.tile? id with
    | none => simp [apply, h, hid]
    | some cur => by_cases hs : cur.state = st <;> simp [apply, h, hs, hid]

/-- Muting a tile also stops it speaking; setting the flag a tile already has changes nothing. -/
@[simp] theorem tile?_setMic (enabled : Bool) :
    (t.apply (.setMic id enabled)).1.tile? id' =
      if id' = id then (t.tile? id).map fun cur =>
        if cur.audio = enabled then cur
        else { cur with audio := enabled, speaking := cur.speaking && enabled }
      else t.tile? id' := by
  by_cases hid : id' = id
  · subst hid
    cases h : t.tile? id' with
    | none => simp [apply, h]
    | some cur => by_cases ha : cur.audio = enabled <;> simp [apply, h, ha]
  · cases h : t.tile? id with
    | none => simp [apply, h, hid]
    | some cur => by_cases ha : cur.audio = enabled <;> simp [apply, h, ha, hid]

@[simp] theorem tile?_setSpeaking (speaking : Bool) :
    (t.apply (.setSpeaking id speaking)).1.tile? id' =
      if id' = id then (t.tile? id).map fun cur => { cur with speaking := speaking }
      else t.tile? id' := by
  by_cases hid : id' = id
  · subst hid
    cases h : t.tile? id' <;> simp [apply, h]
  · cases h : t.tile? id <;> simp [apply, h, hid]

@[simp] theorem tile?_empty : ({} : Terminal).tile? id' = none := rfl

@[simp] theorem tile?_setButtons (b : Buttons) :
    (t.apply (.setButtons b)).1.tile? id' = t.tile? id' := rfl

@[simp] theorem tile?_clear : (t.apply .clear).1.tile? id' = none := rfl

@[simp] theorem tile?_showLocal (name : String) (audio : Bool) :
    (t.apply (.showLocal id name audio)).1.tile? id' =
      if id' = id then some { name := name, audio := audio, state := .connected, isLocal := true }
      else t.tile? id' :=
  tile?_put ..

end Terminal

namespace Session

variable (s : Session)

@[simp] theorem setState_name (st : SessionState) : (s.setState st).1.name = s.name := by
  unfold setState; split <;> rfl

@[simp] theorem setState_audio (st : SessionState) : (s.setState st).1.audio = s.audio := by
  unfold setState; split <;> rfl

@[simp] theorem setName_audio (name : String) : (s.setName name).audio = s.audio := by
  unfold setName; split <;> rfl

@[simp] theorem setAudio_name (audio : Bool) : (s.setAudio audio).name = s.name := rfl

@[simp] theorem setAudio_audio (audio : Bool) : (s.setAudio audio).audio = audio := rfl

end Session

/-- Changing the sessions of `id`, keeping their id, changes what a lookup of `id` finds and
nothing else. -/
theorem Registry.get?_modify {r : Registry} {id : String} {f : Session → Session}
    (hf : ∀ s, (f s).id = s.id) (id' : String) :
    (r.modify id f).get? id' = if id' = id then (r.get? id).map f else r.get? id' := by
  obtain ⟨ss⟩ := r
  simp only [Registry.modify, Registry.get?]
  induction ss with
  | nil => simp
  | cons s ss ih =>
    have hg : (if s.id == id then f s else s).id = s.id := by split <;> simp [hf]
    simp only [List.map_cons, List.find?_cons, hg]
    by_cases h1 : s.id = id'
    · subst h1
      by_cases h2 : s.id = id <;> simp [h2]
    · have h1' : (s.id == id') = false := by simpa using h1
      rw [h1', ih]
      by_cases h2 : id' = id
      · subst h2
        simp [h1']
      · simp [h2]

/-! ## The agreement -/

/-- The roster shows the session `s` as it is: a tile of another participant under its id, with
its state, its microphone and its name. -/
def Terminal.Shows (t : Terminal) (s : Session) : Prop :=
  ∃ x, t.tile? s.id = some x ∧ x.isLocal = false ∧ x.state = s.state ∧ x.audio = s.audio ∧
    x.name = displayName s.name s.id

/-- The roster of a call whose local participant is `localId`: the local participant's is the only
local tile, and every session of `sessions` is shown as it is. -/
structure Roster (localId : String) (sessions : List Session) (t : Terminal) : Prop where
  local_tile : ∀ id x, t.tile? id = some x → x.isLocal = true → id = localId
  shown : ∀ s ∈ sessions, t.Shows s

namespace Roster

variable {localId : String} {ss : List Session} {t : Terminal}

/-- A fresh roster showing the local participant alone. -/
theorem showLocal (localId name : String) (audio : Bool) :
    Roster localId [] (({} : Terminal).apply (.showLocal localId name audio)).1 where
  local_tile id x hx _ := by
    by_cases hid : id = localId
    · exact hid
    · simp [hid] at hx
  shown _ h := absurd h List.not_mem_nil

theorem clear (t : Terminal) : Roster localId [] (t.apply .clear).1 where
  local_tile _ _ hx := by simp at hx
  shown _ h := absurd h List.not_mem_nil

theorem sublist {ss' : List Session} (h : Roster localId ss t) (hs : ss'.Sublist ss) : Roster localId ss' t :=
  ⟨h.local_tile, fun s hm => h.shown s (hs.subset hm)⟩

/-- Taking a tile down keeps the roster when no session of the id is registered. -/
theorem removeTile (h : Roster localId ss t) {id : String} (habs : ∀ s ∈ ss, s.id ≠ id) :
    Roster localId ss (t.apply (.removeTile id)).1 where
  local_tile id' x hx hl := by
    by_cases hid : id' = id
    · subst hid
      simp only [Terminal.tile?_removeTile, if_true, Option.filter_eq_some_iff] at hx
      exact h.local_tile id' x hx.1 hl
    · simp only [Terminal.tile?_removeTile, hid, if_false] at hx
      exact h.local_tile id' x hx hl
  shown s hs := by
    obtain ⟨x, hx, hrest⟩ := h.shown s hs
    exact ⟨x, by simp [habs s hs, hx], hrest⟩

theorem setSpeaking (h : Roster localId ss t) (id : String) (speaking : Bool) :
    Roster localId ss (t.apply (.setSpeaking id speaking)).1 where
  local_tile id' x hx hl := by
    by_cases hid : id' = id
    · subst hid
      simp only [Terminal.tile?_setSpeaking, if_true, Option.map_eq_some_iff] at hx
      obtain ⟨y, hy, rfl⟩ := hx
      exact h.local_tile id' y hy hl
    · simp only [Terminal.tile?_setSpeaking, hid, if_false] at hx
      exact h.local_tile id' x hx hl
  shown s hs := by
    obtain ⟨x, hx, hl, hst, ha, hn⟩ := h.shown s hs
    by_cases hid : s.id = id
    · refine ⟨{ x with speaking := speaking }, ?_, hl, hst, ha, hn⟩
      rw [Terminal.tile?_setSpeaking, if_pos hid, ← hid, hx]
      rfl
    · exact ⟨x, by simp [hid, hx], hl, hst, ha, hn⟩

theorem setButtons (h : Roster localId ss t) (b : Buttons) :
    Roster localId ss (t.apply (.setButtons b)).1 :=
  ⟨h.local_tile, h.shown⟩

/-- A change of the tile of `id`, and of the registered sessions of `id`, that shows each of
those sessions as it now is keeps the roster. -/
theorem update {r : Registry} (h : Roster localId r.sessions t) {id : String}
    {f : Session → Session} {t' : Terminal}
    (hother : ∀ id', id' ≠ id → t'.tile? id' = t.tile? id')
    (hlocal : ∀ x, t'.tile? id = some x → x.isLocal = true →
      ∃ y, t.tile? id = some y ∧ y.isLocal = true)
    (hshow : ∀ s ∈ r.sessions, s.id = id → t.Shows s → t'.Shows (f s)) :
    Roster localId (r.modify id f).sessions t' where
  local_tile id' x hx hl := by
    by_cases hid : id' = id
    · subst hid
      obtain ⟨y, hy, hyl⟩ := hlocal x hx hl
      exact h.local_tile id' y hy hyl
    · rw [hother id' hid] at hx
      exact h.local_tile id' x hx hl
  shown s' hs' := by
    obtain ⟨s, hs, rfl⟩ := List.mem_map.mp hs'
    by_cases hid : s.id = id
    · simpa [hid] using hshow s hs hid (h.shown s hs)
    · obtain ⟨x, hx, hrest⟩ := h.shown s hs
      exact ⟨x, by simpa [hid, hother s.id hid] using hx, by simpa [hid] using hrest⟩

/-- The speaking flags and the buttons are no part of the roster's agreement. -/
@[simp] theorem setSpeaking_iff (id : String) (speaking : Bool) :
    Roster localId ss (t.apply (.setSpeaking id speaking)).1 ↔ Roster localId ss t := by
  constructor
  · intro h
    constructor
    · intro id' x hx hl
      by_cases e : id' = id
      · subst e
        exact h.local_tile id' { x with speaking := speaking } (by simp [hx]) hl
      · exact h.local_tile id' x (by simpa [e] using hx) hl
    · intro s hs
      obtain ⟨x, hx, hrest⟩ := h.shown s hs
      by_cases e : s.id = id
      · rw [Terminal.tile?_setSpeaking, if_pos e, Option.map_eq_some_iff] at hx
        obtain ⟨y, hy, rfl⟩ := hx
        exact ⟨y, by rw [← e] at hy; exact hy, hrest⟩
      · exact ⟨x, by simpa [e] using hx, hrest⟩
  · intro h
    exact h.setSpeaking id speaking

@[simp] theorem setButtons_iff (b : Buttons) :
    Roster localId ss (t.apply (.setButtons b)).1 ↔ Roster localId ss t :=
  ⟨fun h => ⟨h.local_tile, h.shown⟩, fun h => h.setButtons b⟩

/-- With no session registered, taking a tile down changes nothing the roster reads: only
tiles of other participants are taken down. -/
@[simp] theorem removeTile_nil_iff (id : String) :
    Roster localId [] (t.apply (.removeTile id)).1 ↔ Roster localId [] t := by
  constructor
  · intro h
    refine ⟨fun id' x hx hl => h.local_tile id' x ?_ hl, fun _ hs => absurd hs List.not_mem_nil⟩
    by_cases e : id' = id
    · subst e
      simp [hx, hl]
    · simpa [e] using hx
  · intro h
    exact h.removeTile fun _ hs => absurd hs List.not_mem_nil

/-- Moving the sessions of `id` to a state, shown on its tile. -/
theorem setState {r : Registry} (h : Roster localId r.sessions t)
    (hopen : ∀ s ∈ r.sessions, s.state ≠ .closed) (id : String) (st : SessionState) :
    Roster localId (r.modify id fun s => (s.setState st).1).sessions
      (t.apply (.setPeerState id st)).1 := by
  refine h.update (fun id' hid => by simp [hid]) (fun x hx hl => ?_) fun s hs hid hshow => ?_
  · obtain ⟨y, hy, rfl⟩ := Option.map_eq_some_iff.mp (by simpa using hx)
    exact ⟨y, hy, hl⟩
  · obtain ⟨x, hx, hl, -, ha, hn⟩ := hshow
    refine ⟨{ x with state := st }, ?_, hl, by simp [Session.setState_state, hopen s hs], by simpa using ha,
      by simpa using hn⟩
    rw [Terminal.tile?_setPeerState, Session.setState_id, if_pos hid, ← hid, hx]
    rfl

/-- The microphone of the sessions of `id`, shown on its tile. -/
theorem setAudio {r : Registry} (h : Roster localId r.sessions t) (id : String) (audio : Bool) :
    Roster localId (r.modify id (·.setAudio audio)).sessions (t.apply (.setMic id audio)).1 := by
  refine h.update (fun id' hid => by simp [hid]) (fun x hx hl => ?_) fun s hs hid hshow => ?_
  · obtain ⟨y, hy, rfl⟩ := Option.map_eq_some_iff.mp (by simpa using hx)
    refine ⟨y, hy, ?_⟩
    split at hl <;> simpa using hl
  · obtain ⟨x, hx, hl, hst, ha, hn⟩ := hshow
    refine ⟨if x.audio = audio then x else { x with audio := audio, speaking := x.speaking && audio },
      ?_, ?_, ?_, ?_, ?_⟩
    · rw [Terminal.tile?_setMic, Session.setAudio_id, if_pos hid, ← hid, hx]
      rfl
    all_goals split <;> simp_all

/-- A new session, registered under an id no other session has, shown on a tile made for it
or refreshed from the one its id had. -/
theorem register (h : Roster localId ss t) {s : Session} (hid : ∀ s' ∈ ss, s'.id ≠ s.id)
    (hself : s.id ≠ localId) (hnew : s.state = .new) :
    Roster localId (ss ++ [s])
      ((t.apply (.addTile s.id (displayName s.name s.id) s.audio)).1.apply
        (.setPeerState s.id .new)).1 := by
  -- the tile the id had, if any, is not the local participant's
  have hprev : ∀ y, t.tile? s.id = some y → y.isLocal = false := fun y hy => by
    cases hl : y.isLocal
    · rfl
    · exact absurd (h.local_tile _ y hy hl) hself
  constructor
  · intro id' x hx hl
    by_cases e : id' = s.id
    · subst e
      cases hy : t.tile? s.id with
      | none => simp [hy] at hx; simp [← hx] at hl
      | some y => simp [hy] at hx; simp [← hx, hprev y hy] at hl
    · simp only [Terminal.tile?_setPeerState, Terminal.tile?_addTile, e, if_false] at hx
      exact h.local_tile id' x hx hl
  · intro s' hs'
    rcases List.mem_append.mp hs' with hs' | hs'
    · obtain ⟨x, hx, hrest⟩ := h.shown s' hs'
      exact ⟨x, by simp [hid s' hs', hx], hrest⟩
    · obtain rfl := List.mem_singleton.mp hs'
      cases hy : t.tile? s'.id with
      | none =>
        exact ⟨{ name := displayName s'.name s'.id, audio := s'.audio }, by simp [hy], rfl,
          hnew.symm, rfl, rfl⟩
      | some y =>
        exact ⟨{ y with name := displayName s'.name s'.id, audio := s'.audio, state := .new },
          by simp [hy], hprev y hy, hnew.symm, rfl, rfl⟩

/-- A change of the microphone of an id without a session, such as the local participant's. -/
theorem setMic_other (h : Roster localId ss t) {id : String} (habs : ∀ s ∈ ss, s.id ≠ id)
    (audio : Bool) : Roster localId ss (t.apply (.setMic id audio)).1 where
  local_tile id' x hx hl := by
    by_cases e : id' = id
    · subst e
      obtain ⟨y, hy, rfl⟩ := Option.map_eq_some_iff.mp (by simpa using hx)
      refine h.local_tile id' y hy ?_
      split at hl <;> simpa using hl
    · simp only [Terminal.tile?_setMic, e, if_false] at hx
      exact h.local_tile id' x hx hl
  shown s hs := by
    obtain ⟨x, hx, hrest⟩ := h.shown s hs
    exact ⟨x, by simp [habs s hs, hx], hrest⟩

/-- Taking an answer: the name, microphone and state of the session of `s.id`, each shown on its
tile, under the name the registry holds once it is updated. -/
theorem answer {r : Registry} (h : Roster localId r.sessions t)
    (hn : (r.sessions.map (·.id)).Nodup) (hopen : ∀ s ∈ r.sessions, s.state ≠ .closed)
    {s : Session} (hget : r.get? s.id = some s) (name : String) (audio : Bool) :
    Roster localId
      (r.modify s.id fun x => (((x.setName name).setAudio audio).setState .connected).1).sessions
      (((t.apply (.setName s.id (displayName
        (((r.modify s.id fun x => (((x.setName name).setAudio audio).setState .connected).1).get?
          s.id).getD s).name s.id))).1.apply (.setMic s.id audio)).1.apply
        (.setPeerState s.id .connected)).1 := by
  rw [Registry.get?_modify (fun x => by simp), if_pos rfl, hget]
  simp only [Option.map_some, Option.getD_some, Session.setState_name, Session.setAudio_name]
  refine h.update (fun id' hid => by simp [hid]) (fun x hx hl => ?_) fun s' hs' hid hshow => ?_
  · simp only [Terminal.tile?_setPeerState, Terminal.tile?_setMic, Terminal.tile?_setName, ↓reduceIte,
      Option.map_map, Option.map_eq_some_iff] at hx
    obtain ⟨y, hy, rfl⟩ := hx
    refine ⟨y, hy, ?_⟩
    by_cases hyl : y.isLocal <;> by_cases hya : y.audio = audio <;> simp_all
  · -- with one session per id, the session of `s.id` is `s`
    have e := Registry.get?_of_mem hn hs'
    rw [hid, hget, Option.some.injEq] at e
    subst e
    obtain ⟨x, hx, hl, hst, ha, hname⟩ := hshow
    simp only [Terminal.Shows, Terminal.tile?_setPeerState, Terminal.tile?_setMic,
      Terminal.tile?_setName, Session.setState_id, Session.setAudio_id, Session.setName_id,
      ↓reduceIte, hx]
    by_cases hxa : x.audio = audio <;> simp [hxa, hl, Session.setState_state, hopen s hs']

/-- Taking the session of an id out of the registry keeps the others shown. -/
theorem remove {r : Registry} {s : Session} (h : Roster localId r.sessions t)
    (hget : r.get? s.id = some s) : Roster localId (r.remove s).1.sessions t := by
  rw [Registry.remove_of_get? hget]
  exact h.sublist List.filter_sublist

/-- Taking down the tile of an id that has no session keeps the roster. -/
@[grind ←] theorem removeTile_of_get?_eq_none {r : Registry} (h : Roster localId r.sessions t)
    {id : String} (hn : r.get? id = none) :
    Roster localId r.sessions (t.apply (.removeTile id)).1 :=
  h.removeTile (Registry.get?_eq_none.mp hn)

end Roster

end MeshCall
