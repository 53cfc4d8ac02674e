import Mathlib
import MeshCall.Proofs.Microphone.Events
import MeshCall.Proofs.SessionMap
/-!
# Tiles left without a session

A tile of another participant outlives its session whenever the session is discarded and no
replacement takes its place: a retry drops a failed session and keeps its tile until the peer
offers again, and a join or an offer drops the session it replaces before the replacement is
built. The invariant `Orphans` says what such a tile can be: it shows `failed`, or the last
connection the controller set up for its id was refused, because it could not be made or it
refused a local track. Main statement: `sessionless_tile_failed_or_refused`, for every call a
controller driving a terminal can reach; a refused rebuild in answer to an offer leaves a tile
that shows the state of the session it replaced (`refused_rebuild_leaves_offer_sent_tile`).
-/

namespace MeshCall

open Std.Do

set_option mvcgen.warning false

variable {σ : Type}

/-! ## Notes in a journal -/

/-- The latest note that `f` takes from a journal, if it takes any. -/
def latestNote {α : Type} (f : Effect → Option α) (t : List Effect) : Option α :=
  (t.filterMap f).getLast?

section

variable {α : Type} (f : Effect → Option α)

@[simp] theorem latestNote_nil : latestNote f [] = none := rfl

@[simp] theorem latestNote_append (t u : List Effect) :
    latestNote f (t ++ u) = (latestNote f u).or (latestNote f t) := by
  simp [latestNote, List.getLast?_append]

@[simp] theorem latestNote_cons (e : Effect) (t : List Effect) :
    latestNote f (e :: t) = (latestNote f t).or (f e) := by
  rw [← List.singleton_append, latestNote_append]
  cases h : f e <;> simp [latestNote, h]

end

/-- What an effect tells of the connection last set up for `id`: one was made (`true`), or one
was refused (`false`), because it could not be made or it refused a local track. -/
@[simp] def Effect.setupOf (id : String) : Effect → Option Bool
  | .newConn i _ failed => if i = id then some !failed else none
  | .request i _ (.addTrack _) failed => if i = id ∧ failed = true then some false else none
  | .request _ _ (.replaceTrack _ _) _ | .request _ _ (.setLocal _) _
  | .request _ _ (.setRemote _) _ | .request _ _ (.addCandidate _) _ | .request _ _ .close _ => none
  | .send _ _ | .closeRelay | .describe _ _ _ _ | .save _ _ | .clear _ | .arm _ _ _ | .disarm _
  | .present _ => none

/-- The last connection set up for `id` was refused. -/
def SetupRefused (t : List Effect) (id : String) : Prop :=
  latestNote (Effect.setupOf id) t = some false

/-! ## The invariant -/

/-- Every tile of another participant whose id has no registered session, the ids of `ex` apart,
shows `failed`, or belongs to an id whose last connection set up was refused. -/
def OrphanTiles (ex : List String) (r : Registry) (t : Terminal) (j : List Effect) : Prop :=
  ∀ id x, t.tile? id = some x → x.isLocal = false → id ∉ ex → r.get? id = none →
    x.state = .failed ∨ SetupRefused j id

namespace OrphanTiles

variable {ex : List String} {r : Registry} {t : Terminal} {j : List Effect}

/-- Exempting more ids, registering sessions and growing the journal by entries that set
nothing up for the tiles concerned all keep it. -/
theorem mono (h : OrphanTiles ex r t j) {ex' : List String} {r' : Registry} {j' : List Effect}
    (hex : ex ⊆ ex') (hr : ∀ id, r'.get? id = none → r.get? id = none)
    (hj : ∀ id, SetupRefused j id → SetupRefused j' id) : OrphanTiles ex' r' t j' := by
  intro id x hx hl hm hn
  exact (h id x hx hl (fun h' => hm (hex h')) (hr id hn)).imp_right (hj id)

/-- A view change that keeps every tile of another participant, and its state, keeps it. -/
theorem view (h : OrphanTiles ex r t j) {t' : Terminal}
    (ht : ∀ id x, t'.tile? id = some x → x.isLocal = false → id ∉ ex → r.get? id = none →
      ∃ y, t.tile? id = some y ∧ y.isLocal = false ∧ y.state = x.state) :
    OrphanTiles ex r t' j := by
  intro id x hx hl hm hn
  obtain ⟨y, hy, hyl, hys⟩ := ht id x hx hl hm hn
  exact hys ▸ h id y hy hyl hm hn

/-- Two rosters whose tiles of ids without a session agree in place, locality and state. -/
theorem congr_view {t' : Terminal}
    (hsame : ∀ id, r.get? id = none → ((t'.tile? id).map fun x => (x.isLocal, x.state)) =
      (t.tile? id).map fun x => (x.isLocal, x.state)) :
    OrphanTiles ex r t' j ↔ OrphanTiles ex r t j := by
  have hmap : ∀ {t₁ t₂ : Terminal}, (∀ id, r.get? id = none →
      ((t₁.tile? id).map fun x => (x.isLocal, x.state)) = (t₂.tile? id).map fun x => (x.isLocal, x.state)) →
      OrphanTiles ex r t₁ j → OrphanTiles ex r t₂ j := by
    intro t₁ t₂ hs h
    refine h.view fun id x hx hl _ hn => ?_
    have e₁ : (t₁.tile? id).map (fun x => (x.isLocal, x.state)) = some (x.isLocal, x.state) := by
      rw [hs id hn, hx]
      rfl
    obtain ⟨y, hy, e⟩ := Option.map_eq_some_iff.mp e₁
    simp only [Prod.mk.injEq] at e
    exact ⟨y, hy, e.1.trans hl, e.2⟩
  exact ⟨hmap hsame, hmap fun id h => (hsame id h).symm⟩

/-- A change to the tile of an id with a session. -/
theorem congr_registered {t' : Terminal} {id : String} (hid : r.get? id ≠ none)
    (hother : ∀ id', id' ≠ id → t'.tile? id' = t.tile? id') :
    OrphanTiles ex r t' j ↔ OrphanTiles ex r t j :=
  congr_view fun id' hn => by rw [hother id' fun e => hid (e ▸ hn)]

@[simp] theorem setPeerState_iff {id : String} (hid : r.get? id ≠ none) (st : SessionState) :
    OrphanTiles ex r (t.apply (.setPeerState id st)).1 j ↔ OrphanTiles ex r t j :=
  congr_registered hid fun id' h => by simp [h]

@[simp] theorem addTile_iff {id : String} (hid : r.get? id ≠ none) (name : String) (audio : Bool) :
    OrphanTiles ex r (t.apply (.addTile id name audio)).1 j ↔ OrphanTiles ex r t j :=
  congr_registered hid fun id' h => by simp [h]

@[simp, grind =] theorem setName_iff (id name : String) :
    OrphanTiles ex r (t.apply (.setName id name)).1 j ↔ OrphanTiles ex r t j :=
  congr_view fun id' _ => by
    by_cases e : id' = id
    · subst e
      cases h : t.tile? id' <;> simp [h, apply_ite]
    · simp [e]

@[simp, grind =] theorem setMic_iff (id : String) (enabled : Bool) :
    OrphanTiles ex r (t.apply (.setMic id enabled)).1 j ↔ OrphanTiles ex r t j :=
  congr_view fun id' _ => by
    by_cases e : id' = id
    · subst e
      cases h : t.tile? id' <;> simp [h, apply_ite]
    · simp [e]

@[simp, grind =] theorem setSpeaking_iff (id : String) (speaking : Bool) :
    OrphanTiles ex r (t.apply (.setSpeaking id speaking)).1 j ↔ OrphanTiles ex r t j :=
  congr_view fun id' _ => by
    by_cases e : id' = id
    · subst e
      cases h : t.tile? id' <;> simp [h]
    · simp [e]

@[simp] theorem setButtons_iff (b : Buttons) :
    OrphanTiles ex r (t.apply (.setButtons b)).1 j ↔ OrphanTiles ex r t j := Iff.rfl

/-- A cleared roster has no tile left. -/
@[simp] theorem clear : OrphanTiles ex r (t.apply .clear).1 j := by
  intro id x hx
  simp at hx

/-- A fresh terminal shows the local participant alone. -/
@[simp] theorem showLocal (id name : String) (audio : Bool) :
    OrphanTiles ex r (({} : Terminal).apply (.showLocal id name audio)).1 j := by
  intro id' x hx hl
  by_cases e : id' = id
  · simp only [e, Terminal.tile?_showLocal, if_true, Option.some.injEq] at hx
    simp [← hx] at hl
  · simp [e] at hx

/-- Taking down the tile of `id` settles the exemption of `id`. -/
@[grind ←] theorem removeTile {id : String} (h : OrphanTiles (id :: ex) r t j) :
    OrphanTiles ex r (t.apply (.removeTile id)).1 j := by
  intro id' x hx hl hm hn
  by_cases e : id' = id
  · subst e
    simp only [Terminal.tile?_removeTile, if_true, Option.filter_eq_some_iff] at hx
    simp [hx.2] at hl
  · simp only [Terminal.tile?_removeTile, e, if_false] at hx
    exact h id' x hx hl (by simp [e, hm]) hn

/-- Registering sessions keeps it: only ids without a session are read. -/
theorem register {r' : Registry} (h : OrphanTiles ex r t j)
    (hr : ∀ id, r'.get? id = none → r.get? id = none) : OrphanTiles ex r' t j :=
  h.mono (List.Subset.refl _) hr fun _ h => h

@[simp] theorem modify_iff (id : String) (f : Session → Session) (hf : ∀ s, (f s).id = s.id) :
    OrphanTiles ex (r.modify id f) t j ↔ OrphanTiles ex r t j := by
  have e : ∀ id', (r.modify id f).get? id' = none ↔ r.get? id' = none := fun id' => by
    rw [Registry.get?_modify hf]
    split <;> simp_all
  simp only [OrphanTiles, e]

/-- Taking the session of `s.id` out of the registry exempts the tile of `s.id`. -/
theorem remove (h : OrphanTiles ex r t j) (s : Session) :
    OrphanTiles (s.id :: ex) (r.remove s).1 t j := by
  intro id x hx hl hm hn
  have hne : id ≠ s.id := fun e => hm (e ▸ List.mem_cons_self ..)
  rw [Registry.get?_remove, if_neg fun h => hne h.2] at hn
  exact h id x hx hl (fun h' => hm (List.mem_cons_of_mem _ h')) hn

/-- Journal entries that set nothing up leave it as it is. -/
@[simp] theorem journal_iff {u : List Effect} (hu : ∀ id, latestNote (Effect.setupOf id) u = none) :
    OrphanTiles ex r t (j ++ u) ↔ OrphanTiles ex r t j := by
  have e : ∀ id, SetupRefused (j ++ u) id ↔ SetupRefused j id := fun id => by
    simp [SetupRefused, hu id]
  simp only [OrphanTiles, e]

/-- The exemption of an id is settled once its tile, if it is a peer's without a session, is
accounted for. -/
theorem settle {id : String} (h : OrphanTiles (id :: ex) r t j)
    (hs : ∀ x, t.tile? id = some x → x.isLocal = false → r.get? id = none →
      x.state = .failed ∨ SetupRefused j id) : OrphanTiles ex r t j := by
  intro id' x hx hl hm hn
  by_cases e : id' = id
  · subst e
    exact hs x hx hl hn
  · exact h id' x hx hl (by simp [e, hm]) hn

/-- The exemption of an id is settled once its tile shows `failed`. -/
theorem failed {id : String} (h : OrphanTiles (id :: ex) r t j)
    (hf : ∀ x, t.tile? id = some x → x.state = .failed) : OrphanTiles ex r t j :=
  h.settle fun x hx _ _ => .inl (hf x hx)

/-- The exemption of an id is settled once its last connection set up was refused. -/
theorem refused {id : String} (h : OrphanTiles (id :: ex) r t j) (hr : SetupRefused j id) :
    OrphanTiles ex r t j :=
  h.settle fun _ _ _ _ => .inr hr

/-- The exemption of an id with a session is no exemption. -/
theorem registered {id : String} (h : OrphanTiles (id :: ex) r t j) (hid : r.get? id ≠ none) :
    OrphanTiles ex r t j :=
  h.settle fun _ _ _ hn => absurd hn hid

/-- Every tile it reads, it reads with any id exempt. -/
@[grind ←] theorem widen {id : String} (h : OrphanTiles [] r t j) : OrphanTiles [id] r t j :=
  h.mono (List.nil_subset _) (fun _ h => h) fun _ h => h

/-- A new state on the tile of an id with a session keeps it. -/
@[grind ←] theorem setPeerState {id : String} (h : OrphanTiles ex r t j) (hid : r.get? id ≠ none)
    (st : SessionState) : OrphanTiles ex r (t.apply (.setPeerState id st)).1 j :=
  (setPeerState_iff hid st).mpr h

/-- Registering a session for an exempt id settles its exemption. -/
theorem upsert {s : Session} (h : OrphanTiles (s.id :: ex) r t j) :
    OrphanTiles ex (r.upsert s).1 t j := by
  refine (h.register fun id hn => ?_).registered (by simp [Registry.get?_upsert])
  rw [Registry.get?_upsert] at hn
  split at hn
  · simp at hn
  · exact hn

/-- Journal entries that set up nothing but for an exempt id keep it. -/
theorem keep_exempt {id : String} (h : OrphanTiles (id :: ex) r t j) {u : List Effect}
    (hu : ∀ id', id' ≠ id → latestNote (Effect.setupOf id') u = none) :
    OrphanTiles (id :: ex) r t (j ++ u) := by
  intro id' x hx hl hm hn
  have hne : id' ≠ id := fun e => hm (e ▸ List.mem_cons_self ..)
  simpa [SetupRefused, hu id' hne] using h id' x hx hl hm hn

/-- A refusal noted for an exempt id settles its exemption. -/
theorem settle_refused {id : String} (h : OrphanTiles (id :: ex) r t j) {u : List Effect}
    (hu : ∀ id', id' ≠ id → latestNote (Effect.setupOf id') u = none)
    (hr : latestNote (Effect.setupOf id) u = some false) : OrphanTiles ex r t (j ++ u) :=
  (h.keep_exempt hu).refused (by simp [SetupRefused, hr])

/-- Taking a session out of the registry exempts its tile, and settles the exemption at once
when the roster showed the session `failed`. -/
theorem discard {self : String} {s : Session} (h : OrphanTiles ex r t j) (hget : r.get? s.id = some s)
    (hr : Roster self r.sessions t) :
    OrphanTiles (s.id :: ex) (r.remove s).1 t j ∧ (s.state = .failed → OrphanTiles ex (r.remove s).1 t j) := by
  refine ⟨h.remove s, fun hf => (h.remove s).failed fun x hx => ?_⟩
  -- the roster shows the registered session on the tile of its id
  obtain ⟨hs, -⟩ := Registry.get?_eq_some hget
  obtain ⟨y, hy, -, hst, -⟩ := hr.shown s hs
  rw [hx, Option.some.injEq] at hy
  rw [hy, hst, hf]

/-- Emptying the registry exempts the tiles of the sessions it held. -/
theorem drain (h : OrphanTiles [] r t j) : OrphanTiles (r.snapshot.map (·.id)) {} t j := by
  intro id x hx hl hm _
  cases hget : r.get? id with
  | none => exact h id x hx hl List.not_mem_nil hget
  | some s =>
    -- a registered id is among the drained ones
    obtain ⟨hs, rfl⟩ := Registry.get?_eq_some hget
    exact absurd (List.mem_map_of_mem (Registry.snapshot_perm.mem_iff.mpr hs)) hm

end OrphanTiles

/-! ## Triples over runs

A program of a call is a function of the call it starts from, so a triple over state predicates
says what every run leaves; two such triples for one program hold together.
-/

section

variable {α : Type} {prog : CallM σ α}

/-- What every run from a call meeting `P` leaves is a triple. -/
theorem Triple.of_runs {P : Call σ → Prop} {Q : α → Call σ → Prop}
    (h : ∀ c, P c → Q (prog.run c).1 (prog.run c).2) :
    ⦃fun c => ⌜P c⌝⦄ prog ⦃⇓ r c => ⌜Q r c⌝⦄ := by
  simp only [Triple.iff]
  intro c hc
  exact h c hc

/-- A triple says what a run leaves, result included. -/
theorem Triple.runs_of {P : Call σ → Prop} {Q : α → Call σ → Prop}
    (h : ⦃fun c => ⌜P c⌝⦄ prog ⦃⇓ r c => ⌜Q r c⌝⦄) {c : Call σ} (hc : P c) :
    Q (prog.run c).1 (prog.run c).2 :=
  StateM.of_wp_run_eq rfl (fun p => Q p.1 p.2) (by simpa using h c hc)

/-- Two triples of one program, from a precondition that gives both of theirs. -/
theorem Triple.conj {P P₁ P₂ : Call σ → Prop} {Q₁ Q₂ : α → Call σ → Prop}
    (h₁ : ⦃fun c => ⌜P₁ c⌝⦄ prog ⦃⇓ r c => ⌜Q₁ r c⌝⦄) (h₂ : ⦃fun c => ⌜P₂ c⌝⦄ prog ⦃⇓ r c => ⌜Q₂ r c⌝⦄)
    (hP : ∀ c, P c → P₁ c ∧ P₂ c) :
    ⦃fun c => ⌜P c⌝⦄ prog ⦃⇓ r c => ⌜Q₁ r c ∧ Q₂ r c⌝⦄ :=
  Triple.of_runs fun _ hc => ⟨Triple.runs_of h₁ (hP _ hc).1, Triple.runs_of h₂ (hP _ hc).2⟩

end

/-! ## Through every input -/

/-- The tiles of a call's roster left without a session, those of `ex` apart, show `failed` or
belong to an id whose last connection set up was refused. -/
def Orphans (ex : List String) (c : Call ((σ × List Effect) × Terminal)) : Prop :=
  OrphanTiles ex c.ctl.registry c.world.2 c.world.1.2

variable (L : Links σ)

/-- A session being made for `id`: registered, or refused and noted as such. -/
theorem newSession_orphans (id name : String) (audio : Bool) :
    ⦃fun c => ⌜c.ctl.registry.get? id = none ∧ Orphans [id] c⌝⦄
    newSession L.journaled.onTerminal id name audio
    ⦃⇓ _ c => ⌜Orphans [] c⌝⦄ := by
  mvcgen [newSession, ctl, modifyCtl, ask, request, present, tell]
    invariants
    | inv1 =>
      Invariant.withEarlyReturnNewDo
        (fun _ _ c => ⌜c.ctl.registry.get? id = none ∧ Orphans [id] c⌝)
        (fun _ _ c => ⌜Orphans [] c⌝)
  all_goals simp_all +zetaDelta [Orphans, Links.onTerminal]
  -- a refused connection or track settles the exemption of `id`; a connection made keeps it
  case vc1.isTrue =>
    rename_i pre _
    exact pre.2.settle_refused (fun id' h => by simp [Effect.setupOf, Ne.symm h]) (by simp [Effect.setupOf])
  case vc2.step.isTrue =>
    rename_i inv _
    exact inv.2.2.settle_refused (fun id' h => by simp [Effect.setupOf, Ne.symm h]) (by simp [Effect.setupOf])
  case vc4.isFalse.pre =>
    rename_i pre _
    exact pre.2.keep_exempt fun id' h => by simp [Effect.setupOf, Ne.symm h]
  -- the id has no session, so nothing is displaced
  case vc6.isFalse.post.success.h_2.h_1 =>
    rename_i old pre
    rw [Registry.upsert_of_get?_none pre.1] at old
    simp at old
  case vc7.isFalse.post.success.h_2.h_2 =>
    rename_i pre
    rw [OrphanTiles.setPeerState_iff (by simp [Registry.get?_upsert]),
      OrphanTiles.addTile_iff (by simp [Registry.get?_upsert])]
    exact pre.2.upsert

/-- Discarding the session of `s.id` leaves its tile behind; the tile shows the session's state,
so a failed session leaves a failed tile. -/
theorem discardSession_orphans (ex : List String) (s : Session) :
    ⦃fun c => ⌜c.ctl.registry.get? s.id = some s ∧
      Roster c.ctl.cfg.self.id c.ctl.registry.sessions c.world.2 ∧ Orphans ex c⌝⦄
    discardSession L.journaled.onTerminal s
    ⦃⇓ _ c => ⌜Orphans (s.id :: ex) c ∧ (s.state = .failed → Orphans ex c)⌝⦄ := by
  mvcgen [discardSession, closeSession, modifyCtl, request, ask]
  all_goals simp_all +zetaDelta [Orphans, Links.onTerminal, Controller.noteClosed]
  case vc1.isTrue =>
    rename_i pre _
    exact (pre.2.2.discard pre.1 pre.2.1).1
  case vc2.isFalse.isTrue | vc3.isFalse.isFalse =>
    rename_i pre _ _
    exact pre.2.2.discard pre.1 pre.2.1

/-- Dropping a session whose negotiation failed takes its tile down with it. -/
theorem abortNegotiation_orphans (ex : List String) (s : Session) :
    ⦃fun c => ⌜c.ctl.registry.get? s.id = some s ∧
      Roster c.ctl.cfg.self.id c.ctl.registry.sessions c.world.2 ∧ Orphans ex c⌝⦄
    abortNegotiation L.journaled.onTerminal s ⦃⇓ _ c => ⌜Orphans ex c⌝⦄ := by
  mvcgen [abortNegotiation, present, tell, discardSession_orphans]
  all_goals simp_all +zetaDelta [Orphans, Links.onTerminal]
  rename_i post
  exact post.1.removeTile

theorem setActiveStream_orphans (stream : Nat) :
    ⦃fun c => ⌜Orphans [] c⌝⦄ setActiveStream L.journaled.onTerminal stream
    ⦃⇓ _ c => ⌜Orphans [] c⌝⦄ := by
  mvcgen [setActiveStream, ctl, modifyCtl, request, ask, present, tell]
    invariants
    | inv1 => ⇓ _ c => ⌜Orphans [] c⌝
    | inv2 => ⇓ _ c => ⌜Orphans [] c⌝
  all_goals simp_all +zetaDelta [Orphans, Links.onTerminal]

/-- Tearing the call down clears the roster. -/
theorem shutdown_orphans (forget : Bool) :
    ⦃fun c => ⌜Orphans [] c⌝⦄ shutdown L.journaled.onTerminal forget ⦃⇓ _ c => ⌜Orphans [] c⌝⦄ := by
  mvcgen [shutdown, closeSession, cancelRetry, ctl, modifyCtl, request, ask, present, tell]
    invariants
    | inv1 => ⇓ _ _ => ⌜True⌝
    | inv2 => ⇓ _ _ => ⌜True⌝
  all_goals simp_all +zetaDelta [Orphans, Links.onTerminal]

/-! The helpers with the roster's agreement beside, as the handlers cite them. -/

theorem newSession_orphans_shown (id name : String) (audio : Bool) :
    ⦃fun c => ⌜Shown [] c ∧ c.ctl.registry.get? id = none ∧ id ≠ c.ctl.cfg.self.id ∧ Orphans [id] c⌝⦄
    newSession L.journaled.onTerminal id name audio
    ⦃⇓ r c => ⌜(Shown [id] c ∧ c.ctl.registry.get? id = r) ∧ Orphans [] c⌝⦄ :=
  Triple.conj (newSession_shown L.journaled id name audio) (newSession_orphans L id name audio)
    fun _ h => ⟨⟨h.1, h.2.1, h.2.2.1⟩, h.2.1, h.2.2.2⟩

theorem discardSession_orphans_shown (s : Session) :
    ⦃fun c => ⌜Shown [] c ∧ c.ctl.registry.get? s.id = some s ∧ Orphans [] c⌝⦄
    discardSession L.journaled.onTerminal s
    ⦃⇓ _ c => ⌜(Shown [] c ∧ c.ctl.registry.get? s.id = none ∧ s.id ≠ c.ctl.cfg.self.id) ∧
      (Orphans [s.id] c ∧ (s.state = .failed → Orphans [] c))⌝⦄ :=
  Triple.conj (discardSession_shown L.journaled s) (discardSession_orphans L [] s)
    fun _ h => ⟨⟨h.1, h.2.1⟩, h.2.1, h.1.2, h.2.2⟩

theorem abortNegotiation_orphans_shown (s : Session) :
    ⦃fun c => ⌜Shown [s.id] c ∧ c.ctl.registry.get? s.id = some s ∧ Orphans [] c⌝⦄
    abortNegotiation L.journaled.onTerminal s ⦃⇓ _ c => ⌜Shown [] c ∧ Orphans [] c⌝⦄ :=
  Triple.conj (abortNegotiation_shown L.journaled s) (abortNegotiation_orphans L [] s)
    fun _ h => ⟨⟨h.1, h.2.1⟩, h.2.1, h.1.2, h.2.2⟩

theorem handleJoin_orphans (m : Join) :
    ⦃fun c => ⌜Shown [] c ∧ Orphans [] c ∧ m.sender ≠ c.ctl.cfg.self.id⌝⦄
    handleJoin L.journaled.onTerminal m ⦃⇓ _ c => ⌜Orphans [] c⌝⦄ := by
  mvcgen [handleJoin, ctl, ask, request, present, tell, sendDescription, send, setSessionState,
    modifyCtl, newSession_orphans_shown, discardSession_orphans_shown, abortNegotiation_orphans_shown]
  all_goals simp_all +zetaDelta [Orphans, Shown, Negotiated, Links.onTerminal,
    ← Option.eq_none_iff_forall_ne_some]
  all_goals grind

theorem handleOffer_orphans (m : Description) :
    ⦃fun c => ⌜Shown [] c ∧ Orphans [] c ∧ m.sender ≠ c.ctl.cfg.self.id⌝⦄
    handleOffer L.journaled.onTerminal m ⦃⇓ _ c => ⌜Orphans [] c⌝⦄ := by
  mvcgen [handleOffer, ctl, ask, request, present, tell, sendDescription, send, setSessionState,
    modifyCtl, newSession_orphans_shown, discardSession_orphans_shown, abortNegotiation_orphans_shown]
  all_goals simp_all +zetaDelta [Orphans, Shown, Negotiated, Links.onTerminal,
    ← Option.eq_none_iff_forall_ne_some]
  all_goals grind

theorem handleAnswer_orphans (m : Description) :
    ⦃fun c => ⌜Orphans [] c⌝⦄ handleAnswer L.journaled.onTerminal m ⦃⇓ _ c => ⌜Orphans [] c⌝⦄ := by
  mvcgen [handleAnswer, ctl, modifyCtl, ask, request, present, tell]
  all_goals simp_all +zetaDelta [Orphans, Links.onTerminal]
  all_goals grind

theorem handleCandidate_orphans (m : CandidateNote) :
    ⦃fun c => ⌜Orphans [] c⌝⦄ handleCandidate L.journaled.onTerminal m ⦃⇓ _ c => ⌜Orphans [] c⌝⦄ := by
  mvcgen [handleCandidate, ctl, ask, request]
  all_goals simp_all +zetaDelta [Orphans, Links.onTerminal]

theorem handleAudioToggle_orphans (m : AudioToggle) :
    ⦃fun c => ⌜Orphans [] c⌝⦄ handleAudioToggle L.journaled.onTerminal m ⦃⇓ _ c => ⌜Orphans [] c⌝⦄ := by
  mvcgen [handleAudioToggle, ctl, modifyCtl, present, tell]
  all_goals simp_all +zetaDelta [Orphans, Links.onTerminal]
  -- clearing the sender's meter, or not, leaves the registry as the toggle set it
  rename_i pre _
  have h := (OrphanTiles.modify_iff m.sender (·.setAudio m.enabled) fun _ => rfl).mpr pre
  split
  · split <;> exact h
  · exact h

theorem handleUserLeft_orphans (m : UserLeft) :
    ⦃fun c => ⌜Shown [] c ∧ Orphans [] c⌝⦄ handleUserLeft L.journaled.onTerminal m
    ⦃⇓ _ c => ⌜Orphans [] c⌝⦄ := by
  mvcgen [handleUserLeft, cancelRetry, ctl, modifyCtl, present, tell, discardSession_orphans_shown]
  all_goals simp_all +zetaDelta [Orphans, Shown, Negotiated, Links.onTerminal,
    ← Option.eq_none_iff_forall_ne_some]
  all_goals grind

theorem handleRelayUp_orphans :
    ⦃fun c => ⌜Shown [] c ∧ Orphans [] c⌝⦄ handleRelayUp L.journaled.onTerminal
    ⦃⇓ _ c => ⌜Orphans [] c⌝⦄ := by
  mvcgen [handleRelayUp, closeSession, cancelRetry, sendJoin, send, persist, ctl, modifyCtl, ask,
    request, present, tell]
    invariants
    | inv1 => ⇓ p c => ⌜c.ctl.registry.sessions = [] ∧ Orphans (p.1.suffix.map (·.id)) c⌝
  all_goals simp_all +zetaDelta [Orphans, Registry.drain, Links.onTerminal]
  case vc7.pre =>
    rename_i pre
    exact pre.2.drain
  all_goals grind

theorem handlePeerState_orphans (id : String) (gen : Nat) (state : ConnectionState) :
    ⦃fun c => ⌜Orphans [] c⌝⦄ handlePeerState L.journaled.onTerminal id gen state
    ⦃⇓ _ c => ⌜Orphans [] c⌝⦄ := by
  mvcgen [handlePeerState, lookup, scheduleRetry, cancelRetry, setSessionState, ctl, modifyCtl, ask,
    present, tell]
  all_goals simp_all +zetaDelta [Orphans, Links.onTerminal]

theorem handleLocalCandidate_orphans (id : String) (gen : Nat) (cand : IceCandidate) :
    ⦃fun c => ⌜Orphans [] c⌝⦄ handleLocalCandidate L.journaled.onTerminal id gen cand
    ⦃⇓ _ c => ⌜Orphans [] c⌝⦄ := by
  mvcgen [handleLocalCandidate, lookup, send, ctl, ask]
  all_goals simp_all +zetaDelta [Orphans, Links.onTerminal]

/-- A retry drops a failed session, whose tile shows `failed`. -/
theorem handleRetry_orphans (id : String) (gen : Nat) :
    ⦃fun c => ⌜Shown [] c ∧ Orphans [] c⌝⦄ handleRetry L.journaled.onTerminal id gen
    ⦃⇓ _ c => ⌜Orphans [] c⌝⦄ := by
  mvcgen [handleRetry, lookup, sendJoin, send, ctl, modifyCtl, ask, discardSession_orphans_shown]
  all_goals simp_all +zetaDelta [Orphans, Shown, Negotiated, Links.onTerminal,
    ← Option.eq_none_iff_forall_ne_some]
  all_goals grind

theorem handleSpeaking_orphans (id : String) (gen : Nat) (speaking : Bool) :
    ⦃fun c => ⌜Orphans [] c⌝⦄ handleSpeaking L.journaled.onTerminal id gen speaking
    ⦃⇓ _ c => ⌜Orphans [] c⌝⦄ := by
  mvcgen [handleSpeaking, lookup, ctl, present, tell]
  all_goals simp_all +zetaDelta [Orphans, Links.onTerminal]

theorem handleScreenEnded_orphans (stream : Nat) :
    ⦃fun c => ⌜Orphans [] c⌝⦄ handleScreenEnded L.journaled.onTerminal stream
    ⦃⇓ _ c => ⌜Orphans [] c⌝⦄ := by
  mvcgen [handleScreenEnded, ctl, setActiveStream_orphans]

/-- The envelope filter turns away the local participant's own envelopes, so a join or an offer
reaches its handler only from another participant. -/
theorem handleMessage_orphans (m : Envelope) :
    ⦃fun c => ⌜Shown [] c ∧ Orphans [] c⌝⦄ handleMessage L.journaled.onTerminal m
    ⦃⇓ _ c => ⌜Orphans [] c⌝⦄ := by
  mvcgen [handleMessage, ctl, handleJoin_orphans, handleOffer_orphans, handleAnswer_orphans,
    handleCandidate_orphans, handleAudioToggle_orphans, handleUserLeft_orphans]
  all_goals simp_all +zetaDelta [Envelope.sender]

theorem handleEvent_orphans (e : Event) :
    ⦃fun c => ⌜Shown [] c ∧ Orphans [] c⌝⦄ handleEvent L.journaled.onTerminal e
    ⦃⇓ _ c => ⌜Orphans [] c⌝⦄ := by
  mvcgen [handleEvent, lookup, ctl, modifyCtl, handleMessage_orphans, handleRelayUp_orphans,
    handlePeerState_orphans, handleLocalCandidate_orphans, handleRetry_orphans,
    handleSpeaking_orphans, handleScreenEnded_orphans]
  all_goals simp_all +zetaDelta [Orphans]

theorem runCommand_orphans (cmd : Command) :
    ⦃fun c => ⌜Orphans [] c⌝⦄ runCommand L.journaled.onTerminal cmd ⦃⇓ _ c => ⌜Orphans [] c⌝⦄ := by
  mvcgen [runCommand, toggleMute, toggleCamera, shareScreen, endCall, persist, send, ctl,
    modifyCtl, ask, present, tell, setActiveStream_orphans, shutdown_orphans]
  all_goals simp_all +zetaDelta [Orphans, Links.onTerminal]

theorem dispatch_orphans (i : Input) :
    ⦃fun c => ⌜Shown [] c ∧ Orphans [] c⌝⦄ dispatch L.journaled.onTerminal i
    ⦃⇓ _ c => ⌜Orphans [] c⌝⦄ := by
  mvcgen [dispatch, ctl, handleEvent_orphans, runCommand_orphans, shutdown_orphans]
  all_goals simp_all

/-- A call that was just created shows its local participant only. -/
theorem start_orphans (w : σ) (cfg : CallConfig) (media : Media.Manager) :
    ⦃fun c => ⌜c = ⟨Controller.create cfg media, ((w, []), {})⟩⌝⦄ start L.journaled.onTerminal
    ⦃⇓ _ c => ⌜Orphans [] c⌝⦄ := by
  mvcgen [start, ctl, present, tell]
  simp_all +zetaDelta [Orphans, Links.onTerminal]

/-- Both invariants hold in every reachable call that started on an empty roster. -/
theorem Orphans.of_reachable {L : Links σ} {w : σ} {c : Call ((σ × List Effect) × Terminal)}
    (h : Reachable L.journaled.onTerminal ((w, []), {}) c) : Shown [] c ∧ Orphans [] c :=
  Reachable.induct_triples (I := fun c => Shown [] c ∧ Orphans [] c)
    (fun cfg media => Triple.conj (start_shown L.journaled (w, []) cfg media)
      (start_orphans L w cfg media) fun _ h => ⟨h, h⟩)
    (fun i => Triple.conj (dispatch_shown L.journaled i) (dispatch_orphans L i) fun _ h => ⟨h.1, h⟩) h

/-- In every reachable call that started on an empty terminal, a remote tile whose id has no
session shows a failed connection, or the last connection built for its id was refused: the
connection could not be made, or a track could not be added to it. -/
theorem sessionless_tile_failed_or_refused {L : Links σ} {w : σ}
    {c : Call ((σ × List Effect) × Terminal)} (h : Reachable L.journaled.onTerminal ((w, []), {}) c)
    (id : String) (x : Tile) (hx : c.world.2.tile? id = some x) (hl : x.isLocal = false)
    (hs : c.ctl.registry.get? id = none) :
    x.state = .failed ∨ SetupRefused c.world.1.2 id :=
  (Orphans.of_reachable h).2 id x hx hl List.not_mem_nil hs

/-! ## A tile left by a refused rebuild -/

/-- Links that make the first connection and refuse every later one; every other request
succeeds. -/
def refusingRebuild : Links Unit where
  send _ w := (none, w)
  closeRelay w := w
  newConn _ gen w := (if gen = 1 then none else some (Fault.plain "new_conn failed"), w)
  request _ _ _ w := (none, w)
  describe _ _ t w := (.ok ⟨t, "v=0"⟩, w)
  save _ w := (none, w)
  clear w := (none, w)
  arm _ _ w := (0, w)
  disarm _ w := w
  present _ w := w

/-- The call after a join from "b" and then an offer from "b", whose rebuild the links refuse. -/
def refusedRebuild : Call ((Unit × List Effect) × Terminal) :=
  let L := refusingRebuild.journaled.onTerminal
  let c := ((start L).run ⟨Controller.create default default, (((), []), {})⟩).2
  let c := ((dispatch L (.event (.message (.join ⟨"b", "Bea", true⟩)))).run c).2
  ((dispatch L (.event (.message (.description ⟨"offer", "v=0", "b", "", "Bea", true⟩)))).run c).2

theorem refusedRebuild_reachable :
    Reachable refusingRebuild.journaled.onTerminal (((), []), {}) refusedRebuild :=
  Reachable.step _ (Reachable.step _ (Reachable.init _ _))

/-- The tile the refused rebuild leaves behind is accounted for by the refusal. -/
theorem refused_rebuild_tile_refused :
    let x := (refusedRebuild.world.2.tile? "b").getD default
    refusedRebuild.world.2.tile? "b" = some x ∧ x.isLocal = false ∧
      refusedRebuild.ctl.registry.get? "b" = none ∧
      (x.state = .failed ∨ SetupRefused refusedRebuild.world.1.2 "b") :=
  ⟨by decide, by decide, by decide,
    sessionless_tile_failed_or_refused refusedRebuild_reachable "b" _ (by decide) (by decide)
      (by decide)⟩

/-- Without a session, a remote tile can still show a connection under negotiation: the session
of the join was discarded while its offer was out, and its rebuild for the peer's own offer was
refused, so nothing took the tile down. -/
theorem refused_rebuild_leaves_offer_sent_tile :
    Reachable refusingRebuild.journaled.onTerminal (((), []), {}) refusedRebuild ∧
      refusedRebuild.ctl.registry.get? "b" = none ∧
      (refusedRebuild.world.2.tile? "b").map (fun x => (x.isLocal, x.state)) =
        some (false, .offerSent) :=
  ⟨refusedRebuild_reachable, by decide, by decide⟩

end MeshCall
