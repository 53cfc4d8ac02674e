import Mathlib
import MeshCall.Proofs.Ignored
import MeshCall.Proofs.Tracks.Shapes
/-!
# The tracks each connection sends

A connection sends, for each kind, the last track set on it for that kind: the track added when
its session was made, or the last replacement it took. The journal of a call records every
addition and replacement with whether the connection took it, so the track a connection sends
is read off the journal.

The books kept here say that every registered session's connection sends the tracks of the
active stream, unless it once refused a replacement. A new session is given the active tracks;
switching the active stream replaces the tracks of every session before the new stream is made
active; and nothing else changes which tracks a stream sends.
-/

namespace MeshCall

open Std.Do Media

set_option mvcgen.warning false

/-- The track a call set on a connection, if the connection took it: the connection, the kind,
and the track. -/
def Effect.setsTrack? : Effect → Option ((String × Nat) × MediaKind × TrackRef)
  | .request id gen r failed =>
    match r with
    | .addTrack t => if failed then none else some ((id, gen), t.kind, t)
    | .replaceTrack k t => if failed then none else some ((id, gen), k, t)
    | _ => none
  | _ => none

/-- The connection that refused to replace a track, if the call is such a refusal. -/
def Effect.refusedSwap? : Effect → Option (String × Nat)
  | .request id gen (.replaceTrack _ _) failed => if failed then some (id, gen) else none
  | _ => none

/-- The tracks set on connections and taken, in order. -/
def trackSets (t : List Effect) : List ((String × Nat) × MediaKind × TrackRef) :=
  t.filterMap Effect.setsTrack?

/-- The connections that refused a replacement, once per refusal. -/
def refusedSwaps (t : List Effect) : List (String × Nat) := t.filterMap Effect.refusedSwap?

@[simp] theorem trackSets_append (t u : List Effect) :
    trackSets (t ++ u) = trackSets t ++ trackSets u := by
  simp [trackSets]

@[simp] theorem refusedSwaps_append (t u : List Effect) :
    refusedSwaps (t ++ u) = refusedSwaps t ++ refusedSwaps u := by
  simp [refusedSwaps]

@[simp] theorem trackSets_cons (e : Effect) (t : List Effect) :
    trackSets (e :: t) = e.setsTrack?.toList ++ trackSets t := by
  cases h : e.setsTrack? <;> simp [trackSets, h]

@[simp] theorem refusedSwaps_cons (e : Effect) (t : List Effect) :
    refusedSwaps (e :: t) = e.refusedSwap?.toList ++ refusedSwaps t := by
  cases h : e.refusedSwap? <;> simp [refusedSwaps, h]

@[simp] theorem trackSets_nil : trackSets [] = [] := rfl

@[simp] theorem refusedSwaps_nil : refusedSwaps [] = [] := rfl

/-- A track set on a connection: the connection, the kind, and the track. -/
abbrev TrackSet := (String × Nat) × MediaKind × TrackRef

/-- The track the connection `key` sends for kind `k`, given the tracks set so far: the last
one set on it for `k`. -/
def sending (sets : List TrackSet) (key : String × Nat) (k : MediaKind) : Option TrackRef :=
  (sets.filter fun x => x.1 == key && x.2.1 == k).getLast?.map (·.2.2)

/-- The connection `key` sends each of the tracks `ts`. -/
def Follows (sets : List TrackSet) (key : String × Nat) (ts : List TrackRef) : Prop :=
  ∀ x ∈ ts, sending sets key x.kind = some x

/-- Setting one track on one connection and kind changes what is sent there only. -/
theorem sending_append_set (sets : List TrackSet) (key key' : String × Nat) (k k' : MediaKind)
    (x : TrackRef) :
    sending (sets ++ [(key', k', x)]) key k =
      if key' = key ∧ k' = k then some x else sending sets key k := by
  by_cases e : key' = key ∧ k' = k
  · obtain ⟨rfl, rfl⟩ := e
    simp [sending, List.filter_append]
  · have hnil : [(key', k', x)].filter (fun y => y.1 == key && y.2.1 == k) = [] := by
      simpa using e
    simp only [sending, List.filter_append, hnil, List.append_nil, if_neg e]

namespace Follows

variable {sets more : List TrackSet} {key key' : String × Nat} {ts : List TrackRef} {x : TrackRef}

@[simp] theorem nil : Follows sets key [] := fun _ h => absurd h List.not_mem_nil

/-- Tracks set on other connections leave what this one sends. -/
theorem append (h : Follows sets key ts) (hu : ∀ y ∈ more, y.1 ≠ key) :
    Follows (sets ++ more) key ts := by
  intro y hy
  have hnil : more.filter (fun z => z.1 == key && z.2.1 == y.kind) = [] :=
    List.filter_eq_nil_iff.mpr fun z hz => by simp [hu z hz]
  simpa [sending, List.filter_append, hnil] using h y hy

/-- Setting a new track on its own kind, where the tracks sent so far are of other kinds, adds
it to them. -/
theorem set (h : Follows sets key ts) (hn : ((ts ++ [x]).map (·.kind)).Nodup) :
    Follows (sets ++ [(key, x.kind, x)]) key (ts ++ [x]) := by
  intro y hy
  rw [sending_append_set]
  rcases List.mem_append.mp hy with hy | hy
  · have hk : x.kind ≠ y.kind := by
      intro e
      simp only [List.map_append, List.map_cons, List.map_nil, List.nodup_append,
        List.nodup_cons, List.mem_singleton] at hn
      exact hn.2.2 _ (List.mem_map_of_mem hy) _ rfl e.symm
    simpa [hk] using h y hy
  · obtain rfl := List.mem_singleton.mp hy
    simp

/-- Setting a track of `ts` on its own kind keeps a connection sending `ts`, whichever
connection it is set on. -/
theorem reset (h : Follows sets key ts) (hn : (ts.map (·.kind)).Nodup) (hx : x ∈ ts) :
    Follows (sets ++ [(key', x.kind, x)]) key ts := by
  intro y hy
  rw [sending_append_set]
  split
  · rename_i e
    rw [List.inj_on_of_nodup_map hn hx hy e.2]
  · exact h y hy

end Follows

/-- A session after an upsert is the new one or one that was there. -/
theorem Registry.mem_upsert {r : Registry} {s x : Session} (h : x ∈ (r.upsert s).1.sessions) :
    x = s ∨ x ∈ r.sessions := by
  unfold Registry.upsert at h
  split at h
  · obtain ⟨y, hy, rfl⟩ := List.mem_map.mp h
    split
    · exact .inl rfl
    · exact .inr hy
  · rcases List.mem_append.mp h with h | h
    · exact .inr h
    · exact .inl (List.mem_singleton.mp h)

theorem activeTracks_kinds_nodup (m : Manager) : (m.activeTracks.map (·.kind)).Nodup := by
  unfold Manager.activeTracks
  split
  · exact Manager.sendTracks_kinds_nodup m _
  · exact List.nodup_nil

/-- The track books of a call: every track set and every refusal is for a generation handed out
already, every session is of such a generation, and every session's connection sends the
tracks `ts` unless it once refused a replacement. -/
structure TrackLedger (sessions : List Session) (lastGen : Nat) (ts : List TrackRef)
    (sets : List TrackSet) (refused : List (String × Nat)) : Prop where
  sets_le : ∀ x ∈ sets, x.1.2 ≤ lastGen
  refused_le : ∀ k ∈ refused, k.2 ≤ lastGen
  gens : ∀ s ∈ sessions, s.gen ≤ lastGen
  follow : ∀ s ∈ sessions, s.key ∈ refused ∨ Follows sets s.key ts

namespace TrackLedger

variable {ss : List Session} {g : Nat} {ts : List TrackRef} {sets : List TrackSet}
  {ref : List (String × Nat)}

theorem mono (h : TrackLedger ss g ts sets ref) {g' : Nat} (hg : g ≤ g') :
    TrackLedger ss g' ts sets ref where
  sets_le x hx := (h.sets_le x hx).trans hg
  refused_le k hk := (h.refused_le k hk).trans hg
  gens s hs := (h.gens s hs).trans hg
  follow := h.follow

/-- A connection of a generation that no session has, and that no refusal names. -/
theorem fresh (h : TrackLedger ss g ts sets ref) (id : String) : (id, g + 1) ∉ ref :=
  fun hm => by have := h.refused_le _ hm; simp at this

/-- Setting a track on the connection of a generation that no session has leaves what every
session sends. -/
theorem give (h : TrackLedger ss g ts sets ref) {id : String} {gen : Nat} {k : MediaKind}
    {x : TrackRef} (hold : ∀ s ∈ ss, s.gen < gen) (hg : gen ≤ g) :
    TrackLedger ss g ts (sets ++ [((id, gen), k, x)]) ref where
  sets_le y hy := by
    rcases List.mem_append.mp hy with hy | hy
    · exact h.sets_le y hy
    · obtain rfl := List.mem_singleton.mp hy
      exact hg
  refused_le := h.refused_le
  gens := h.gens
  follow s hs := (h.follow s hs).imp_right fun hf => hf.append fun y hy => by
    obtain rfl := List.mem_singleton.mp hy
    have := hold s hs
    simp only [Session.key, ne_eq, Prod.mk.injEq, not_and]
    omega

/-- Registering a session whose connection sends the tracks. -/
theorem register {r : Registry} {s : Session} (h : TrackLedger r.sessions g ts sets ref)
    (hf : Follows sets s.key ts) (hg : s.gen ≤ g) :
    TrackLedger (r.upsert s).1.sessions g ts sets ref where
  sets_le := h.sets_le
  refused_le := h.refused_le
  gens x hx := by
    rcases Registry.mem_upsert hx with rfl | hx
    · exact hg
    · exact h.gens x hx
  follow x hx := by
    rcases Registry.mem_upsert hx with rfl | hx
    · exact .inr hf
    · exact h.follow x hx

/-- The same books over the same sessions, listed in another order or with each session
changed in a way that keeps its connection. -/
theorem of_keys {ss' : List Session} (h : TrackLedger ss g ts sets ref)
    (hk : ∀ x ∈ ss', ∃ y ∈ ss, y.key = x.key) : TrackLedger ss' g ts sets ref where
  sets_le := h.sets_le
  refused_le := h.refused_le
  gens x hx := by
    obtain ⟨y, hy, e⟩ := hk x hx
    have : y.gen = x.gen := congrArg Prod.snd e
    exact this ▸ h.gens y hy
  follow x hx := by
    obtain ⟨y, hy, e⟩ := hk x hx
    exact e ▸ h.follow y hy

theorem sub {ss' : List Session} (h : TrackLedger ss g ts sets ref) (hs : ∀ x ∈ ss', x ∈ ss) :
    TrackLedger ss' g ts sets ref :=
  h.of_keys fun x hx => ⟨x, hs x hx, rfl⟩

/-- A connection taking a replacement by one of the tracks, on its own kind, leaves every
session sending them. -/
theorem swap (h : TrackLedger ss g ts sets ref) (hn : (ts.map (·.kind)).Nodup) {x : TrackRef}
    (hx : x ∈ ts) {id : String} {gen : Nat} (hg : gen ≤ g) :
    TrackLedger ss g ts (sets ++ [((id, gen), x.kind, x)]) ref where
  sets_le y hy := by
    rcases List.mem_append.mp hy with hy | hy
    · exact h.sets_le y hy
    · obtain rfl := List.mem_singleton.mp hy
      exact hg
  refused_le := h.refused_le
  gens := h.gens
  follow s hs := (h.follow s hs).imp_right fun hf => hf.reset hn hx

/-- A connection refusing a replacement is recorded as such, and nothing else changes. -/
theorem refuse (h : TrackLedger ss g ts sets ref) {id : String} {gen : Nat} (hg : gen ≤ g) :
    TrackLedger ss g ts sets (ref ++ [(id, gen)]) where
  sets_le := h.sets_le
  refused_le k hk := by
    rcases List.mem_append.mp hk with hk | hk
    · exact h.refused_le k hk
    · obtain rfl := List.mem_singleton.mp hk
      exact hg
  gens := h.gens
  follow s hs := (h.follow s hs).imp_left fun hm => List.mem_append_left _ hm

/-- One more session whose tracks were replaced. -/
theorem snoc (h : TrackLedger ss g ts sets ref) {s : Session} (hg : s.gen ≤ g)
    (hs : s.key ∈ ref ∨ Follows sets s.key ts) : TrackLedger (ss ++ [s]) g ts sets ref where
  sets_le := h.sets_le
  refused_le := h.refused_le
  gens x hx := by
    rcases List.mem_append.mp hx with hx | hx
    · exact h.gens x hx
    · obtain rfl := List.mem_singleton.mp hx
      exact hg
  follow x hx := by
    rcases List.mem_append.mp hx with hx | hx
    · exact h.follow x hx
    · obtain rfl := List.mem_singleton.mp hx
      exact hs

/-- The books with nothing asked of the sessions: only the bounds on generations remain. -/
theorem forget (h : TrackLedger ss g ts sets ref) : TrackLedger ss g [] sets ref where
  sets_le := h.sets_le
  refused_le := h.refused_le
  gens := h.gens
  follow _ _ := .inr Follows.nil

theorem modify {f : Session → Session} {r : Registry} (h : TrackLedger r.sessions g ts sets ref)
    (hf : ∀ s, (f s).key = s.key) (id : String) :
    TrackLedger (r.modify id f).sessions g ts sets ref :=
  h.of_keys fun x hx => by
    obtain ⟨y, hy, rfl⟩ := List.mem_map.mp hx
    refine ⟨y, hy, ?_⟩
    split
    · exact (hf y).symm
    · rfl

theorem remove {r : Registry} (h : TrackLedger r.sessions g ts sets ref) (s : Session) :
    TrackLedger (r.remove s).1.sessions g ts sets ref :=
  h.sub fun x hx => by
    unfold Registry.remove at hx
    split at hx
    · split at hx
      · exact (List.mem_filter.mp hx).1
      · exact hx
    · exact hx

end TrackLedger

@[simp] theorem Session.setState_key (s : Session) (st : SessionState) :
    (s.setState st).1.key = s.key := by
  simp [Session.key]

theorem Manager.activeTracks_stopAll (m : Manager) : m.stopAll.activeTracks = [] := by
  unfold Manager.stopAll
  dsimp only
  split <;> split <;> rfl

variable {σ : Type}

/-- The track books of a journaled call, for the tracks of its active stream. -/
def TrackBooks (c : Call (σ × List Effect)) : Prop :=
  TrackLedger c.ctl.registry.sessions c.ctl.lastGen c.ctl.media.activeTracks
    (trackSets c.world.2) (refusedSwaps c.world.2)

variable (L : Links σ)

/-- Creating a session gives its connection the tracks of the active stream. -/
theorem newSession_tracks (id name : String) (audio : Bool) :
    ⦃fun c => ⌜TrackBooks c⌝⦄ newSession L.journaled id name audio ⦃⇓ _ c => ⌜TrackBooks c⌝⦄ := by
  mvcgen [newSession, closeSession, ctl, modifyCtl, ask, request, present, tell]
    invariants
    | inv1 gen _ _ _ _ _ =>
      Invariant.withEarlyReturnNewDo
        (fun p _ c => ⌜c.ctl.lastGen = gen ∧ c.ctl.media.activeTracks = List.Cursor.prefix p ++ p.suffix ∧
          TrackLedger c.ctl.registry.sessions gen c.ctl.media.activeTracks (trackSets c.world.2)
            (refusedSwaps c.world.2) ∧ (∀ s ∈ c.ctl.registry.sessions, s.gen < gen) ∧
          Follows (trackSets c.world.2) (id, gen) ( List.Cursor.prefix p) ∧ (id, gen) ∉ refusedSwaps c.world.2⌝)
        (fun _ _ c => ⌜TrackBooks c⌝)
  all_goals simp +zetaDelta [TrackBooks, Links.journaled, Effect.setsTrack?, Effect.refusedSwap?,
    Controller.noteClosed] at *
  case vc1.isTrue =>
    -- a refused connection only uses up its generation
    exact ‹TrackLedger _ _ _ _ _›.mono (Nat.le_succ _)
  case vc4.isFalse.pre =>
    rename_i pre _ _ _ _ _ _
    exact ⟨rfl, pre.mono (Nat.le_succ _), pre.gens, pre.fresh id⟩
  case vc3.step.isFalse =>
    rename_i pref cur suff _ _ _ _ _ inv took
    obtain ⟨-, hg, hts, hl, hold, hf, hnr⟩ := inv
    -- the tracks are of different kinds, so the new one joins those given so far
    have hn : ((pref ++ [cur]).map (·.kind)).Nodup := by
      have h : ((pref ++ cur :: suff).map (·.kind)).Nodup := hts ▸ activeTracks_kinds_nodup _
      exact h.sublist (((List.singleton_sublist.mpr List.mem_cons_self).append_left pref).map _)
    simp only [took, Option.isSome_none, Bool.false_eq_true, if_false, Option.toList_some]
    exact ⟨hg, hts, hl.give (fun s hs => Nat.lt_succ_of_le (hold s hs)) le_rfl, hold, hf.set hn, hnr⟩
  case vc2.step.isTrue =>
    -- a track refused: the connection is closed and the session never registered
    rename_i refused _ _ inv
    obtain ⟨-, hg, -, hl, -⟩ := inv
    simp only [refused, if_true, Option.toList_none, List.append_nil]
    rw [hg]
    exact hl
  case vc5.isFalse.post.success.h_1 => simp_all
  all_goals
    rename_i inv
    rcases inv with ⟨-, hg, hts, hl, -, hf, -⟩ | ⟨⟨x, hx⟩, -⟩
    · rw [hg]
      exact hl.register (by rw [hts]; exact hf) le_rfl
    · simp_all

/-- Switching the active stream replaces the tracks of every session by those of the new stream
before making it active; a session that refuses keeps its old track, and is known to have
refused. What the sessions sent before does not matter. -/
theorem setActiveStream_tracks (stream : Nat) :
    ⦃fun c => ⌜TrackLedger c.ctl.registry.sessions c.ctl.lastGen [] (trackSets c.world.2)
      (refusedSwaps c.world.2)⌝⦄
    setActiveStream L.journaled stream ⦃⇓ _ c => ⌜TrackBooks c⌝⦄ := by
  mvcgen [setActiveStream, ctl, modifyCtl, request, ask, present, tell]
    invariants
    | inv1 c₀ _ tracks => ⇓ p c => ⌜c.ctl.registry = c₀.ctl.registry ∧ c.ctl.media = c₀.ctl.media ∧
        c.ctl.lastGen = c₀.ctl.lastGen ∧
        TrackLedger ( List.Cursor.prefix p.1) c.ctl.lastGen tracks (trackSets c.world.2) (refusedSwaps c.world.2)⌝
    | inv2 c₀ _ tracks done rs _ _ _ _ _ => ⇓ q c => ⌜c.ctl.registry = c₀.ctl.registry ∧
        c.ctl.media = c₀.ctl.media ∧ c.ctl.lastGen = c₀.ctl.lastGen ∧
        TrackLedger done c.ctl.lastGen tracks (trackSets c.world.2) (refusedSwaps c.world.2) ∧
        (rs.key ∈ refusedSwaps c.world.2 ∨ Follows (trackSets c.world.2) rs.key ( List.Cursor.prefix q.1))⌝
  all_goals simp +zetaDelta [TrackBooks, Links.journaled, Effect.setsTrack?, Effect.refusedSwap?] at *
  case vc1.step =>
    rename_i c₀ h₀ tracks _ rs _ hsnap _ _ _ pref cur suff htr _ c inv _
    obtain ⟨hr, hm, hg, hl, hrs⟩ := inv
    have hn : (tracks.map (·.kind)).Nodup := by
      simp only [tracks]
      split
      · exact Manager.sendTracks_kinds_nodup _ _
      · exact List.nodup_nil
    have hcur := htr ▸ List.mem_append_right pref (List.mem_cons_self (a := cur) (l := _))
    have hgen : rs.gen ≤ c.ctl.lastGen := hg ▸ h₀.gens rs
      (Registry.snapshot_perm.mem_iff.mp (hsnap ▸ List.mem_append_right _ List.mem_cons_self))
    refine ⟨hr, hm, hg, ?_⟩
    by_cases hf : (L.request rs.id rs.gen (.replaceTrack cur.kind cur) c.world.1).1.isSome = true
    · simp only [hf, if_true, Option.toList_some, Option.toList_none, List.append_nil]
      exact ⟨hl.refuse hgen, Or.inl (Or.inr ⟨trivial, rfl⟩)⟩
    · have hn' : ((pref ++ [cur]).map (·.kind)).Nodup := by
        have h : ((pref ++ cur :: suff).map (·.kind)).Nodup := by
          rw [← htr]
          exact hn
        exact h.sublist (((List.singleton_sublist.mpr List.mem_cons_self).append_left pref).map _)
      simp only [hf, Bool.false_eq_true, if_false, Option.toList_some, Option.toList_none,
        List.append_nil, false_and, or_false]
      exact ⟨hl.swap hn hcur hgen, hrs.imp_right fun h => h.set hn'⟩
  case vc2.step.pre => assumption
  case vc3.step.post.success =>
    rename_i c₀ h₀ _ _ rs _ hsnap _ _ _ _ _ inv
    obtain ⟨hr, hm, hg, hl, hrs⟩ := inv
    have hgen : rs.gen ≤ _ := hg ▸ h₀.gens rs
      (Registry.snapshot_perm.mem_iff.mp (hsnap ▸ List.mem_append_right _ List.mem_cons_self))
    exact ⟨hr, hm, hg, hl.snoc hgen hrs⟩
  case vc4.pre =>
    rename_i h₀ _
    exact ⟨h₀.sets_le, h₀.refused_le, by simp, by simp⟩
  case vc5.post.success =>
    rename_i c₀ _ _ _ _ inv _ _
    obtain ⟨hr, hm, -, hl⟩ := inv
    rw [hm, Manager.activeTracks_setActive, hr]
    exact hl.sub fun x hx => Registry.snapshot_perm.mem_iff.mpr hx

theorem discardSession_tracks (s : Session) :
    ⦃fun c => ⌜TrackBooks c⌝⦄ discardSession L.journaled s ⦃⇓ _ c => ⌜TrackBooks c⌝⦄ := by
  mvcgen [discardSession, closeSession, modifyCtl, request, ask]
  all_goals simp_all +zetaDelta [TrackBooks, Links.journaled, Effect.setsTrack?,
    Effect.refusedSwap?, Controller.noteClosed, TrackLedger.remove]

theorem setSessionState_tracks (id : String) (st : SessionState) :
    ⦃fun c => ⌜TrackBooks c⌝⦄ (setSessionState id st : CallM (σ × List Effect) Unit)
    ⦃⇓ _ c => ⌜TrackBooks c⌝⦄ := by
  mvcgen [setSessionState, modifyCtl]
  rename_i pre _
  exact pre.modify (fun s => Session.setState_key s st) id

/-- Tearing the call down drains the registry and stops the media: nothing is left to send. -/
theorem shutdown_tracks (forget : Bool) :
    ⦃fun c => ⌜TrackBooks c⌝⦄ shutdown L.journaled forget ⦃⇓ _ c => ⌜TrackBooks c⌝⦄ := by
  mvcgen [shutdown, closeSession, cancelRetry, ctl, modifyCtl, request, ask, present, tell]
    invariants
    | inv1 => ⇓ _ c => ⌜TrackLedger c.ctl.registry.sessions c.ctl.lastGen []
        (trackSets c.world.2) (refusedSwaps c.world.2)⌝
    | inv2 => ⇓ _ c => ⌜TrackLedger c.ctl.registry.sessions c.ctl.lastGen []
        (trackSets c.world.2) (refusedSwaps c.world.2)⌝
  all_goals simp_all +zetaDelta [TrackBooks, Links.journaled, Effect.setsTrack?,
    Effect.refusedSwap?, Controller.noteClosed, Registry.drain, Manager.activeTracks_stopAll]
  case vc4.isFalse.pre =>
    rename_i pre _
    exact pre.forget
  case vc8.isFalse.post.success.pre =>
    rename_i inv
    -- the drained sessions are closed one by one outside the registry, which stays empty
    exact inv.sub (by simp)

end MeshCall
