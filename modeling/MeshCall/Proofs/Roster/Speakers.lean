import Mathlib
import MeshCall.Proofs.Roster.Orphans
import MeshCall.Proofs.Pair.System
/-!
# Speaking tiles

A call driving a terminal view, with every call to its links journaled. A tile is set speaking
only by a speaking report the controller accepts, and it accepts one only while the microphone
behind it is on: the local media's for the local tile, the session's for a peer's. Muting clears
the flag with the microphone. One view call breaks the rule: a join or an offer that rebuilds the
session of an id refreshes its tile with the new session's microphone and keeps the speaking
flag, so a rebuild with the microphone off leaves the tile muted and speaking. `RebuiltMuted`
names that case through the journal: the last view call that set the microphone or the speaking
flag of the id's tile is such a refresh.

Main statement: `speaking_tile_unmuted_or_rebuilt_muted`, for every run of a call started on
media that hold their camera stream. A peer that reports speaking and then offers with its
microphone off is shown muted and speaking (`rebuild_keeps_speaking_flag`).
-/

namespace MeshCall

open Std.Do

set_option mvcgen.warning false

variable {σ : Type}

/-! ## The camera stream stays held -/

namespace Media.Manager

/-- The camera stream, if the manager names one, is a stream it holds. -/
def HoldsCamera (m : Manager) : Prop := ∀ k, m.camera = some k → (m.stream? k).isSome

variable {m m' : Manager}

theorem HoldsCamera.modify (h : m.HoldsCamera) (p : Nat) {f : Stream → Stream}
    (hf : ∀ s, (f s).id = s.id) : (m.modify p f).HoldsCamera := by
  intro k hk
  rw [stream?_modify m p k hf, Option.isSome_map]
  exact h k hk

@[simp] theorem HoldsCamera.setActive (h : m.HoldsCamera) (x : Option Nat) :
    (m.setActive x).HoldsCamera := by
  unfold Manager.setActive
  dsimp only
  split
  · split
    · exact HoldsCamera.modify (m := { m with active := x, screen := none }) h _ Stream.stop_id
    · exact h
  · exact h

@[simp] theorem holdsCamera_stopAll (m : Manager) : m.stopAll.HoldsCamera := by
  intro k hk
  unfold stopAll at hk
  cases hc : m.camera <;> cases hs : m.screen <;> simp [hc, hs] at hk

/-- Changing a stream so that its audio tracks read `e` leaves the microphone at `e`, when it
read `e` already or the stream changed is the camera stream. -/
theorem audioEnabled_modify_flag (p : Nat) {f : Stream → Stream} {e : Bool}
    (hf : ∀ s, (f s).id = s.id) (hfa : ∀ s, (f s).audio.map (·.enabled) = s.audio.map fun _ => e)
    (h : (m.cameraStream.bind (·.audio)).isSome) (he : m.audioEnabled = e ∨ m.camera = some p) :
    (m.modify p f).audioEnabled = e ∧ ((m.modify p f).cameraStream.bind (·.audio)).isSome := by
  rw [audioEnabled_eq, cameraStream_modify p hf]
  obtain ⟨c, hc⟩ := Option.isSome_iff_exists.mp (Option.isSome_of_isSome_bind h)
  obtain ⟨a, ha⟩ : ∃ a, c.audio = some a := Option.isSome_iff_exists.mp (by simpa [hc] using h)
  -- the camera stream carries the id its name points at
  have hcid : m.camera = some c.id := by
    cases hcam : m.camera with
    | none => simp [cameraStream, hcam] at hc
    | some k =>
      have hk : m.stream? k = some c := by simpa [cameraStream, hcam] using hc
      rw [(mem_of_stream? hk).2]
  by_cases hp : c.id = p
  · obtain ⟨a', ha', hen⟩ : ∃ a', (f c).audio = some a' ∧ a'.enabled = e := by
      simpa [ha] using hfa c
    simp [hc, hp, ha', hen]
  · have hen : a.enabled = e := by
      rcases he with he | he
      · simpa [audioEnabled_eq, hc, ha] using he
      · exact absurd (Option.some.inj (hcid.symm.trans he)) hp
    simp [hc, ha, hp, hen]

/-- Toggling the microphone sets it to the flag it answers, on a manager that holds its camera. -/
theorem HoldsCamera.toggleAudio (h : m.HoldsCamera) {e : Bool} (ht : m.toggleAudio = .ok (m', e)) :
    m'.HoldsCamera ∧ m'.audioEnabled = e := by
  unfold Manager.toggleAudio at ht
  split at ht
  · rename_i cam a hcam ha
    simp only [Except.ok.injEq, Prod.mk.injEq] at ht
    obtain ⟨rfl, rfl⟩ := ht
    have hs : (m.cameraStream.bind (·.audio)).isSome := by simp [ha]
    -- the camera stream's audio takes the new flag, and the share's own audio after it
    obtain ⟨hen, hs'⟩ := audioEnabled_modify_flag
      (f := fun s => { s with audio := s.audio.map fun t => { t with enabled := !a.enabled } })
      (e := !a.enabled) cam (fun _ => rfl) (fun s => by cases s.audio <;> rfl) hs (.inr hcam)
    have hheld := h.modify cam (f := fun s =>
      { s with audio := s.audio.map fun t => { t with enabled := !a.enabled } }) fun _ => rfl
    split
    · split
      · exact ⟨hheld.modify _ fun _ => rfl, (audioEnabled_modify_flag
          (f := fun s => { s with audio := s.audio.map fun t => { t with enabled := !a.enabled } })
          _ (fun _ => rfl) (fun s => by cases s.audio <;> rfl) hs' (.inl hen)).1⟩
      · exact ⟨hheld, hen⟩
    · exact ⟨hheld, hen⟩
  · simp at ht

/-- The camera button changes no audio. -/
theorem HoldsCamera.toggleVideo (h : m.HoldsCamera) {e : Bool} (ht : m.toggleVideo = .ok (m', e)) :
    m'.HoldsCamera ∧ m'.audioEnabled = m.audioEnabled := by
  unfold Manager.toggleVideo at ht
  split at ht
  · split at ht
    · simp only [Except.ok.injEq, Prod.mk.injEq] at ht
      obtain ⟨rfl, -⟩ := ht
      exact ⟨h.modify _ fun _ => rfl, audioEnabled_modify _ (fun _ => rfl) fun _ => rfl⟩
    · simp at ht
  · simp at ht

/-- A stream added behind the held camera stream leaves it where it is. -/
theorem HoldsCamera.append (h : m.HoldsCamera) (x : Stream) (scr : Option Nat) :
    ({ m with streams := m.streams ++ [x], screen := scr } : Manager).HoldsCamera ∧
    ({ m with streams := m.streams ++ [x], screen := scr } : Manager).audioEnabled =
      m.audioEnabled := by
  have hget : ∀ k, m.camera = some k →
      ({ m with streams := m.streams ++ [x], screen := scr } : Manager).stream? k = m.stream? k := by
    intro k hk
    obtain ⟨s, hs⟩ := Option.isSome_iff_exists.mp (h k hk)
    simp only [stream?] at hs ⊢
    simp [List.find?_append, hs]
  refine ⟨fun k hk => ?_, ?_⟩
  · rw [hget k hk]
    exact h k hk
  · have hcs : ({ m with streams := m.streams ++ [x], screen := scr } : Manager).cameraStream =
        m.cameraStream := by
      simp only [cameraStream]
      cases hk : m.camera with
      | none => rfl
      | some k => exact hget k hk
    unfold audioEnabled
    rw [hcs]

theorem HoldsCamera.acquireScreenShare (h : m.HoldsCamera) {n : Nat}
    (ha : m.acquireScreenShare = .ok (m', n)) :
    m'.HoldsCamera ∧ m'.audioEnabled = m.audioEnabled := by
  unfold Manager.acquireScreenShare at ha
  cases hv : openTrack m.devices.screen with
  | error e => simp [hv, bind, Except.bind] at ha
  | ok v =>
    simp only [hv, bind, Except.bind] at ha
    cases hd : m.devices.screenAudio with
    | none =>
      cases hca : m.cameraStream.bind (·.audio) <;>
      · simp [hd, hca, pure, Except.pure, add] at ha
        obtain ⟨rfl, -⟩ := ha
        exact h.append _ _
    | some d =>
      cases hsa : openTrack (some d) with
      | error e => simp [hd, hsa] at ha
      | ok sa =>
        simp [hd, hsa, pure, Except.pure, add] at ha
        obtain ⟨rfl, -⟩ := ha
        exact h.append _ _

end Media.Manager

/-! ## What the journal says of a speaking flag -/

/-- What an effect tells of the speaking flag of `id`'s tile: `some true` for a refresh of the
tile that shows its microphone off and keeps the flag; `some false` for a refresh with the
microphone on, for the microphone turned on, and for the flag set. -/
@[simp] def Effect.muteOf (id : String) : Effect → Option Bool
  | .present (.addTile i _ audio) => if i = id then some !audio else none
  | .present (.setMic i enabled) => if i = id ∧ enabled = true then some false else none
  | .present (.setSpeaking i _) => if i = id then some false else none
  | .present (.showLocal _ _ _) | .present (.removeTile _) | .present (.setName _ _)
  | .present (.setPeerState _ _) | .present (.setButtons _) | .present .clear => none
  | .send _ _ | .closeRelay | .newConn _ _ _ | .request _ _ _ _ | .describe _ _ _ _ | .save _ _
  | .clear _ | .arm _ _ _ | .disarm _ => none

/-- The last view call that set the microphone or the speaking flag of `id`'s tile refreshed the
tile with the microphone off. -/
def RebuiltMuted (j : List Effect) (id : String) : Prop :=
  latestNote (Effect.muteOf id) j = some true

/-- Every tile shown speaking shows its microphone on, unless a rebuild muted it. -/
def SpeakersHeard (t : Terminal) (j : List Effect) : Prop :=
  ∀ id x, t.tile? id = some x → x.speaking = true → x.audio = true ∨ RebuiltMuted j id

namespace SpeakersHeard

variable {t : Terminal} {j : List Effect}

/-- Entries that say nothing of a speaking flag leave it as it was. -/
@[simp] theorem journal_iff {u : List Effect} (hu : ∀ id, latestNote (Effect.muteOf id) u = none) :
    SpeakersHeard t (j ++ u) ↔ SpeakersHeard t j := by
  simp [SpeakersHeard, RebuiltMuted, hu]

/-- One view call keeps it, provided a flag is set speaking only on a tile whose microphone is
on. A refresh keeps the flag, and the journal notes it; muting clears the flag. -/
theorem present (h : SpeakersHeard t j) (v : ViewCall)
    (hv : ∀ id, v = .setSpeaking id true → ∀ x, t.tile? id = some x → x.audio = true) :
    SpeakersHeard (t.apply v).1 (j ++ [.present v]) := by
  unfold SpeakersHeard RebuiltMuted at h
  intro id x hx hsp
  simp only [RebuiltMuted, latestNote_append, latestNote_cons, latestNote_nil, Option.none_or]
  -- a call on another tile leaves this one, and what the journal says of it, as they were
  have other : (t.apply v).1.tile? id = t.tile? id → Effect.muteOf id (.present v) = none →
      x.audio = true ∨ ((Effect.muteOf id (.present v)).or (latestNote (Effect.muteOf id) j)) =
        some true := by
    intro ht hn
    rw [hn, Option.none_or]
    exact h id x (ht ▸ hx) hsp
  cases v with
  | showLocal i name audio =>
    by_cases e : id = i
    · simp [e] at hx
      simp [← hx] at hsp
    · exact other (by simp [e]) (by simp)
  | addTile i name audio =>
    by_cases e : id = i
    · subst e
      cases hcur : t.tile? id with
      | none => simp [hcur] at hx; simp [← hx] at hsp
      | some cur =>
        simp only [Terminal.tile?_addTile, hcur, if_true, Option.elim_some, Option.some.injEq] at hx
        cases audio <;> simp [← hx]
    · exact other (by simp [e]) (by simp [Ne.symm e])
  | removeTile i =>
    by_cases e : id = i
    · subst e
      simp only [Terminal.tile?_removeTile, if_true, Option.filter_eq_some_iff] at hx
      simpa using h id x hx.1 hsp
    · exact other (by simp [e]) (by simp)
  | setName i name =>
    by_cases e : id = i
    · subst e
      simp only [Terminal.tile?_setName, if_true, Option.map_eq_some_iff] at hx
      obtain ⟨cur, hcur, rfl⟩ := hx
      by_cases hl : cur.isLocal <;> simpa [hl] using h id cur hcur (by simpa [hl] using hsp)
    · exact other (by simp [e]) (by simp)
  | setPeerState i st =>
    by_cases e : id = i
    · subst e
      simp only [Terminal.tile?_setPeerState, if_true, Option.map_eq_some_iff] at hx
      obtain ⟨cur, hcur, rfl⟩ := hx
      simpa using h id cur hcur hsp
    · exact other (by simp [e]) (by simp)
  | setMic i enabled =>
    by_cases e : id = i
    · subst e
      simp only [Terminal.tile?_setMic, if_true, Option.map_eq_some_iff] at hx
      obtain ⟨cur, hcur, rfl⟩ := hx
      by_cases ha : cur.audio = enabled
      · -- the tile is left as it was; only turning the microphone on is noted
        simp only [ha, if_true] at hsp ⊢
        cases enabled
        · simpa [← ha] using h id cur hcur hsp
        · simp
      · cases enabled <;> simp_all
    · exact other (by simp [e]) (by simp [Ne.symm e])
  | setSpeaking i speaking =>
    by_cases e : id = i
    · subst e
      simp only [Terminal.tile?_setSpeaking, if_true, Option.map_eq_some_iff] at hx
      obtain ⟨cur, hcur, rfl⟩ := hx
      simp only at hsp
      subst hsp
      simp [hv id rfl cur hcur]
    · exact other (by simp [e]) (by simp [Ne.symm e])
  | setButtons b => exact other rfl rfl
  | clear => simp at hx

/-! The view calls one by one: those the journal notes nothing of keep it as they stand, the
others with their entry. -/

theorem of_quiet (h : SpeakersHeard t j) {v : ViewCall}
    (hq : ∀ id, Effect.muteOf id (.present v) = none)
    (hv : ∀ id, v ≠ .setSpeaking id true) : SpeakersHeard (t.apply v).1 j :=
  (journal_iff (by simpa using hq)).mp (h.present v fun id e => absurd e (hv id))

@[simp] theorem showLocal (h : SpeakersHeard t j) (id name : String) (audio : Bool) :
    SpeakersHeard (t.apply (.showLocal id name audio)).1 j :=
  h.of_quiet (by simp) (by simp)

@[simp] theorem removeTile (h : SpeakersHeard t j) (id : String) :
    SpeakersHeard (t.apply (.removeTile id)).1 j :=
  h.of_quiet (by simp) (by simp)

/-- Two rosters whose tiles agree in their speaking flags and microphones. -/
theorem congr {t' : Terminal}
    (hsame : ∀ id, ((t'.tile? id).map fun x => (x.speaking, x.audio)) =
      (t.tile? id).map fun x => (x.speaking, x.audio)) :
    SpeakersHeard t' j ↔ SpeakersHeard t j := by
  have hmap : ∀ {t₁ t₂ : Terminal}, (∀ id, ((t₁.tile? id).map fun x => (x.speaking, x.audio)) =
      (t₂.tile? id).map fun x => (x.speaking, x.audio)) →
      SpeakersHeard t₂ j → SpeakersHeard t₁ j := by
    intro t₁ t₂ hs h id x hx hsp
    have e₁ : (t₂.tile? id).map (fun x => (x.speaking, x.audio)) = some (x.speaking, x.audio) := by
      rw [← hs id, hx]
      rfl
    obtain ⟨y, hy, e⟩ := Option.map_eq_some_iff.mp e₁
    simp only [Prod.mk.injEq] at e
    rw [← e.2]
    exact h id y hy (e.1.trans hsp)
  exact ⟨hmap fun id => (hsame id).symm, hmap hsame⟩

@[simp] theorem setName_iff (id name : String) :
    SpeakersHeard (t.apply (.setName id name)).1 j ↔ SpeakersHeard t j :=
  congr fun id' => by
    by_cases e : id' = id
    · subst e
      rw [Terminal.tile?_setName, if_pos rfl]
      cases t.tile? id' with
      | none => rfl
      | some cur => by_cases hl : cur.isLocal <;> simp [hl]
    · simp [e]

@[simp] theorem setPeerState_iff (id : String) (st : SessionState) :
    SpeakersHeard (t.apply (.setPeerState id st)).1 j ↔ SpeakersHeard t j :=
  congr fun id' => by
    by_cases e : id' = id
    · subst e
      rw [Terminal.tile?_setPeerState, if_pos rfl]
      cases t.tile? id' <;> rfl
    · simp [e]

@[simp] theorem setButtons_iff (b : Buttons) :
    SpeakersHeard (t.apply (.setButtons b)).1 j ↔ SpeakersHeard t j := Iff.rfl

@[simp] theorem empty : SpeakersHeard {} j := by
  intro id x hx
  simp at hx

@[simp] theorem clear : SpeakersHeard (t.apply .clear).1 j := by
  intro id x hx
  simp at hx

@[simp] theorem addTile (h : SpeakersHeard t j) (id name : String) (audio : Bool) :
    SpeakersHeard (t.apply (.addTile id name audio)).1 (j ++ [.present (.addTile id name audio)]) :=
  h.present _ (by simp)

@[simp] theorem setMic (h : SpeakersHeard t j) (id : String) (enabled : Bool) :
    SpeakersHeard (t.apply (.setMic id enabled)).1 (j ++ [.present (.setMic id enabled)]) :=
  h.present _ (by simp)

@[simp] theorem silence (h : SpeakersHeard t j) (id : String) :
    SpeakersHeard (t.apply (.setSpeaking id false)).1 (j ++ [.present (.setSpeaking id false)]) :=
  h.present _ (by simp)

/-- A tile is set speaking only while its microphone shows on. -/
theorem setSpeaking (h : SpeakersHeard t j) {id : String} {speaking : Bool}
    (hx : speaking = true → ∀ x, t.tile? id = some x → x.audio = true) :
    SpeakersHeard (t.apply (.setSpeaking id speaking)).1 (j ++ [.present (.setSpeaking id speaking)]) :=
  h.present _ fun _ e => by
    cases e
    exact hx rfl

end SpeakersHeard

/-! ## The local microphone on the local tile -/

/-- The tile of `self`, if there is one, shows the microphone as `b`. -/
def Terminal.MicReads (t : Terminal) (self : String) (b : Bool) : Prop :=
  ∀ x, t.tile? self = some x → x.audio = b

namespace Terminal.MicReads

variable {t : Terminal} {self : String} {b : Bool}

@[simp] theorem addTile_iff {id : String} (h : id ≠ self) (name : String) (audio : Bool) :
    (t.apply (.addTile id name audio)).1.MicReads self b ↔ t.MicReads self b := by
  simp [MicReads, Ne.symm h]

@[simp] theorem setMic_iff {id : String} (h : id ≠ self) (enabled : Bool) :
    (t.apply (.setMic id enabled)).1.MicReads self b ↔ t.MicReads self b := by
  simp [MicReads, Ne.symm h]

@[simp] theorem setPeerState_iff (id : String) (st : SessionState) :
    (t.apply (.setPeerState id st)).1.MicReads self b ↔ t.MicReads self b := by
  by_cases h : self = id
  · subst h
    simp [MicReads]
  · simp [MicReads, h]

@[simp] theorem setName_iff (id name : String) :
    (t.apply (.setName id name)).1.MicReads self b ↔ t.MicReads self b := by
  by_cases h : self = id
  · subst h
    -- renaming keeps the microphone, whether the tile is local or not
    have key : ∀ cur : Tile, (if cur.isLocal then cur else { cur with name := name }).audio =
        cur.audio := fun cur => by split <;> rfl
    unfold MicReads
    rw [tile?_setName, if_pos rfl]
    cases t.tile? self with
    | none => simp
    | some cur => simp [key]
  · simp [MicReads, h]

@[simp] theorem setSpeaking_iff (id : String) (speaking : Bool) :
    (t.apply (.setSpeaking id speaking)).1.MicReads self b ↔ t.MicReads self b := by
  by_cases h : self = id
  · subst h
    simp [MicReads]
  · simp [MicReads, h]

@[simp] theorem setButtons_iff (bs : Buttons) :
    (t.apply (.setButtons bs)).1.MicReads self b ↔ t.MicReads self b := Iff.rfl

@[simp] theorem clear : (t.apply .clear).1.MicReads self b := by
  intro x hx
  simp at hx

@[simp] theorem showLocal (name : String) (audio : Bool) :
    (t.apply (.showLocal self name audio)).1.MicReads self audio := by
  intro x hx
  simp only [tile?_showLocal, if_true, Option.some.injEq] at hx
  rw [← hx]

@[simp] theorem removeTile (h : t.MicReads self b) (id : String) :
    (t.apply (.removeTile id)).1.MicReads self b := by
  intro x hx
  by_cases e : self = id
  · subst e
    simp only [tile?_removeTile, if_true, Option.filter_eq_some_iff] at hx
    exact h x hx.1
  · simp only [tile?_removeTile, e, if_false] at hx
    exact h x hx

theorem setMic (enabled : Bool) : (t.apply (.setMic self enabled)).1.MicReads self enabled := by
  intro x hx
  simp only [tile?_setMic, if_true, Option.map_eq_some_iff] at hx
  obtain ⟨cur, -, rfl⟩ := hx
  split <;> simp_all

end Terminal.MicReads

/-- The tile of a registered session shows the session's microphone. -/
theorem Roster.audio_of_get? {self id : String} {r : Registry} {t : Terminal} {s : Session}
    (hr : Roster self r.sessions t) (hget : r.get? id = some s) :
    ∀ x, t.tile? id = some x → x.audio = s.audio := by
  obtain ⟨hmem, rfl⟩ := Registry.get?_eq_some hget
  obtain ⟨y, hy, -, -, hya, -⟩ := hr.shown s hmem
  intro x hx
  rw [hy, Option.some.injEq] at hx
  exact hx ▸ hya

/-! ## The invariant through every input -/

/-- Speaking flags agree with the microphones behind them: the media hold their camera stream,
the local tile shows their microphone state, and every tile shown speaking shows its
microphone on unless a rebuild muted it. -/
def Speakers (c : Call ((σ × List Effect) × Terminal)) : Prop :=
  c.ctl.media.HoldsCamera ∧ c.world.2.MicReads c.ctl.cfg.self.id c.ctl.media.audioEnabled ∧
  SpeakersHeard c.world.2 c.world.1.2

variable (L : Links σ)

theorem newSession_speakers (id name : String) (audio : Bool) :
    ⦃fun c => ⌜Speakers c ∧ id ≠ c.ctl.cfg.self.id⌝⦄
    newSession L.journaled.onTerminal id name audio
    ⦃⇓ _ c => ⌜Speakers c⌝⦄ := by
  mvcgen [newSession, closeSession, ctl, modifyCtl, ask, request, present, tell]
    invariants
    | inv1 =>
      Invariant.withEarlyReturnNewDo
        (fun _ _ c => ⌜Speakers c ∧ id ≠ c.ctl.cfg.self.id⌝)
        (fun _ _ c => ⌜Speakers c⌝)
  all_goals simp_all +zetaDelta [Speakers, Links.onTerminal, -List.append_assoc]

theorem discardSession_speakers (s : Session) :
    ⦃fun c => ⌜Speakers c⌝⦄ discardSession L.journaled.onTerminal s ⦃⇓ _ c => ⌜Speakers c⌝⦄ := by
  mvcgen [discardSession, closeSession, modifyCtl, request, ask]
  all_goals simp_all +zetaDelta [Speakers, Links.onTerminal, -List.append_assoc]

theorem abortNegotiation_speakers (s : Session) :
    ⦃fun c => ⌜Speakers c⌝⦄ abortNegotiation L.journaled.onTerminal s ⦃⇓ _ c => ⌜Speakers c⌝⦄ := by
  mvcgen [abortNegotiation, present, tell, discardSession_speakers]
  all_goals simp_all +zetaDelta [Speakers, Links.onTerminal, -List.append_assoc]

/-- Switching streams keeps the microphone and the camera stream. -/
theorem setActiveStream_speakers (stream : Nat) :
    ⦃fun c => ⌜Speakers c⌝⦄ setActiveStream L.journaled.onTerminal stream
    ⦃⇓ _ c => ⌜Speakers c⌝⦄ := by
  mvcgen [setActiveStream, ctl, modifyCtl, request, ask, present, tell]
    invariants
    | inv1 => ⇓ _ c => ⌜Speakers c⌝
    | inv2 => ⇓ _ c => ⌜Speakers c⌝
  all_goals simp_all +zetaDelta [Speakers, Links.onTerminal, -List.append_assoc]

/-- Tearing the call down clears the roster and stops the media. -/
theorem shutdown_speakers (forget : Bool) :
    ⦃fun c => ⌜Speakers c⌝⦄ shutdown L.journaled.onTerminal forget ⦃⇓ _ c => ⌜Speakers c⌝⦄ := by
  mvcgen [shutdown, closeSession, cancelRetry, ctl, modifyCtl, request, ask, present, tell]
    invariants
    | inv1 => ⇓ _ _ => ⌜True⌝
    | inv2 => ⇓ _ _ => ⌜True⌝
  all_goals simp_all +zetaDelta [Speakers, Links.onTerminal, -List.append_assoc]

/-! The helpers with the roster's agreement beside, as the handlers cite them. -/

theorem newSession_speakers_shown (id name : String) (audio : Bool) :
    ⦃fun c => ⌜Shown [] c ∧ c.ctl.registry.get? id = none ∧ id ≠ c.ctl.cfg.self.id ∧ Speakers c⌝⦄
    newSession L.journaled.onTerminal id name audio
    ⦃⇓ r c => ⌜(Shown [id] c ∧ c.ctl.registry.get? id = r) ∧ Speakers c⌝⦄ :=
  Triple.conj (newSession_shown L.journaled id name audio) (newSession_speakers L id name audio)
    fun _ h => ⟨⟨h.1, h.2.1, h.2.2.1⟩, h.2.2.2, h.2.2.1⟩

theorem discardSession_speakers_shown (s : Session) :
    ⦃fun c => ⌜Shown [] c ∧ c.ctl.registry.get? s.id = some s ∧ Speakers c⌝⦄
    discardSession L.journaled.onTerminal s
    ⦃⇓ _ c => ⌜(Shown [] c ∧ c.ctl.registry.get? s.id = none ∧ s.id ≠ c.ctl.cfg.self.id) ∧
      Speakers c⌝⦄ :=
  Triple.conj (discardSession_shown L.journaled s) (discardSession_speakers L s)
    fun _ h => ⟨⟨h.1, h.2.1⟩, h.2.2⟩

theorem abortNegotiation_speakers_shown (s : Session) :
    ⦃fun c => ⌜Shown [s.id] c ∧ c.ctl.registry.get? s.id = some s ∧ Speakers c⌝⦄
    abortNegotiation L.journaled.onTerminal s ⦃⇓ _ c => ⌜Shown [] c ∧ Speakers c⌝⦄ :=
  Triple.conj (abortNegotiation_shown L.journaled s) (abortNegotiation_speakers L s)
    fun _ h => ⟨⟨h.1, h.2.1⟩, h.2.2⟩

theorem handleJoin_speakers (m : Join) :
    ⦃fun c => ⌜Shown [] c ∧ Speakers c ∧ m.sender ≠ c.ctl.cfg.self.id⌝⦄
    handleJoin L.journaled.onTerminal m ⦃⇓ _ c => ⌜Speakers c⌝⦄ := by
  mvcgen [handleJoin, ctl, ask, request, present, tell, sendDescription, send, setSessionState,
    modifyCtl, newSession_speakers_shown, discardSession_speakers_shown,
    abortNegotiation_speakers_shown]
  all_goals simp_all +zetaDelta [Speakers, Shown, Negotiated, Links.onTerminal,
    ← Option.eq_none_iff_forall_ne_some, -List.append_assoc]
  all_goals grind

theorem handleOffer_speakers (m : Description) :
    ⦃fun c => ⌜Shown [] c ∧ Speakers c ∧ m.sender ≠ c.ctl.cfg.self.id⌝⦄
    handleOffer L.journaled.onTerminal m ⦃⇓ _ c => ⌜Speakers c⌝⦄ := by
  mvcgen [handleOffer, ctl, ask, request, present, tell, sendDescription, send, setSessionState,
    modifyCtl, newSession_speakers_shown, discardSession_speakers_shown,
    abortNegotiation_speakers_shown]
  all_goals simp_all +zetaDelta [Speakers, Shown, Negotiated, Links.onTerminal,
    ← Option.eq_none_iff_forall_ne_some, -List.append_assoc]
  all_goals grind

theorem handleAnswer_speakers (m : Description) :
    ⦃fun c => ⌜Speakers c ∧ m.sender ≠ c.ctl.cfg.self.id⌝⦄ handleAnswer L.journaled.onTerminal m
    ⦃⇓ _ c => ⌜Speakers c⌝⦄ := by
  mvcgen [handleAnswer, ctl, modifyCtl, ask, request, present, tell]
  all_goals simp_all +zetaDelta [Speakers, Links.onTerminal, -List.append_assoc]
  -- the session answered is the sender's, which is not the local participant
  rename_i pre hget _ _ _
  obtain ⟨-, hid⟩ := Registry.get?_eq_some hget
  simp_all

theorem handleCandidate_speakers (m : CandidateNote) :
    ⦃fun c => ⌜Speakers c⌝⦄ handleCandidate L.journaled.onTerminal m ⦃⇓ _ c => ⌜Speakers c⌝⦄ := by
  mvcgen [handleCandidate, ctl, ask, request]
  all_goals simp_all +zetaDelta [Speakers, Links.onTerminal, -List.append_assoc]

theorem handleAudioToggle_speakers (m : AudioToggle) :
    ⦃fun c => ⌜Speakers c ∧ m.sender ≠ c.ctl.cfg.self.id⌝⦄ handleAudioToggle L.journaled.onTerminal m
    ⦃⇓ _ c => ⌜Speakers c⌝⦄ := by
  mvcgen [handleAudioToggle, ctl, modifyCtl, present, tell]
  all_goals simp_all +zetaDelta [Speakers, Links.onTerminal, -List.append_assoc]
  -- clearing the sender's meter, or not, leaves the media and the view alone
  split
  · split <;> simp_all
  · simp_all

theorem handleUserLeft_speakers (m : UserLeft) :
    ⦃fun c => ⌜Speakers c⌝⦄ handleUserLeft L.journaled.onTerminal m ⦃⇓ _ c => ⌜Speakers c⌝⦄ := by
  mvcgen [handleUserLeft, cancelRetry, ctl, modifyCtl, present, tell, discardSession_speakers]
  all_goals simp_all +zetaDelta [Speakers, Links.onTerminal, -List.append_assoc]

theorem handleRelayUp_speakers :
    ⦃fun c => ⌜Speakers c⌝⦄ handleRelayUp L.journaled.onTerminal ⦃⇓ _ c => ⌜Speakers c⌝⦄ := by
  mvcgen [handleRelayUp, closeSession, cancelRetry, sendJoin, send, persist, ctl, modifyCtl, ask,
    request, present, tell]
    invariants
    | inv1 => ⇓ _ c => ⌜Speakers c⌝
  all_goals simp_all +zetaDelta [Speakers, Links.onTerminal, -List.append_assoc]

theorem handlePeerState_speakers (id : String) (gen : Nat) (state : ConnectionState) :
    ⦃fun c => ⌜Speakers c⌝⦄ handlePeerState L.journaled.onTerminal id gen state
    ⦃⇓ _ c => ⌜Speakers c⌝⦄ := by
  mvcgen [handlePeerState, lookup, scheduleRetry, cancelRetry, setSessionState, ctl, modifyCtl, ask,
    present, tell]
  all_goals simp_all +zetaDelta [Speakers, Links.onTerminal, -List.append_assoc]

theorem handleLocalCandidate_speakers (id : String) (gen : Nat) (cand : IceCandidate) :
    ⦃fun c => ⌜Speakers c⌝⦄ handleLocalCandidate L.journaled.onTerminal id gen cand
    ⦃⇓ _ c => ⌜Speakers c⌝⦄ := by
  mvcgen [handleLocalCandidate, lookup, send, ctl, ask]
  all_goals simp_all +zetaDelta [Speakers, Links.onTerminal, -List.append_assoc]

theorem handleRetry_speakers (id : String) (gen : Nat) :
    ⦃fun c => ⌜Speakers c⌝⦄ handleRetry L.journaled.onTerminal id gen ⦃⇓ _ c => ⌜Speakers c⌝⦄ := by
  mvcgen [handleRetry, lookup, sendJoin, send, ctl, modifyCtl, ask, discardSession_speakers]
  all_goals simp_all +zetaDelta [Speakers, Links.onTerminal, -List.append_assoc]
  -- disarming the retry, or not, leaves the media and the view alone
  all_goals split <;> (try split) <;> simp_all

theorem handleSpeaking_speakers (id : String) (gen : Nat) (speaking : Bool) :
    ⦃fun c => ⌜Shown [] c ∧ Speakers c⌝⦄ handleSpeaking L.journaled.onTerminal id gen speaking
    ⦃⇓ _ c => ⌜Speakers c⌝⦄ := by
  mvcgen [handleSpeaking, lookup, ctl, present, tell]
  all_goals simp_all +zetaDelta [Speakers, Links.onTerminal, -List.append_assoc]
  -- the local tile shows the local microphone, which the report found on
  case vc2.isTrue.isFalse =>
    rename_i pre _ hmic
    exact pre.2.2.2.setSpeaking fun hs x hx => (pre.2.2.1 x hx).trans (hmic hs)
  -- a peer's tile shows its session's microphone, which the report found on
  case vc4.isFalse.h_1.isFalse =>
    rename_i pre _ hget haudio
    exact pre.2.2.2.setSpeaking fun hs x hx => (pre.1.2.audio_of_get? hget.1 x hx).trans (haudio hs)

theorem handleScreenEnded_speakers (stream : Nat) :
    ⦃fun c => ⌜Speakers c⌝⦄ handleScreenEnded L.journaled.onTerminal stream
    ⦃⇓ _ c => ⌜Speakers c⌝⦄ := by
  mvcgen [handleScreenEnded, ctl, setActiveStream_speakers]

/-- The envelope filter turns away the local participant's own envelopes, so the handlers that
touch a peer's tile never touch the local one. -/
theorem handleMessage_speakers (m : Envelope) :
    ⦃fun c => ⌜Shown [] c ∧ Speakers c⌝⦄ handleMessage L.journaled.onTerminal m ⦃⇓ _ c => ⌜Speakers c⌝⦄ := by
  mvcgen [handleMessage, ctl, handleJoin_speakers, handleOffer_speakers, handleAnswer_speakers,
    handleCandidate_speakers, handleAudioToggle_speakers, handleUserLeft_speakers]
  all_goals simp_all +zetaDelta [Envelope.sender]

theorem handleEvent_speakers (e : Event) :
    ⦃fun c => ⌜Shown [] c ∧ Speakers c⌝⦄ handleEvent L.journaled.onTerminal e
    ⦃⇓ _ c => ⌜Speakers c⌝⦄ := by
  mvcgen [handleEvent, lookup, ctl, modifyCtl, handleMessage_speakers, handleRelayUp_speakers,
    handlePeerState_speakers, handleLocalCandidate_speakers, handleRetry_speakers,
    handleSpeaking_speakers, handleScreenEnded_speakers]
  all_goals simp_all +zetaDelta [Speakers]

/-- Muting clears the local speaking flag with the local microphone. -/
theorem toggleMute_speakers :
    ⦃fun c => ⌜Speakers c⌝⦄ toggleMute L.journaled.onTerminal ⦃⇓ _ c => ⌜Speakers c⌝⦄ := by
  mvcgen [toggleMute, persist, send, ctl, modifyCtl, ask, present, tell]
  all_goals simp_all +zetaDelta [Speakers, Links.onTerminal, -List.append_assoc]
  -- the media hold their camera, and the local tile takes the new state
  case vc2.h_2.isTrue =>
    rename_i pre ht _
    obtain ⟨hheld, hen⟩ := pre.1.toggleAudio ht
    rw [hen]
    exact ⟨hheld, .setMic false, (pre.2.2.setMic _ _).silence _⟩
  case vc3.h_2.isFalse =>
    rename_i pre ht _
    obtain ⟨hheld, hen⟩ := pre.1.toggleAudio ht
    rw [hen]
    exact ⟨hheld, .setMic true⟩

theorem toggleCamera_speakers :
    ⦃fun c => ⌜Speakers c⌝⦄ toggleCamera L.journaled.onTerminal ⦃⇓ _ c => ⌜Speakers c⌝⦄ := by
  mvcgen [toggleCamera, persist, ctl, modifyCtl, ask, present, tell]
  all_goals simp_all +zetaDelta [Speakers, Links.onTerminal, -List.append_assoc]
  rename_i pre ht
  obtain ⟨hheld, hen⟩ := pre.1.toggleVideo ht
  rw [hen]
  exact ⟨hheld, pre.2.1⟩

theorem shareScreen_speakers :
    ⦃fun c => ⌜Speakers c⌝⦄ shareScreen L.journaled.onTerminal ⦃⇓ _ c => ⌜Speakers c⌝⦄ := by
  mvcgen [shareScreen, ctl, modifyCtl, setActiveStream_speakers]
  all_goals simp_all +zetaDelta [Speakers]
  -- a new share is added behind the camera stream
  rename_i pre _ ha
  obtain ⟨hheld, hen⟩ := pre.1.acquireScreenShare ha
  rw [hen]
  exact ⟨hheld, pre.2.1⟩

theorem runCommand_speakers (cmd : Command) :
    ⦃fun c => ⌜Speakers c⌝⦄ runCommand L.journaled.onTerminal cmd ⦃⇓ _ c => ⌜Speakers c⌝⦄ := by
  mvcgen [runCommand, endCall, toggleMute_speakers, toggleCamera_speakers, shareScreen_speakers,
    setActiveStream_speakers, shutdown_speakers]

theorem dispatch_speakers (i : Input) :
    ⦃fun c => ⌜Shown [] c ∧ Speakers c⌝⦄ dispatch L.journaled.onTerminal i
    ⦃⇓ _ c => ⌜Speakers c⌝⦄ := by
  mvcgen [dispatch, ctl, handleEvent_speakers, runCommand_speakers, shutdown_speakers]
  all_goals simp_all

/-- A call started on media that hold their camera stream shows the local microphone on the
local tile, which is not speaking. -/
theorem start_speakers (w : σ) (cfg : CallConfig) {media : Media.Manager} (hm : media.HoldsCamera) :
    ⦃fun c => ⌜c = ⟨Controller.create cfg media, ((w, []), {})⟩⌝⦄ start L.journaled.onTerminal
    ⦃⇓ _ c => ⌜Speakers c⌝⦄ := by
  mvcgen [start, ctl, present, tell]
  simp_all +zetaDelta [Speakers, Links.onTerminal, Controller.create, -List.append_assoc]

/-- Every run from a call that keeps the invariant keeps it; the roster's agreement, which the
speaking reports of peers need, holds all along. -/
theorem Speakers.runInputs {w : σ} {c : Call ((σ × List Effect) × Terminal)}
    (hr : Reachable L.journaled.onTerminal ((w, []), {}) c) (h : Speakers c) (is : List Input) :
    Speakers (runInputs L.journaled.onTerminal c is) := by
  induction is generalizing c with
  | nil => exact h
  | cons i is ih =>
    exact ih (hr.step i) (Triple.run_of (dispatch_speakers L i) ⟨(Orphans.of_reachable hr).1, h⟩)

/-- Through every run of a call started on media that hold their camera stream, a tile shown
speaking shows its microphone on, unless the last change to its microphone or speaking flag was
a rebuild of its session that showed the microphone off. A peer's tile shown speaking belongs to
a session whose microphone is on, with the same exception, or to no session at all, and then it
shows a failed connection or the last connection set up for its id was refused. -/
theorem speaking_tile_unmuted_or_rebuilt_muted (L : Links σ) (w : σ) (cfg : CallConfig)
    {media : Media.Manager} (hm : media.HoldsCamera) (is : List Input) :
    let c := runInputs L.journaled.onTerminal
      ((start L.journaled.onTerminal).run ⟨Controller.create cfg media, ((w, []), {})⟩).2 is
    ∀ id x, c.world.2.tile? id = some x → x.speaking = true →
      (x.audio = true ∨ RebuiltMuted c.world.1.2 id) ∧
      (x.isLocal = false →
        (∃ s, c.ctl.registry.get? id = some s ∧ (s.audio = true ∨ RebuiltMuted c.world.1.2 id)) ∨
        (c.ctl.registry.get? id = none ∧ (x.state = .failed ∨ SetupRefused c.world.1.2 id))) := by
  intro c id x hx hsp
  have hr : Reachable L.journaled.onTerminal ((w, []), {}) c :=
    (Reachable.init cfg media).runInputs is
  have h₀ := Triple.run_of (start_speakers L w cfg hm) rfl
  have hheard := (Speakers.runInputs L (Reachable.init cfg media) h₀ is).2.2 id x hx hsp
  obtain ⟨hshown, horphans⟩ := Orphans.of_reachable hr
  refine ⟨hheard, fun hl => ?_⟩
  cases hget : c.ctl.registry.get? id with
  | none => exact .inr ⟨rfl, horphans id x hx hl List.not_mem_nil hget⟩
  | some s =>
    -- the tile shows the session's microphone
    have ha : x.audio = s.audio := hshown.2.audio_of_get? hget x hx
    exact .inl ⟨s, rfl, ha ▸ hheard⟩

/-! ## A rebuild that keeps a speaking flag -/

/-- A join from "b", a speaking report for the session it made, and an offer from "b" with its
microphone off. -/
def speakThenMutedOffer : List Input :=
  [.event (.message (.join ⟨"b", "Bea", true⟩)), .event (.speaking "b" 1 true),
    .event (.message (.description ⟨"offer", "v=0", "b", "", "Bea", false⟩))]

/-- The call after `speakThenMutedOffer` between never-failing participants. -/
def mutedRebuild : Call ((Pair.Side × List Effect) × Terminal) :=
  runInputs Pair.links.journaled.onTerminal
    ((start Pair.links.journaled.onTerminal).run
      ⟨Controller.create default default, (({}, []), {})⟩).2 speakThenMutedOffer

theorem holdsCamera_default : (default : Media.Manager).HoldsCamera := by
  intro k hk
  cases hk

/-- The muted speaking tile the rebuild leaves is noted as such. -/
theorem muted_rebuild_noted :
    let x : Tile := { name := "Bea", audio := false, speaking := true, state := .answerSent }
    (default : Media.Manager).HoldsCamera ∧ mutedRebuild.world.2.tile? "b" = some x ∧
      x.speaking = true ∧ (x.audio = true ∨ RebuiltMuted mutedRebuild.world.1.2 "b") :=
  ⟨holdsCamera_default, by decide, rfl, (speaking_tile_unmuted_or_rebuilt_muted Pair.links {} default holdsCamera_default
    speakThenMutedOffer "b" { name := "Bea", audio := false, speaking := true, state := .answerSent }
    (by decide) rfl).1⟩

/-- A peer that was heard speaking and then offers with its microphone off is shown muted and
speaking, and its current session has the microphone off. -/
theorem rebuild_keeps_speaking_flag :
    Reachable Pair.links.journaled.onTerminal (({}, []), {}) mutedRebuild ∧
      (mutedRebuild.world.2.tile? "b").map (fun x => (x.audio, x.speaking)) = some (false, true) ∧
      (mutedRebuild.ctl.registry.get? "b").map (·.audio) = some false :=
  ⟨(Reachable.init _ _).runInputs _, by decide, by decide⟩

end MeshCall
