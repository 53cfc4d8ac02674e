import Mathlib
import MeshCall.Call.Controller
/-!
# Which tracks a stream sends

A connection is handed a track by reference: the number of the stream that owns it, that
stream's source, and the kind. What a stream sends is therefore decided by its shape (its
number, its source, which tracks it has and whose microphone it reuses), never by whether a
track is enabled or has ended. Muting, turning the camera off and stopping a share change no
shape, so they change no track that the active stream sends.
-/

namespace MeshCall.Media

namespace Stream

/-- What of a stream decides the tracks it sends. -/
def shape (s : Stream) : Nat × Source × Bool × Bool × Option Nat :=
  (s.id, s.source, s.audio.isSome, s.video.isSome, s.borrowsAudio)

@[simp] theorem shape_stop (s : Stream) : s.stop.shape = s.shape := by
  unfold stop
  split <;> simp [shape]

theorem id_of_shape {s s' : Stream} (h : s'.shape = s.shape) : s'.id = s.id :=
  congrArg Prod.fst h

end Stream

namespace Manager

/-- The tracks of the active stream, audio first: what a new session is given. -/
def activeTracks (m : Manager) : List TrackRef :=
  match m.activeStream with
  | some a => m.sendTracks a
  | none => []

/-- Two managers whose streams have the same shapes, number by number. -/
def SameShapes (m m' : Manager) : Prop :=
  ∀ k, (m.stream? k).map Stream.shape = (m'.stream? k).map Stream.shape

theorem SameShapes.trans {m m' m'' : Manager} (h : SameShapes m m') (h' : SameShapes m' m'') :
    SameShapes m m'' := fun k => (h k).trans (h' k)

private theorem map_const_congr {α β γ : Type} {o : Option α} {o' : Option β}
    (h : o.isSome = o'.isSome) (x : γ) : o.map (fun _ => x) = o'.map (fun _ => x) := by
  cases o <;> cases o' <;> simp_all

/-- Streams of the same shape, in managers whose streams have the same shapes, send the same
tracks: a reused microphone is found by number in both. -/
theorem sendTracks_congr {m m' : Manager} {s s' : Stream} (hm : SameShapes m m')
    (hs : s.shape = s'.shape) : m.sendTracks s = m'.sendTracks s' := by
  simp only [Stream.shape, Prod.mk.injEq] at hs
  obtain ⟨hid, hsrc, ha, hv, hb⟩ := hs
  have hvideo := map_const_congr hv (⟨s.id, s.source, .video⟩ : TrackRef)
  unfold sendTracks
  rw [← hb, ← hid, ← hsrc, hvideo]
  cases s.borrowsAudio with
  | none => simp only [map_const_congr ha]
  | some lender =>
    have hl := hm lender
    cases h : m.stream? lender <;> cases h' : m'.stream? lender <;> simp only [h, h'] at hl ⊢
    · simp at hl
    · simp at hl
    · simp only [Option.map_some, Option.some.injEq, Stream.shape, Prod.mk.injEq] at hl
      obtain ⟨hid', hsrc', ha', -⟩ := hl
      rw [hid', hsrc', map_const_congr ha']

theorem activeTracks_congr {m m' : Manager} (hm : SameShapes m m') (ha : m.active = m'.active) :
    m.activeTracks = m'.activeTracks := by
  unfold activeTracks activeStream
  rw [← ha]
  cases m.active with
  | none => rfl
  | some a =>
    simp only [Option.bind_some]
    have hk := hm a
    cases h : m.stream? a <;> cases h' : m'.stream? a <;> simp only [h, h'] at hk ⊢
    · simp at hk
    · simp at hk
    · exact sendTracks_congr hm (Option.some.inj hk)

theorem stream?_modify (m : Manager) (p k : Nat) {f : Stream → Stream}
    (hf : ∀ s, (f s).id = s.id) :
    (m.modify p f).stream? k = (m.stream? k).map fun s => if s.id == p then f s else s := by
  unfold stream? modify
  rw [List.find?_map]
  congr 2
  funext s
  simp only [Function.comp_apply]
  split <;> simp [hf]

/-- Changing streams in ways that keep their shapes keeps the tracks of every stream. -/
theorem sameShapes_modify (m : Manager) (p : Nat) {f : Stream → Stream}
    (hf : ∀ s, (f s).shape = s.shape) : SameShapes m (m.modify p f) := by
  intro k
  rw [stream?_modify m p k fun s => Stream.id_of_shape (hf s)]
  cases m.stream? k with
  | none => rfl
  | some s =>
    simp only [Option.map_some, Option.some.injEq]
    split
    · exact (hf s).symm
    · rfl

theorem sameShapes_setActive (m : Manager) (x : Option Nat) : SameShapes m (m.setActive x) := by
  unfold setActive
  dsimp only
  split
  · split
    · exact sameShapes_modify _ _ Stream.shape_stop
    · intro k; rfl
  · intro k; rfl

@[simp] theorem setActive_active (m : Manager) (x : Option Nat) : (m.setActive x).active = x := by
  unfold setActive
  dsimp only
  split
  · split
    · rfl
    · rfl
  · rfl

/-- Making a stream active makes its tracks those of the active stream. -/
theorem activeTracks_setActive (m : Manager) (k : Nat) :
    (m.setActive (some k)).activeTracks = match m.stream? k with
      | some s => m.sendTracks s
      | none => [] := by
  have hm := sameShapes_setActive m (some k)
  unfold activeTracks activeStream
  rw [setActive_active, Option.bind_some]
  have hk := hm k
  cases h : m.stream? k <;> cases h' : (m.setActive (some k)).stream? k <;>
    simp only [h, h'] at hk ⊢
  · simp at hk
  · simp at hk
  · exact (sendTracks_congr hm (Option.some.inj hk)).symm

theorem toggleAudio_shapes {m m' : Manager} {b : Bool} (h : m.toggleAudio = .ok (m', b)) :
    SameShapes m m' ∧ m'.active = m.active := by
  unfold toggleAudio at h
  split at h
  · dsimp only at h
    simp only [Except.ok.injEq, Prod.mk.injEq] at h
    obtain ⟨rfl, -⟩ := h
    refine ⟨?_, ?_⟩
    · -- the microphone, and the share's own audio with it: neither changes a shape
      split
      · split
        · refine SameShapes.trans (sameShapes_modify _ _ ?_) (sameShapes_modify _ _ ?_) <;>
            intro s <;> simp [Stream.shape]
        · exact sameShapes_modify _ _ fun s => by simp [Stream.shape]
      · exact sameShapes_modify _ _ fun s => by simp [Stream.shape]
    · split
      · split <;> rfl
      · rfl
  · cases h

theorem toggleVideo_shapes {m m' : Manager} {b : Bool} (h : m.toggleVideo = .ok (m', b)) :
    SameShapes m m' ∧ m'.active = m.active := by
  unfold toggleVideo at h
  split at h
  · split at h
    · dsimp only at h
      simp only [Except.ok.injEq, Prod.mk.injEq] at h
      obtain ⟨rfl, -⟩ := h
      exact ⟨sameShapes_modify _ _ fun s => by simp [Stream.shape], rfl⟩
    · cases h
  · cases h

theorem activeTracks_toggleAudio {m m' : Manager} {b : Bool} (h : m.toggleAudio = .ok (m', b)) :
    m'.activeTracks = m.activeTracks :=
  let ⟨hs, ha⟩ := toggleAudio_shapes h
  (activeTracks_congr hs ha.symm).symm

theorem activeTracks_toggleVideo {m m' : Manager} {b : Bool} (h : m.toggleVideo = .ok (m', b)) :
    m'.activeTracks = m.activeTracks :=
  let ⟨hs, ha⟩ := toggleVideo_shapes h
  (activeTracks_congr hs ha.symm).symm

/-- A stream sends at most one track of each kind: the audio first, then the video. -/
theorem sendTracks_kinds_nodup (m : Manager) (s : Stream) :
    ((m.sendTracks s).map (·.kind)).Nodup := by
  unfold sendTracks
  dsimp only
  -- at most one audio track, the stream's own or its lender's, then at most one video track
  split
  · split
    · rename_i l _
      cases l.audio <;> cases s.video <;> simp
    · cases s.video <;> simp
  · cases s.audio <;> cases s.video <;> simp

end Manager

end MeshCall.Media
