import Mathlib
import MeshCall.Proofs.Retries
/-!
# Where the microphone state lives in the media

The microphone state is the enabled flag of the camera stream's audio track. A screen share
either reuses that track or carries system audio of its own, which follows it while the share is
current; a share that is switched away from is stopped, and its tracks end. So every audio track
that has not ended is the camera's or the current share's own, and is enabled exactly when the
microphone is. Toggling the microphone or the camera, acquiring a share and switching streams
keep this, and what the active stream sends as its audio follows from it.
-/

namespace MeshCall.Media

@[simp] theorem Stream.stop_id (s : Stream) : s.stop.id = s.id := by
  unfold Stream.stop
  split <;> rfl

@[simp] theorem Stream.stop_borrowsAudio (s : Stream) : s.stop.borrowsAudio = s.borrowsAudio := by
  unfold Stream.stop
  split <;> rfl

theorem Stream.stop_audio_enabled (s : Stream) :
    s.stop.audio.map (·.enabled) = s.audio.map (·.enabled) := by
  unfold Stream.stop
  split
  · rfl
  · cases s.audio <;> rfl

@[simp] theorem Stream.stop_stopped (s : Stream) : s.stop.stopped = true := by
  unfold Stream.stop
  split <;> simp_all

theorem Stream.stop_audio_isSome (s : Stream) : s.stop.audio.isSome = s.audio.isSome := by
  unfold Stream.stop
  split
  · rfl
  · cases s.audio <;> rfl

/-- Stopping a stream whose tracks have ended exactly when it is stopped ends them all. -/
theorem Stream.stop_audio_ended {s : Stream} (h : ∀ t ∈ s.audio, t.ended = s.stopped) :
    ∀ t ∈ s.stop.audio, t.ended = true := by
  intro t ht
  unfold Stream.stop at ht
  split at ht
  · rename_i hs
    rw [h t ht, hs]
  · obtain ⟨t₀, -, rfl⟩ := Option.mem_map.mp ht
    rfl

theorem Stream.audio_of_shape {s s' : Stream} (h : s'.shape = s.shape) :
    s'.audio.isSome = s.audio.isSome ∧ s'.borrowsAudio = s.borrowsAudio := by
  simp only [Stream.shape, Prod.mk.injEq] at h
  exact ⟨h.2.2.1, h.2.2.2.2⟩

theorem openTrack_ended {d : Option Device} {t : Track} (h : openTrack d = .ok t) :
    t.ended = false := by
  unfold openTrack at h
  split at h
  · cases h
  · split at h
    · cases h
    · cases h
      rfl

namespace Manager

variable {m m' : Manager}

theorem mem_of_stream? {k : Nat} {s : Stream} (h : m.stream? k = some s) :
    s ∈ m.streams ∧ s.id = k :=
  ⟨List.mem_of_find?_eq_some h, by simpa using List.find?_some h⟩

theorem mem_modify {p : Nat} {f : Stream → Stream} {s' : Stream} :
    s' ∈ (m.modify p f).streams ↔ ∃ s ∈ m.streams, (if s.id == p then f s else s) = s' := by
  simp [modify]

theorem audioEnabled_eq (m : Manager) :
    m.audioEnabled = ((m.cameraStream.bind (·.audio)).map (·.enabled)).getD false := by
  unfold audioEnabled
  cases m.cameraStream.bind (·.audio) <;> rfl

theorem cameraStream_modify (p : Nat) {f : Stream → Stream} (hf : ∀ s, (f s).id = s.id) :
    (m.modify p f).cameraStream = m.cameraStream.map fun s => if s.id == p then f s else s := by
  unfold cameraStream
  show m.camera.bind (m.modify p f).stream? = _
  cases m.camera with
  | none => rfl
  | some k => exact stream?_modify m p k hf

/-- Changing streams without touching the enabled flag of their audio keeps the microphone. -/
theorem audioEnabled_modify (p : Nat) {f : Stream → Stream} (hf : ∀ s, (f s).id = s.id)
    (ha : ∀ s, (f s).audio.map (·.enabled) = s.audio.map (·.enabled)) :
    (m.modify p f).audioEnabled = m.audioEnabled := by
  rw [audioEnabled_eq, audioEnabled_eq, cameraStream_modify p hf]
  cases m.cameraStream with
  | none => rfl
  | some s =>
    simp only [Option.map_some, Option.bind_some]
    split
    · rw [ha]
    · rfl

@[simp] theorem audioEnabled_setActive (m : Manager) (x : Option Nat) :
    (m.setActive x).audioEnabled = m.audioEnabled := by
  unfold setActive
  dsimp only
  split
  · split
    · rw [audioEnabled_modify _ Stream.stop_id Stream.stop_audio_enabled]
      rfl
    · rfl
  · rfl

theorem stream?_of_mem (hids : m.streams.map (·.id) = List.range m.streams.length)
    {s : Stream} (hs : s ∈ m.streams) : m.stream? s.id = some s := by
  have hn : (m.streams.map (·.id)).Nodup := hids ▸ List.nodup_range
  cases h : m.stream? s.id with
  | none =>
    simp only [stream?, List.find?_eq_none, beq_iff_eq] at h
    exact absurd rfl (h s hs)
  | some s' =>
    obtain ⟨hs', hid⟩ := mem_of_stream? h
    rw [List.inj_on_of_nodup_map hn hs' hs hid]

theorem id_lt_of_mem (hids : m.streams.map (·.id) = List.range m.streams.length)
    {s : Stream} (hs : s ∈ m.streams) : s.id < m.streams.length := by
  have : s.id ∈ m.streams.map (·.id) := List.mem_map_of_mem hs
  rw [hids] at this
  exact List.mem_range.mp this

theorem exists_of_lt (hids : m.streams.map (·.id) = List.range m.streams.length) {k : Nat}
    (hk : k < m.streams.length) : ∃ s ∈ m.streams, s.id = k := by
  have : k ∈ m.streams.map (·.id) := hids ▸ List.mem_range.mpr hk
  simpa using this

@[simp] theorem modify_camera (p : Nat) (f : Stream → Stream) :
    (m.modify p f).camera = m.camera := rfl

@[simp] theorem modify_screen (p : Nat) (f : Stream → Stream) :
    (m.modify p f).screen = m.screen := rfl

@[simp] theorem modify_active (p : Nat) (f : Stream → Stream) :
    (m.modify p f).active = m.active := rfl

@[simp] theorem length_modify (p : Nat) (f : Stream → Stream) :
    (m.modify p f).streams.length = m.streams.length := by
  simp [modify]

theorem ids_modify (p : Nat) {f : Stream → Stream} (hf : ∀ s, (f s).id = s.id) :
    (m.modify p f).streams.map (·.id) = m.streams.map (·.id) := by
  simp only [modify, List.map_map]
  congr 1
  funext s
  simp only [Function.comp_apply]
  split <;> simp [hf]

theorem screenStream_modify (p : Nat) {f : Stream → Stream} (hf : ∀ s, (f s).id = s.id) :
    (m.modify p f).screenStream = m.screenStream.map fun s => if s.id == p then f s else s := by
  unfold screenStream
  show m.screen.bind (m.modify p f).stream? = _
  cases m.screen with
  | none => rfl
  | some k => exact stream?_modify m p k hf

/-- Where the microphone state lives, in a manager whose camera stream is `cam`. Stream ids are
positions. The camera stream carries its own audio, and a share carries its own or borrows the
camera's. A stream is running exactly while it is the camera stream or the current share, its
own audio tracks have ended exactly when it stopped, and every running stream's audio is enabled
exactly when the microphone is. The current share is the active stream, and some stream is
active. -/
structure MicFollows (cam : Nat) (m : Manager) : Prop where
  ids : m.streams.map (·.id) = List.range m.streams.length
  camera : m.camera = some cam
  camera_lt : cam < m.streams.length
  audio : ∀ s ∈ m.streams, (s.borrowsAudio = none ∧ s.audio.isSome = true) ∨
    (s.id ≠ cam ∧ s.borrowsAudio = some cam ∧ s.audio = none)
  running : ∀ s ∈ m.streams, s.stopped = false ↔ (s.id = cam ∨ m.screen = some s.id)
  ended : ∀ s ∈ m.streams, ∀ t ∈ s.audio, t.ended = s.stopped
  synced : ∀ s ∈ m.streams, s.stopped = false → ∀ t ∈ s.audio, t.enabled = m.audioEnabled
  screen : ∀ k, m.screen = some k → k ≠ cam ∧ m.active = some k
  active : ∃ k, m.active = some k ∧ k < m.streams.length

theorem MicFollows.init {d : Devices} {prefs : Prefs} {m : Manager} {cam : Nat}
    (h : ({ devices := d } : Manager).acquireCameraAndMic prefs = .ok (m, cam)) :
    MicFollows cam (m.setActive (some cam)) := by
  unfold acquireCameraAndMic at h
  cases ha : openTrack d.mic with
  | error e => simp [ha, bind, Except.bind] at h
  | ok a =>
    cases hv : openTrack d.camera with
    | error e => simp [ha, hv, bind, Except.bind] at h
    | ok v =>
      simp [ha, hv, bind, Except.bind, pure, Except.pure, add] at h
      obtain ⟨rfl, rfl⟩ := h
      have hfresh := openTrack_ended ha
      constructor <;> simp [setActive, audioEnabled, cameraStream, stream?, hfresh]

namespace MicFollows

variable {cam : Nat} (h : MicFollows cam m)
include h

/-- Stream ids are unique. -/
theorem eq_of_id_eq {s s' : Stream} (hs : s ∈ m.streams) (hs' : s' ∈ m.streams)
    (hid : s.id = s'.id) : s = s' :=
  List.inj_on_of_nodup_map (h.ids ▸ List.nodup_range) hs hs' hid

theorem mem_of_lt {k : Nat} (hk : k < m.streams.length) :
    ∃ s ∈ m.streams, s.id = k ∧ m.stream? k = some s := by
  obtain ⟨s, hs, rfl⟩ := exists_of_lt h.ids hk
  exact ⟨s, hs, rfl, stream?_of_mem h.ids hs⟩

/-- A share is current only while it is active. -/
theorem screen_of_sharing (hs : m.sharing = false) : m.screen = none := by
  cases hscr : m.screen with
  | none => rfl
  | some k =>
    have hact := (h.screen k hscr).2
    simp [sharing, hact, hscr] at hs

/-- A stream the manager holds is one its ids count. -/
theorem lt_of_stream? {k : Nat} (hk : (m.stream? k).isSome) : k < m.streams.length := by
  obtain ⟨s, hs⟩ := Option.isSome_iff_exists.mp hk
  obtain ⟨hmem, rfl⟩ := mem_of_stream? hs
  exact id_lt_of_mem h.ids hmem

/-- The camera stream runs and carries its own audio track, whose flag is the microphone. -/
theorem camera_audio : ∃ s ∈ m.streams, s.id = cam ∧ m.cameraStream = some s ∧
    s.stopped = false ∧ ∃ a, s.audio = some a ∧ a.ended = false ∧ m.audioEnabled = a.enabled := by
  obtain ⟨s, hs, hid, hget⟩ := h.mem_of_lt h.camera_lt
  have hcs : m.cameraStream = some s := by simp [cameraStream, h.camera, hget]
  have hrun : s.stopped = false := (h.running s hs).mpr (.inl hid)
  rcases h.audio s hs with ⟨-, hsome⟩ | ⟨hne, -⟩
  · obtain ⟨a, ha⟩ := Option.isSome_iff_exists.mp hsome
    refine ⟨s, hs, hid, hcs, hrun, a, ha, ?_, ?_⟩
    · rw [h.ended s hs a ha, hrun]
    · simp [audioEnabled, hcs, ha]
  · exact absurd hid hne

/-- The audio the active stream sends is enabled exactly when the microphone is, unless its
track has ended; the tracks of the camera stream and of the current share have not. -/
theorem activeAudio : ∃ s t, m.activeStream = some s ∧ m.audioOf s = some t ∧
    (t.ended = false → t.enabled = m.audioEnabled) ∧
    (m.active = m.camera ∨ m.sharing = true → t.ended = false) := by
  obtain ⟨k, hact, hk⟩ := h.active
  obtain ⟨s, hs, rfl, hget⟩ := h.mem_of_lt hk
  have has : m.activeStream = some s := by simp [activeStream, hact, hget]
  -- the active stream runs when it is the camera stream or the current share
  have hrun : m.active = m.camera ∨ m.sharing = true → s.stopped = false := by
    intro hcur
    refine (h.running s hs).mpr ?_
    rcases hcur with hc | hsh
    · rw [hact, h.camera, Option.some.injEq] at hc
      exact .inl hc
    · simp only [sharing, hact, Option.isSome_some, Bool.true_and, beq_iff_eq] at hsh
      exact .inr hsh.symm
  rcases h.audio s hs with ⟨hown, hsome⟩ | ⟨-, hb, -⟩
  · obtain ⟨t, ht⟩ := Option.isSome_iff_exists.mp hsome
    refine ⟨s, t, has, by simp [audioOf, hown, ht], fun hlive => ?_, fun hcur => ?_⟩
    · exact h.synced s hs (by rw [← h.ended s hs t ht, hlive]) t ht
    · rw [h.ended s hs t ht, hrun hcur]
  · obtain ⟨c, hc, hcid, hcs, hcrun, a, ha, hae, hen⟩ := h.camera_audio
    have hca : m.audioOf s = some a := by
      simp only [audioOf, hb, ← hcid, stream?_of_mem h.ids hc, Option.bind_some, ha]
    exact ⟨s, a, has, hca, fun _ => hen.symm, fun _ => hae⟩

/-- Making any stream active keeps the microphone where it lives; switching away from the
current share stops it and ends its tracks. -/
theorem setActive {k : Nat} (hk : k < m.streams.length) :
    MicFollows cam (m.setActive (some k)) := by
  obtain ⟨p, hact, -⟩ := h.active
  unfold Manager.setActive
  simp only [hact]
  split
  · rename_i hswitch
    simp only [bne_iff_ne, ne_eq, Option.some.injEq, Bool.and_eq_true, beq_iff_eq] at hswitch
    obtain ⟨hpk, hscr⟩ := hswitch
    have hpc : p ≠ cam := (h.screen p hscr).1
    -- the streams change only by the stop of the share, which keeps their shapes
    have hsrc : ∀ s' ∈ ({ m with active := some k, screen := none }.modify p Stream.stop).streams,
        ∃ s ∈ m.streams, s' = if s.id = p then s.stop else s := by
      intro s' hs'
      obtain ⟨s, hs, rfl⟩ := mem_modify.mp hs'
      exact ⟨s, hs, by simp⟩
    refine ⟨?_, h.camera, by simpa using h.camera_lt, fun s' hs' => ?_, fun s' hs' => ?_,
      fun s' hs' => ?_, fun s' hs' => ?_, by simp, ⟨k, rfl, by simpa using hk⟩⟩
    · rw [ids_modify _ Stream.stop_id, length_modify]
      exact h.ids
    · obtain ⟨s, hs, rfl⟩ := hsrc s' hs'
      split
      · obtain ⟨ha, hb⟩ := Stream.audio_of_shape (Stream.shape_stop s)
        simp only [Stream.stop_id, hb]
        rcases h.audio s hs with ⟨hn, hsome⟩ | ⟨hne, hb', hnone⟩
        · exact .inl ⟨hn, ha ▸ hsome⟩
        · refine .inr ⟨hne, hb', ?_⟩
          simpa [hnone] using ha
      · exact h.audio s hs
    · obtain ⟨s, hs, rfl⟩ := hsrc s' hs'
      split
      · rename_i hp
        simp [hp, hpc]
      · rename_i hp
        simpa [hscr, Ne.symm hp] using h.running s hs
    · obtain ⟨s, hs, rfl⟩ := hsrc s' hs'
      split
      · simpa using Stream.stop_audio_ended (h.ended s hs)
      · exact h.ended s hs
    · obtain ⟨s, hs, rfl⟩ := hsrc s' hs'
      split
      · simp
      · intro hrun t ht
        rw [audioEnabled_modify _ Stream.stop_id Stream.stop_audio_enabled]
        exact h.synced s hs hrun t ht
  · rename_i hkeep
    -- the current share, if any, was active and stays so
    refine ⟨h.ids, h.camera, h.camera_lt, h.audio, h.running, h.ended, h.synced, fun q hq => ?_,
      ⟨k, rfl, hk⟩⟩
    obtain ⟨hqc, hqa⟩ := h.screen q hq
    rw [hact, Option.some.injEq] at hqa
    subst hqa
    refine ⟨hqc, ?_⟩
    by_contra hne
    simp_all

/-- Falling back to the camera stream keeps the microphone where it lives. -/
theorem setActive_camera {k : Nat} (hk : m.camera = some k) :
    MicFollows cam (m.setActive (some k)) := by
  rw [h.camera, Option.some.injEq] at hk
  subst hk
  exact h.setActive h.camera_lt

/-- Toggling the microphone sets the flag of the camera stream's audio and of the current share's
own audio, and of nothing else. -/
theorem toggleAudio_streams {m' : Manager} {e : Bool} (ht : m.toggleAudio = .ok (m', e)) :
    m'.camera = m.camera ∧ m'.screen = m.screen ∧ m'.active = m.active ∧
    m'.streams = m.streams.map fun s =>
      if s.id = cam ∨ (m.screen = some s.id ∧ s.borrowsAudio = none) then
        { s with audio := s.audio.map fun t => { t with enabled := e } } else s := by
  obtain ⟨c, hc, hcid, hcs, hcrun, a, ha, hae, hen⟩ := h.camera_audio
  unfold Manager.toggleAudio at ht
  rw [h.camera, hcs] at ht
  simp only [Option.bind_some, ha, Except.ok.injEq, Prod.mk.injEq] at ht
  obtain ⟨rfl, rfl⟩ := ht
  -- neither modification touches the camera, the share or the active stream
  refine ⟨by split <;> (try split) <;> rfl, by split <;> (try split) <;> rfl,
    by split <;> (try split) <;> rfl, ?_⟩
  rw [screenStream_modify cam (by intro s; rfl)]
  cases hscr : m.screen with
  | none =>
    have hnone : m.screenStream = none := by simp [screenStream, hscr]
    simp only [hnone, Option.map_none, modify]
    apply List.map_congr_left
    intro s _
    simp
  | some q =>
    obtain ⟨hqc, hqa⟩ := h.screen q hscr
    obtain ⟨k, hk, hklt⟩ := h.active
    rw [hqa, Option.some.injEq] at hk
    subst hk
    obtain ⟨sq, hsq, rfl, hget⟩ := h.mem_of_lt hklt
    have hss : m.screenStream = some sq := by simp [screenStream, hscr, hget]
    have hqc' : (sq.id == cam) = false := by simpa using hqc
    simp only [hss, Option.map_some, hqc', Bool.false_eq_true, if_false]
    -- the share is modified too exactly when its audio is its own
    by_cases hb : sq.borrowsAudio = none
    · simp only [hb, Option.isNone_none, if_true, modify, List.map_map]
      apply List.map_congr_left
      intro s hs
      by_cases hcam : s.id = cam
      · simp [hcam, Ne.symm hqc]
      · by_cases hsid : s.id = sq.id
        · obtain rfl := h.eq_of_id_eq hs hsq hsid
          simp [hcam, hb]
        · simp [hcam, hsid, Ne.symm hsid]
    · have hb' : sq.borrowsAudio.isNone = false := by
        cases hx : sq.borrowsAudio <;> simp_all
      simp only [hb', Bool.false_eq_true, if_false, modify]
      apply List.map_congr_left
      intro s hs
      by_cases hsid : s.id = sq.id
      · obtain rfl := h.eq_of_id_eq hs hsq hsid
        simp [hb, hqc]
      · simp [Ne.symm hsid]

/-- Toggling the microphone keeps it where it lives, with the new flag. -/
theorem toggleAudio {m' : Manager} {e : Bool} (ht : m.toggleAudio = .ok (m', e)) :
    MicFollows cam m' ∧ m'.audioEnabled = e := by
  obtain ⟨hcam, hscr, hact, hstreams⟩ := h.toggleAudio_streams ht
  obtain ⟨c, hc, hcid, hcs, hcrun, a, ha, hae, hen⟩ := h.camera_audio
  have hlen : m'.streams.length = m.streams.length := by simp [hstreams]
  have hids : m'.streams.map (·.id) = m.streams.map (·.id) := by
    rw [hstreams, List.map_map]
    congr 1
    funext s
    simp only [Function.comp_apply]
    split <;> rfl
  -- the camera stream now carries the new flag
  have hcs' :
      m'.cameraStream = some { c with audio := c.audio.map fun t => { t with enabled := e } } := by
    have hget : m.stream? cam = some c := by simpa [cameraStream, h.camera] using hcs
    simp only [cameraStream, hcam, h.camera, Option.bind_some, stream?, hstreams, List.find?_map]
    have hfind : m.streams.find? (fun s => (if s.id = cam ∨ (m.screen = some s.id ∧
        s.borrowsAudio = none) then { s with audio := s.audio.map fun t => { t with enabled := e } }
        else s).id == cam) = some c := by
      rw [← hget]
      unfold stream?
      congr 1
      funext s
      split <;> rfl
    simp [hfind, hcid]
  have hen' : m'.audioEnabled = e := by simp [audioEnabled, hcs', ha]
  have hsrc : ∀ s' ∈ m'.streams, ∃ s ∈ m.streams, s' = if s.id = cam ∨ (m.screen = some s.id ∧
      s.borrowsAudio = none) then { s with audio := s.audio.map fun t => { t with enabled := e } }
      else s := by
    intro s' hs'
    rw [hstreams] at hs'
    obtain ⟨s, hs, rfl⟩ := List.mem_map.mp hs'
    exact ⟨s, hs, rfl⟩
  refine ⟨⟨by rw [hids, hlen]; exact h.ids, hcam ▸ h.camera, hlen ▸ h.camera_lt, fun s' hs' => ?_,
    fun s' hs' => ?_, fun s' hs' => ?_, fun s' hs' => ?_, fun q hq => ?_, ?_⟩, hen'⟩
  · obtain ⟨s, hs, rfl⟩ := hsrc s' hs'
    split
    · rcases h.audio s hs with ⟨hb, hsome⟩ | ⟨hne, hb, hnone⟩
      · exact .inl ⟨hb, by simpa using hsome⟩
      · exact .inr ⟨hne, hb, by simp [hnone]⟩
    · exact h.audio s hs
  · obtain ⟨s, hs, rfl⟩ := hsrc s' hs'
    rw [hscr]
    split <;> exact h.running s hs
  · obtain ⟨s, hs, rfl⟩ := hsrc s' hs'
    split
    · intro t ht
      obtain ⟨t₀, ht₀, rfl⟩ := Option.mem_map.mp ht
      exact h.ended s hs t₀ ht₀
    · exact h.ended s hs
  · obtain ⟨s, hs, rfl⟩ := hsrc s' hs'
    rw [hen']
    split
    · intro _ t ht
      obtain ⟨t₀, -, rfl⟩ := Option.mem_map.mp ht
      rfl
    · -- a running stream left alone borrows the camera's audio and has none of its own
      rename_i hnot
      intro hrun t ht
      have hcur := (h.running s hs).mp hrun
      rcases h.audio s hs with ⟨hb, -⟩ | ⟨-, -, hnone⟩
      · exact absurd (hcur.imp_right fun hq => ⟨hq, hb⟩) hnot
      · simp [hnone] at ht
  · rw [hscr] at hq
    rw [hact]
    exact h.screen q hq
  · rw [hact, hlen]
    exact h.active

/-- Changing streams without touching their audio, where it comes from or whether they stopped
keeps the microphone where it lives. -/
theorem modify_quiet (p : Nat) {f : Stream → Stream} (hid : ∀ s, (f s).id = s.id)
    (ha : ∀ s, (f s).audio = s.audio) (hb : ∀ s, (f s).borrowsAudio = s.borrowsAudio)
    (hst : ∀ s, (f s).stopped = s.stopped) :
    MicFollows cam (m.modify p f) ∧ (m.modify p f).audioEnabled = m.audioEnabled := by
  have hen : (m.modify p f).audioEnabled = m.audioEnabled :=
    audioEnabled_modify p hid fun s => by rw [ha]
  have hsrc : ∀ s' ∈ (m.modify p f).streams, ∃ s ∈ m.streams, s'.id = s.id ∧
      s'.audio = s.audio ∧ s'.borrowsAudio = s.borrowsAudio ∧ s'.stopped = s.stopped := by
    intro s' hs'
    obtain ⟨s, hs, rfl⟩ := mem_modify.mp hs'
    refine ⟨s, hs, ?_⟩
    split
    · exact ⟨hid s, ha s, hb s, hst s⟩
    · exact ⟨rfl, rfl, rfl, rfl⟩
  refine ⟨⟨?_, h.camera, by simpa using h.camera_lt, fun s' hs' => ?_, fun s' hs' => ?_,
    fun s' hs' => ?_, fun s' hs' => ?_, fun q hq => h.screen q hq, by simpa using h.active⟩, hen⟩
  · rw [ids_modify p hid, length_modify]
    exact h.ids
  all_goals
    obtain ⟨s, hs, hid', ha', hb', hst'⟩ := hsrc s' hs'
    simp only [hid', ha', hb', hst', modify_screen]
  · exact h.audio s hs
  · exact h.running s hs
  · exact h.ended s hs
  · rw [hen]
    exact h.synced s hs

/-- The camera button changes no audio. -/
theorem toggleVideo {m' : Manager} {e : Bool} (ht : m.toggleVideo = .ok (m', e)) :
    MicFollows cam m' ∧ m'.audioEnabled = m.audioEnabled := by
  unfold Manager.toggleVideo at ht
  split at ht
  · split at ht
    · simp only [Except.ok.injEq, Prod.mk.injEq] at ht
      obtain ⟨rfl, -⟩ := ht
      exact h.modify_quiet _ (fun _ => rfl) (fun _ => rfl) (fun _ => rfl) (fun _ => rfl)
    · simp at ht
  · simp at ht

/-- A new running stream whose audio is its own and in step with the microphone, or borrowed
from the camera, made the current share and then active. -/
theorem addShare (hscr : m.screen = none) {x : Stream} (hid : x.id = m.streams.length)
    (hst : x.stopped = false)
    (hx : (x.borrowsAudio = none ∧ ∃ t, x.audio = some t ∧ t.ended = false ∧
      t.enabled = m.audioEnabled) ∨ (x.borrowsAudio = some cam ∧ x.audio = none)) :
    MicFollows cam ({ m with streams := m.streams ++ [x], screen := some m.streams.length }.setActive
      (some m.streams.length)) ∧
    ({ m with streams := m.streams ++ [x], screen := some m.streams.length } : Manager).audioEnabled =
      m.audioEnabled := by
  obtain ⟨c, hc, hcid, hcs, hcrun, a, hca, hae, hen⟩ := h.camera_audio
  obtain ⟨p, hact, hp⟩ := h.active
  have hcam : m.stream? cam = some c := by simpa [cameraStream, h.camera] using hcs
  -- the camera stream is found before the new one
  have hen' : ({ m with streams := m.streams ++ [x], screen := some m.streams.length } :
      Manager).audioEnabled = m.audioEnabled := by
    have : ({ m with streams := m.streams ++ [x], screen := some m.streams.length } :
        Manager).stream? cam = some c := by
      simp only [stream?, List.find?_append]
      simp only [stream?] at hcam
      simp [hcam]
    have hcs' : ({ m with streams := m.streams ++ [x], screen := some m.streams.length } :
        Manager).cameraStream = some c := by
      simp only [cameraStream, h.camera, Option.bind_some]
      exact this
    unfold audioEnabled
    rw [hcs', hcs]
  -- switching from the old active stream stops nothing, since no share was current
  have hset : { m with streams := m.streams ++ [x], screen := some m.streams.length }.setActive
      (some m.streams.length) =
      { m with streams := m.streams ++ [x], screen := some m.streams.length,
               active := some m.streams.length } := by
    have hpl : p ≠ m.streams.length := Nat.ne_of_lt hp
    simp [Manager.setActive, hact, hpl, Ne.symm hpl]
  rw [hset]
  -- the active stream is no part of the microphone state
  have hen'' : ({ m with streams := m.streams ++ [x], screen := some m.streams.length,
                         active := some m.streams.length } : Manager).audioEnabled = m.audioEnabled :=
    hen'
  refine ⟨⟨?_, h.camera, by simpa using Nat.lt_succ_of_lt h.camera_lt, fun s hs => ?_,
    fun s hs => ?_, fun s hs => ?_, fun s hs => ?_, fun q hq => ?_, ⟨_, rfl, by simp⟩⟩, hen'⟩
  · simp [List.range_succ, h.ids, hid]
  · rcases List.mem_append.mp hs with hs | hs
    · exact h.audio s hs
    · obtain rfl := List.mem_singleton.mp hs
      rcases hx with ⟨hb, t, ht, -⟩ | ⟨hb, hnone⟩
      · exact .inl ⟨hb, by simp [ht]⟩
      · exact .inr ⟨by rw [hid]; exact Nat.ne_of_gt h.camera_lt, hb, hnone⟩
  · rcases List.mem_append.mp hs with hs | hs
    · have hlt := id_lt_of_mem h.ids hs
      simpa [hscr, Nat.ne_of_gt hlt] using h.running s hs
    · obtain rfl := List.mem_singleton.mp hs
      simp [hst, hid]
  · rcases List.mem_append.mp hs with hs | hs
    · exact h.ended s hs
    · obtain rfl := List.mem_singleton.mp hs
      intro t ht
      rcases hx with ⟨-, t', ht', hend, -⟩ | ⟨-, hnone⟩
      · rw [ht', Option.mem_some_iff] at ht
        subst ht
        rw [hend, hst]
      · simp [hnone] at ht
  · rw [hen'']
    rcases List.mem_append.mp hs with hs | hs
    · exact h.synced s hs
    · obtain rfl := List.mem_singleton.mp hs
      intro _ t ht
      rcases hx with ⟨-, t', ht', -, hflag⟩ | ⟨-, hnone⟩
      · rw [ht', Option.mem_some_iff] at ht
        subst ht
        exact hflag
      · simp [hnone] at ht
  · simp only [Option.some.injEq] at hq
    subst hq
    exact ⟨Nat.ne_of_gt h.camera_lt, rfl⟩

/-- A new share, taken while none is current and then made active, carries system audio in
step with the microphone or borrows the camera's; the microphone is not touched. -/
theorem acquireScreenShare (hscr : m.screen = none) {m' : Manager} {n : Nat}
    (ha : m.acquireScreenShare = .ok (m', n)) :
    MicFollows cam (m'.setActive (some n)) ∧ m'.audioEnabled = m.audioEnabled := by
  obtain ⟨c, hc, hcid, hcs, hcrun, a, hca, hae, hen⟩ := h.camera_audio
  unfold Manager.acquireScreenShare at ha
  cases hv : openTrack m.devices.screen with
  | error e => simp [hv, bind, Except.bind] at ha
  | ok v =>
    simp only [hv, hcs, Option.bind_some, hca, bind, Except.bind] at ha
    cases hd : m.devices.screenAudio with
    | none =>
      simp [hd, pure, Except.pure, add] at ha
      obtain ⟨rfl, rfl⟩ := ha
      exact h.addShare hscr rfl rfl (.inr ⟨h.camera, rfl⟩)
    | some d =>
      cases hsa : openTrack (some d) with
      | error e => simp [hd, hsa] at ha
      | ok sa =>
        simp [hd, hsa, pure, Except.pure, add] at ha
        obtain ⟨rfl, rfl⟩ := ha
        exact h.addShare hscr rfl rfl
          (.inl ⟨rfl, _, rfl, by simpa using openTrack_ended hsa, hen.symm⟩)

end MicFollows

end Manager

end MeshCall.Media
