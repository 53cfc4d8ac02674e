import Mathlib
import MeshCall.Proofs.Microphone.Events
import MeshCall.Proofs.Pair.System
/-!
# The microphone state agrees everywhere it shows

A call starts on the camera stream acquired on fresh devices and made active. Through every run
of inputs that switch streams only to ones the manager holds, until the call ends, the
microphone state reads the same wherever it shows: in the enabled flag of what the active stream
sends, on the local tile and the buttons, in the latest announcement to the room and in the
latest call saved. The one exception is a share that was switched away from: it stopped, its
tracks ended, and an ended track keeps the flag it had, so switching back to it after a mute
sends a track whose flag still reads enabled, though it sends nothing.
-/

namespace MeshCall

variable {σ : Type}

/-- Starting from the camera stream acquired on fresh devices and made active, through every run
of inputs that switch only to streams the manager holds, until the call ends: the active stream
sends an audio track that is enabled exactly when the microphone is, unless that track has ended,
which the tracks of the camera stream and of the current share have not; the local tile shows
the microphone state and the buttons are the media's; and the latest join, description or audio
toggle sent, and the latest call saved, carry it. -/
theorem microphone_state_agrees (L : Links σ) (w : σ) (cfg : CallConfig) {d : Media.Devices}
    {prefs : Media.Prefs} {m : Media.Manager} {cam : Nat}
    (hacq : ({ devices := d } : Media.Manager).acquireCameraAndMic prefs = .ok (m, cam))
    (is : List Input) :
    let c₀ := ((start L.journaled.onTerminal).run
      ⟨Controller.create cfg (m.setActive (some cam)), ((w, []), {})⟩).2
    let c := runInputs L.journaled.onTerminal c₀ is
    (∀ v ∈ visits L.journaled.onTerminal c₀ is, v.1.ctl.switchesToHeld v.2 = true) →
    c.ctl.ended = false →
    (∃ s t, c.ctl.media.activeStream = some s ∧ c.ctl.media.audioOf s = some t ∧
      (t.ended = false → t.enabled = c.ctl.media.audioEnabled) ∧
      (c.ctl.media.active = c.ctl.media.camera ∨ c.ctl.media.sharing = true → t.ended = false)) ∧
    c.world.2.ShowsMic c.ctl.cfg.self.id c.ctl.media.audioEnabled ∧
    c.world.2.buttons = c.ctl.buttons ∧
    Announces c.world.1.2 c.ctl.media.audioEnabled ∧
    SavesMic c.world.1.2 c.ctl.media.audioEnabled := by
  intro c₀ c hsw hlive
  have h₀ : MicAgrees cam c₀ :=
    Triple.run_of (start_mic L cam w cfg _ (Media.Manager.MicFollows.init hacq)) rfl
  rcases MicKept.runInputs L cam (Or.inr h₀) is hsw with hend | ⟨hf, ⟨htile, hsent, hsaved⟩, hb⟩
  · simp [c, hend] at hlive
  · exact ⟨hf.activeAudio, htile, hb, hsent, hsaved⟩

/-- A camera, a microphone, a screen and system audio, all of which open. -/
def Media.Devices.working : Media.Devices where
  camera := some ⟨"camera", .video, .ok ()⟩
  mic := some ⟨"mic", .audio, .ok ()⟩
  screen := some ⟨"screen", .video, .ok ()⟩
  screenAudio := some ⟨"system audio", .audio, .ok ()⟩

/-- The camera stream acquired on working devices with no saved toggles. -/
def Media.Manager.onWorking : Media.Manager where
  devices := .working
  streams := [{ id := 0, source := .camera, ordinal := 1,
                audio := some ⟨.audio, "mic", true, false⟩,
                video := some ⟨.video, "camera", true, false⟩ }]
  camera := some 0

theorem microphone_agrees_after_share_and_mute :
    let c₀ := ((start Pair.links.journaled.onTerminal).run
      ⟨Controller.create default (Media.Manager.onWorking.setActive (some 0)), (({}, []), {})⟩).2
    let is := [Input.command .shareScreen, .command .toggleMute,
      .event (.message (.join ⟨"b", "Bea", true⟩))]
    let c := runInputs Pair.links.journaled.onTerminal c₀ is
    ({ devices := .working } : Media.Manager).acquireCameraAndMic {} = .ok (.onWorking, 0) ∧
    (∀ v ∈ visits Pair.links.journaled.onTerminal c₀ is, v.1.ctl.switchesToHeld v.2 = true) ∧
    c.ctl.ended = false ∧
    (∃ s t, c.ctl.media.activeStream = some s ∧ c.ctl.media.audioOf s = some t ∧
      (t.ended = false → t.enabled = c.ctl.media.audioEnabled) ∧
      (c.ctl.media.active = c.ctl.media.camera ∨ c.ctl.media.sharing = true → t.ended = false)) ∧
    c.world.2.ShowsMic c.ctl.cfg.self.id c.ctl.media.audioEnabled ∧
    c.world.2.buttons = c.ctl.buttons ∧
    Announces c.world.1.2 c.ctl.media.audioEnabled ∧
    SavesMic c.world.1.2 c.ctl.media.audioEnabled :=
  have hacq : ({ devices := .working } : Media.Manager).acquireCameraAndMic {} =
      .ok (.onWorking, 0) := rfl
  have hsw : ∀ v ∈ visits Pair.links.journaled.onTerminal _ _, v.1.ctl.switchesToHeld v.2 = true := by
    decide +kernel
  have hlive : (runInputs Pair.links.journaled.onTerminal _ _).ctl.ended = false := by
    decide +kernel
  ⟨hacq, hsw, hlive, microphone_state_agrees Pair.links {} default hacq _ hsw hlive⟩

/-- Switching away from a share stops it, and its tracks end with their enabled flags as they
were. A stopped share switched back to after a mute sends its system-audio track still enabled
while the microphone is off: the flag of an ended track does not follow the microphone. -/
theorem stopped_share_keeps_its_audio_flag :
    let c₀ := ((start Pair.links.journaled.onTerminal).run
      ⟨Controller.create default (Media.Manager.onWorking.setActive (some 0)), (({}, []), {})⟩).2
    let is := [Input.command .shareScreen, .command .shareScreen, .command .toggleMute,
      .command (.setActiveStream 1)]
    let c := runInputs Pair.links.journaled.onTerminal c₀ is
    (∀ v ∈ visits Pair.links.journaled.onTerminal c₀ is, v.1.ctl.switchesToHeld v.2 = true) ∧
    c.ctl.ended = false ∧ c.ctl.media.audioEnabled = false ∧
    (c.ctl.media.activeStream.bind c.ctl.media.audioOf).map (·.enabled) = some true := by
  decide +kernel

end MeshCall
