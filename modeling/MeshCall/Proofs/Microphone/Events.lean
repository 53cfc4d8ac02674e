import Mathlib
import MeshCall.Proofs.Microphone.Shown
import MeshCall.Proofs.Microphone.Streams
import MeshCall.Proofs.Roster.Events
/-!
# The microphone state through every input

A call driving a terminal view, with every call to its links journaled. `MicAgrees cam` is the
invariant: the media keep the microphone where it lives, with `cam` the camera stream, and the
local tile, the latest announcement and the latest save show it, while the view's buttons are
the media's. Each helper, handler and command keeps it, provided that a switch of streams the
user asks for goes to a stream the manager holds; ending the call is the one input that gives it
up, and from then on nothing changes. Muting is where the state moves, and there the toggled
media, the local tile, the buttons, the saved call and the audio toggle sent all take the new
state together.
-/

namespace MeshCall

open Std.Do

set_option mvcgen.warning false

variable {σ : Type}

/-- Where the microphone state shows beyond the media: the local tile's microphone, the latest
announcement and the latest save. -/
def MicShown (c : Call ((σ × List Effect) × Terminal)) : Prop :=
  c.world.2.ShowsMic c.ctl.cfg.self.id c.ctl.media.audioEnabled ∧
  Announces c.world.1.2 c.ctl.media.audioEnabled ∧ SavesMic c.world.1.2 c.ctl.media.audioEnabled

/-- The microphone state agrees everywhere it shows: the media keep it where it lives, the local
tile, the latest announcement and the latest save show it, and the buttons are the media's. -/
def MicAgrees (cam : Nat) (c : Call ((σ × List Effect) × Terminal)) : Prop :=
  c.ctl.media.MicFollows cam ∧ MicShown c ∧ c.world.2.buttons = c.ctl.buttons

@[simp] theorem Controller.noteClosed_media (c : Controller) (s : Session) :
    (c.noteClosed s).media = c.media := rfl

variable (L : Links σ) (cam : Nat)

/-- A new session's tile is a peer's, so the local tile is left alone. -/
theorem newSession_mic (id name : String) (audio : Bool) :
    ⦃fun c => ⌜MicAgrees cam c ∧ id ≠ c.ctl.cfg.self.id⌝⦄
    newSession L.journaled.onTerminal id name audio
    ⦃⇓ _ c => ⌜MicAgrees cam c⌝⦄ := by
  mvcgen [newSession, closeSession, ctl, modifyCtl, ask, request, present, tell]
    invariants
    | inv1 =>
      Invariant.withEarlyReturnNewDo
        (fun _ _ c => ⌜MicAgrees cam c ∧ id ≠ c.ctl.cfg.self.id⌝)
        (fun _ _ c => ⌜MicAgrees cam c⌝)
  all_goals simp_all +zetaDelta [MicAgrees, MicShown, Links.onTerminal, Effect.sent?,
    Effect.saved?, Controller.buttons]

/-- Closing a session touches neither the media nor the view. -/
theorem discardSession_mic (s : Session) :
    ⦃fun c => ⌜MicAgrees cam c⌝⦄ discardSession L.journaled.onTerminal s
    ⦃⇓ _ c => ⌜MicAgrees cam c⌝⦄ := by
  mvcgen [discardSession, closeSession, modifyCtl, request, ask]
  all_goals simp_all +zetaDelta [MicAgrees, MicShown, Links.onTerminal, Effect.sent?,
    Effect.saved?, Controller.buttons]

theorem abortNegotiation_mic (s : Session) :
    ⦃fun c => ⌜MicAgrees cam c⌝⦄ abortNegotiation L.journaled.onTerminal s
    ⦃⇓ _ c => ⌜MicAgrees cam c⌝⦄ := by
  mvcgen [abortNegotiation, present, tell, discardSession_mic]
  all_goals simp_all +zetaDelta [MicAgrees, MicShown, Links.onTerminal, Effect.sent?,
    Effect.saved?]

/-- Switching streams keeps the microphone state, and shows the buttons of the new one. -/
theorem setActiveStream_mic (k : Nat) :
    ⦃fun c => ⌜(c.ctl.media.setActive (some k)).MicFollows cam ∧ MicShown c⌝⦄
    setActiveStream L.journaled.onTerminal k ⦃⇓ _ c => ⌜MicAgrees cam c⌝⦄ := by
  mvcgen [setActiveStream, ctl, modifyCtl, request, ask, present, tell]
    invariants
    | inv1 => ⇓ _ c => ⌜(c.ctl.media.setActive (some k)).MicFollows cam ∧ MicShown c⌝
    | inv2 => ⇓ _ c => ⌜(c.ctl.media.setActive (some k)).MicFollows cam ∧ MicShown c⌝
  all_goals simp_all +zetaDelta [MicAgrees, MicShown, Links.onTerminal, Effect.sent?,
    Effect.saved?, Controller.buttons]

/-- Tearing the call down ends it. -/
theorem shutdown_ended (forget : Bool) :
    ⦃fun _ => ⌜True⌝⦄ shutdown L forget ⦃⇓ _ c => ⌜c.ctl.ended = true⌝⦄ := by
  mvcgen [shutdown, closeSession, cancelRetry, ctl, modifyCtl, request, ask, present, tell]
    invariants
    | inv1 => ⇓ _ c => ⌜c.ctl.ended = true⌝
    | inv2 => ⇓ _ c => ⌜c.ctl.ended = true⌝

/-- A description announces the microphone state it is written with. -/
theorem sendDescription_mic (d : SessionDescription) (peer : String) :
    ⦃fun c => ⌜MicAgrees cam c⌝⦄ sendDescription L.journaled.onTerminal d peer
    ⦃⇓ _ c => ⌜MicAgrees cam c⌝⦄ := by
  mvcgen [sendDescription, send, ctl, ask]
  all_goals simp_all +zetaDelta [MicAgrees, MicShown, Links.onTerminal, Effect.sent?,
    Effect.saved?, Controller.buttons]
  case vc1.h_1 =>
    rename_i hd
    simp [Envelope.micFlag?, Description.audioEnabled_of_ofSession hd]

theorem sendJoin_mic :
    ⦃fun c => ⌜MicAgrees cam c⌝⦄ sendJoin L.journaled.onTerminal
    ⦃⇓ _ c => ⌜MicAgrees cam c⌝⦄ := by
  mvcgen [sendJoin, send, ctl, ask]
  all_goals simp_all +zetaDelta [MicAgrees, MicShown, Links.onTerminal, Effect.sent?,
    Effect.saved?, Envelope.micFlag?, Controller.buttons]

theorem persist_mic :
    ⦃fun c => ⌜MicAgrees cam c⌝⦄ persist L.journaled.onTerminal
    ⦃⇓ _ c => ⌜MicAgrees cam c⌝⦄ := by
  mvcgen [persist, ctl, ask]
  all_goals simp_all +zetaDelta [MicAgrees, MicShown, Links.onTerminal, Effect.sent?,
    Effect.saved?, Controller.buttons, Controller.saved]

theorem handleJoin_mic (m : Join) :
    ⦃fun c => ⌜MicAgrees cam c ∧ m.sender ≠ c.ctl.cfg.self.id⌝⦄
    handleJoin L.journaled.onTerminal m
    ⦃⇓ _ c => ⌜MicAgrees cam c⌝⦄ := by
  mvcgen [handleJoin, discardSession, closeSession, ctl, ask, request, present, tell,
    setSessionState, modifyCtl, newSession_mic, abortNegotiation_mic, sendDescription_mic]
  all_goals simp_all +zetaDelta [MicAgrees, MicShown, Links.onTerminal, Effect.sent?,
    Effect.saved?, Controller.buttons]

theorem handleOffer_mic (m : Description) :
    ⦃fun c => ⌜MicAgrees cam c ∧ m.sender ≠ c.ctl.cfg.self.id⌝⦄
    handleOffer L.journaled.onTerminal m
    ⦃⇓ _ c => ⌜MicAgrees cam c⌝⦄ := by
  mvcgen [handleOffer, discardSession, closeSession, ctl, ask, request, present, tell,
    setSessionState, modifyCtl, newSession_mic, abortNegotiation_mic, sendDescription_mic]
  all_goals simp_all +zetaDelta [MicAgrees, MicShown, Links.onTerminal, Effect.sent?,
    Effect.saved?, Controller.buttons]

theorem handleAnswer_mic (m : Description) :
    ⦃fun c => ⌜MicAgrees cam c ∧ m.sender ≠ c.ctl.cfg.self.id⌝⦄
    handleAnswer L.journaled.onTerminal m
    ⦃⇓ _ c => ⌜MicAgrees cam c⌝⦄ := by
  mvcgen [handleAnswer, ctl, modifyCtl, ask, request, present, tell]
  all_goals simp_all +zetaDelta [MicAgrees, MicShown, Links.onTerminal, Effect.sent?,
    Effect.saved?, Controller.buttons]
  -- the session answered is the sender's, which is not the local participant
  case vc3.h_1.isFalse.h_1.isFalse =>
    rename_i pre hget _ _ _
    obtain ⟨-, hid⟩ := Registry.get?_eq_some hget
    simp_all

theorem handleCandidate_mic (m : CandidateNote) :
    ⦃fun c => ⌜MicAgrees cam c⌝⦄ handleCandidate L.journaled.onTerminal m
    ⦃⇓ _ c => ⌜MicAgrees cam c⌝⦄ := by
  mvcgen [handleCandidate, ctl, ask, request]
  all_goals simp_all +zetaDelta [MicAgrees, MicShown, Links.onTerminal, Effect.sent?,
    Effect.saved?, Controller.buttons]

theorem handleAudioToggle_mic (m : AudioToggle) :
    ⦃fun c => ⌜MicAgrees cam c ∧ m.sender ≠ c.ctl.cfg.self.id⌝⦄
    handleAudioToggle L.journaled.onTerminal m ⦃⇓ _ c => ⌜MicAgrees cam c⌝⦄ := by
  mvcgen [handleAudioToggle, ctl, modifyCtl, present, tell]
  all_goals simp_all +zetaDelta [MicAgrees, MicShown, Links.onTerminal, Effect.sent?,
    Effect.saved?, Controller.buttons]
  -- clearing the sender's meter, or not, leaves the media alone
  case vc1.h_1 =>
    split
    · split <;> simp_all
    · simp_all

theorem handleUserLeft_mic (m : UserLeft) :
    ⦃fun c => ⌜MicAgrees cam c⌝⦄ handleUserLeft L.journaled.onTerminal m
    ⦃⇓ _ c => ⌜MicAgrees cam c⌝⦄ := by
  mvcgen [handleUserLeft, cancelRetry, ctl, modifyCtl, present, tell, discardSession_mic]
  all_goals simp_all +zetaDelta [MicAgrees, MicShown, Links.onTerminal, Effect.sent?,
    Effect.saved?, Controller.buttons]

/-- A relay reconnect announces the local participant afresh and saves the call. -/
theorem handleRelayUp_mic :
    ⦃fun c => ⌜MicAgrees cam c⌝⦄ handleRelayUp L.journaled.onTerminal
    ⦃⇓ _ c => ⌜MicAgrees cam c⌝⦄ := by
  mvcgen [handleRelayUp, closeSession, cancelRetry, ctl, modifyCtl, ask, request, present, tell,
    sendJoin_mic, persist_mic]
    invariants
    | inv1 => ⇓ _ c => ⌜MicAgrees cam c⌝
  all_goals simp_all +zetaDelta [MicAgrees, MicShown, Links.onTerminal, Effect.sent?,
    Effect.saved?, Controller.buttons]

theorem handlePeerState_mic (id : String) (gen : Nat) (state : ConnectionState) :
    ⦃fun c => ⌜MicAgrees cam c⌝⦄ handlePeerState L.journaled.onTerminal id gen state
    ⦃⇓ _ c => ⌜MicAgrees cam c⌝⦄ := by
  mvcgen [handlePeerState, lookup, scheduleRetry, cancelRetry, setSessionState, ctl, modifyCtl,
    ask, present, tell]
  all_goals simp_all +zetaDelta [MicAgrees, MicShown, Links.onTerminal, Effect.sent?,
    Effect.saved?, Controller.buttons]

theorem handleLocalCandidate_mic (id : String) (gen : Nat) (cand : IceCandidate) :
    ⦃fun c => ⌜MicAgrees cam c⌝⦄ handleLocalCandidate L.journaled.onTerminal id gen cand
    ⦃⇓ _ c => ⌜MicAgrees cam c⌝⦄ := by
  mvcgen [handleLocalCandidate, lookup, send, ctl, ask]
  all_goals simp_all +zetaDelta [MicAgrees, MicShown, Links.onTerminal, Effect.sent?,
    Effect.saved?, Envelope.micFlag?, Controller.buttons]

theorem handleRetry_mic (id : String) (gen : Nat) :
    ⦃fun c => ⌜MicAgrees cam c⌝⦄ handleRetry L.journaled.onTerminal id gen
    ⦃⇓ _ c => ⌜MicAgrees cam c⌝⦄ := by
  -- the specs are taken at this camera stream, which the goals would otherwise have to guess
  have discard := discardSession_mic L cam
  have join := sendJoin_mic L cam
  mvcgen [handleRetry, lookup, ctl, modifyCtl, ask, discard, join]
  all_goals clear discard join
  -- disarming the retry, or not, leaves the media and the view alone
  all_goals simp_all +zetaDelta [MicAgrees, MicShown]
  all_goals split <;> (try split) <;> simp_all [Controller.buttons]

theorem handleSpeaking_mic (id : String) (gen : Nat) (speaking : Bool) :
    ⦃fun c => ⌜MicAgrees cam c⌝⦄ handleSpeaking L.journaled.onTerminal id gen speaking
    ⦃⇓ _ c => ⌜MicAgrees cam c⌝⦄ := by
  mvcgen [handleSpeaking, lookup, ctl, present, tell]
  all_goals simp_all +zetaDelta [MicAgrees, MicShown, Links.onTerminal, Effect.sent?,
    Effect.saved?, Controller.buttons]

/-- The capture of the active share stopping falls back to the camera stream. -/
theorem handleScreenEnded_mic (stream : Nat) :
    ⦃fun c => ⌜MicAgrees cam c⌝⦄ handleScreenEnded L.journaled.onTerminal stream
    ⦃⇓ _ c => ⌜MicAgrees cam c⌝⦄ := by
  mvcgen [handleScreenEnded, ctl, setActiveStream_mic]
  all_goals simp_all +zetaDelta [MicAgrees]
  case vc2.isFalse.h_1 =>
    rename_i pre _ hcam
    exact pre.1.setActive_camera hcam

/-- The envelope filter turns away the local participant's own envelopes, so the handlers that
touch a peer's tile never touch the local one. -/
theorem handleMessage_mic (m : Envelope) :
    ⦃fun c => ⌜MicAgrees cam c⌝⦄ handleMessage L.journaled.onTerminal m
    ⦃⇓ _ c => ⌜MicAgrees cam c⌝⦄ := by
  mvcgen [handleMessage, ctl, handleJoin_mic, handleOffer_mic, handleAnswer_mic,
    handleCandidate_mic, handleAudioToggle_mic, handleUserLeft_mic]
  all_goals simp_all +zetaDelta [Envelope.sender]

theorem handleEvent_mic (e : Event) :
    ⦃fun c => ⌜MicAgrees cam c⌝⦄ handleEvent L.journaled.onTerminal e
    ⦃⇓ _ c => ⌜MicAgrees cam c⌝⦄ := by
  mvcgen [handleEvent, lookup, ctl, modifyCtl, handleMessage_mic, handleRelayUp_mic,
    handlePeerState_mic, handleLocalCandidate_mic, handleRetry_mic, handleSpeaking_mic,
    handleScreenEnded_mic]

/-- Toggling the microphone shows, announces and saves the new state. -/
theorem toggleMute_mic :
    ⦃fun c => ⌜MicAgrees cam c⌝⦄ toggleMute L.journaled.onTerminal
    ⦃⇓ _ c => ⌜MicAgrees cam c⌝⦄ := by
  mvcgen [toggleMute, persist, send, ctl, modifyCtl, ask, present, tell]
  all_goals simp_all +zetaDelta [MicAgrees, MicShown, Links.onTerminal, Effect.sent?,
    Effect.saved?, Envelope.micFlag?, Controller.buttons, Controller.saved]
  -- muting or unmuting: the media keep the microphone where it lives, with the new flag
  case vc2.h_2.isTrue | vc3.h_2.isFalse =>
    rename_i pre ht _
    obtain ⟨hf, hen⟩ := pre.1.toggleAudio ht
    rw [hen]
    exact ⟨hf, pre.2.1.1.setMic _, rfl⟩

/-- The camera button changes no audio; the buttons and the saved call follow it. -/
theorem toggleCamera_mic :
    ⦃fun c => ⌜MicAgrees cam c⌝⦄ toggleCamera L.journaled.onTerminal
    ⦃⇓ _ c => ⌜MicAgrees cam c⌝⦄ := by
  mvcgen [toggleCamera, persist, ctl, modifyCtl, ask, present, tell]
  all_goals simp_all +zetaDelta [MicAgrees, MicShown, Links.onTerminal, Effect.sent?,
    Effect.saved?, Controller.buttons, Controller.saved]
  case vc2.h_2 =>
    rename_i pre ht
    obtain ⟨hf, hen⟩ := pre.1.toggleVideo ht
    rw [hen]
    exact ⟨hf, pre.2.1.1, pre.2.1.2.1⟩

/-- Starting a share switches to it with the microphone untouched; stopping one falls back to
the camera stream. -/
theorem shareScreen_mic :
    ⦃fun c => ⌜MicAgrees cam c⌝⦄ shareScreen L.journaled.onTerminal
    ⦃⇓ _ c => ⌜MicAgrees cam c⌝⦄ := by
  mvcgen [shareScreen, ctl, modifyCtl, setActiveStream_mic]
  all_goals simp_all +zetaDelta [MicAgrees, MicShown]
  case vc1.isTrue.h_1.pre =>
    rename_i pre _ hcam
    exact pre.1.setActive_camera hcam
  -- no share is current when none is active, so the new one is taken from scratch
  case vc4.isFalse.h_2.pre =>
    rename_i pre hs ha
    obtain ⟨hf, hen⟩ := pre.1.acquireScreenShare (pre.1.screen_of_sharing hs) ha
    rw [hen]
    exact ⟨hf, pre.2.1⟩

/-- Whether an input switches streams only to one the manager holds: the camera stream or a
share it returned. -/
def Controller.switchesToHeld (c : Controller) : Input → Bool
  | .command (.setActiveStream k) => (c.media.stream? k).isSome
  | _ => true

/-- A call that has ended, or whose microphone state agrees everywhere it shows. -/
def MicKept (cam : Nat) (c : Call ((σ × List Effect) × Terminal)) : Prop :=
  c.ctl.ended = true ∨ MicAgrees cam c

theorem runCommand_mic (cmd : Command) :
    ⦃fun c => ⌜MicAgrees cam c ∧ c.ctl.switchesToHeld (.command cmd) = true⌝⦄
    runCommand L.journaled.onTerminal cmd ⦃⇓ _ c => ⌜MicKept cam c⌝⦄ := by
  -- the switch is taken at this camera stream, which its goal would otherwise have to guess
  have switch := setActiveStream_mic L cam
  mvcgen [runCommand, endCall, toggleMute_mic, toggleCamera_mic, shareScreen_mic, switch,
    shutdown_ended]
  all_goals simp_all +zetaDelta [MicKept, MicAgrees, Controller.switchesToHeld]
  -- a switch asked for by the user goes to a stream the manager holds
  case vc10.h_4.pre =>
    rename_i pre
    obtain ⟨⟨hf, -⟩, hk⟩ := pre
    exact hf.setActive (hf.lt_of_stream? hk)

theorem dispatch_mic (i : Input) :
    ⦃fun c => ⌜MicKept cam c ∧ c.ctl.switchesToHeld i = true⌝⦄
    dispatch L.journaled.onTerminal i
    ⦃⇓ _ c => ⌜MicKept cam c⌝⦄ := by
  mvcgen [dispatch, ctl, runCommand_mic, handleEvent_mic, shutdown_ended]
  all_goals simp_all +zetaDelta [MicKept, Controller.switchesToHeld]

/-- A call started on media that keep the microphone where it lives shows it on the local tile
and the buttons, and has announced and saved nothing yet. -/
theorem start_mic (w : σ) (cfg : CallConfig) (m : Media.Manager) (hm : m.MicFollows cam) :
    ⦃fun c => ⌜c = ⟨Controller.create cfg m, ((w, []), {})⟩⌝⦄
    start L.journaled.onTerminal
    ⦃⇓ _ c => ⌜MicAgrees cam c⌝⦄ := by
  mvcgen [start, ctl, present, tell]
  simp_all +zetaDelta [MicAgrees, MicShown, Controller.create, Links.onTerminal, Effect.sent?,
    Effect.saved?, Announces, SavesMic]

/-- Every run of inputs that switch only to held streams keeps the microphone state agreeing,
until the call ends. -/
theorem MicKept.runInputs {c : Call ((σ × List Effect) × Terminal)} (h : MicKept cam c)
    (is : List Input)
    (hsw : ∀ v ∈ visits L.journaled.onTerminal c is, v.1.ctl.switchesToHeld v.2 = true) :
    MicKept cam (runInputs L.journaled.onTerminal c is) := by
  induction is generalizing c with
  | nil => exact h
  | cons i is ih =>
    simp only [visits, List.mem_cons, forall_eq_or_imp] at hsw
    exact ih (Triple.run_of (dispatch_mic L cam i) ⟨h, hsw.1⟩) hsw.2

end MeshCall
