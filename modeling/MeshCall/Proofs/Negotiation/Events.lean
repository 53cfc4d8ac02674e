import Mathlib
import MeshCall.Proofs.Negotiation.Sessions
import MeshCall.Call.Loop
/-!
# Registered sessions have negotiated, through every input

Each handler of the event loop leaves every registered session settled. A join or an offer
creates a session only for a sender other than the local participant, whom the envelope filter
turns away; the new session is moved to `offerSent` or `answerSent` once its description is
set, and dropped by `abortNegotiation` at every step that fails before that. Sessions leave the
registry before they are closed, so none in it is ever `closed`.
-/

namespace MeshCall

open Std.Do

set_option mvcgen.warning false

variable {σ : Type} (L : Links σ)

theorem handleJoin_negotiated (m : Join) :
    ⦃fun c => ⌜Negotiated [] c ∧ m.sender ≠ c.ctl.cfg.self.id⌝⦄ handleJoin L m ⦃⇓ _ c => ⌜Negotiated [] c⌝⦄ := by
  mvcgen [handleJoin, ctl, ask, request, present, tell, sendDescription, send,
    newSession_negotiated, discardSession_negotiated, abortNegotiation_negotiated,
    setSessionState_negotiated]
  all_goals simp_all +zetaDelta [Negotiated, SessionState.negotiated,
    ← Option.eq_none_iff_forall_ne_some]
  all_goals grind

theorem handleOffer_negotiated (m : Description) :
    ⦃fun c => ⌜Negotiated [] c ∧ m.sender ≠ c.ctl.cfg.self.id⌝⦄ handleOffer L m ⦃⇓ _ c => ⌜Negotiated [] c⌝⦄ := by
  mvcgen [handleOffer, ctl, ask, request, present, tell, sendDescription, send,
    newSession_negotiated, discardSession_negotiated, abortNegotiation_negotiated,
    setSessionState_negotiated]
  all_goals simp_all +zetaDelta [Negotiated, SessionState.negotiated,
    ← Option.eq_none_iff_forall_ne_some]
  all_goals grind

theorem handleAnswer_negotiated (m : Description) :
    ⦃fun c => ⌜Negotiated [] c⌝⦄ handleAnswer L m ⦃⇓ _ c => ⌜Negotiated [] c⌝⦄ := by
  mvcgen [handleAnswer, ctl, modifyCtl, ask, request, present, tell]
  all_goals simp_all +zetaDelta [Negotiated]
  case vc3.h_1.isFalse.h_1.isFalse =>
    rename_i pre _ _ _ _
    refine ⟨Registry.nodup_modify pre.1 fun s => by simp, pre.2.modify (fun s => by simp) ?_⟩
    intro s hs
    exact Session.negotiated_setState (by simpa using hs) rfl

theorem handleCandidate_negotiated (m : CandidateNote) :
    ⦃fun c => ⌜Negotiated [] c⌝⦄ handleCandidate L m ⦃⇓ _ c => ⌜Negotiated [] c⌝⦄ := by
  mvcgen [handleCandidate, ctl, ask, request]

theorem handleAudioToggle_negotiated (m : AudioToggle) :
    ⦃fun c => ⌜Negotiated [] c⌝⦄ handleAudioToggle L m ⦃⇓ _ c => ⌜Negotiated [] c⌝⦄ := by
  mvcgen [handleAudioToggle, ctl, modifyCtl, present, tell]
  all_goals simp_all +zetaDelta [Negotiated]
  -- clearing the sender's meter, or not, leaves the registry as the toggle set it
  case vc1.h_1 =>
    rename_i pre _
    have hn := Registry.nodup_modify (x := m.sender) pre.1 fun s => Session.setAudio_id m.enabled
    have hs := pre.2.modify (x := m.sender) (fun s => Session.setAudio_id m.enabled) fun s h => by
      simpa using h
    split
    · split <;> exact ⟨hn, hs⟩
    · exact ⟨hn, hs⟩

theorem handleUserLeft_negotiated (m : UserLeft) :
    ⦃fun c => ⌜Negotiated [] c⌝⦄ handleUserLeft L m ⦃⇓ _ c => ⌜Negotiated [] c⌝⦄ := by
  mvcgen [handleUserLeft, cancelRetry, ctl, modifyCtl, present, tell, discardSession_negotiated]
  all_goals simp_all +zetaDelta [Negotiated]
  all_goals grind

theorem handleRelayUp_negotiated :
    ⦃fun c => ⌜Negotiated [] c⌝⦄ handleRelayUp L ⦃⇓ _ c => ⌜Negotiated [] c⌝⦄ := by
  mvcgen [handleRelayUp, closeSession, cancelRetry, sendJoin, send, persist, ctl, modifyCtl, ask,
    request, present, tell]
    invariants
    | inv1 => ⇓ _ c => ⌜Negotiated [] c⌝
  -- every session is drained before any is closed
  all_goals simp_all +zetaDelta [Negotiated, Registry.drain]

theorem handlePeerState_negotiated (id : String) (gen : Nat) (state : ConnectionState) :
    ⦃fun c => ⌜Negotiated [] c⌝⦄ handlePeerState L id gen state ⦃⇓ _ c => ⌜Negotiated [] c⌝⦄ := by
  mvcgen [handlePeerState, lookup, scheduleRetry, cancelRetry, ctl, modifyCtl, ask, present, tell,
    setSessionState_negotiated]
  all_goals simp_all +zetaDelta [Negotiated, SessionState.negotiated]
  all_goals grind

theorem handleLocalCandidate_negotiated (id : String) (gen : Nat) (cand : IceCandidate) :
    ⦃fun c => ⌜Negotiated [] c⌝⦄ handleLocalCandidate L id gen cand ⦃⇓ _ c => ⌜Negotiated [] c⌝⦄ := by
  mvcgen [handleLocalCandidate, lookup, send, ctl, ask]

theorem handleRetry_negotiated (id : String) (gen : Nat) :
    ⦃fun c => ⌜Negotiated [] c⌝⦄ handleRetry L id gen ⦃⇓ _ c => ⌜Negotiated [] c⌝⦄ := by
  mvcgen [handleRetry, lookup, sendJoin, send, ctl, modifyCtl, ask, discardSession_negotiated]
  all_goals simp_all +zetaDelta [Negotiated, ← Option.eq_none_iff_forall_ne_some]
  all_goals grind

theorem handleSpeaking_negotiated (id : String) (gen : Nat) (speaking : Bool) :
    ⦃fun c => ⌜Negotiated [] c⌝⦄ handleSpeaking L id gen speaking ⦃⇓ _ c => ⌜Negotiated [] c⌝⦄ := by
  mvcgen [handleSpeaking, lookup, ctl, present, tell]

theorem handleScreenEnded_negotiated (stream : Nat) :
    ⦃fun c => ⌜Negotiated [] c⌝⦄ handleScreenEnded L stream ⦃⇓ _ c => ⌜Negotiated [] c⌝⦄ := by
  mvcgen [handleScreenEnded, ctl, setActiveStream_negotiated]

/-- The envelope filter turns away the local participant's own envelopes, so a join or an offer
reaches its handler only from another participant. -/
theorem handleMessage_negotiated (m : Envelope) :
    ⦃fun c => ⌜Negotiated [] c⌝⦄ handleMessage L m ⦃⇓ _ c => ⌜Negotiated [] c⌝⦄ := by
  mvcgen [handleMessage, ctl, handleJoin_negotiated, handleOffer_negotiated,
    handleAnswer_negotiated, handleCandidate_negotiated, handleAudioToggle_negotiated,
    handleUserLeft_negotiated]
  all_goals simp_all +zetaDelta [Envelope.sender]

theorem handleEvent_negotiated (e : Event) :
    ⦃fun c => ⌜Negotiated [] c⌝⦄ handleEvent L e ⦃⇓ _ c => ⌜Negotiated [] c⌝⦄ := by
  mvcgen [handleEvent, lookup, ctl, modifyCtl, handleMessage_negotiated, handleRelayUp_negotiated,
    handlePeerState_negotiated, handleLocalCandidate_negotiated, handleRetry_negotiated,
    handleSpeaking_negotiated, handleScreenEnded_negotiated]

theorem runCommand_negotiated (cmd : Command) :
    ⦃fun c => ⌜Negotiated [] c⌝⦄ runCommand L cmd ⦃⇓ _ c => ⌜Negotiated [] c⌝⦄ := by
  mvcgen [runCommand, toggleMute, toggleCamera, shareScreen, endCall, persist, send, ctl,
    modifyCtl, ask, present, tell, setActiveStream_negotiated, shutdown_negotiated]

theorem dispatch_negotiated (i : Input) :
    ⦃fun c => ⌜Negotiated [] c⌝⦄ dispatch L i ⦃⇓ _ c => ⌜Negotiated [] c⌝⦄ := by
  mvcgen [dispatch, ctl, handleEvent_negotiated, runCommand_negotiated, shutdown_negotiated]

/-- A call that was just created has no session. -/
theorem start_negotiated (w : σ) (cfg : CallConfig) (media : Media.Manager) :
    ⦃fun c => ⌜c = ⟨Controller.create cfg media, w⟩⌝⦄ start L ⦃⇓ _ c => ⌜Negotiated [] c⌝⦄ := by
  mvcgen [start, ctl, present, tell]
  simp_all +zetaDelta [Negotiated, Controller.create]

end MeshCall
