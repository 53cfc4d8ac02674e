import Mathlib
import MeshCall.Proofs.Tracks.Sessions
/-!
# The track books through every input

Each handler of the event loop keeps the track books of a journaled call. Only two kinds of
step touch them: creating a session, which gives the new connection the active stream's tracks,
and switching the active stream, which replaces the tracks of every session. Everything else
either drops sessions, changes a session without changing its connection, or changes the media
without changing what the active stream sends: the toggles only enable or disable tracks, and a
new screen share is made active right away through a switch.
-/

namespace MeshCall

open Std.Do Media

set_option mvcgen.warning false

variable {σ : Type} (L : Links σ)

theorem handleJoin_tracks (m : Join) :
    ⦃fun c => ⌜TrackBooks c⌝⦄ handleJoin L.journaled m ⦃⇓ _ c => ⌜TrackBooks c⌝⦄ := by
  mvcgen [handleJoin, abortNegotiation, ctl, ask, request, present, tell, sendDescription, send,
    newSession_tracks, discardSession_tracks, setSessionState_tracks]
  all_goals simp_all +zetaDelta [TrackBooks, Links.journaled, Effect.setsTrack?,
    Effect.refusedSwap?]

theorem handleOffer_tracks (m : Description) :
    ⦃fun c => ⌜TrackBooks c⌝⦄ handleOffer L.journaled m ⦃⇓ _ c => ⌜TrackBooks c⌝⦄ := by
  mvcgen [handleOffer, abortNegotiation, ctl, ask, request, present, tell, sendDescription, send,
    newSession_tracks, discardSession_tracks, setSessionState_tracks]
  all_goals simp_all +zetaDelta [TrackBooks, Links.journaled, Effect.setsTrack?,
    Effect.refusedSwap?]

theorem handleAnswer_tracks (m : Description) :
    ⦃fun c => ⌜TrackBooks c⌝⦄ handleAnswer L.journaled m ⦃⇓ _ c => ⌜TrackBooks c⌝⦄ := by
  mvcgen [handleAnswer, ctl, modifyCtl, ask, request, present, tell]
  all_goals simp_all +zetaDelta [TrackBooks, Links.journaled, Effect.setsTrack?,
    Effect.refusedSwap?]
  case vc3.h_1.isFalse.h_1.isFalse =>
    rename_i pre _ _ _ _
    -- the answered session takes the name, the audio flag and `connected`: its connection stays
    exact pre.modify (fun x => by simp [Session.key]) _

theorem handleCandidate_tracks (m : CandidateNote) :
    ⦃fun c => ⌜TrackBooks c⌝⦄ handleCandidate L.journaled m ⦃⇓ _ c => ⌜TrackBooks c⌝⦄ := by
  mvcgen [handleCandidate, ctl, ask, request]
  all_goals simp_all +zetaDelta [TrackBooks, Links.journaled, Effect.setsTrack?,
    Effect.refusedSwap?]

theorem handleAudioToggle_tracks (m : AudioToggle) :
    ⦃fun c => ⌜TrackBooks c⌝⦄ handleAudioToggle L.journaled m ⦃⇓ _ c => ⌜TrackBooks c⌝⦄ := by
  mvcgen [handleAudioToggle, ctl, modifyCtl, present, tell]
  all_goals simp_all +zetaDelta [TrackBooks, Links.journaled, Effect.setsTrack?,
    Effect.refusedSwap?]
  case vc1.h_1 =>
    rename_i pre _
    have h := pre.modify (fun x => (rfl : (x.setAudio m.enabled).key = x.key)) m.sender
    -- clearing the sender's meter touches neither the registry nor the media
    split
    · split <;> exact h
    · exact h

theorem handleUserLeft_tracks (m : UserLeft) :
    ⦃fun c => ⌜TrackBooks c⌝⦄ handleUserLeft L.journaled m ⦃⇓ _ c => ⌜TrackBooks c⌝⦄ := by
  mvcgen [handleUserLeft, cancelRetry, ctl, modifyCtl, present, tell, discardSession_tracks]
  all_goals simp_all +zetaDelta [TrackBooks, Links.journaled, Effect.setsTrack?,
    Effect.refusedSwap?]

theorem handleRelayUp_tracks :
    ⦃fun c => ⌜TrackBooks c⌝⦄ handleRelayUp L.journaled ⦃⇓ _ c => ⌜TrackBooks c⌝⦄ := by
  mvcgen [handleRelayUp, closeSession, cancelRetry, sendJoin, send, persist, ctl, modifyCtl, ask,
    request, present, tell]
    invariants
    | inv1 => ⇓ _ c => ⌜TrackBooks c⌝
  all_goals simp_all +zetaDelta [TrackBooks, Links.journaled, Effect.setsTrack?,
    Effect.refusedSwap?, Controller.noteClosed, Registry.drain]
  case vc7.pre =>
    rename_i pre
    exact pre.sub (by simp)

theorem handlePeerState_tracks (id : String) (gen : Nat) (state : ConnectionState) :
    ⦃fun c => ⌜TrackBooks c⌝⦄ handlePeerState L.journaled id gen state ⦃⇓ _ c => ⌜TrackBooks c⌝⦄ := by
  mvcgen [handlePeerState, lookup, scheduleRetry, cancelRetry, ctl, modifyCtl, ask, present, tell,
    setSessionState_tracks]
  all_goals simp_all +zetaDelta [TrackBooks, Links.journaled, Effect.setsTrack?,
    Effect.refusedSwap?]

theorem handleLocalCandidate_tracks (id : String) (gen : Nat) (cand : IceCandidate) :
    ⦃fun c => ⌜TrackBooks c⌝⦄ handleLocalCandidate L.journaled id gen cand
    ⦃⇓ _ c => ⌜TrackBooks c⌝⦄ := by
  mvcgen [handleLocalCandidate, lookup, send, ctl, ask]
  all_goals simp_all +zetaDelta [TrackBooks, Links.journaled, Effect.setsTrack?,
    Effect.refusedSwap?]

theorem handleRetry_tracks (id : String) (gen : Nat) :
    ⦃fun c => ⌜TrackBooks c⌝⦄ handleRetry L.journaled id gen ⦃⇓ _ c => ⌜TrackBooks c⌝⦄ := by
  mvcgen [handleRetry, lookup, sendJoin, send, ctl, modifyCtl, ask, discardSession_tracks]
  all_goals simp_all +zetaDelta [TrackBooks, Links.journaled, Effect.setsTrack?,
    Effect.refusedSwap?]
  -- dropping the retry that fired touches only the retries table
  all_goals split <;> simp_all [apply_ite]

theorem handleSpeaking_tracks (id : String) (gen : Nat) (speaking : Bool) :
    ⦃fun c => ⌜TrackBooks c⌝⦄ handleSpeaking L.journaled id gen speaking
    ⦃⇓ _ c => ⌜TrackBooks c⌝⦄ := by
  mvcgen [handleSpeaking, lookup, ctl, present, tell]
  all_goals simp_all +zetaDelta [TrackBooks, Links.journaled, Effect.setsTrack?,
    Effect.refusedSwap?]

theorem handleScreenEnded_tracks (stream : Nat) :
    ⦃fun c => ⌜TrackBooks c⌝⦄ handleScreenEnded L.journaled stream ⦃⇓ _ c => ⌜TrackBooks c⌝⦄ := by
  mvcgen [handleScreenEnded, ctl, setActiveStream_tracks]
  all_goals simp_all [TrackBooks]
  case vc2.isFalse.h_1 =>
    rename_i pre _ _
    exact pre.forget

theorem handleMessage_tracks (m : Envelope) :
    ⦃fun c => ⌜TrackBooks c⌝⦄ handleMessage L.journaled m ⦃⇓ _ c => ⌜TrackBooks c⌝⦄ := by
  mvcgen [handleMessage, ctl, handleJoin_tracks, handleOffer_tracks, handleAnswer_tracks,
    handleCandidate_tracks, handleAudioToggle_tracks, handleUserLeft_tracks]

theorem handleEvent_tracks (e : Event) :
    ⦃fun c => ⌜TrackBooks c⌝⦄ handleEvent L.journaled e ⦃⇓ _ c => ⌜TrackBooks c⌝⦄ := by
  mvcgen [handleEvent, lookup, ctl, modifyCtl, handleMessage_tracks, handleRelayUp_tracks,
    handlePeerState_tracks, handleLocalCandidate_tracks, handleRetry_tracks, handleSpeaking_tracks,
    handleScreenEnded_tracks]

/-- The toggles only enable or disable tracks, and a new screen share is switched to at once. -/
theorem runCommand_tracks (cmd : Command) :
    ⦃fun c => ⌜TrackBooks c⌝⦄ runCommand L.journaled cmd ⦃⇓ _ c => ⌜TrackBooks c⌝⦄ := by
  mvcgen [runCommand, toggleMute, toggleCamera, shareScreen, endCall, persist, send, ctl,
    modifyCtl, ask, present, tell, setActiveStream_tracks, shutdown_tracks]
  all_goals simp_all +zetaDelta [TrackBooks, Links.journaled, Effect.setsTrack?,
    Effect.refusedSwap?]
  case vc2.h_1.h_2.isTrue | vc3.h_1.h_2.isFalse =>
    rename_i pre toggled _
    rw [Manager.activeTracks_toggleAudio toggled]
    exact pre
  case vc5.h_2.h_2 =>
    rename_i pre toggled
    rw [Manager.activeTracks_toggleVideo toggled]
    exact pre
  -- a switch replaces every session's tracks, whatever they were
  case vc6.h_3.isTrue.h_1.pre | vc9.h_3.isFalse.h_2.pre =>
    rename_i pre _ _
    exact pre.forget
  case vc10.h_4.pre =>
    rename_i pre
    exact pre.forget

theorem dispatch_tracks (i : Input) :
    ⦃fun c => ⌜TrackBooks c⌝⦄ dispatch L.journaled i ⦃⇓ _ c => ⌜TrackBooks c⌝⦄ := by
  mvcgen [dispatch, ctl, handleEvent_tracks, runCommand_tracks, shutdown_tracks]

/-- A call that was just created and shown has no sessions and has set no track. -/
theorem start_tracks (w : σ) (cfg : CallConfig) (media : Manager) :
    ⦃fun c => ⌜c = ⟨Controller.create cfg media, (w, [])⟩⌝⦄ start L.journaled
    ⦃⇓ _ c => ⌜TrackBooks c⌝⦄ := by
  mvcgen [start, ctl, present, tell]
  simp_all +zetaDelta [TrackBooks, Links.journaled, Controller.create, Effect.setsTrack?,
    Effect.refusedSwap?]
  exact ⟨by simp, by simp, by simp, by simp⟩

end MeshCall
