import Mathlib
import MeshCall.Proofs.Connections.Sessions
import MeshCall.Proofs.Negotiation.Events
import MeshCall.Call.Loop
/-!
# The books through every input

Each handler of the event loop keeps the books of a journaled call. A negotiation that fails
after its session was created drops the session through `abortNegotiation`, which closes its
connection; a replaced or retried session is discarded before its successor is created; a relay
reconnect and a shutdown drain the registry and close every drained session.
-/

namespace MeshCall

open Std.Do

set_option mvcgen.warning false

variable {σ : Type} (L : Links σ)

theorem handleJoin_books (m : Join) :
    ⦃fun c => ⌜Books [] c⌝⦄ handleJoin L.journaled m ⦃⇓ _ c => ⌜Books [] c⌝⦄ := by
  mvcgen [handleJoin, abortNegotiation, ctl, ask, request, present, tell, sendDescription, send,
    newSession_books, discardSession_books, setSessionState_books]
  all_goals simp_all +zetaDelta [Books, Links.journaled, Effect.opened?, Effect.closing?,
    Effect.tried?, ← Option.eq_none_iff_forall_ne_some]
  -- what is left: the session found or created for the sender is registered under its own id
  all_goals grind

theorem handleOffer_books (m : Description) :
    ⦃fun c => ⌜Books [] c⌝⦄ handleOffer L.journaled m ⦃⇓ _ c => ⌜Books [] c⌝⦄ := by
  mvcgen [handleOffer, abortNegotiation, ctl, ask, request, present, tell, sendDescription, send,
    newSession_books, discardSession_books, setSessionState_books]
  all_goals simp_all +zetaDelta [Books, Links.journaled, Effect.opened?, Effect.closing?,
    Effect.tried?, ← Option.eq_none_iff_forall_ne_some]
  all_goals grind

theorem handleAnswer_books (m : Description) :
    ⦃fun c => ⌜Books [] c⌝⦄ handleAnswer L.journaled m ⦃⇓ _ c => ⌜Books [] c⌝⦄ := by
  mvcgen [handleAnswer, ctl, modifyCtl, ask, request, present, tell]
  all_goals simp_all +zetaDelta [Books, Links.journaled, Effect.opened?, Effect.closing?,
    Effect.tried?]
  case vc3.h_1.isFalse.h_1.isFalse =>
    rename_i pre _ _ _ _
    -- the answered session takes the name, the audio flag and `connected`: its connection stays
    exact pre.modify ((keeps_setState (by decide)).comp ((keeps_setAudio _).comp (keeps_setName _))) _

theorem handleCandidate_books (m : CandidateNote) :
    ⦃fun c => ⌜Books [] c⌝⦄ handleCandidate L.journaled m ⦃⇓ _ c => ⌜Books [] c⌝⦄ := by
  mvcgen [handleCandidate, ctl, ask, request]
  all_goals simp_all +zetaDelta [Books, Links.journaled, Effect.opened?, Effect.closing?,
    Effect.tried?]

theorem handleAudioToggle_books (m : AudioToggle) :
    ⦃fun c => ⌜Books [] c⌝⦄ handleAudioToggle L.journaled m ⦃⇓ _ c => ⌜Books [] c⌝⦄ := by
  mvcgen [handleAudioToggle, ctl, modifyCtl, present, tell]
  all_goals simp_all +zetaDelta [Books, Links.journaled, Effect.opened?, Effect.closing?,
    Effect.tried?]
  case vc1.h_1 =>
    rename_i pre _
    have h := pre.modify (keeps_setAudio m.enabled) m.sender
    -- clearing the sender's meter touches neither the registry nor the books
    split
    · split <;> exact h
    · exact h

theorem handleUserLeft_books (m : UserLeft) :
    ⦃fun c => ⌜Books [] c⌝⦄ handleUserLeft L.journaled m ⦃⇓ _ c => ⌜Books [] c⌝⦄ := by
  mvcgen [handleUserLeft, cancelRetry, ctl, modifyCtl, present, tell, discardSession_books]
  all_goals simp_all +zetaDelta [Books, Links.journaled, Effect.opened?, Effect.closing?,
    Effect.tried?, ← Option.eq_none_iff_forall_ne_some]
  all_goals grind

theorem handleRelayUp_books :
    ⦃fun c => ⌜Books [] c⌝⦄ handleRelayUp L.journaled ⦃⇓ _ c => ⌜Books [] c⌝⦄ := by
  mvcgen [handleRelayUp, closeSession, cancelRetry, sendJoin, send, persist, ctl, modifyCtl, ask,
    request, present, tell]
    invariants
    | inv1 => ⇓ p c => ⌜Books p.1.suffix c⌝
  all_goals simp_all +zetaDelta [Books, Links.journaled, Effect.opened?, Effect.closing?,
    Effect.tried?, Controller.noteClosed]
  -- every drained session is live until its turn comes, whether a retry was pending or not
  case vc1.step.h_1.isTrue | vc4.step.h_2.isTrue =>
    rename_i inv _ closed
    exact absurd closed inv.live_middle.not_closed
  case vc3.step.h_1.isFalse.isFalse | vc6.step.h_2.isFalse.isFalse =>
    rename_i inv _ _ again
    simp [Session.close, inv.live_middle.not_done] at again
  case vc2.step.h_1.isFalse.isTrue | vc5.step.h_2.isFalse.isTrue =>
    rename_i inv _ _ _
    simpa [Session.key] using inv.close_middle
  case vc7.pre =>
    rename_i inv
    simpa [Registry.drain] using inv.perm Registry.snapshot_perm.symm

theorem handlePeerState_books (id : String) (gen : Nat) (state : ConnectionState) :
    ⦃fun c => ⌜Books [] c⌝⦄ handlePeerState L.journaled id gen state ⦃⇓ _ c => ⌜Books [] c⌝⦄ := by
  mvcgen [handlePeerState, lookup, scheduleRetry, cancelRetry, ctl, modifyCtl, ask, present, tell,
    setSessionState_books]
  all_goals simp_all +zetaDelta [Books, Links.journaled, Effect.opened?, Effect.closing?,
    Effect.tried?]

theorem handleLocalCandidate_books (id : String) (gen : Nat) (cand : IceCandidate) :
    ⦃fun c => ⌜Books [] c⌝⦄ handleLocalCandidate L.journaled id gen cand ⦃⇓ _ c => ⌜Books [] c⌝⦄ := by
  mvcgen [handleLocalCandidate, lookup, send, ctl, ask]
  all_goals simp_all +zetaDelta [Books, Links.journaled, Effect.opened?, Effect.closing?,
    Effect.tried?]

theorem handleRetry_books (id : String) (gen : Nat) :
    ⦃fun c => ⌜Books [] c⌝⦄ handleRetry L.journaled id gen ⦃⇓ _ c => ⌜Books [] c⌝⦄ := by
  mvcgen [handleRetry, lookup, sendJoin, send, ctl, modifyCtl, ask, discardSession_books]
  all_goals simp_all +zetaDelta [Books, Links.journaled, Effect.opened?, Effect.closing?,
    Effect.tried?]
  -- dropping the retry that fired touches only the retries table
  all_goals split <;> simp_all [apply_ite]
  all_goals grind

theorem handleSpeaking_books (id : String) (gen : Nat) (speaking : Bool) :
    ⦃fun c => ⌜Books [] c⌝⦄ handleSpeaking L.journaled id gen speaking ⦃⇓ _ c => ⌜Books [] c⌝⦄ := by
  mvcgen [handleSpeaking, lookup, ctl, present, tell]
  all_goals simp_all +zetaDelta [Books, Links.journaled, Effect.opened?, Effect.closing?,
    Effect.tried?]

theorem handleScreenEnded_books (stream : Nat) :
    ⦃fun c => ⌜Books [] c⌝⦄ handleScreenEnded L.journaled stream ⦃⇓ _ c => ⌜Books [] c⌝⦄ := by
  mvcgen [handleScreenEnded, ctl, setActiveStream_books]

theorem handleMessage_books (m : Envelope) :
    ⦃fun c => ⌜Books [] c⌝⦄ handleMessage L.journaled m ⦃⇓ _ c => ⌜Books [] c⌝⦄ := by
  mvcgen [handleMessage, ctl, handleJoin_books, handleOffer_books, handleAnswer_books,
    handleCandidate_books, handleAudioToggle_books, handleUserLeft_books]

theorem handleEvent_books (e : Event) :
    ⦃fun c => ⌜Books [] c⌝⦄ handleEvent L.journaled e ⦃⇓ _ c => ⌜Books [] c⌝⦄ := by
  mvcgen [handleEvent, lookup, ctl, modifyCtl, handleMessage_books, handleRelayUp_books,
    handlePeerState_books, handleLocalCandidate_books, handleRetry_books, handleSpeaking_books,
    handleScreenEnded_books]
  all_goals simp_all +zetaDelta [Books]
  case vc8.h_8.isTrue =>
    rename_i pre found
    -- a meter is registered only for the current generation of a registered session
    obtain ⟨s, hs⟩ := Option.isSome_iff_exists.mp found
    obtain ⟨hget, rfl⟩ := Registry.lookup_eq_some.mp hs
    obtain ⟨hmem, rfl⟩ := Registry.get?_eq_some hget
    exact pre.setMeter hmem _ rfl

theorem runCommand_books (cmd : Command) :
    ⦃fun c => ⌜Books [] c⌝⦄ runCommand L.journaled cmd ⦃⇓ _ c => ⌜Books [] c⌝⦄ := by
  mvcgen [runCommand, toggleMute, toggleCamera, shareScreen, endCall, persist, send, ctl,
    modifyCtl, ask, present, tell, setActiveStream_books, shutdown_books]
  all_goals simp_all +zetaDelta [Books, Links.journaled, Effect.opened?, Effect.closing?,
    Effect.tried?]

theorem dispatch_books (i : Input) :
    ⦃fun c => ⌜Books [] c⌝⦄ dispatch L.journaled i ⦃⇓ _ c => ⌜Books [] c⌝⦄ := by
  mvcgen [dispatch, ctl, handleEvent_books, runCommand_books, shutdown_books]

/-- A call that was just created and shown has empty books. -/
theorem start_books (w : σ) (cfg : CallConfig) (media : Media.Manager) :
    ⦃fun c => ⌜c = ⟨Controller.create cfg media, (w, [])⟩⌝⦄ start L.journaled
    ⦃⇓ _ c => ⌜Books [] c⌝⦄ := by
  mvcgen [start, ctl, present, tell]
  simp_all +zetaDelta [Books, Links.journaled, Controller.create]
  exact Ledger.init

end MeshCall
