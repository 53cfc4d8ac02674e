import Mathlib
import MeshCall.Proofs.Envelopes
/-!
# What each input does to the retries

A failed connection is rebuilt by a retry that a timer posts after the retry delay. Three things
of a journaled call decide how retries go. The retries in a row of each remote id: only a
rebuild raises them, by one, and only a reset lowers them, to zero. The retries armed: only a
failure report of a current session arms one, and only while its id is below the bound. And
the journal, which only grows, so that a connection once closed stays closed.

This module says, for every input, what handling it does to each of the three: the journal
grows, the configuration stays, the retries in a row become `attemptsAfter`, the retries armed
meanwhile are `armsRetry`, and a rebuild closes the session it rebuilds and takes it out of the
registry.
-/

namespace MeshCall

open Std.Do

set_option mvcgen.warning false

/-- The retry a call armed a timer for, as (remote id, generation). -/
def Effect.armedRetry? : Effect → Option (String × Nat)
  | .arm _ (.retry id gen) _ => some (id, gen)
  | _ => none

/-- The retries armed, in order. -/
def armedRetries (t : List Effect) : List (String × Nat) := t.filterMap Effect.armedRetry?

@[simp] theorem armedRetries_append (t u : List Effect) :
    armedRetries (t ++ u) = armedRetries t ++ armedRetries u := by
  simp [armedRetries]

@[simp] theorem armedRetries_cons (e : Effect) (t : List Effect) :
    armedRetries (e :: t) = e.armedRetry?.toList ++ armedRetries t := by
  cases h : e.armedRetry? <;> simp [armedRetries, h]

@[simp] theorem armedRetries_nil : armedRetries [] = [] := rfl

namespace Controller

variable (c : Controller)

/-- The retries in a row of `id`: the rebuilds of its session since its count was last reset. -/
def retriesInRow (id : String) : Nat := (Assoc.get? c.attempts id).getD 0

/-- The session that handling `i` rebuilds: the current session of a retry's id, failed and of
the retry's generation, while the call is live. -/
def retryTarget (i : Input) : Option Session :=
  if c.ended then none else
    match i with
    | .event (.retry id gen) => (c.registry.lookup id gen).filter (·.state == .failed)
    | _ => none

/-- Whether handling `i` rebuilds the session of `id`. -/
def runsRetry (id : String) (i : Input) : Bool := (c.retryTarget i).any (·.id == id)

/-- Whether handling `i` starts the retries in a row of `id` afresh, while the call is live: a
connected report of its current session, a user-left for it, or a relay connection. -/
def resetsRetries (id : String) (i : Input) : Bool :=
  !c.ended &&
    match i with
    | .event (.peerState x gen .connected) => x == id && (c.registry.lookup x gen).isSome
    | .event (.message (.userLeft u)) =>
      c.accepts (.userLeft u) && u.id == id && u.id != c.cfg.self.id
    | .event (.relayUp _) => true
    | _ => false

/-- Whether `id` reached the bound of retries in a row; a bound that is not positive is none. -/
def retriesExhausted (id : String) : Bool :=
  decide (0 < c.cfg.retry.maxAttempts) && decide (c.cfg.retry.maxAttempts ≤ c.retriesInRow id)

/-- The retry that handling `i` arms: one for a failure report of a current session that is not
closed, unless its id reached the bound, while the call is live. -/
def armsRetry (i : Input) : Option (String × Nat) :=
  if c.ended then none else
    match i with
    | .event (.peerState id gen .failed) =>
      if (c.registry.lookup id gen).any (·.state != .closed) && !c.retriesExhausted id
      then some (id, gen) else none
    | _ => none

/-- The table of retries in a row after handling `i`: a rebuild counts one more for its id, and
a reset clears its id, or every id for a relay connection. -/
def attemptsAfter : Input → List (String × Nat)
  | .event e =>
    if c.ended then c.attempts else
    match e with
    | .retry id gen =>
      if (c.registry.lookup id gen).any (·.state == .failed) then
        Assoc.set c.attempts id (c.retriesInRow id + 1)
      else c.attempts
    | .peerState id gen .connected =>
      if (c.registry.lookup id gen).isSome then Assoc.set c.attempts id 0 else c.attempts
    | .message (.userLeft u) =>
      if c.accepts (.userLeft u) && u.id != c.cfg.self.id then Assoc.erase c.attempts u.id
      else c.attempts
    | .relayUp _ => []
    | _ => c.attempts
  | _ => c.attempts

/-- A reset clears the retries in a row of its id, a rebuild adds one, and nothing else changes
them. -/
theorem retriesInRow_after (i : Input) (id : String) :
    (Assoc.get? (c.attemptsAfter i) id).getD 0 =
      if c.resetsRetries id i then 0 else c.retriesInRow id + if c.runsRetry id i then 1 else 0 := by
  cases h : c.ended
  case true =>
    cases i <;> simp [attemptsAfter, resetsRetries, runsRetry, retryTarget, retriesInRow, h]
  simp only [attemptsAfter, resetsRetries, runsRetry, retryTarget, retriesInRow, h]
  cases i with
  | event e =>
    cases e with
    | retry x gen =>
      cases hl : c.registry.lookup x gen with
      | none => simp [hl]
      | some s =>
        have hs : s.id = x := (Registry.get?_eq_some (Registry.lookup_eq_some.mp hl).1).2
        by_cases hx : x = id
        · subst hx
          by_cases hf : s.state = .failed <;> simp [hl, hf, hs, Assoc.get?_set]
        · by_cases hf : s.state = .failed <;> simp [hl, hf, hs, hx, Ne.symm hx, Assoc.get?_set]
    | peerState x gen st =>
      by_cases hx : x = id
      · subst hx
        cases hl : (c.registry.lookup x gen).isSome <;> cases st <;> simp [hl, Assoc.get?_set]
      · cases hl : (c.registry.lookup x gen).isSome <;> cases st <;>
          simp [hl, hx, Ne.symm hx, Assoc.get?_set]
    | message m =>
      cases m with
      | userLeft u =>
        -- only a user-left that reaches the handler, of another participant, resets its id
        by_cases hacc : c.accepts (.userLeft u) = true
        · by_cases hs : u.id = c.cfg.self.id
          · simp [hacc, hs]
          · by_cases hx : u.id = id
            · subst hx
              simp [hacc, hs, Assoc.get?_erase]
            · simp [hacc, hs, hx, Ne.symm hx, Assoc.get?_erase]
        · simp [hacc]
      | _ => simp
    | _ => simp
  | _ => simp

end Controller

variable {σ : Type}

/-- From `c₀` to `c` the journal only grew, arming the retries `arms`, the configuration stayed
and the table of retries in a row became `att`. -/
def RetryStep (c₀ : Call (σ × List Effect)) (att arms : List (String × Nat))
    (c : Call (σ × List Effect)) : Prop :=
  c₀.world.2 <+: c.world.2 ∧ armedRetries (since c₀.world.2 c.world.2) = arms ∧
    c.ctl.cfg = c₀.ctl.cfg ∧ c.ctl.attempts = att

theorem RetryStep.refl (c : Call (σ × List Effect)) : RetryStep c c.ctl.attempts [] c := by
  simp [RetryStep]

section

variable (L : Links σ)

theorem newSession_retries (c₀ : Call (σ × List Effect)) (id name : String) (audio : Bool) :
    ⦃fun c => ⌜c = c₀⌝⦄ newSession L.journaled id name audio
    ⦃⇓ _ c => ⌜RetryStep c₀ c₀.ctl.attempts [] c⌝⦄ := by
  mvcgen [newSession, closeSession, ctl, modifyCtl, ask, request, present, tell]
    invariants
    | inv1 =>
      Invariant.withEarlyReturnNewDo (fun _ _ c => ⌜RetryStep c₀ c₀.ctl.attempts [] c⌝)
        (fun _ _ c => ⌜RetryStep c₀ c₀.ctl.attempts [] c⌝)
  all_goals simp_all +zetaDelta [RetryStep, Effect.armedRetry?, Controller.noteClosed,
    since_append, prefix_append_of]

@[simp] theorem armedRetries_newSessionCalls (id name : String) (audio : Bool)
    (c : Call (σ × List Effect)) : armedRetries (newSessionCalls L id name audio c) = [] :=
  (Triple.run_of (newSession_retries L c id name audio) rfl).2.1

@[simp] theorem newSession_attempts (id name : String) (audio : Bool) (c : Call (σ × List Effect)) :
    (StateT.run (newSession L.journaled id name audio) c).2.ctl.attempts = c.ctl.attempts :=
  (Triple.run_of (newSession_retries L c id name audio) rfl).2.2.2

variable (c₀ : Call (σ × List Effect))

theorem handleJoin_retries (m : Join) :
    ⦃fun c => ⌜c = c₀⌝⦄ handleJoin L.journaled m ⦃⇓ _ c => ⌜RetryStep c₀ c₀.ctl.attempts [] c⌝⦄ := by
  mvcgen [handleJoin, abortNegotiation, discardSession, closeSession, ctl, modifyCtl, ask, request,
    present, tell, sendDescription, send, setSessionState, newSession_of_run]
  all_goals simp_all +zetaDelta [RetryStep, Effect.armedRetry?, Controller.noteClosed,
    newSession_apply]

theorem handleOffer_retries (d : Description) :
    ⦃fun c => ⌜c = c₀⌝⦄ handleOffer L.journaled d ⦃⇓ _ c => ⌜RetryStep c₀ c₀.ctl.attempts [] c⌝⦄ := by
  mvcgen [handleOffer, abortNegotiation, discardSession, closeSession, ctl, modifyCtl, ask, request,
    present, tell, sendDescription, send, setSessionState, newSession_of_run]
  all_goals simp_all +zetaDelta [RetryStep, Effect.armedRetry?, Controller.noteClosed,
    newSession_apply]

theorem handleAnswer_retries (d : Description) :
    ⦃fun c => ⌜c = c₀⌝⦄ handleAnswer L.journaled d ⦃⇓ _ c => ⌜RetryStep c₀ c₀.ctl.attempts [] c⌝⦄ := by
  mvcgen [handleAnswer, ctl, modifyCtl, ask, request, present, tell]
  all_goals simp_all +zetaDelta [RetryStep, Effect.armedRetry?]

theorem handleCandidate_retries (m : CandidateNote) :
    ⦃fun c => ⌜c = c₀⌝⦄ handleCandidate L.journaled m ⦃⇓ _ c => ⌜RetryStep c₀ c₀.ctl.attempts [] c⌝⦄ := by
  mvcgen [handleCandidate, ctl, ask, request]
  all_goals simp_all +zetaDelta [RetryStep, Effect.armedRetry?]

theorem handleAudioToggle_retries (m : AudioToggle) :
    ⦃fun c => ⌜c = c₀⌝⦄ handleAudioToggle L.journaled m
    ⦃⇓ _ c => ⌜RetryStep c₀ c₀.ctl.attempts [] c⌝⦄ := by
  mvcgen [handleAudioToggle, ctl, modifyCtl, present, tell]
  all_goals simp_all +zetaDelta [RetryStep, Effect.armedRetry?]
  all_goals split <;> simp_all [apply_ite]

/-- A user-left of another participant forgets its retries in a row. -/
theorem handleUserLeft_retries (m : UserLeft) :
    ⦃fun c => ⌜c = c₀⌝⦄ handleUserLeft L.journaled m
    ⦃⇓ _ c => ⌜RetryStep c₀ (if m.id = c₀.ctl.cfg.self.id then c₀.ctl.attempts
      else Assoc.erase c₀.ctl.attempts m.id) [] c⌝⦄ := by
  mvcgen [handleUserLeft, cancelRetry, discardSession, closeSession, ctl, modifyCtl, request, ask,
    present, tell]
  all_goals simp_all +zetaDelta [RetryStep, Effect.armedRetry?, Controller.noteClosed]

theorem handleMessage_retries (m : Envelope) :
    ⦃fun c => ⌜c = c₀ ∧ c₀.ctl.ended = false⌝⦄ handleMessage L.journaled m
    ⦃⇓ _ c => ⌜RetryStep c₀ (c₀.ctl.attemptsAfter (.event (.message m))) [] c⌝⦄ := by
  cases m <;> mvcgen [handleMessage, ctl, handleJoin_retries, handleOffer_retries,
    handleAnswer_retries, handleCandidate_retries, handleAudioToggle_retries, handleUserLeft_retries]
  all_goals simp_all +zetaDelta [RetryStep, Controller.attemptsAfter, Controller.accepts,
    Envelope.sender, Envelope.recipient]

/-- A relay connection drops every session and forgets every retry in a row. -/
theorem handleRelayUp_retries :
    ⦃fun c => ⌜c = c₀⌝⦄ handleRelayUp L.journaled ⦃⇓ _ c => ⌜RetryStep c₀ [] [] c⌝⦄ := by
  mvcgen [handleRelayUp, closeSession, cancelRetry, sendJoin, send, persist, ctl, modifyCtl, ask,
    request, present, tell]
    invariants
    | inv1 => ⇓ _ c => ⌜RetryStep c₀ c₀.ctl.attempts [] c⌝
  all_goals simp_all +zetaDelta [RetryStep, Effect.armedRetry?, Controller.noteClosed,
    since_append, prefix_append_of]

/-- A connected report of a current session resets its retries in a row; a failure report of one
arms its retry unless the bound is reached. -/
theorem handlePeerState_retries (id : String) (gen : Nat) (state : ConnectionState) :
    ⦃fun c => ⌜c = c₀ ∧ c₀.ctl.ended = false⌝⦄ handlePeerState L.journaled id gen state
    ⦃⇓ _ c => ⌜RetryStep c₀ (c₀.ctl.attemptsAfter (.event (.peerState id gen state)))
      (c₀.ctl.armsRetry (.event (.peerState id gen state))).toList c⌝⦄ := by
  cases state <;> mvcgen [handlePeerState, lookup, scheduleRetry, cancelRetry, setSessionState, ctl,
    modifyCtl, ask, present, tell]
  all_goals simp_all +zetaDelta [RetryStep, Effect.armedRetry?, Controller.attemptsAfter,
    Controller.armsRetry, Controller.retriesExhausted, Controller.retriesInRow, Session.setState,
    apply_ite, -Registry.lookup_eq_some, ← Option.eq_none_iff_forall_ne_some]
  -- what is left: a retry was armed, so the bound was not reached
  all_goals grind

/-- A retry rebuilds the session it finds failed with its generation, counting one more retry in
a row: the session is closed and leaves the registry. Any other retry only drops its timer. -/
theorem handleRetry_retries (id : String) (gen : Nat) :
    ⦃fun c => ⌜c = c₀ ∧ c₀.ctl.ended = false⌝⦄ handleRetry L.journaled id gen
    ⦃⇓ _ c => ⌜RetryStep c₀ (c₀.ctl.attemptsAfter (.event (.retry id gen))) [] c ∧
      ∀ s, c₀.ctl.retryTarget (.event (.retry id gen)) = some s →
        (s.closeDone = false → s.key ∈ closings (since c₀.world.2 c.world.2)) ∧
          c.ctl.registry.get? s.id = none⌝⦄ := by
  -- the retry that fired is dropped first, which touches only the retries table
  cases hr : Assoc.get? c₀.ctl.retries id
  all_goals mvcgen [handleRetry, lookup, sendJoin, send, discardSession, closeSession, ctl,
    modifyCtl, ask, request]
  all_goals simp_all +zetaDelta [RetryStep, Effect.armedRetry?, Effect.closing?,
    Controller.attemptsAfter, Controller.retryTarget, Controller.retriesInRow,
    Controller.noteClosed, Session.close, Session.key, apply_ite, -Registry.lookup_eq_some,
    ← Option.eq_none_iff_forall_ne_some]
  -- what is left: the rebuilt session, taken out, leaves its id without one
  all_goals exact Registry.get?_remove_of_lookup ‹_›

theorem handleLocalCandidate_retries (id : String) (gen : Nat) (cand : IceCandidate) :
    ⦃fun c => ⌜c = c₀⌝⦄ handleLocalCandidate L.journaled id gen cand
    ⦃⇓ _ c => ⌜RetryStep c₀ c₀.ctl.attempts [] c⌝⦄ := by
  mvcgen [handleLocalCandidate, lookup, send, ctl, ask]
  all_goals simp_all +zetaDelta [RetryStep, Effect.armedRetry?]

theorem handleSpeaking_retries (id : String) (gen : Nat) (speaking : Bool) :
    ⦃fun c => ⌜c = c₀⌝⦄ handleSpeaking L.journaled id gen speaking
    ⦃⇓ _ c => ⌜RetryStep c₀ c₀.ctl.attempts [] c⌝⦄ := by
  mvcgen [handleSpeaking, lookup, ctl, present, tell]
  all_goals simp_all +zetaDelta [RetryStep, Effect.armedRetry?]

theorem setActiveStream_retries (stream : Nat) :
    ⦃fun c => ⌜c = c₀⌝⦄ setActiveStream L.journaled stream
    ⦃⇓ _ c => ⌜RetryStep c₀ c₀.ctl.attempts [] c⌝⦄ := by
  mvcgen [setActiveStream, ctl, modifyCtl, request, ask, present, tell]
    invariants
    | inv1 => ⇓ _ c => ⌜RetryStep c₀ c₀.ctl.attempts [] c⌝
    | inv2 => ⇓ _ c => ⌜RetryStep c₀ c₀.ctl.attempts [] c⌝
  all_goals simp_all +zetaDelta [RetryStep, Effect.armedRetry?, since_append, prefix_append_of]

theorem shutdown_retries (forget : Bool) :
    ⦃fun c => ⌜c = c₀⌝⦄ shutdown L.journaled forget
    ⦃⇓ _ c => ⌜RetryStep c₀ c₀.ctl.attempts [] c⌝⦄ := by
  mvcgen [shutdown, closeSession, cancelRetry, ctl, modifyCtl, request, ask, present, tell]
    invariants
    | inv1 => ⇓ _ c => ⌜RetryStep c₀ c₀.ctl.attempts [] c⌝
    | inv2 => ⇓ _ c => ⌜RetryStep c₀ c₀.ctl.attempts [] c⌝
  all_goals simp_all +zetaDelta [RetryStep, Effect.armedRetry?, Controller.noteClosed,
    since_append, prefix_append_of]

theorem handleScreenEnded_retries (stream : Nat) :
    ⦃fun c => ⌜c = c₀⌝⦄ handleScreenEnded L.journaled stream
    ⦃⇓ _ c => ⌜RetryStep c₀ c₀.ctl.attempts [] c⌝⦄ := by
  mvcgen [handleScreenEnded, ctl, setActiveStream_retries]
  all_goals simp_all [RetryStep]

theorem handleEvent_retries (e : Event) :
    ⦃fun c => ⌜c = c₀ ∧ c₀.ctl.ended = false⌝⦄ handleEvent L.journaled e
    ⦃⇓ _ c => ⌜RetryStep c₀ (c₀.ctl.attemptsAfter (.event e)) (c₀.ctl.armsRetry (.event e)).toList c ∧
      ∀ s, c₀.ctl.retryTarget (.event e) = some s →
        (s.closeDone = false → s.key ∈ closings (since c₀.world.2 c.world.2)) ∧
          c.ctl.registry.get? s.id = none⌝⦄ := by
  cases e <;> mvcgen [handleEvent, lookup, ctl, modifyCtl, handleMessage_retries,
    handleRelayUp_retries, handlePeerState_retries, handleLocalCandidate_retries,
    handleRetry_retries, handleSpeaking_retries, handleScreenEnded_retries]
  all_goals simp_all +zetaDelta [RetryStep, Controller.attemptsAfter, Controller.armsRetry,
    Controller.retryTarget]

/-- No command touches the retries. -/
theorem runCommand_retries (cmd : Command) :
    ⦃fun c => ⌜c = c₀⌝⦄ runCommand L.journaled cmd ⦃⇓ _ c => ⌜RetryStep c₀ c₀.ctl.attempts [] c⌝⦄ := by
  cases cmd <;> mvcgen [runCommand, toggleMute, toggleCamera, shareScreen, endCall, persist, send,
    ctl, modifyCtl, ask, present, tell, setActiveStream_retries, shutdown_retries]
  all_goals simp_all +zetaDelta [RetryStep, Effect.armedRetry?]

/-- What handling one input does to the retries: the journal grows, the retries in a row become
`attemptsAfter`, the retries armed are `armsRetry`, and a rebuilt session is closed and leaves
the registry. -/
theorem dispatch_retries (i : Input) :
    ⦃fun c => ⌜c = c₀⌝⦄ dispatch L.journaled i
    ⦃⇓ _ c => ⌜RetryStep c₀ (c₀.ctl.attemptsAfter i) (c₀.ctl.armsRetry i).toList c ∧
      ∀ s, c₀.ctl.retryTarget i = some s →
        (s.closeDone = false → s.key ∈ closings (since c₀.world.2 c.world.2)) ∧
          c.ctl.registry.get? s.id = none⌝⦄ := by
  cases i <;> mvcgen [dispatch, ctl, handleEvent_retries, runCommand_retries, shutdown_retries]
  all_goals simp_all [RetryStep, Controller.attemptsAfter, Controller.armsRetry,
    Controller.retryTarget]

/-- A retry that finds nothing to rebuild leaves the registry alone. -/
theorem dispatch_idle_retry (id : String) (gen : Nat) :
    ⦃fun c => ⌜c = c₀ ∧ c₀.ctl.retryTarget (.event (.retry id gen)) = none⌝⦄
    dispatch L.journaled (.event (.retry id gen))
    ⦃⇓ _ c => ⌜c.ctl.registry = c₀.ctl.registry⌝⦄ := by
  cases hr : Assoc.get? c₀.ctl.retries id
  all_goals mvcgen [dispatch, handleEvent, handleRetry, lookup, ctl, modifyCtl]
  all_goals simp_all +zetaDelta [Controller.retryTarget, apply_ite, -Registry.lookup_eq_some,
    ← Option.eq_none_iff_forall_ne_some]

end

end MeshCall
