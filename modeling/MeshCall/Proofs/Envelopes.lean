import Mathlib
import MeshCall.Proofs.Tracks
import MeshCall.Proofs.Pair.System
/-!
# The envelopes each input sends

What the local participant says to the room is fixed by the input it handles, the state it
handles it in and how the calls on its connections went. A join from another participant is
answered with an offer, and an offer with an answer, exactly when no call setting the new
connection up failed (making the connection, adding a track, making or setting a description)
and the sender's session does not stand in the way: a healthy session for a join, a glare the
local offer wins for an offer. The description sent is the one set as local, from the local
participant to the sender, under the local name and microphone state. A relay connection and a
retry of a failed session announce the participant again, a candidate of a current session is
trickled to its peer, and muting tells the room the new microphone state. Nothing else sends an
envelope. The envelopes of the local participant and those addressed to someone else are
dropped; an envelope addressed to no one is for everyone.
-/

namespace MeshCall

open Std.Do

set_option mvcgen.warning false

variable {σ : Type}

/-! ## The journaled links, call by call -/

section

variable (L : Links σ)

@[simp] theorem Links.journaled_send (m : Envelope) (w : σ × List Effect) :
    L.journaled.send m w =
      ((L.send m w.1).1, (L.send m w.1).2, w.2 ++ [.send m (L.send m w.1).1.isSome]) := rfl

@[simp] theorem Links.journaled_closeRelay (w : σ × List Effect) :
    L.journaled.closeRelay w = (L.closeRelay w.1, w.2 ++ [.closeRelay]) := rfl

@[simp] theorem Links.journaled_newConn (id : String) (gen : Nat) (w : σ × List Effect) :
    L.journaled.newConn id gen w = ((L.newConn id gen w.1).1, (L.newConn id gen w.1).2,
      w.2 ++ [.newConn id gen (L.newConn id gen w.1).1.isSome]) := rfl

@[simp] theorem Links.journaled_request (id : String) (gen : Nat) (r : ConnRequest)
    (w : σ × List Effect) :
    L.journaled.request id gen r w = ((L.request id gen r w.1).1, (L.request id gen r w.1).2,
      w.2 ++ [.request id gen r (L.request id gen r w.1).1.isSome]) := rfl

@[simp] theorem Links.journaled_describe (id : String) (gen : Nat) (t : SdpType)
    (w : σ × List Effect) :
    L.journaled.describe id gen t w = ((L.describe id gen t w.1).1, (L.describe id gen t w.1).2,
      w.2 ++ [.describe id gen t !(L.describe id gen t w.1).1.toBool]) := rfl

@[simp] theorem Links.journaled_save (s : SavedCall) (w : σ × List Effect) :
    L.journaled.save s w =
      ((L.save s w.1).1, (L.save s w.1).2, w.2 ++ [.save s (L.save s w.1).1.isSome]) := rfl

@[simp] theorem Links.journaled_clear (w : σ × List Effect) :
    L.journaled.clear w =
      ((L.clear w.1).1, (L.clear w.1).2, w.2 ++ [.clear (L.clear w.1).1.isSome]) := rfl

@[simp] theorem Links.journaled_arm (d : Int) (e : Event) (w : σ × List Effect) :
    L.journaled.arm d e w =
      ((L.arm d e w.1).1, (L.arm d e w.1).2, w.2 ++ [.arm d e (L.arm d e w.1).1]) := rfl

@[simp] theorem Links.journaled_disarm (t : Nat) (w : σ × List Effect) :
    L.journaled.disarm t w = (L.disarm t w.1, w.2 ++ [.disarm t]) := rfl

@[simp] theorem Links.journaled_present (v : ViewCall) (w : σ × List Effect) :
    L.journaled.present v w = (L.present v w.1, w.2 ++ [.present v]) := rfl

end

/-! ## What the calls of a step did -/

/-- A call that sets a connection up for a negotiation and failed: making the connection,
adding a track, making a description or setting one. -/
def Effect.setupFailed : Effect → Bool
  | .newConn _ _ failed => failed
  | .request _ _ (.addTrack _) failed => failed
  | .request _ _ (.setLocal _) failed => failed
  | .request _ _ (.setRemote _) failed => failed
  | .describe _ _ _ failed => failed
  | _ => false

/-- The description a call set as local, if it succeeded. -/
def Effect.localSet? : Effect → Option SessionDescription
  | .request _ _ (.setLocal d) false => some d
  | _ => none

/-- The calls that failed to set a connection up, in order. -/
def setupFailures (t : List Effect) : List Effect := t.filter Effect.setupFailed

/-- The descriptions set as local, in order. -/
def localSets (t : List Effect) : List SessionDescription := t.filterMap Effect.localSet?

/-- The text of the description last set as local. -/
def localSdp (t : List Effect) : String := ((localSets t).getLast?.map (·.sdp)).getD ""

@[simp] theorem setupFailures_append (t u : List Effect) :
    setupFailures (t ++ u) = setupFailures t ++ setupFailures u := by
  simp [setupFailures]

@[simp] theorem localSets_append (t u : List Effect) :
    localSets (t ++ u) = localSets t ++ localSets u := by
  simp [localSets]

@[simp] theorem setupFailures_cons (e : Effect) (t : List Effect) :
    setupFailures (e :: t) = (if e.setupFailed then [e] else []) ++ setupFailures t := by
  cases h : e.setupFailed <;> simp [setupFailures, h]

@[simp] theorem localSets_cons (e : Effect) (t : List Effect) :
    localSets (e :: t) = e.localSet?.toList ++ localSets t := by
  cases h : e.localSet? <;> simp [localSets, h]

@[simp] theorem setupFailures_nil : setupFailures [] = [] := rfl

@[simp] theorem localSets_nil : localSets [] = [] := rfl

/-- The calls made since the journal was `J`. -/
def since (J t : List Effect) : List Effect := t.drop J.length

@[simp] theorem since_self (J : List Effect) : since J J = [] := by
  simp [since]

@[simp] theorem since_append_self (J u : List Effect) : since J (J ++ u) = u := by
  simp [since]

theorem since_append {J t : List Effect} (h : J <+: t) (u : List Effect) :
    since J (t ++ u) = since J t ++ u := by
  obtain ⟨v, rfl⟩ := h
  simp

theorem prefix_append_of {J t : List Effect} (h : J <+: t) (u : List Effect) : J <+: t ++ u :=
  h.trans (List.prefix_append t u)

/-- From `c₀` to `c` the journal only grew, and the envelopes the calls made meanwhile sent are
`out` of those calls. -/
def Sent (c₀ c : Call (σ × List Effect)) (out : List Effect → List Envelope) : Prop :=
  c₀.world.2 <+: c.world.2 ∧ sent (since c₀.world.2 c.world.2) = out (since c₀.world.2 c.world.2)

/-! ## What the local participant says -/

/-- Links whose connections make descriptions of the type asked for. -/
def Links.Typed (L : Links σ) : Prop :=
  ∀ id gen t w d, (L.describe id gen t w).1 = .ok d → d.type = t

/-- Connections that never fail name their descriptions, of the type asked for. -/
theorem Pair.links_typed : Pair.links.Typed := by
  intro id gen t w d h
  simp only [Pair.links_describe, Except.ok.injEq] at h
  rw [← h]
  rfl

namespace Controller

variable (c : Controller)

/-- A description from the local participant to `peer`. -/
def describedTo (type sdp peer : String) : Envelope :=
  .description ⟨type, sdp, c.cfg.self.id, peer, c.cfg.self.name, c.media.audioEnabled⟩

/-- The local participant announcing itself. -/
def joinNote : Envelope := .join ⟨c.cfg.self.id, c.cfg.self.name, c.media.audioEnabled⟩

/-- Whether `id` has a session that can still connect without being rebuilt. -/
def healthyFor (id : String) : Bool := (c.registry.get? id).any (·.state.healthy)

/-- Whether an offer loses the glare: its sender's session waits for an answer to the local
offer, and the local id is the larger. -/
def losesGlare (d : Description) : Bool :=
  (c.registry.get? d.sender).any fun s =>
    s.state == .offerSent && decide (d.sender < c.cfg.self.id)

/-- Whether an envelope reaches the handlers: it is not the local participant's own, and it is
addressed to no one or to the local participant. -/
def accepts (m : Envelope) : Bool :=
  m.sender != c.cfg.self.id && (m.recipient == "" || m.recipient == c.cfg.self.id)

/-- What a join is answered with, given the calls its handling made. -/
def joinAnswer (j : Join) (more : List Effect) : List Envelope :=
  if c.healthyFor j.sender || !(setupFailures more).isEmpty then []
  else [c.describedTo "offer" (localSdp more) j.sender]

/-- What an offer is answered with, given the calls its handling made. -/
def offerAnswer (d : Description) (more : List Effect) : List Envelope :=
  if c.losesGlare d || !(setupFailures more).isEmpty then []
  else [c.describedTo "answer" (localSdp more) d.sender]

/-- What an envelope from the relay is answered with, given the calls its handling made. -/
def messageAnswer (m : Envelope) (more : List Effect) : List Envelope :=
  if !c.accepts m then [] else
  match m with
  | .join j => c.joinAnswer j more
  | .description d => if d.type = "offer" then c.offerAnswer d more else []
  | _ => []

/-- What the local participant sends to the room on handling `i`, given the calls the handling
made. -/
def announced (i : Input) (more : List Effect) : List Envelope :=
  match i with
  | .event (.message m) => c.messageAnswer m more
  | .event (.relayUp _) => [c.joinNote]
  | .event (.retry id gen) =>
    if (c.registry.lookup id gen).any (·.state == .failed) then [c.joinNote] else []
  | .event (.localCandidate id gen cand) =>
    if (c.registry.lookup id gen).isSome then [.candidate ⟨cand, c.cfg.self.id, id⟩] else []
  | .command .toggleMute =>
    match c.media.toggleAudio with
    | .ok (_, enabled) => [.audioToggle ⟨c.cfg.self.id, enabled⟩]
    | .error _ => []
  | _ => []

end Controller

/-! ## Making a session sends nothing -/

section

variable (L : Links σ)

theorem newSession_calls (c₀ : Call (σ × List Effect)) (id name : String) (audio : Bool) :
    ⦃fun c => ⌜c = c₀⌝⦄ newSession L.journaled id name audio
    ⦃⇓ r c => ⌜c.ctl.cfg = c₀.ctl.cfg ∧ c.ctl.media = c₀.ctl.media ∧
      Sent c₀ c (fun _ => []) ∧ localSets (since c₀.world.2 c.world.2) = [] ∧
      (r.isSome ↔ setupFailures (since c₀.world.2 c.world.2) = [])⌝⦄ := by
  mvcgen [newSession, closeSession, ctl, modifyCtl, ask, request, present, tell]
    invariants
    | inv1 =>
      Invariant.withEarlyReturnNewDo
        (fun _ _ c => ⌜c.ctl.cfg = c₀.ctl.cfg ∧ c.ctl.media = c₀.ctl.media ∧
          Sent c₀ c (fun _ => []) ∧ localSets (since c₀.world.2 c.world.2) = [] ∧
          setupFailures (since c₀.world.2 c.world.2) = []⌝)
        (fun r _ c => ⌜r = none ∧ c.ctl.cfg = c₀.ctl.cfg ∧ c.ctl.media = c₀.ctl.media ∧
          Sent c₀ c (fun _ => []) ∧ localSets (since c₀.world.2 c.world.2) = [] ∧
          setupFailures (since c₀.world.2 c.world.2) ≠ []⌝)
  all_goals simp_all +zetaDelta [Sent, Effect.setupFailed, Effect.localSet?, Effect.sent?,
    Controller.noteClosed, since_append, prefix_append_of]

theorem newSession_run_calls (id name : String) (audio : Bool) (c : Call (σ × List Effect)) :
    (StateT.run (newSession L.journaled id name audio) c).2.ctl.cfg = c.ctl.cfg ∧
    (StateT.run (newSession L.journaled id name audio) c).2.ctl.media = c.ctl.media ∧
    Sent c (StateT.run (newSession L.journaled id name audio) c).2 (fun _ => []) ∧
    localSets (since c.world.2 (StateT.run (newSession L.journaled id name audio) c).2.world.2) = [] ∧
    ((StateT.run (newSession L.journaled id name audio) c).1.isSome ↔
      setupFailures
        (since c.world.2 (StateT.run (newSession L.journaled id name audio) c).2.world.2) = []) :=
  StateM.of_wp_run_eq rfl (fun r : Option Session × Call (σ × List Effect) =>
      r.2.ctl.cfg = c.ctl.cfg ∧ r.2.ctl.media = c.ctl.media ∧ Sent c r.2 (fun _ => []) ∧
      localSets (since c.world.2 r.2.world.2) = [] ∧
      (r.1.isSome ↔ setupFailures (since c.world.2 r.2.world.2) = []))
    (by simpa using newSession_calls L c id name audio c rfl)

/-- The calls `newSession` makes from `c`. -/
def newSessionCalls (id name : String) (audio : Bool) (c : Call (σ × List Effect)) :
    List Effect :=
  since c.world.2 (StateT.run (newSession L.journaled id name audio) c).2.world.2

-- The handlers' verification conditions show a run both applied and through `StateT.run`.
theorem newSession_apply (id name : String) (audio : Bool) (c : Call (σ × List Effect)) :
    newSession L.journaled id name audio c = StateT.run (newSession L.journaled id name audio) c :=
  rfl

@[simp] theorem newSession_world (id name : String) (audio : Bool) (c : Call (σ × List Effect)) :
    (StateT.run (newSession L.journaled id name audio) c).2.world.2 =
      c.world.2 ++ newSessionCalls L id name audio c := by
  obtain ⟨v, hv⟩ := (newSession_run_calls L id name audio c).2.2.1.1
  simp [newSessionCalls, ← hv]

@[simp] theorem newSession_cfg (id name : String) (audio : Bool) (c : Call (σ × List Effect)) :
    (StateT.run (newSession L.journaled id name audio) c).2.ctl.cfg = c.ctl.cfg :=
  (newSession_run_calls L id name audio c).1

@[simp] theorem newSession_media (id name : String) (audio : Bool) (c : Call (σ × List Effect)) :
    (StateT.run (newSession L.journaled id name audio) c).2.ctl.media = c.ctl.media :=
  (newSession_run_calls L id name audio c).2.1

@[simp] theorem sent_newSessionCalls (id name : String) (audio : Bool)
    (c : Call (σ × List Effect)) : sent (newSessionCalls L id name audio c) = [] :=
  (newSession_run_calls L id name audio c).2.2.1.2

@[simp] theorem localSets_newSessionCalls (id name : String) (audio : Bool)
    (c : Call (σ × List Effect)) : localSets (newSessionCalls L id name audio c) = [] :=
  (newSession_run_calls L id name audio c).2.2.2.1

/-- A session is made exactly when no call setting its connection up failed. -/
theorem newSession_of_failures (id name : String) (audio : Bool) (c : Call (σ × List Effect)) :
    setupFailures (newSessionCalls L id name audio c) = [] ↔
      (StateT.run (newSession L.journaled id name audio) c).1.isSome :=
  (newSession_run_calls L id name audio c).2.2.2.2.symm

/-- The spec that lets symbolic execution go on past a new session, for the lemmas above to
read its run. -/
theorem newSession_of_run (id name : String) (audio : Bool)
    {Q : PostCond (Option Session) (.arg (Call (σ × List Effect)) .pure)} :
    ⦃spred(fun c => Q.1 ((newSession L.journaled id name audio).run c).1
      ((newSession L.journaled id name audio).run c).2)⦄
    newSession L.journaled id name audio ⦃Q⦄ :=
  Triple.of_run _

end

/-! ## What sends nothing -/

section

variable (L : Links σ) (c₀ : Call (σ × List Effect))

/-- Switching the active stream only asks connections to replace tracks. -/
theorem setActiveStream_quiet (stream : Nat) :
    ⦃fun c => ⌜Sent c₀ c (fun _ => [])⌝⦄ setActiveStream L.journaled stream
    ⦃⇓ _ c => ⌜Sent c₀ c (fun _ => [])⌝⦄ := by
  mvcgen [setActiveStream, ctl, modifyCtl, request, ask, present, tell]
    invariants
    | inv1 => ⇓ _ c => ⌜Sent c₀ c (fun _ => [])⌝
    | inv2 => ⇓ _ c => ⌜Sent c₀ c (fun _ => [])⌝
  all_goals simp_all +zetaDelta [Sent, Effect.sent?, since_append, prefix_append_of]

/-- Tearing the call down closes connections and the relay, and sends nothing. -/
theorem shutdown_quiet (forget : Bool) :
    ⦃fun c => ⌜Sent c₀ c (fun _ => [])⌝⦄ shutdown L.journaled forget
    ⦃⇓ _ c => ⌜Sent c₀ c (fun _ => [])⌝⦄ := by
  mvcgen [shutdown, closeSession, cancelRetry, ctl, modifyCtl, request, ask, present, tell]
    invariants
    | inv1 => ⇓ _ c => ⌜Sent c₀ c (fun _ => [])⌝
    | inv2 => ⇓ _ c => ⌜Sent c₀ c (fun _ => [])⌝
  all_goals simp_all +zetaDelta [Sent, Effect.sent?, since_append, prefix_append_of]

theorem handleAnswer_quiet (d : Description) :
    ⦃fun c => ⌜c = c₀⌝⦄ handleAnswer L.journaled d ⦃⇓ _ c => ⌜Sent c₀ c (fun _ => [])⌝⦄ := by
  mvcgen [handleAnswer, ctl, modifyCtl, ask, request, present, tell]
  all_goals simp_all +zetaDelta [Sent, Effect.sent?]

theorem handleCandidate_quiet (m : CandidateNote) :
    ⦃fun c => ⌜c = c₀⌝⦄ handleCandidate L.journaled m ⦃⇓ _ c => ⌜Sent c₀ c (fun _ => [])⌝⦄ := by
  mvcgen [handleCandidate, ctl, ask, request]
  all_goals simp_all +zetaDelta [Sent, Effect.sent?]

theorem handleAudioToggle_quiet (m : AudioToggle) :
    ⦃fun c => ⌜c = c₀⌝⦄ handleAudioToggle L.journaled m ⦃⇓ _ c => ⌜Sent c₀ c (fun _ => [])⌝⦄ := by
  mvcgen [handleAudioToggle, ctl, modifyCtl, present, tell]
  all_goals simp_all +zetaDelta [Sent, Effect.sent?]

theorem handleUserLeft_quiet (m : UserLeft) :
    ⦃fun c => ⌜c = c₀⌝⦄ handleUserLeft L.journaled m ⦃⇓ _ c => ⌜Sent c₀ c (fun _ => [])⌝⦄ := by
  mvcgen [handleUserLeft, cancelRetry, discardSession, closeSession, ctl, modifyCtl, request, ask,
    present, tell]
  all_goals simp_all +zetaDelta [Sent, Effect.sent?]

theorem handlePeerState_quiet (id : String) (gen : Nat) (state : ConnectionState) :
    ⦃fun c => ⌜c = c₀⌝⦄ handlePeerState L.journaled id gen state
    ⦃⇓ _ c => ⌜Sent c₀ c (fun _ => [])⌝⦄ := by
  mvcgen [handlePeerState, lookup, scheduleRetry, cancelRetry, setSessionState, ctl, modifyCtl, ask,
    present, tell]
  all_goals simp_all +zetaDelta [Sent, Effect.sent?]

theorem handleSpeaking_quiet (id : String) (gen : Nat) (speaking : Bool) :
    ⦃fun c => ⌜c = c₀⌝⦄ handleSpeaking L.journaled id gen speaking
    ⦃⇓ _ c => ⌜Sent c₀ c (fun _ => [])⌝⦄ := by
  mvcgen [handleSpeaking, lookup, ctl, present, tell]
  all_goals simp_all +zetaDelta [Sent, Effect.sent?]

theorem handleScreenEnded_quiet (stream : Nat) :
    ⦃fun c => ⌜c = c₀⌝⦄ handleScreenEnded L.journaled stream ⦃⇓ _ c => ⌜Sent c₀ c (fun _ => [])⌝⦄ := by
  mvcgen [handleScreenEnded, ctl, setActiveStream_quiet]
  all_goals simp_all [Sent]

end

/-! ## Each handler -/

section

variable {L : Links σ} (hL : L.Typed) (c₀ : Call (σ × List Effect))
include hL

theorem handleJoin_sends (j : Join) :
    ⦃fun c => ⌜c = c₀⌝⦄ handleJoin L.journaled j ⦃⇓ _ c => ⌜Sent c₀ c (c₀.ctl.joinAnswer j)⌝⦄ := by
  mvcgen [handleJoin, abortNegotiation, discardSession, closeSession, ctl, modifyCtl, ask, request,
    present, tell, sendDescription, send, setSessionState, newSession_of_run]
  all_goals simp_all +zetaDelta [Sent, Except.toBool, Effect.setupFailed, Effect.localSet?,
    Effect.sent?, Controller.noteClosed, Controller.joinAnswer, Controller.healthyFor,
    Controller.describedTo, localSdp, newSession_of_failures, newSession_apply,
    ← Option.eq_none_iff_forall_ne_some]
  -- what is left: the offer made is typed, so it can be written to the wire
  all_goals
    have := hL _ _ _ _ _ ‹(L.describe _ _ _ _).1 = .ok _›
    simp_all [Description.ofSession]

theorem handleOffer_sends (d : Description) :
    ⦃fun c => ⌜c = c₀ ∧ d.type = "offer"⌝⦄ handleOffer L.journaled d
    ⦃⇓ _ c => ⌜Sent c₀ c (c₀.ctl.offerAnswer d)⌝⦄ := by
  mvcgen [handleOffer, abortNegotiation, discardSession, closeSession, ctl, modifyCtl, ask, request,
    present, tell, sendDescription, send, setSessionState, newSession_of_run]
  all_goals simp_all +zetaDelta [Sent, Except.toBool, Effect.setupFailed, Effect.localSet?,
    Effect.sent?, Controller.noteClosed, Controller.offerAnswer, Controller.losesGlare,
    Controller.describedTo, localSdp, newSession_of_failures, newSession_apply,
    Description.toSession, ← Option.eq_none_iff_forall_ne_some]
  -- what is left: the answer made is typed, so it can be written to the wire
  all_goals
    have := hL _ _ _ _ _ ‹(L.describe _ _ _ _).1 = .ok _›
    simp_all [Description.ofSession]

theorem handleMessage_sends (m : Envelope) :
    ⦃fun c => ⌜c = c₀⌝⦄ handleMessage L.journaled m
    ⦃⇓ _ c => ⌜Sent c₀ c (c₀.ctl.messageAnswer m)⌝⦄ := by
  mvcgen [handleMessage, ctl, handleJoin_sends, handleOffer_sends, handleAnswer_quiet,
    handleCandidate_quiet, handleAudioToggle_quiet, handleUserLeft_quiet]
  all_goals simp_all +zetaDelta [Sent, Controller.messageAnswer, Controller.accepts]

end

section

variable (L : Links σ) (c₀ : Call (σ × List Effect))

/-- A relay connection drops every session and announces the local participant once. -/
theorem handleRelayUp_sends :
    ⦃fun c => ⌜c = c₀⌝⦄ handleRelayUp L.journaled ⦃⇓ _ c => ⌜Sent c₀ c (fun _ => [c₀.ctl.joinNote])⌝⦄ := by
  mvcgen [handleRelayUp, closeSession, cancelRetry, sendJoin, send, persist, ctl, modifyCtl, ask,
    request, present, tell]
    invariants
    | inv1 => ⇓ _ c => ⌜c.ctl.cfg = c₀.ctl.cfg ∧ c.ctl.media = c₀.ctl.media ∧
        Sent c₀ c (fun _ => [])⌝
  all_goals simp_all +zetaDelta [Sent, Effect.sent?, since_append, prefix_append_of,
    Controller.joinNote, Controller.noteClosed]

theorem handleRetry_sends (id : String) (gen : Nat) :
    ⦃fun c => ⌜c = c₀⌝⦄ handleRetry L.journaled id gen
    ⦃⇓ _ c => ⌜Sent c₀ c (fun _ => c₀.ctl.announced (.event (.retry id gen)) [])⌝⦄ := by
  -- the retry that fired is dropped first, which touches only the retries table
  cases hr : Assoc.get? c₀.ctl.retries id
  all_goals mvcgen [handleRetry, lookup, sendJoin, send, discardSession, closeSession, ctl,
    modifyCtl, ask, request]
  all_goals simp_all +zetaDelta [Sent, Effect.sent?, Controller.announced, Controller.joinNote,
    Controller.noteClosed, apply_ite, -Registry.lookup_eq_some,
    ← Option.eq_none_iff_forall_ne_some]

theorem handleLocalCandidate_sends (id : String) (gen : Nat) (cand : IceCandidate) :
    ⦃fun c => ⌜c = c₀⌝⦄ handleLocalCandidate L.journaled id gen cand
    ⦃⇓ _ c => ⌜Sent c₀ c (fun _ => c₀.ctl.announced (.event (.localCandidate id gen cand)) [])⌝⦄ := by
  mvcgen [handleLocalCandidate, lookup, send, ctl, ask]
  all_goals simp_all +zetaDelta [Sent, Effect.sent?, Controller.announced,
    -Registry.lookup_eq_some, ← Option.eq_none_iff_forall_ne_some]

/-- A command sends only the audio toggle of a successful mute switch. -/
theorem runCommand_sends (cmd : Command) :
    ⦃fun c => ⌜c = c₀⌝⦄ runCommand L.journaled cmd
    ⦃⇓ _ c => ⌜Sent c₀ c (c₀.ctl.announced (.command cmd))⌝⦄ := by
  cases cmd <;> mvcgen [runCommand, toggleMute, toggleCamera, shareScreen, endCall, persist, send,
    ctl, modifyCtl, ask, present, tell, setActiveStream_quiet, shutdown_quiet]
  all_goals simp_all +zetaDelta [Sent, Effect.sent?, Controller.announced]

end

/-! ## Every input -/

section

variable {L : Links σ} (hL : L.Typed) (c₀ : Call (σ × List Effect))
include hL

theorem handleEvent_sends (e : Event) :
    ⦃fun c => ⌜c = c₀⌝⦄ handleEvent L.journaled e
    ⦃⇓ _ c => ⌜Sent c₀ c (c₀.ctl.announced (.event e))⌝⦄ := by
  cases e <;> mvcgen [handleEvent, lookup, ctl, modifyCtl, ask, handleMessage_sends,
    handleRelayUp_sends, handlePeerState_quiet, handleLocalCandidate_sends, handleRetry_sends,
    handleSpeaking_quiet, handleScreenEnded_quiet]
  all_goals simp_all +zetaDelta [Sent, Controller.announced]

theorem dispatch_sends (i : Input) :
    ⦃fun c => ⌜c = c₀ ∧ c₀.ctl.ended = false⌝⦄ dispatch L.journaled i
    ⦃⇓ _ c => ⌜Sent c₀ c (c₀.ctl.announced i)⌝⦄ := by
  cases i <;> mvcgen [dispatch, ctl, handleEvent_sends, runCommand_sends, shutdown_quiet]
  all_goals simp_all [Sent, Controller.announced]

end

/-- The envelopes a call sends on one input before it has ended are those `announced` for the
input, given the calls it made on its links while handling it. -/
theorem envelopes_sent_per_input {L : Links σ} (hL : L.Typed) {c : Call (σ × List Effect)}
    (hc : c.ctl.ended = false) (i : Input) :
    ∃ more, ((dispatch L.journaled i).run c).2.world.2 = c.world.2 ++ more ∧
      sent more = c.ctl.announced i more := by
  obtain ⟨⟨more, hmore⟩, hsent⟩ := Triple.run_of (dispatch_sends hL c i) ⟨rfl, hc⟩
  refine ⟨more, hmore.symm, ?_⟩
  simpa [← hmore] using hsent

/-- A fresh call joined by another participant sends what it announces, over connections that
never fail. -/
theorem envelopes_after_join :
    let c : Call (Pair.Side × List Effect) := ⟨Controller.create default default, ({}, [])⟩
    let i := Input.event (.message (.join ⟨"b", "Bea", true⟩))
    ∃ more, ((dispatch Pair.links.journaled i).run c).2.world.2 = c.world.2 ++ more ∧
      sent more = c.ctl.announced i more :=
  envelopes_sent_per_input Pair.links_typed rfl _

/-- Whom an offer is answered follows the envelope filter, not the recipient alone: an offer
addressed to no one is answered like one addressed to the local participant, and an offer the
local participant sent itself is dropped unanswered. -/
theorem offers_answered_by_filter :
    let c : Call (Pair.Side × List Effect) :=
      ⟨Controller.create ⟨⟨"aaaa", "Ann"⟩, "r", default, 0⟩ default, ({}, [])⟩
    let offer (sender recipient : String) :=
      Input.event (.message (.description ⟨"offer", "v=0", sender, recipient, "Bea", true⟩))
    sent ((dispatch Pair.links.journaled (offer "bbbb" "")).run c).2.world.2 =
        [.description ⟨"answer", "bbbb#1", "aaaa", "bbbb", "Ann", false⟩] ∧
      sent ((dispatch Pair.links.journaled (offer "aaaa" "aaaa")).run c).2.world.2 = [] := by
  decide

end MeshCall
