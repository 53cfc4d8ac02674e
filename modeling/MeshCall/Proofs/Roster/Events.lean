import Mathlib
import MeshCall.Proofs.Roster.Tiles
import MeshCall.Proofs.Negotiation.Events
import MeshCall.Proofs.Reachable
/-!
# The roster follows the registry, through every input

A call driving a terminal view, with links of any kind beside it: `Links.onTerminal` applies
every view call the controller makes to a terminal kept in the world. `Shown` is the invariant:
the registry is negotiated, and the terminal's roster shows it. Each helper and handler keeps
it, some while one session is being set up; the negotiated sessions are what makes the
handlers' view calls land, since none of them is the local participant's or closed.
-/

namespace MeshCall

/-- `L` with a terminal roster beside its world: presenting a change also applies it to the
roster, and no other call touches the roster. -/
def Links.onTerminal {σ : Type} (L : Links σ) : Links (σ × Terminal) where
  send m w := ((L.send m w.1).1, (L.send m w.1).2, w.2)
  closeRelay w := (L.closeRelay w.1, w.2)
  newConn id gen w := ((L.newConn id gen w.1).1, (L.newConn id gen w.1).2, w.2)
  request id gen r w := ((L.request id gen r w.1).1, (L.request id gen r w.1).2, w.2)
  describe id gen t w := ((L.describe id gen t w.1).1, (L.describe id gen t w.1).2, w.2)
  save s w := ((L.save s w.1).1, (L.save s w.1).2, w.2)
  clear w := ((L.clear w.1).1, (L.clear w.1).2, w.2)
  arm d e w := ((L.arm d e w.1).1, (L.arm d e w.1).2, w.2)
  disarm t w := (L.disarm t w.1, w.2)
  present v w := (L.present v w.1, (w.2.apply v).1)

open Std.Do

set_option mvcgen.warning false

variable {σ : Type}

namespace Controller

variable (c : Controller) (s : Session)

@[simp] theorem noteClosed_registry : (c.noteClosed s).registry = c.registry := rfl

@[simp] theorem noteClosed_cfg : (c.noteClosed s).cfg = c.cfg := rfl

end Controller

/-- A settled session is not closed: it has negotiated or is being set up. -/
theorem Settled.not_closed {fresh : List String} {self : String} {ss : List Session}
    (h : Settled fresh self ss) : ∀ s ∈ ss, s.state ≠ .closed := by
  intro s hs
  rcases (h s hs).2 with hn | ⟨-, hn⟩
  · exact SessionState.ne_closed_of_negotiated hn
  · simp [hn]

/-- The registry of a call and its roster agree, up to the sessions of `fresh` being set up. -/
def Shown (fresh : List String) (c : Call (σ × Terminal)) : Prop :=
  Negotiated fresh c ∧ Roster c.ctl.cfg.self.id c.ctl.registry.sessions c.world.2

variable (L : Links σ)

theorem newSession_shown (id name : String) (audio : Bool) :
    ⦃fun c => ⌜Shown [] c ∧ c.ctl.registry.get? id = none ∧ id ≠ c.ctl.cfg.self.id⌝⦄
    newSession L.onTerminal id name audio
    ⦃⇓ r c => ⌜Shown [id] c ∧ c.ctl.registry.get? id = r⌝⦄ := by
  mvcgen [newSession, ctl, modifyCtl, ask, request, present, tell]
    invariants
    | inv1 =>
      Invariant.withEarlyReturnNewDo
        (fun _ _ c => ⌜Shown [] c ∧ c.ctl.registry.get? id = none ∧ id ≠ c.ctl.cfg.self.id⌝)
        (fun r _ c => ⌜r = none ∧ Shown [] c ∧ c.ctl.registry.get? id = none⌝)
  all_goals simp_all +zetaDelta [Shown, Negotiated, Links.onTerminal]
  case vc1.isTrue =>
    rename_i pre _
    exact pre.1.1.2.mono (List.nil_subset _)
  case vc5.isFalse.post.success.h_1 =>
    rename_i inv
    exact inv.2.1.1.2.mono (List.nil_subset _)
  case vc6.isFalse.post.success.h_2.h_1 =>
    rename_i old inv
    rw [Registry.upsert_of_get?_none inv.2.1] at old
    simp at old
  case vc7.isFalse.post.success.h_2.h_2 =>
    rename_i inv
    obtain ⟨⟨⟨hn, hs⟩, hr⟩, hnone, hself⟩ := inv
    have habs := Registry.get?_eq_none.mp hnone
    rw [Registry.upsert_of_get?_none hnone]
    refine ⟨⟨⟨?_, hs.append_fresh hself rfl⟩, hr.register habs hself rfl⟩,
      Registry.get?_append_of_get?_none hnone⟩
    simpa [List.nodup_append] using ⟨hn, habs⟩

/-- Discarding the registered session of an id keeps the others shown; its tile stays. -/
theorem discardSession_shown (s : Session) :
    ⦃fun c => ⌜Shown [] c ∧ c.ctl.registry.get? s.id = some s⌝⦄ discardSession L.onTerminal s
    ⦃⇓ _ c => ⌜Shown [] c ∧ c.ctl.registry.get? s.id = none ∧ s.id ≠ c.ctl.cfg.self.id⌝⦄ := by
  mvcgen [discardSession, closeSession, modifyCtl, request, ask]
  all_goals simp_all +zetaDelta [Shown, Negotiated, Controller.noteClosed, Links.onTerminal]
  -- closing the session touches neither the registry nor the roster
  case vc1.isTrue =>
    rename_i pre _
    obtain ⟨hn, hs, hnone⟩ := pre.1.1.2.remove pre.1.1.1 pre.2
    exact ⟨⟨⟨hn, hs⟩, pre.1.2.remove pre.2⟩, hnone, (pre.1.1.2 s (Registry.get?_eq_some pre.2).1).1⟩
  case vc2.isFalse.isTrue | vc3.isFalse.isFalse =>
    rename_i pre _ _
    obtain ⟨hn, hs, hnone⟩ := pre.1.1.2.remove pre.1.1.1 pre.2
    exact ⟨⟨⟨hn, hs⟩, pre.1.2.remove pre.2⟩, hnone, (pre.1.1.2 s (Registry.get?_eq_some pre.2).1).1⟩

/-- Dropping the session being set up drops its tile too. -/
theorem abortNegotiation_shown (s : Session) :
    ⦃fun c => ⌜Shown [s.id] c ∧ c.ctl.registry.get? s.id = some s⌝⦄
    abortNegotiation L.onTerminal s ⦃⇓ _ c => ⌜Shown [] c⌝⦄ := by
  mvcgen [abortNegotiation, discardSession, closeSession, modifyCtl, request, ask, present, tell]
  all_goals simp_all +zetaDelta [Shown, Negotiated, Controller.noteClosed, Links.onTerminal]
  case vc1.isTrue =>
    rename_i pre _
    obtain ⟨hn, hs, hnone⟩ := pre.1.1.2.remove pre.1.1.1 pre.2
    have habs := Registry.get?_eq_none.mp hnone
    exact ⟨⟨hn, hs.of_absent habs⟩, (pre.1.2.remove pre.2).removeTile habs⟩
  case vc2.isFalse.isTrue | vc3.isFalse.isFalse =>
    rename_i pre _ _
    obtain ⟨hn, hs, hnone⟩ := pre.1.1.2.remove pre.1.1.1 pre.2
    have habs := Registry.get?_eq_none.mp hnone
    exact ⟨⟨hn, hs.of_absent habs⟩, (pre.1.2.remove pre.2).removeTile habs⟩

theorem setActiveStream_shown (stream : Nat) :
    ⦃fun c => ⌜Shown [] c⌝⦄ setActiveStream L.onTerminal stream ⦃⇓ _ c => ⌜Shown [] c⌝⦄ := by
  mvcgen [setActiveStream, ctl, modifyCtl, request, ask, present, tell]
    invariants
    | inv1 => ⇓ _ c => ⌜Shown [] c⌝
    | inv2 => ⇓ _ c => ⌜Shown [] c⌝
  all_goals simp_all +zetaDelta [Shown, Negotiated, Links.onTerminal]

/-- Tearing the call down empties the registry and the roster. -/
theorem shutdown_shown (forget : Bool) :
    ⦃fun c => ⌜Shown [] c⌝⦄ shutdown L.onTerminal forget ⦃⇓ _ c => ⌜Shown [] c⌝⦄ := by
  mvcgen [shutdown, closeSession, cancelRetry, ctl, modifyCtl, request, ask, present, tell]
    invariants
    | inv1 => ⇓ _ c => ⌜Shown [] c⌝
    | inv2 => ⇓ _ c => ⌜Shown [] c ∧ c.ctl.registry.sessions = []⌝
  all_goals simp_all +zetaDelta [Shown, Negotiated, Registry.drain, Links.onTerminal]
  case vc8.isFalse.post.success.pre =>
    rename_i inv
    exact inv.2.sublist (List.nil_sublist _)
  case vc9.isFalse.post.success.post.success.isTrue | vc10.isFalse.post.success.post.success.isFalse =>
    exact Roster.clear _

/-- Moving the session set up for `id` to a negotiated state settles it, on its tile too. -/
theorem Shown.settle {self id : String} {r : Registry} {t : Terminal} {s : Session}
    {st : SessionState}
    (h : (((r.sessions.map (·.id)).Nodup ∧ Settled [id] self r.sessions) ∧
      Roster self r.sessions t) ∧ r.get? id = some s) (hst : st.negotiated = true) :
    (((r.modify s.id fun s => (s.setState st).1).sessions.map (·.id)).Nodup ∧
      Settled [] self (r.modify s.id fun s => (s.setState st).1).sessions) ∧
    Roster self (r.modify s.id fun s => (s.setState st).1).sessions
      (t.apply (.setPeerState s.id st)).1 := by
  obtain ⟨⟨⟨hn, hs⟩, hr⟩, hget⟩ := h
  rw [← (Registry.get?_eq_some hget).2] at hs
  exact ⟨⟨Registry.nodup_modify hn fun s => by simp, hs.setState hst⟩, hr.setState hs.not_closed _ st⟩

/-- Moving the sessions of `id` from one negotiated state to another, on its tile too. -/
theorem Shown.move {self id : String} {r : Registry} {t : Terminal} {st : SessionState}
    (h : ((r.sessions.map (·.id)).Nodup ∧ Settled [] self r.sessions) ∧ Roster self r.sessions t)
    (hst : st.negotiated = true) :
    (((r.modify id fun s => (s.setState st).1).sessions.map (·.id)).Nodup ∧
      Settled [] self (r.modify id fun s => (s.setState st).1).sessions) ∧
    Roster self (r.modify id fun s => (s.setState st).1).sessions
      (t.apply (.setPeerState id st)).1 := by
  obtain ⟨⟨hn, hs⟩, hr⟩ := h
  refine ⟨⟨Registry.nodup_modify hn fun s => by simp, hs.modify (fun s => by simp) ?_⟩,
    hr.setState hs.not_closed id st⟩
  intro s hs
  exact Session.negotiated_setState hs hst

theorem handleJoin_shown (m : Join) :
    ⦃fun c => ⌜Shown [] c ∧ m.sender ≠ c.ctl.cfg.self.id⌝⦄ handleJoin L.onTerminal m
    ⦃⇓ _ c => ⌜Shown [] c⌝⦄ := by
  mvcgen [handleJoin, ctl, ask, request, present, tell, sendDescription, send, setSessionState,
    modifyCtl, newSession_shown, discardSession_shown, abortNegotiation_shown]
  all_goals simp_all +zetaDelta [Shown, Negotiated, Links.onTerminal,
    ← Option.eq_none_iff_forall_ne_some]
  -- the session set up is the one registered under the sender's id
  case vc6.h_1.isFalse.post.success.post.success.h_1.h_2.isFalse.h_1
    | vc7.h_1.isFalse.post.success.post.success.h_1.h_2.isFalse.h_2
    | vc12.h_2.post.success.h_1.h_2.isFalse.h_1 | vc13.h_2.post.success.h_1.h_2.isFalse.h_2 =>
    exact Shown.settle (by assumption) rfl
  all_goals grind

theorem handleOffer_shown (m : Description) :
    ⦃fun c => ⌜Shown [] c ∧ m.sender ≠ c.ctl.cfg.self.id⌝⦄ handleOffer L.onTerminal m
    ⦃⇓ _ c => ⌜Shown [] c⌝⦄ := by
  mvcgen [handleOffer, ctl, ask, request, present, tell, sendDescription, send, setSessionState,
    modifyCtl, newSession_shown, discardSession_shown, abortNegotiation_shown]
  all_goals simp_all +zetaDelta [Shown, Negotiated, Links.onTerminal,
    ← Option.eq_none_iff_forall_ne_some]
  case vc8.h_1.isFalse.post.success.post.success.h_1.h_2.isFalse.h_2.isFalse.h_1
    | vc9.h_1.isFalse.post.success.post.success.h_1.h_2.isFalse.h_2.isFalse.h_2
    | vc16.h_2.post.success.h_1.h_2.isFalse.h_2.isFalse.h_1
    | vc17.h_2.post.success.h_1.h_2.isFalse.h_2.isFalse.h_2 =>
    exact Shown.settle (by assumption) rfl
  all_goals grind

theorem handleAnswer_shown (m : Description) :
    ⦃fun c => ⌜Shown [] c⌝⦄ handleAnswer L.onTerminal m ⦃⇓ _ c => ⌜Shown [] c⌝⦄ := by
  mvcgen [handleAnswer, ctl, modifyCtl, ask, request, present, tell]
  all_goals simp_all +zetaDelta [Shown, Negotiated, Links.onTerminal]
  case vc3.h_1.isFalse.h_1.isFalse =>
    rename_i pre hget _ _ _
    obtain ⟨⟨hn, hs⟩, hr⟩ := pre
    rw [← (Registry.get?_eq_some hget).2] at hget
    refine ⟨⟨Registry.nodup_modify hn fun s => by simp, hs.modify (fun s => by simp) ?_⟩,
      hr.answer hn hs.not_closed hget _ _⟩
    intro s hs
    exact Session.negotiated_setState (by simpa using hs) rfl

theorem handleCandidate_shown (m : CandidateNote) :
    ⦃fun c => ⌜Shown [] c⌝⦄ handleCandidate L.onTerminal m ⦃⇓ _ c => ⌜Shown [] c⌝⦄ := by
  mvcgen [handleCandidate, ctl, ask, request]

theorem handleAudioToggle_shown (m : AudioToggle) :
    ⦃fun c => ⌜Shown [] c⌝⦄ handleAudioToggle L.onTerminal m ⦃⇓ _ c => ⌜Shown [] c⌝⦄ := by
  mvcgen [handleAudioToggle, ctl, modifyCtl, present, tell]
  all_goals simp_all +zetaDelta [Shown, Negotiated, Links.onTerminal]
  -- clearing the sender's meter, or not, leaves the registry as the toggle set it
  case vc1.h_1 =>
    rename_i pre _
    obtain ⟨⟨hn, hs⟩, hr⟩ := pre
    have hn := Registry.nodup_modify (x := m.sender) hn fun s => Session.setAudio_id m.enabled
    have hs := hs.modify (x := m.sender) (fun s => Session.setAudio_id m.enabled) fun s h => by
      simpa using h
    have hr := hr.setAudio m.sender m.enabled
    split
    · split <;> exact ⟨⟨hn, hs⟩, hr⟩
    · exact ⟨⟨hn, hs⟩, hr⟩

theorem handleUserLeft_shown (m : UserLeft) :
    ⦃fun c => ⌜Shown [] c⌝⦄ handleUserLeft L.onTerminal m ⦃⇓ _ c => ⌜Shown [] c⌝⦄ := by
  mvcgen [handleUserLeft, cancelRetry, ctl, modifyCtl, present, tell, discardSession_shown]
  all_goals simp_all +zetaDelta [Shown, Negotiated, Links.onTerminal,
    ← Option.eq_none_iff_forall_ne_some]
  all_goals grind

theorem handleRelayUp_shown :
    ⦃fun c => ⌜Shown [] c⌝⦄ handleRelayUp L.onTerminal ⦃⇓ _ c => ⌜Shown [] c⌝⦄ := by
  mvcgen [handleRelayUp, closeSession, cancelRetry, sendJoin, send, persist, ctl, modifyCtl, ask,
    request, present, tell]
    invariants
    | inv1 => ⇓ _ c => ⌜c.ctl.registry.sessions = [] ∧ Roster c.ctl.cfg.self.id [] c.world.2⌝
  all_goals simp_all +zetaDelta [Shown, Negotiated, Settled, Registry.drain, Links.onTerminal]
  case vc7.pre =>
    rename_i pre
    exact pre.2.sublist (List.nil_sublist _)

theorem handlePeerState_shown (id : String) (gen : Nat) (state : ConnectionState) :
    ⦃fun c => ⌜Shown [] c⌝⦄ handlePeerState L.onTerminal id gen state ⦃⇓ _ c => ⌜Shown [] c⌝⦄ := by
  mvcgen [handlePeerState, lookup, scheduleRetry, cancelRetry, setSessionState, ctl, modifyCtl, ask,
    present, tell]
  all_goals simp_all +zetaDelta [Shown, Negotiated, Links.onTerminal]
  -- only a move to a negotiated state reaches the registry: the others are ignored
  case vc1.h_1.h_1 | vc3.h_1.h_2.isFalse.isTrue | vc4.h_1.h_2.isFalse.isFalse.h_1
    | vc5.h_1.h_2.isFalse.isFalse.h_2 =>
    exact Shown.move (by assumption) rfl

theorem handleLocalCandidate_shown (id : String) (gen : Nat) (cand : IceCandidate) :
    ⦃fun c => ⌜Shown [] c⌝⦄ handleLocalCandidate L.onTerminal id gen cand ⦃⇓ _ c => ⌜Shown [] c⌝⦄ := by
  mvcgen [handleLocalCandidate, lookup, send, ctl, ask]

theorem handleRetry_shown (id : String) (gen : Nat) :
    ⦃fun c => ⌜Shown [] c⌝⦄ handleRetry L.onTerminal id gen ⦃⇓ _ c => ⌜Shown [] c⌝⦄ := by
  mvcgen [handleRetry, lookup, sendJoin, send, ctl, modifyCtl, ask, discardSession_shown]
  all_goals simp_all +zetaDelta [Shown, Negotiated, Links.onTerminal,
    ← Option.eq_none_iff_forall_ne_some]
  all_goals grind

theorem handleSpeaking_shown (id : String) (gen : Nat) (speaking : Bool) :
    ⦃fun c => ⌜Shown [] c⌝⦄ handleSpeaking L.onTerminal id gen speaking ⦃⇓ _ c => ⌜Shown [] c⌝⦄ := by
  mvcgen [handleSpeaking, lookup, ctl, present, tell]
  all_goals simp_all +zetaDelta [Shown, Negotiated, Links.onTerminal]

theorem handleScreenEnded_shown (stream : Nat) :
    ⦃fun c => ⌜Shown [] c⌝⦄ handleScreenEnded L.onTerminal stream ⦃⇓ _ c => ⌜Shown [] c⌝⦄ := by
  mvcgen [handleScreenEnded, ctl, setActiveStream_shown]

/-- The envelope filter turns away the local participant's own envelopes, so a join or an offer
reaches its handler only from another participant. -/
theorem handleMessage_shown (m : Envelope) :
    ⦃fun c => ⌜Shown [] c⌝⦄ handleMessage L.onTerminal m ⦃⇓ _ c => ⌜Shown [] c⌝⦄ := by
  mvcgen [handleMessage, ctl, handleJoin_shown, handleOffer_shown, handleAnswer_shown,
    handleCandidate_shown, handleAudioToggle_shown, handleUserLeft_shown]
  all_goals simp_all +zetaDelta [Envelope.sender]

theorem handleEvent_shown (e : Event) :
    ⦃fun c => ⌜Shown [] c⌝⦄ handleEvent L.onTerminal e ⦃⇓ _ c => ⌜Shown [] c⌝⦄ := by
  mvcgen [handleEvent, lookup, ctl, modifyCtl, handleMessage_shown, handleRelayUp_shown,
    handlePeerState_shown, handleLocalCandidate_shown, handleRetry_shown, handleSpeaking_shown,
    handleScreenEnded_shown]

theorem runCommand_shown (cmd : Command) :
    ⦃fun c => ⌜Shown [] c⌝⦄ runCommand L.onTerminal cmd ⦃⇓ _ c => ⌜Shown [] c⌝⦄ := by
  mvcgen [runCommand, toggleMute, toggleCamera, shareScreen, endCall, persist, send, ctl,
    modifyCtl, ask, present, tell, setActiveStream_shown, shutdown_shown]
  all_goals simp_all +zetaDelta [Shown, Negotiated, Links.onTerminal]
  -- the local participant has no session, so its microphone is no part of the agreement
  case vc2.h_1.h_2.isTrue | vc3.h_1.h_2.isFalse =>
    rename_i pre _ _
    exact pre.2.setMic_other (fun s hs => (pre.1.2 s hs).1) _

theorem dispatch_shown (i : Input) :
    ⦃fun c => ⌜Shown [] c⌝⦄ dispatch L.onTerminal i ⦃⇓ _ c => ⌜Shown [] c⌝⦄ := by
  mvcgen [dispatch, ctl, handleEvent_shown, runCommand_shown, shutdown_shown]

/-- A call that was just created shows its local participant only. -/
theorem start_shown (w : σ) (cfg : CallConfig) (media : Media.Manager) :
    ⦃fun c => ⌜c = ⟨Controller.create cfg media, (w, {})⟩⌝⦄ start L.onTerminal
    ⦃⇓ _ c => ⌜Shown [] c⌝⦄ := by
  mvcgen [start, ctl, present, tell]
  simp_all +zetaDelta [Shown, Negotiated, Controller.create, Links.onTerminal]
  exact Roster.showLocal _ _ _

/-- The registry and the roster agree in every reachable call that started on an empty terminal. -/
theorem Shown.of_reachable {L : Links σ} {w : σ} {c : Call (σ × Terminal)}
    (h : Reachable L.onTerminal (w, {}) c) : Shown [] c :=
  Reachable.induct_triples (start_shown L w) (dispatch_shown L) h

end MeshCall
