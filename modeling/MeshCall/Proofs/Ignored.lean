import Mathlib
import MeshCall.Proofs.Connections
/-!
# Dropped events change nothing the peers see

The controller drops an event at a filter, a state check or a generation guard: envelopes of
the local participant or addressed to someone else, a join from a peer whose session is healthy,
an offer that loses a glare, an answer nobody is waiting for or that cannot be applied, an
envelope from a peer without a session, a leave naming the local participant, a speaking report
for a muted participant, the end of a stream that is not shown, and every peer event tagged with
a generation that is not the current session's. Handling such an event sends no envelope, asks
for no connection and closes none, and leaves the registry as it was. The generations the
controller asks connections for strictly increase, so a replaced session's tag never comes
back.
-/

namespace MeshCall

open Std.Do

set_option mvcgen.warning false

variable {σ : Type}

/-- The session a peer event was made for, as remote id and generation. -/
def Event.tag : Event → Option (String × Nat)
  | .peerState id gen _ | .localCandidate id gen _ | .retry id gen | .speaking id gen _
  | .remoteMeter id gen _ => some (id, gen)
  | _ => none

/-- The events that the controller of `c`, with links `L`, drops. -/
inductive Ignored (L : Links σ) (c : Call σ) : Event → Prop
  | own {m : Envelope} : m.sender = c.ctl.cfg.self.id → Ignored L c (.message m)
  | elsewhere {m : Envelope} : m.recipient ≠ "" → m.recipient ≠ c.ctl.cfg.self.id →
    Ignored L c (.message m)
  | healthyJoin {m : Join} {s : Session} : c.ctl.registry.get? m.sender = some s →
    s.state.healthy = true → Ignored L c (.message (.join m))
  | glare {m : Description} {s : Session} : m.type = "offer" →
    c.ctl.registry.get? m.sender = some s → s.state = .offerSent → m.sender < c.ctl.cfg.self.id →
    Ignored L c (.message (.description m))
  | answerUnknown {m : Description} : m.type ≠ "offer" → c.ctl.registry.get? m.sender = none →
    Ignored L c (.message (.description m))
  | answerUnexpected {m : Description} {s : Session} : m.type ≠ "offer" →
    c.ctl.registry.get? m.sender = some s → s.state ≠ .offerSent →
    Ignored L c (.message (.description m))
  | answerMalformed {m : Description} {e : UnsupportedSdp} : m.type ≠ "offer" → m.toSession = .error e →
    Ignored L c (.message (.description m))
  | answerRefused {m : Description} {s : Session} {d : SessionDescription} : m.type ≠ "offer" →
    c.ctl.registry.get? m.sender = some s → m.toSession = .ok d →
    (L.request s.id s.gen (.setRemote d) c.world).1.isSome → Ignored L c (.message (.description m))
  | candidateUnknown {m : CandidateNote} : c.ctl.registry.get? m.sender = none →
    Ignored L c (.message (.candidate m))
  | toggleUnknown {m : AudioToggle} : c.ctl.registry.get? m.sender = none →
    Ignored L c (.message (.audioToggle m))
  | ownLeave {m : UserLeft} : m.id = c.ctl.cfg.self.id → Ignored L c (.message (.userLeft m))
  | peerStateOther {id : String} {gen : Nat} {st : ConnectionState} : st ≠ .connected →
    st ≠ .failed → Ignored L c (.peerState id gen st)
  | mutedSelf {gen : Nat} : c.ctl.media.audioEnabled = false →
    Ignored L c (.speaking c.ctl.cfg.self.id gen true)
  | mutedPeer {id : String} {gen : Nat} {s : Session} : id ≠ c.ctl.cfg.self.id →
    c.ctl.registry.get? id = some s → s.audio = false → Ignored L c (.speaking id gen true)
  | inactiveScreen {stream : Nat} : c.ctl.media.active ≠ some stream →
    Ignored L c (.screenEnded stream)
  | stale {e : Event} {id : String} {gen : Nat} : e.tag = some (id, gen) →
    c.ctl.registry.lookup id gen = none → Ignored L c e

/-- From `c₀` to `c` the registry stayed as it was, and the calls made meanwhile sent no
envelope, asked for no connection and closed none. -/
def Quiet (c₀ c : Call (σ × List Effect)) : Prop :=
  c.ctl.registry = c₀.ctl.registry ∧
    ∃ more, c.world.2 = c₀.world.2 ++ more ∧ sent more = [] ∧ tried more = [] ∧ closings more = []

variable (L : Links σ)

theorem dispatch_quiet {c₀ : Call (σ × List Effect)} {e : Event} (h : Ignored L.journaled c₀ e) :
    ⦃fun c => ⌜c = c₀⌝⦄ dispatch L.journaled (.event e) ⦃⇓ _ c => ⌜Quiet c₀ c⌝⦄ := by
  cases h with
  | own hs =>
    mvcgen [dispatch, handleEvent, handleMessage, ctl]
    all_goals simp_all +zetaDelta [Quiet]
  | elsewhere hne hto =>
    mvcgen [dispatch, handleEvent, handleMessage, ctl]
    all_goals simp_all +zetaDelta [Quiet]
  | healthyJoin hs hh =>
    mvcgen [dispatch, handleEvent, handleMessage, handleJoin, ctl]
    all_goals simp_all +zetaDelta [Quiet, ← Option.eq_none_iff_forall_ne_some]
  | glare ho hs hst hlt =>
    mvcgen [dispatch, handleEvent, handleMessage, handleOffer, ctl]
    all_goals simp_all +zetaDelta [Quiet, ← Option.eq_none_iff_forall_ne_some]
  | answerUnknown ho hs =>
    mvcgen [dispatch, handleEvent, handleMessage, handleAnswer, ctl]
    all_goals simp_all +zetaDelta [Quiet]
  | answerUnexpected ho hs hst =>
    mvcgen [dispatch, handleEvent, handleMessage, handleAnswer, ctl]
    all_goals simp_all +zetaDelta [Quiet]
  | answerMalformed ho hm =>
    mvcgen [dispatch, handleEvent, handleMessage, handleAnswer, ctl]
    all_goals simp_all +zetaDelta [Quiet]
  | answerRefused ho hs hm hr =>
    mvcgen [dispatch, handleEvent, handleMessage, handleAnswer, ctl, request, ask]
    all_goals simp_all +zetaDelta [Quiet, Links.journaled, Effect.sent?, Effect.tried?,
      Effect.closing?]
  | candidateUnknown hs =>
    mvcgen [dispatch, handleEvent, handleMessage, handleCandidate, ctl]
    all_goals simp_all +zetaDelta [Quiet]
  | toggleUnknown hs =>
    mvcgen [dispatch, handleEvent, handleMessage, handleAudioToggle, ctl]
    all_goals simp_all +zetaDelta [Quiet]
  | ownLeave hs =>
    mvcgen [dispatch, handleEvent, handleMessage, handleUserLeft, ctl]
    all_goals simp_all +zetaDelta [Quiet]
  | peerStateOther hc hf =>
    mvcgen [dispatch, handleEvent, handlePeerState, lookup, ctl]
    all_goals simp_all +zetaDelta [Quiet]
  | mutedSelf hoff =>
    mvcgen [dispatch, handleEvent, handleSpeaking, ctl]
    all_goals simp_all +zetaDelta [Quiet]
  | mutedPeer hne hs hoff =>
    mvcgen [dispatch, handleEvent, handleSpeaking, lookup, ctl]
    all_goals simp_all +zetaDelta [Quiet]
  | inactiveScreen hna =>
    mvcgen [dispatch, handleEvent, handleScreenEnded, ctl]
    all_goals simp_all +zetaDelta [Quiet]
  | stale ht hl =>
    cases e <;> simp only [Event.tag, Option.some.injEq, Prod.mk.injEq, reduceCtorEq] at ht
    all_goals obtain ⟨rfl, rfl⟩ := ht
    case peerState =>
      mvcgen [dispatch, handleEvent, handlePeerState, lookup, ctl]
      all_goals simp_all +zetaDelta [Quiet]
    case localCandidate =>
      mvcgen [dispatch, handleEvent, handleLocalCandidate, lookup, ctl]
      all_goals simp_all +zetaDelta [Quiet]
    case retry id _ =>
      -- the retry that fired is dropped first, whether its generation is current or not
      cases hr : Assoc.get? c₀.ctl.retries id
      all_goals mvcgen [dispatch, handleEvent, handleRetry, lookup, ctl, modifyCtl]
      all_goals simp_all +zetaDelta [Quiet, apply_ite]
    case speaking =>
      mvcgen [dispatch, handleEvent, handleSpeaking, lookup, ctl, present, tell]
      all_goals simp_all +zetaDelta [Quiet, Links.journaled, Effect.sent?, Effect.tried?,
        Effect.closing?]
    case remoteMeter =>
      mvcgen [dispatch, handleEvent, lookup, ctl, modifyCtl]
      all_goals simp_all +zetaDelta [Quiet]

theorem generations_increase_and_drops_quiet {L : Links σ} {w : σ} {c : Call (σ × List Effect)}
    (h : Reachable L.journaled (w, []) c) :
    (tried c.world.2).Pairwise (· < ·) ∧
    ∀ e, Ignored L.journaled c e → Quiet c ((dispatch L.journaled (.event e)).run c).2 :=
  ⟨(Books.of_reachable h).tried_lt, fun _ he => Triple.run_of (dispatch_quiet L he) rfl⟩

/-- A call of the simulated network that answered a join from another participant. -/
theorem drops_after_join :
    let c := ((dispatch Sim.links.journaled (.event (.message (.join ⟨"b", "Bea", true⟩)))).run
      ((start Sim.links.journaled).run ⟨Controller.create default default, (default, [])⟩).2).2
    (tried c.world.2).Pairwise (· < ·) ∧
    ∀ e, Ignored Sim.links.journaled c e →
      Quiet c ((dispatch Sim.links.journaled (.event e)).run c).2 :=
  generations_increase_and_drops_quiet (Reachable.step _ (Reachable.init _ _))

end MeshCall
