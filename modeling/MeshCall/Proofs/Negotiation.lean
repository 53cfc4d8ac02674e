import Mathlib
import MeshCall.Proofs.Reachable
import MeshCall.Proofs.Negotiation.Events
import MeshCall.Sim.Network
/-!
# Every registered session has negotiated

Whatever the links answer, a call observed between two inputs has one session per remote id in
its registry, none of them the local participant's, and each in `offerSent`, `answerSent`,
`connected` or `failed`. A session is never left `new`, since every step of a negotiation that
fails drops the session it created, and never `closed`, since sessions leave the registry
before they are closed. So the registry's sessions always take a new state, and the check for a
closed session in `handleCandidate` never turns a candidate away.
-/

namespace MeshCall

variable {σ : Type}

/-- The registry is negotiated in every reachable call. -/
theorem Negotiated.of_reachable {L : Links σ} {w : σ} {c : Call σ} (h : Reachable L w c) :
    Negotiated [] c :=
  Reachable.induct_triples (start_negotiated L w) (dispatch_negotiated L) h

theorem registered_sessions_negotiated {L : Links σ} {w : σ} {c : Call σ} (h : Reachable L w c) :
    ∀ s ∈ c.ctl.registry.sessions,
      c.ctl.registry.get? s.id = some s ∧ s.id ≠ c.ctl.cfg.self.id ∧
      (s.state = .offerSent ∨ s.state = .answerSent ∨ s.state = .connected ∨ s.state = .failed) ∧
      ∀ st, (s.setState st).2 = true := by
  obtain ⟨hn, hs⟩ := Negotiated.of_reachable h
  intro s hmem
  obtain ⟨hself, hneg⟩ := hs.of_nil hmem
  refine ⟨Registry.get?_of_mem hn hmem, hself, SessionState.negotiated_eq_true.mp hneg, fun st => ?_⟩
  simp [Session.setState, SessionState.ne_closed_of_negotiated hneg]

/-- A call of the simulated network that answered a join from another participant. -/
theorem sessions_after_join :
    let c := ((dispatch Sim.links (.event (.message (.join ⟨"b", "Bea", true⟩)))).run
      ((start Sim.links).run ⟨Controller.create default default, default⟩).2).2
    ∀ s ∈ c.ctl.registry.sessions,
      c.ctl.registry.get? s.id = some s ∧ s.id ≠ c.ctl.cfg.self.id ∧
      (s.state = .offerSent ∨ s.state = .answerSent ∨ s.state = .connected ∨ s.state = .failed) ∧
      ∀ st, (s.setState st).2 = true :=
  registered_sessions_negotiated (Reachable.step _ (Reachable.init _ _))

end MeshCall
