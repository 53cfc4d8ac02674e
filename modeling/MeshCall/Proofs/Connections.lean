import Mathlib
import MeshCall.Proofs.Reachable
import MeshCall.Proofs.Connections.Events
import MeshCall.Sim.Network
/-!
# Every connection is owned or closed once

A call driven through any inputs, with links each of whose operations may succeed or fail, keeps
its controller and the journal of its calls in agreement: the connections made are told apart by
their remote id and generation; each of them is either owned by the registry's current session
for its id and was never asked to close, or was asked to close exactly once; the sessions counted
as opened less those counted as closed are the registered ones; and every speaking meter belongs
to the current session of its id.
-/

namespace MeshCall

variable {σ : Type}

/-- The generations of the connections made are among those asked for, in order. -/
theorem opened_gens_sublist (t : List Effect) : ((opened t).map (·.2)).Sublist (tried t) := by
  induction t with
  | nil => simp
  | cons e t ih =>
    cases e with
    | newConn id gen failed =>
      cases failed
      · simpa [Effect.opened?, Effect.tried?] using ih.cons_cons gen
      · simpa [Effect.opened?, Effect.tried?] using ih.cons gen
    | _ => simpa [Effect.opened?, Effect.tried?] using ih

/-- The books hold in every call reachable with journaled links. -/
theorem Books.of_reachable {L : Links σ} {w : σ} {c : Call (σ × List Effect)}
    (h : Reachable L.journaled (w, []) c) : Books [] c :=
  Reachable.induct_triples (start_books L w) (dispatch_books L) h

theorem connections_owned_or_closed_once {L : Links σ} {w : σ} {c : Call (σ × List Effect)}
    (h : Reachable L.journaled (w, []) c) :
    (opened c.world.2).Nodup ∧
    (∀ k ∈ opened c.world.2,
      (∃ s, c.ctl.registry.get? k.1 = some s ∧ s.gen = k.2 ∧ k ∉ closings c.world.2) ∨
        (closings c.world.2).count k = 1) ∧
    c.ctl.counters.opened = c.ctl.counters.closed + c.ctl.registry.len ∧
    ∀ p ∈ c.ctl.meters, ∃ s, c.ctl.registry.get? p.1 = some s ∧ s.gen = p.2.gen := by
  have hb := Books.of_reachable h
  simp only [Books, List.append_nil] at hb
  refine ⟨?_, fun k hk => ?_, hb.counted, fun p hp => ?_⟩
  · -- the generations asked for strictly increase, so no two connections share one
    have hlt := hb.tried_lt.sublist (opened_gens_sublist c.world.2)
    exact List.Nodup.of_map _ (hlt.imp ne_of_lt)
  · rcases hb.owned k hk with ⟨s, hs, rfl⟩ | once
    · exact Or.inl ⟨s, Registry.get?_of_mem hb.ids hs, rfl, (hb.alive s hs).unshut⟩
    · exact Or.inr once
  · obtain ⟨s, hs, hid, hgen⟩ := hb.meters p hp
    exact ⟨s, hid ▸ Registry.get?_of_mem hb.ids hs, hgen⟩

/-- A call of the simulated network that answered a join from another participant. -/
theorem connections_after_join :
    let c := ((dispatch Sim.links.journaled (.event (.message (.join ⟨"b", "Bea", true⟩)))).run
      ((start Sim.links.journaled).run ⟨Controller.create default default, (default, [])⟩).2).2
    (opened c.world.2).Nodup ∧
    (∀ k ∈ opened c.world.2,
      (∃ s, c.ctl.registry.get? k.1 = some s ∧ s.gen = k.2 ∧ k ∉ closings c.world.2) ∨
        (closings c.world.2).count k = 1) ∧
    c.ctl.counters.opened = c.ctl.counters.closed + c.ctl.registry.len ∧
    ∀ p ∈ c.ctl.meters, ∃ s, c.ctl.registry.get? p.1 = some s ∧ s.gen = p.2.gen :=
  connections_owned_or_closed_once (Reachable.step _ (Reachable.init _ _))

end MeshCall
