import Mathlib
import MeshCall.Proofs.Roster.Events
import MeshCall.Proofs.Pair.System
/-!
# The roster shows every registered session

A controller driving a terminal view, whatever its links answer: in every call it can reach,
each session of the registry has a tile of its own id that is not the local participant's, and
the tile shows the session's state, its microphone and its display name. The handlers change a
session's state, name and microphone in one place and tell the view in another; the agreement
holds because every change is paired with the view call that shows it, on every path, and
because a tile refreshed for a replacement session takes all three from the new session.
-/

namespace MeshCall

variable {σ : Type}

/-- Every session the registry holds is shown on a tile of another participant under its id,
with the session's state, its microphone and its display name. -/
theorem sessions_shown_on_tiles {L : Links σ} {w : σ} {c : Call (σ × Terminal)}
    (h : Reachable L.onTerminal (w, {}) c) :
    ∀ s ∈ c.ctl.registry.sessions, ∃ x, c.world.2.tile? s.id = some x ∧ x.isLocal = false ∧
      x.state = s.state ∧ x.audio = s.audio ∧ x.name = displayName s.name s.id :=
  (Shown.of_reachable h).2.shown

/-- A call between two never-failing participants that answered a join holds one session. -/
theorem tiles_after_join :
    let c := ((dispatch Pair.links.onTerminal (.event (.message (.join ⟨"b", "Bea", true⟩)))).run
      ((start Pair.links.onTerminal).run ⟨Controller.create default default, ({}, {})⟩).2).2
    c.ctl.registry.sessions.length = 1 ∧
    ∀ s ∈ c.ctl.registry.sessions, ∃ x, c.world.2.tile? s.id = some x ∧ x.isLocal = false ∧
      x.state = s.state ∧ x.audio = s.audio ∧ x.name = displayName s.name s.id :=
  ⟨by decide, sessions_shown_on_tiles (Reachable.step _ (Reachable.init _ _))⟩

end MeshCall
