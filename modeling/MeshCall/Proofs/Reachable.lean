import Mathlib
import MeshCall.Call.Loop
/-!
# Reachable calls

The calls a controller can be in: created with any configuration and media, shown, then fed
any inputs one at a time through the event loop. A property of every reachable call follows
from a Hoare triple for `start` and one for handling an input, both over the whole state.
-/

namespace MeshCall

open Std.Do

variable {σ : Type}

/-- A triple over a state predicate says what one run of the program leaves. -/
theorem Triple.run_of {α : Type} {prog : CallM σ α} {I J : Call σ → Prop}
    (h : ⦃fun c => ⌜I c⌝⦄ prog ⦃⇓ _ c => ⌜J c⌝⦄) {c : Call σ} (hc : I c) :
    J (prog.run c).2 :=
  StateM.of_wp_run_eq rfl (fun p => J p.2) (by simpa using h c hc)

/-- Every program meets the triple that reads its postcondition off one run; as a spec it
lets symbolic execution go on past a call whose run is known by an equation. -/
theorem Triple.of_run {α : Type} (prog : CallM σ α) {Q : PostCond α (.arg (Call σ) .pure)} :
    ⦃spred(fun c => Q.1 (prog.run c).1 (prog.run c).2)⦄ prog ⦃Q⦄ := by
  simp only [Triple.iff]
  intro c h
  exact h

/-- The calls reachable with links `L` from the world `w`. -/
inductive Reachable (L : Links σ) (w : σ) : Call σ → Prop
  | init (cfg : CallConfig) (media : Media.Manager) :
    Reachable L w ((start L).run ⟨Controller.create cfg media, w⟩).2
  | step {c : Call σ} (i : Input) : Reachable L w c → Reachable L w ((dispatch L i).run c).2

/-- An invariant that `start` sets up and every input keeps holds of every reachable call. -/
theorem Reachable.induct_triples {L : Links σ} {w : σ} {I : Call σ → Prop}
    (hinit : ∀ cfg media,
      ⦃fun c => ⌜c = ⟨Controller.create cfg media, w⟩⌝⦄ start L ⦃⇓ _ c => ⌜I c⌝⦄)
    (hstep : ∀ i, ⦃fun c => ⌜I c⌝⦄ dispatch L i ⦃⇓ _ c => ⌜I c⌝⦄)
    {c : Call σ} (h : Reachable L w c) : I c := by
  induction h with
  | init cfg media => exact Triple.run_of (hinit cfg media) rfl
  | step i _ ih => exact Triple.run_of (hstep i) ih

end MeshCall
