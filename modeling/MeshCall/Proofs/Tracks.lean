import Mathlib
import MeshCall.Proofs.Reachable
import MeshCall.Proofs.Tracks.Events
import MeshCall.Sim.Network
/-!
# Every session sends the tracks of the active stream

A connection sends, for each kind of track, the track it was last given: by an added track when
its session was created, or by a replacement since. In every call reachable with journaled
links, every registered session whose connection never refused a replacement sends exactly the
tracks of the active stream; a refusal on one connection leaves the others as they are.
Switching the active stream, by sharing the screen or stopping the share, by choosing a stream
or by falling back to the camera when a share ends, only asks connections to replace tracks and
updates the view: no envelope is sent and no description is made or set.
-/

namespace MeshCall

open Std.Do Media

set_option mvcgen.warning false

variable {σ : Type}

/-- What a switch of the active stream may do to the world: ask a connection to replace a
track, or update the view. -/
def Effect.ofSwitch : Effect → Bool
  | .request _ _ (.replaceTrack _ _) _ => true
  | .present _ => true
  | _ => false

/-- The calls of a journal that no switch makes: envelopes, descriptions, connections made and
closed, every request but a replacement, saves and timers. -/
def beyondSwitch (t : List Effect) : List Effect := t.filter fun e => !e.ofSwitch

@[simp] theorem beyondSwitch_append (t u : List Effect) :
    beyondSwitch (t ++ u) = beyondSwitch t ++ beyondSwitch u := by
  simp [beyondSwitch]

@[simp] theorem beyondSwitch_cons (e : Effect) (t : List Effect) :
    beyondSwitch (e :: t) = (if e.ofSwitch then [] else [e]) ++ beyondSwitch t := by
  cases h : e.ofSwitch <;> simp [beyondSwitch, h]

@[simp] theorem beyondSwitch_nil : beyondSwitch [] = [] := rfl

/-- The inputs that switch the active stream: sharing the screen or stopping the share,
choosing a stream, and the fall-back to the camera when a share ends on its own. -/
inductive Switch : Input → Prop
  | share : Switch (.command .shareScreen)
  | choose (stream : Nat) : Switch (.command (.setActiveStream stream))
  | fallBack (stream : Nat) : Switch (.event (.screenEnded stream))

section

variable (L : Links σ)

theorem setActiveStream_beyondSwitch (J : List Effect) (stream : Nat) :
    ⦃fun c => ⌜beyondSwitch c.world.2 = J⌝⦄ setActiveStream L.journaled stream
    ⦃⇓ _ c => ⌜beyondSwitch c.world.2 = J⌝⦄ := by
  mvcgen [setActiveStream, ctl, modifyCtl, request, ask, present, tell]
    invariants
    | inv1 => ⇓ _ c => ⌜beyondSwitch c.world.2 = J⌝
    | inv2 => ⇓ _ c => ⌜beyondSwitch c.world.2 = J⌝
  all_goals simp_all +zetaDelta [Links.journaled, Effect.ofSwitch]

/-- A switch makes no call beyond what switching the stream makes. -/
theorem Switch.beyondSwitch {i : Input} (hi : Switch i) (J : List Effect) :
    ⦃fun c => ⌜beyondSwitch c.world.2 = J⌝⦄ dispatch L.journaled i
    ⦃⇓ _ c => ⌜beyondSwitch c.world.2 = J⌝⦄ := by
  cases hi with
  | share =>
    mvcgen [dispatch, runCommand, shareScreen, ctl, modifyCtl, setActiveStream_beyondSwitch]
    all_goals simp_all +zetaDelta
  | choose stream =>
    mvcgen [dispatch, runCommand, ctl, setActiveStream_beyondSwitch]
    all_goals simp_all
  | fallBack stream =>
    mvcgen [dispatch, handleEvent, handleScreenEnded, ctl, setActiveStream_beyondSwitch]
    all_goals simp_all

end

/-- The track books hold in every call reachable with journaled links. -/
theorem TrackBooks.of_reachable {L : Links σ} {w : σ} {c : Call (σ × List Effect)}
    (h : Reachable L.journaled (w, []) c) : TrackBooks c :=
  Reachable.induct_triples (start_tracks L w) (dispatch_tracks L) h

theorem sessions_send_active_tracks {L : Links σ} {w : σ} {c : Call (σ × List Effect)}
    (h : Reachable L.journaled (w, []) c) :
    (∀ s ∈ c.ctl.registry.sessions, s.key ∉ refusedSwaps c.world.2 →
      ∀ t ∈ c.ctl.media.activeTracks, sending (trackSets c.world.2) s.key t.kind = some t) ∧
    ∀ i, Switch i →
      beyondSwitch ((dispatch L.journaled i).run c).2.world.2 = beyondSwitch c.world.2 := by
  refine ⟨fun s hs hr => ?_, fun i hi => Triple.run_of (hi.beyondSwitch L _) rfl⟩
  rcases (TrackBooks.of_reachable h).follow s hs with hr' | hf
  · exact absurd hr' hr
  · exact hf

/-- A call of the simulated network that answered a join from another participant. -/
theorem tracks_after_join :
    let c := ((dispatch Sim.links.journaled (.event (.message (.join ⟨"b", "Bea", true⟩)))).run
      ((start Sim.links.journaled).run ⟨Controller.create default default, (default, [])⟩).2).2
    (∀ s ∈ c.ctl.registry.sessions, s.key ∉ refusedSwaps c.world.2 →
      ∀ t ∈ c.ctl.media.activeTracks, sending (trackSets c.world.2) s.key t.kind = some t) ∧
    ∀ i, Switch i →
      beyondSwitch ((dispatch Sim.links.journaled i).run c).2.world.2 = beyondSwitch c.world.2 :=
  sessions_send_active_tracks (Reachable.step _ (Reachable.init _ _))

end MeshCall
