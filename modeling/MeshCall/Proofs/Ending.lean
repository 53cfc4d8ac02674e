import Mathlib
import MeshCall.Proofs.Pair.Invariant
import MeshCall.Proofs.Microphone.Streams
/-!
# Ending a call

A call ends when the user ends it or when the context it runs in is cancelled; both tear it down
the same way, and only the first keeps nothing for a restart. Tearing down disarms the pending
retries and closes every session, then closes the relay, stops capture, clears the saved call if
the user ended the call, and clears the view: the registry and the table of retries are left
empty, every connection made during the call has been closed once, and nothing is saved. From
then on the call is frozen: every event is dropped and every command is refused with
`call ended`, so nothing more is sent, made, closed or saved.
-/

namespace MeshCall

open Std.Do

set_option mvcgen.warning false

variable {σ : Type}

/-- A call that takes the call down: disarming a timer, or asking a connection to close. -/
def Effect.teardown : Effect → Bool
  | .disarm _ => true
  | .request _ _ .close _ => true
  | _ => false

/-! ## An ended call is frozen -/

section

variable (L : Links σ) {c : Call σ}

theorem dispatch_command_of_ended (h : c.ctl.ended = true) (cmd : Command) :
    (dispatch L (.command cmd)).run c = (some Fault.ended, c) := by
  simp [dispatch, ctl, h]
  rfl

theorem dispatch_event_of_ended (h : c.ctl.ended = true) (e : Event) :
    (dispatch L (.event e)).run c = (none, c) := by
  simp [dispatch, ctl, h]
  rfl

/-- Ending a call twice does nothing the second time. -/
theorem dispatch_cancel_of_ended (h : c.ctl.ended = true) :
    (dispatch L .cancel).run c = (none, c) := by
  simp [dispatch, shutdown, ctl, h]
  rfl

theorem dispatch_endCall (h : c.ctl.ended = false) :
    (dispatch L (.command .endCall)).run c = (none, ((shutdown L true).run c).2) := by
  simp [dispatch, runCommand, endCall, ctl, h]
  rfl

theorem dispatch_cancel (c : Call σ) :
    (dispatch L .cancel).run c = (none, ((shutdown L false).run c).2) := by
  simp [dispatch]
  rfl

end

/-! ## Tearing down -/

/-- Since `J`, the journal `t` only grew by calls that take the call down. -/
def TearingDown (J t : List Effect) : Prop := J <+: t ∧ ∀ e ∈ since J t, e.teardown = true

namespace TearingDown

variable {J t : List Effect}

theorem refl (J : List Effect) : TearingDown J J := ⟨List.prefix_refl J, by simp⟩

theorem snoc (h : TearingDown J t) {e : Effect} (he : e.teardown = true) :
    TearingDown J (t ++ [e]) := by
  refine ⟨prefix_append_of h.1 [e], fun x hx => ?_⟩
  rw [since_append h.1] at hx
  rcases List.mem_append.mp hx with hx | hx
  · exact h.2 x hx
  · rw [List.mem_singleton.mp hx]
    exact he

theorem eq_append (h : TearingDown J t) :
    ∃ pre, t = J ++ pre ∧ ∀ e ∈ pre, e.teardown = true := by
  obtain ⟨⟨pre, rfl⟩, h⟩ := h
  exact ⟨pre, rfl, by simpa using h⟩

end TearingDown

/-- Every pending retry is for one of the ids of `rest`. -/
def RetriesAmong (rest retries : List (String × RetryTask)) : Prop :=
  ∀ q ∈ retries, q.1 ∈ rest.map (·.1)

namespace RetriesAmong

variable {rest retries : List (String × RetryTask)}

theorem refl (retries : List (String × RetryTask)) : RetriesAmong retries retries :=
  fun _ hq => List.mem_map_of_mem hq

/-- Cancelling the retry of the next id leaves the retries of the ids after it. -/
theorem erase {x : String × RetryTask} (h : RetriesAmong (x :: rest) retries) :
    RetriesAmong rest (Assoc.erase retries x.1) := by
  intro q hq
  obtain ⟨hq, hne⟩ := Assoc.mem_erase.mp hq
  simpa [hne] using h q hq

/-- An id with no retry left, cancelled a second time. -/
theorem absent {x : String × RetryTask} (h : RetriesAmong (x :: rest) retries)
    (hx : Assoc.get? retries x.1 = none) : RetriesAmong rest retries := by
  intro q hq
  simpa [Assoc.key_ne_of_get?_eq_none hx q hq] using h q hq

theorem eq_nil (h : RetriesAmong [] retries) : retries = [] :=
  List.eq_nil_iff_forall_not_mem.mpr fun q hq => by simpa using h q hq

end RetriesAmong

variable (L : Links σ)

/-- Tearing a live call down: retries cancelled, sessions drained and closed, the relay closed,
capture stopped, the saved call cleared when `forget`, and the view cleared last. -/
theorem shutdown_tears_down (forget : Bool) (c₀ : Call (σ × List Effect)) :
    ⦃fun c => ⌜c = c₀ ∧ c₀.ctl.ended = false⌝⦄ shutdown L.journaled forget
    ⦃⇓ _ c => ⌜c.ctl.ended = true ∧ c.ctl.registry.sessions = [] ∧ c.ctl.retries = [] ∧
      c.ctl.media = c₀.ctl.media.stopAll ∧
      ∃ pre b, c.world.2 = c₀.world.2 ++ pre ++
        .closeRelay :: ((if forget then [Effect.clear b] else []) ++ [.present .clear]) ∧
        ∀ e ∈ pre, e.teardown = true⌝⦄ := by
  mvcgen [shutdown, closeSession, cancelRetry, ctl, modifyCtl, request, ask, present, tell]
    invariants
    -- the retries loop walks a copy of the table: what is left are retries of the ids ahead
    | inv1 => ⇓ p c => ⌜c.ctl.ended = true ∧ c.ctl.registry = c₀.ctl.registry ∧
        c.ctl.media = c₀.ctl.media ∧ RetriesAmong p.1.suffix c.ctl.retries ∧
        TearingDown c₀.world.2 c.world.2⌝
    | inv2 => ⇓ _ c => ⌜c.ctl.ended = true ∧ c.ctl.registry.sessions = [] ∧
        c.ctl.retries = [] ∧ c.ctl.media = c₀.ctl.media ∧ TearingDown c₀.world.2 c.world.2⌝
  all_goals simp_all +zetaDelta [Links.journaled, Controller.noteClosed]
  case vc2.step.h_1 =>
    rename_i inv _
    exact ⟨inv.2.2.2.1.erase, inv.2.2.2.2.snoc rfl⟩
  case vc3.step.h_2 =>
    rename_i inv absent
    exact inv.2.2.2.1.absent absent
  case vc4.isFalse.pre => exact ⟨RetriesAmong.refl _, TearingDown.refl _⟩
  case vc6.step.isFalse.isTrue =>
    rename_i inv _ _
    exact inv.2.2.2.2.snoc rfl
  case vc8.isFalse.post.success.pre =>
    rename_i inv _
    exact ⟨rfl, inv.2.2.2.1.eq_nil⟩
  case vc9.isFalse.post.success.post.success.isTrue =>
    rename_i inv _ _ _ _ _ _
    obtain ⟨pre, hpre, hall⟩ := inv.2.2.2.2.eq_append
    refine ⟨pre, ?_, hall⟩
    -- the clear is journaled with whether it failed, either way
    simp [hpre, Option.isSome_iff_ne_none, em]
  case vc10.isFalse.post.success.post.success.isFalse =>
    rename_i inv _ _ _ _ _
    obtain ⟨pre, hpre, hall⟩ := inv.2.2.2.2.eq_append
    exact ⟨pre, by simp [hpre], hall⟩

/-- What ending the call `c₀` left in `c`; `forget` says whether the user ended it. -/
structure TornDown (forget : Bool) (c₀ c : Call (σ × List Effect)) : Prop where
  ended : c.ctl.ended = true
  /-- Every connection made during the call was closed, once. -/
  closed : ∀ k ∈ opened c.world.2, (closings c.world.2).count k = 1
  registry : c.ctl.registry.sessions = []
  retries : c.ctl.retries = []
  /-- Capture is stopped. -/
  media : c.ctl.media = c₀.ctl.media.stopAll
  /-- Timers disarmed and connections closed, then the relay closed, the saved call cleared
  exactly when the user ended the call, and the view cleared last; nothing saved. -/
  calls : ∃ pre b, c.world.2 = c₀.world.2 ++ pre ++
    .closeRelay :: ((if forget then [Effect.clear b] else []) ++ [.present .clear]) ∧
    ∀ e ∈ pre, e.teardown = true
  /-- Every later command is refused with `call ended`, and nothing changes. -/
  refuses : ∀ cmd, (dispatch L.journaled (.command cmd)).run c = (some Fault.ended, c)
  /-- Every later event is dropped, and nothing changes. -/
  drops : ∀ e, (dispatch L.journaled (.event e)).run c = (none, c)

/-- An input that runs the teardown of a live reachable call leaves it torn down. -/
theorem TornDown.of_input {w : σ} {c : Call (σ × List Effect)}
    (h : Reachable L.journaled (w, []) c) (hlive : c.ctl.ended = false) (forget : Bool) (i : Input)
    (hi : (dispatch L.journaled i).run c = (none, ((shutdown L.journaled forget).run c).2)) :
    TornDown L forget c ((dispatch L.journaled i).run c).2 := by
  rw [hi]
  obtain ⟨hend, hreg, hret, hmedia, hcalls⟩ :=
    Triple.run_of (shutdown_tears_down L forget c) ⟨rfl, hlive⟩
  -- the books of the torn-down call own no connection, so each was closed once
  have hb : Books [] ((shutdown L.journaled forget).run c).2 := by
    simpa [hi] using Books.of_reachable (h.step i)
  refine ⟨hend, fun k hk => ?_, hreg, hret, hmedia, hcalls, dispatch_command_of_ended _ hend,
    dispatch_event_of_ended _ hend⟩
  rcases hb.owned k hk with ⟨s, hs, -⟩ | once
  · simp [hreg] at hs
  · exact once

/-- Ending a live call, by the user or by cancelling its context, closes every connection it
made, empties its tables, closes the relay, stops capture and clears the view, clears the saved
call only when the user ended it, and freezes the call. -/
theorem call_ends_for_good {w : σ} {c : Call (σ × List Effect)}
    (h : Reachable L.journaled (w, []) c) (hlive : c.ctl.ended = false) :
    TornDown L true c ((dispatch L.journaled (.command .endCall)).run c).2 ∧
    TornDown L false c ((dispatch L.journaled .cancel).run c).2 :=
  ⟨TornDown.of_input L h hlive true _ (dispatch_endCall _ hlive),
    TornDown.of_input L h hlive false _ (dispatch_cancel _ c)⟩

/-- A call between two never-failing participants, ended right after answering a join. -/
theorem call_ends_after_join :
    let c := ((dispatch Pair.links.journaled (.event (.message (.join ⟨"b", "Bea", true⟩)))).run
      ((start Pair.links.journaled).run ⟨Controller.create default default, ({}, [])⟩).2).2
    c.ctl.ended = false ∧
    TornDown Pair.links true c ((dispatch Pair.links.journaled (.command .endCall)).run c).2 ∧
    TornDown Pair.links false c ((dispatch Pair.links.journaled .cancel).run c).2 :=
  have hlive := by decide
  ⟨hlive, call_ends_for_good Pair.links (Reachable.step _ (Reachable.init _ _)) hlive⟩

end MeshCall
