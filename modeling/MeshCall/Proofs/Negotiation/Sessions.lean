import Mathlib
import MeshCall.Proofs.Tables
/-!
# Registered sessions have negotiated

Between two inputs every registered session is another participant's and has left `new`
without being closed: its state is `offerSent`, `answerSent`, `connected` or `failed`. Inside a
handler the one session being set up may still be `new`; `Settled fresh` allows that for the
ids in `fresh`. This module shows how creating, discarding and moving sessions keep that,
whatever the links answer.
-/

namespace MeshCall

open Std.Do

set_option mvcgen.warning false

/-- The states a negotiated session can be in. -/
def SessionState.negotiated : SessionState → Bool
  | .offerSent | .answerSent | .connected | .failed => true
  | _ => false

theorem SessionState.negotiated_eq_true {st : SessionState} :
    st.negotiated = true ↔ st = .offerSent ∨ st = .answerSent ∨ st = .connected ∨ st = .failed := by
  cases st <;> simp [SessionState.negotiated]

theorem SessionState.ne_closed_of_negotiated {st : SessionState} (h : st.negotiated = true) :
    st ≠ .closed := by
  rintro rfl
  simp [SessionState.negotiated] at h

/-- A session that has negotiated, moved to a negotiated state, is in that state. -/
theorem Session.negotiated_setState {s : Session} {st : SessionState}
    (hs : s.state.negotiated = true) (hst : st.negotiated = true) :
    (s.setState st).1.state.negotiated = true := by
  simp [Session.setState_state, SessionState.ne_closed_of_negotiated hs, hst]

/-- Every session is another participant's and has negotiated, unless its id is among `fresh`
and it is still `new`. -/
def Settled (fresh : List String) (self : String) (sessions : List Session) : Prop :=
  ∀ s ∈ sessions, s.id ≠ self ∧ (s.state.negotiated = true ∨ s.id ∈ fresh ∧ s.state = .new)

namespace Settled

variable {fresh fresh' : List String} {self x : String} {ss : List Session}

@[simp] theorem nil : Settled fresh self [] := fun _ h => absurd h List.not_mem_nil

theorem mono (h : Settled fresh self ss) (hsub : fresh ⊆ fresh') : Settled fresh' self ss :=
  fun s hs => (h s hs).imp_right (Or.imp_right fun ⟨hm, hn⟩ => ⟨hsub hm, hn⟩)

theorem filter (h : Settled fresh self ss) (p : Session → Bool) :
    Settled fresh self (ss.filter p) :=
  fun s hs => h s (List.mem_of_mem_filter hs)

/-- With nothing being set up, every session has negotiated. -/
theorem of_nil (h : Settled [] self ss) {s : Session} (hs : s ∈ ss) :
    s.id ≠ self ∧ s.state.negotiated = true :=
  (h s hs).imp_right (Or.resolve_right · fun ⟨hm, _⟩ => absurd hm List.not_mem_nil)

/-- Every settled session is settled whatever is being set up. -/
@[grind ←] theorem widen (h : Settled [] self ss) : Settled [x] self ss :=
  h.mono (List.nil_subset _)

/-- Once no session of `x` is left, the one being set up for `x` is no exception any more. -/
theorem of_absent (h : Settled [x] self ss) (habs : ∀ s ∈ ss, s.id ≠ x) : Settled [] self ss := by
  intro s hs
  obtain ⟨hself, hst⟩ := h s hs
  rcases hst with hn | ⟨hm, -⟩
  · exact ⟨hself, .inl hn⟩
  · exact absurd (List.mem_singleton.mp hm) (habs s hs)

@[grind →] theorem of_get?_eq_none {r : Registry} (h : Settled [x] self r.sessions)
    (hn : r.get? x = none) : Settled [] self r.sessions :=
  h.of_absent (Registry.get?_eq_none.mp hn)

/-- A new session for another participant is the one being set up. -/
theorem append_fresh {s : Session} (h : Settled [] self ss) (hself : s.id ≠ self)
    (hnew : s.state = .new) : Settled [s.id] self (ss ++ [s]) := by
  intro s' hs'
  rcases List.mem_append.mp hs' with hs' | hs'
  · exact (h s' hs').imp_right (Or.imp_right fun ⟨hm, _⟩ => absurd hm List.not_mem_nil)
  · obtain rfl := List.mem_singleton.mp hs'
    exact ⟨hself, .inr ⟨List.mem_singleton_self _, hnew⟩⟩

/-- Moving the session of `x` to a negotiated state settles it, and leaves the others. -/
theorem setState {r : Registry} {st : SessionState} (h : Settled [x] self r.sessions)
    (hst : st.negotiated = true) :
    Settled [] self (r.modify x fun s => (s.setState st).1).sessions := by
  intro s' hs'
  obtain ⟨s, hs, rfl⟩ := List.mem_map.mp hs'
  obtain ⟨hself, hset⟩ := h s hs
  by_cases e : s.id = x
  · -- a settled session is not closed, so it takes the new state
    have hopen : s.state ≠ .closed := by
      rcases hset with hn | ⟨-, hn⟩
      · exact SessionState.ne_closed_of_negotiated hn
      · simp [hn]
    simp [e, Session.setState, hopen] at hself ⊢
    exact ⟨hself, hst⟩
  · simp only [beq_iff_eq, e, if_false]
    rcases hset with hn | ⟨hm, -⟩
    · exact ⟨hself, .inl hn⟩
    · exact absurd (List.mem_singleton.mp hm) e

/-- A change that keeps ids and takes negotiated states to negotiated ones keeps a settled
registry settled. -/
theorem modify {r : Registry} {f : Session → Session} (h : Settled [] self r.sessions)
    (hid : ∀ s, (f s).id = s.id) (hst : ∀ s, s.state.negotiated = true → (f s).state.negotiated = true) :
    Settled [] self (r.modify x f).sessions := by
  intro s' hs'
  obtain ⟨s, hs, rfl⟩ := List.mem_map.mp hs'
  obtain ⟨hself, hn⟩ := h.of_nil hs
  split
  · exact ⟨(hid s).symm ▸ hself, .inl (hst s hn)⟩
  · exact ⟨hself, .inl hn⟩

/-- Removing the registered session of an id keeps ids unique and the rest settled, and leaves
the id without a session. -/
theorem remove {r : Registry} {s : Session} (hn : (r.sessions.map (·.id)).Nodup)
    (h : Settled fresh self r.sessions) (hget : r.get? s.id = some s) :
    ((r.remove s).1.sessions.map (·.id)).Nodup ∧ Settled fresh self (r.remove s).1.sessions ∧
      (r.remove s).1.get? s.id = none := by
  rw [Registry.remove_of_get? hget]
  exact ⟨hn.sublist (List.filter_sublist.map _), h.filter _, Registry.get?_filter_self⟩

end Settled

theorem Registry.nodup_modify {r : Registry} {x : String} {f : Session → Session}
    (hn : (r.sessions.map (·.id)).Nodup) (hid : ∀ s, (f s).id = s.id) :
    ((r.modify x f).sessions.map (·.id)).Nodup := by
  have e : (r.modify x f).sessions.map (·.id) = r.sessions.map (·.id) := by
    simp only [Registry.modify, List.map_map]
    refine List.map_congr_left fun s _ => ?_
    simp only [Function.comp_apply]
    split
    · exact hid s
    · rfl
  exact e ▸ hn

variable {σ : Type}

/-- The registry between two inputs, up to the sessions of `fresh` being set up: one session
per id, each settled. -/
def Negotiated (fresh : List String) (c : Call σ) : Prop :=
  (c.ctl.registry.sessions.map (·.id)).Nodup ∧
    Settled fresh c.ctl.cfg.self.id c.ctl.registry.sessions

variable (L : Links σ)

/-- Creating a session for another participant that has none registers it as the one being set
up. -/
theorem newSession_negotiated (id name : String) (audio : Bool) :
    ⦃fun c => ⌜Negotiated [] c ∧ c.ctl.registry.get? id = none ∧ id ≠ c.ctl.cfg.self.id⌝⦄
    newSession L id name audio
    ⦃⇓ r c => ⌜Negotiated [id] c ∧ c.ctl.registry.get? id = r⌝⦄ := by
  mvcgen [newSession, ctl, modifyCtl, ask, request, present, tell]
    invariants
    | inv1 =>
      Invariant.withEarlyReturnNewDo
        (fun _ _ c => ⌜Negotiated [] c ∧ c.ctl.registry.get? id = none ∧ id ≠ c.ctl.cfg.self.id⌝)
        (fun r _ c => ⌜r = none ∧ Negotiated [] c ∧ c.ctl.registry.get? id = none⌝)
  all_goals simp_all +zetaDelta [Negotiated]
  case vc1.isTrue =>
    rename_i pre _
    exact pre.1.2.mono (List.nil_subset _)
  case vc5.isFalse.post.success.h_1 =>
    rename_i inv
    exact inv.2.1.2.mono (List.nil_subset _)
  case vc6.isFalse.post.success.h_2.h_1 =>
    rename_i old inv
    rw [Registry.upsert_of_get?_none inv.2.1] at old
    simp at old
  case vc7.isFalse.post.success.h_2.h_2 =>
    rename_i inv
    obtain ⟨⟨hn, hs⟩, hnone, hself⟩ := inv
    rw [Registry.upsert_of_get?_none hnone]
    refine ⟨⟨?_, hs.append_fresh hself rfl⟩, Registry.get?_append_of_get?_none hnone⟩
    simpa [List.nodup_append] using ⟨hn, Registry.get?_eq_none.mp hnone⟩

/-- Discarding the registered session of an id keeps the others settled; the id, another
participant's, is left without a session. -/
theorem discardSession_negotiated (s : Session) :
    ⦃fun c => ⌜Negotiated [] c ∧ c.ctl.registry.get? s.id = some s⌝⦄ discardSession L s
    ⦃⇓ _ c => ⌜Negotiated [] c ∧ c.ctl.registry.get? s.id = none ∧ s.id ≠ c.ctl.cfg.self.id⌝⦄ := by
  mvcgen [discardSession, closeSession, modifyCtl, request, ask]
  all_goals simp_all +zetaDelta [Negotiated, Controller.noteClosed]
  -- closing the session touches no registry, whether its connection is closed now or not
  case vc1.isTrue =>
    rename_i pre _
    obtain ⟨hn, hs, hnone⟩ := pre.1.2.remove pre.1.1 pre.2
    exact ⟨⟨hn, hs⟩, hnone, (pre.1.2 s (Registry.get?_eq_some pre.2).1).1⟩
  case vc2.isFalse.isTrue | vc3.isFalse.isFalse =>
    rename_i pre _ _
    obtain ⟨hn, hs, hnone⟩ := pre.1.2.remove pre.1.1 pre.2
    exact ⟨⟨hn, hs⟩, hnone, (pre.1.2 s (Registry.get?_eq_some pre.2).1).1⟩

/-- Dropping the session being set up leaves every registered session settled. -/
theorem abortNegotiation_negotiated (s : Session) :
    ⦃fun c => ⌜Negotiated [s.id] c ∧ c.ctl.registry.get? s.id = some s⌝⦄ abortNegotiation L s
    ⦃⇓ _ c => ⌜Negotiated [] c⌝⦄ := by
  mvcgen [abortNegotiation, discardSession, closeSession, modifyCtl, request, ask, present, tell]
  all_goals simp_all +zetaDelta [Negotiated, Controller.noteClosed]
  case vc1.isTrue =>
    rename_i pre _
    obtain ⟨hn, hs, hnone⟩ := pre.1.2.remove pre.1.1 pre.2
    exact ⟨hn, hs.of_absent fun s' hs' e => Registry.get?_eq_none.mp hnone s' hs' e⟩
  case vc2.isFalse.isTrue | vc3.isFalse.isFalse =>
    rename_i pre _ _
    obtain ⟨hn, hs, hnone⟩ := pre.1.2.remove pre.1.1 pre.2
    exact ⟨hn, hs.of_absent fun s' hs' e => Registry.get?_eq_none.mp hnone s' hs' e⟩

/-- Moving the session being set up to a negotiated state settles it. -/
theorem setSessionState_negotiated (id : String) (st : SessionState) :
    ⦃fun c => ⌜Negotiated [id] c ∧ st.negotiated = true⌝⦄
    (setSessionState id st : CallM σ Unit) ⦃⇓ _ c => ⌜Negotiated [] c⌝⦄ := by
  mvcgen [setSessionState, modifyCtl]
  rename_i pre _
  obtain ⟨⟨hn, hs⟩, hst⟩ := pre
  refine ⟨Registry.nodup_modify hn fun s => ?_, hs.setState hst⟩
  unfold Session.setState
  split <;> rfl

/-- Switching the active stream leaves the registry alone. -/
theorem setActiveStream_negotiated (stream : Nat) :
    ⦃fun c => ⌜Negotiated [] c⌝⦄ setActiveStream L stream ⦃⇓ _ c => ⌜Negotiated [] c⌝⦄ := by
  mvcgen [setActiveStream, ctl, modifyCtl, request, ask, present, tell]
    invariants
    | inv1 => ⇓ _ c => ⌜Negotiated [] c⌝
    | inv2 => ⇓ _ c => ⌜Negotiated [] c⌝

/-- Tearing the call down empties the registry. -/
theorem shutdown_negotiated (forget : Bool) :
    ⦃fun c => ⌜Negotiated [] c⌝⦄ shutdown L forget ⦃⇓ _ c => ⌜Negotiated [] c⌝⦄ := by
  mvcgen [shutdown, closeSession, cancelRetry, ctl, modifyCtl, request, ask, present, tell]
    invariants
    | inv1 => ⇓ _ c => ⌜Negotiated [] c⌝
    | inv2 => ⇓ _ c => ⌜Negotiated [] c⌝
  all_goals simp_all +zetaDelta [Negotiated, Registry.drain]

end MeshCall
