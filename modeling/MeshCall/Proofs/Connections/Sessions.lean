import Mathlib
import MeshCall.Proofs.Journal
import MeshCall.Proofs.Ledger
import MeshCall.Proofs.Negotiation.Sessions
/-!
# The books through session creation and teardown

With the calls journaled, the books of a call read the registry, the counters and the meters
of the controller against the journal. Creating a session keeps them: a refused creation only
uses up a generation, a connection that refuses a track is closed at once, and one that takes
every track is owned by the new session. Discarding the registered session of an id closes its
connection once and takes it off the books.
-/

namespace MeshCall

open Std.Do

set_option mvcgen.warning false

variable {σ : Type}

/-- The books of a journaled call, `pending` being sessions taken out of the registry and not
closed yet. -/
def Books (pending : List Session) (c : Call (σ × List Effect)) : Prop :=
  Ledger (c.ctl.registry.sessions ++ pending) c.ctl.lastGen c.ctl.counters.opened
    c.ctl.counters.closed c.ctl.meters (opened c.world.2) (closings c.world.2) (tried c.world.2)

/-- The books while the connection `(id, gen)` is set up: it is counted as closed until a
session owns it. -/
def Pending (id : String) (gen : Nat) (c : Call (σ × List Effect)) : Prop :=
  c.ctl.lastGen = gen ∧
  Ledger c.ctl.registry.sessions gen c.ctl.counters.opened c.ctl.counters.closed c.ctl.meters
    (opened c.world.2) (closings c.world.2 ++ [(id, gen)]) (tried c.world.2) ∧
  (id, gen) ∈ opened c.world.2 ∧ (id, gen) ∉ closings c.world.2 ∧ c.ctl.registry.get? id = none

variable (L : Links σ)

/-- Creating a session for an id that has none keeps the books, and registers what it returns. -/
theorem newSession_books (id name : String) (audio : Bool) :
    ⦃fun c => ⌜Books [] c ∧ c.ctl.registry.get? id = none⌝⦄
    newSession L.journaled id name audio
    ⦃⇓ r c => ⌜Books [] c ∧ c.ctl.registry.get? id = r⌝⦄ := by
  mvcgen [newSession, ctl, modifyCtl, ask, request, present, tell]
    invariants
    | inv1 gen _ _ _ _ _ =>
      -- until the loop returns, the new connection is counted as closed
      Invariant.withEarlyReturnNewDo (fun _ _ c => ⌜Pending id gen c⌝)
        (fun r _ c => ⌜r = none ∧ Books [] c ∧ c.ctl.registry.get? id = none⌝)
  all_goals simp +zetaDelta [Books, Pending, Links.journaled, Effect.opened?, Effect.closing?,
    Effect.tried?] at *
  case vc1.isTrue =>
    rename_i failed pre
    obtain ⟨hb, hn⟩ := pre
    simpa [failed] using And.intro hb.refuse hn
  case vc2.step.isTrue =>
    rename_i inv
    obtain ⟨-, hg, hl, -, -, hn⟩ := inv
    rw [hg]
    exact ⟨hl, hn⟩
  case vc3.step.isFalse =>
    rename_i inv _
    exact inv.2
  case vc4.isFalse.pre =>
    rename_i pre made
    obtain ⟨hb, hn⟩ := pre
    simpa [made, hb.next_not_shut id, hn] using hb.made_shut id
  case vc5.isFalse.post.success.h_1 =>
    rename_i r a ret _ _ _ inv
    rcases inv with ⟨hr, -⟩ | ⟨hr, hb, hn⟩
    · simp [hr] at ret
    · obtain rfl : a = none := by simpa [hr] using ret.symm
      exact ⟨hb, hn⟩
  case vc6.isFalse.post.success.h_2.h_1 =>
    rename_i r ret _ _ _ _ old _ _ inv
    rcases inv with ⟨-, -, -, -, -, hn⟩ | ⟨hr, -⟩
    · rw [Registry.upsert_of_get?_none hn] at old
      simp at old
    · simp [hr] at ret
  case vc7.isFalse.post.success.h_2.h_2 =>
    rename_i r ret _ _ _ _ _ _ _ _ _ _ _ inv
    rcases inv with ⟨-, hg, hl, hmade, hshut, hn⟩ | ⟨hr, -⟩
    · rw [Registry.upsert_of_get?_none hn, hg]
      exact ⟨hl.register hmade hshut (Registry.id_not_mem_of_get?_eq_none hn) le_rfl (by simp) rfl,
        Registry.get?_append_of_get?_none hn⟩
    · simp [hr] at ret

/-- Discarding the registered session of an id closes its connection and keeps the books. -/
theorem discardSession_books (s : Session) :
    ⦃fun c => ⌜Books [] c ∧ c.ctl.registry.get? s.id = some s⌝⦄
    discardSession L.journaled s
    ⦃⇓ _ c => ⌜Books [] c ∧ c.ctl.registry.get? s.id = none⌝⦄ := by
  mvcgen [discardSession, closeSession, modifyCtl, request, ask]
  all_goals simp +zetaDelta [Books, Links.journaled, Effect.opened?, Effect.closing?,
    Effect.tried?, Controller.noteClosed] at *
  -- a registered session is live: neither closed nor closed before
  case vc1.isTrue =>
    rename_i closed pre
    exact absurd closed (pre.1.alive s (Registry.get?_eq_some pre.2).1).not_closed
  case vc3.isFalse.isFalse =>
    rename_i pre again
    simp [Session.close, (pre.1.alive s (Registry.get?_eq_some pre.2).1).not_done] at again
  case vc2.isFalse.isTrue =>
    rename_i pre
    obtain ⟨hb, hget⟩ := pre
    rw [Registry.remove_of_get? hget]
    have hp := (Registry.filter_perm hb.ids hget).symm.trans (List.perm_append_singleton _ _)
    simpa [Session.key, Registry.get?_filter_self] using (hb.perm hp).close

/-- Moving a registered session to any state but `closed` keeps its connection. -/
theorem setSessionState_books (id : String) (st : SessionState) :
    ⦃fun c => ⌜Books [] c ∧ st ≠ .closed⌝⦄ (setSessionState id st : CallM (σ × List Effect) Unit)
    ⦃⇓ _ c => ⌜Books [] c⌝⦄ := by
  mvcgen [setSessionState, modifyCtl]
  rename_i pre _
  simp only [Books, List.append_nil] at pre ⊢
  exact pre.1.modify (keeps_setState pre.2) id

/-- Switching the active stream only asks connections to replace tracks. -/
theorem setActiveStream_books (stream : Nat) :
    ⦃fun c => ⌜Books [] c⌝⦄ setActiveStream L.journaled stream ⦃⇓ _ c => ⌜Books [] c⌝⦄ := by
  mvcgen [setActiveStream, ctl, modifyCtl, request, ask, present, tell]
    invariants
    | inv1 => ⇓ _ c => ⌜Books [] c⌝
    | inv2 => ⇓ _ c => ⌜Books [] c⌝
  all_goals simp_all +zetaDelta [Books, Links.journaled, Effect.opened?, Effect.closing?,
    Effect.tried?]

/-- Tearing the call down closes every session's connection once. -/
theorem shutdown_books (forget : Bool) :
    ⦃fun c => ⌜Books [] c⌝⦄ shutdown L.journaled forget ⦃⇓ _ c => ⌜Books [] c⌝⦄ := by
  mvcgen [shutdown, closeSession, cancelRetry, ctl, modifyCtl, request, ask, present, tell]
    invariants
    | inv1 => ⇓ _ c => ⌜Books [] c⌝
    | inv2 => ⇓ p c => ⌜Books p.1.suffix c⌝
  all_goals simp_all +zetaDelta [Books, Links.journaled, Effect.opened?, Effect.closing?,
    Effect.tried?, Controller.noteClosed]
  -- every drained session is live until its turn comes: neither closed nor closed before
  case vc5.step.isTrue =>
    rename_i inv closed
    exact absurd closed inv.live_middle.not_closed
  case vc7.step.isFalse.isFalse =>
    rename_i inv _ again
    simp [Session.close, inv.live_middle.not_done] at again
  case vc6.step.isFalse.isTrue =>
    rename_i inv _ _
    simpa [Session.key] using inv.close_middle
  case vc8.isFalse.post.success.pre =>
    rename_i inv
    simpa [Registry.drain] using inv.perm Registry.snapshot_perm.symm

end MeshCall
