import Mathlib
import MeshCall.Proofs.Retries.Steps
import MeshCall.Proofs.Connections
/-!
# Retries in a row are bounded

A failed connection is rebuilt at most the configured number of times in a row. The bound is
checked when a retry is armed, while the count is raised when the retry runs, and a retry still
queued is not cancelled by a newer one; what keeps the count bounded is that a retry runs only
on the current session of its id, failed and of the retry's own generation. So a retry armed
below the bound either still is below it when it runs, or finds its connection closed: between
its arming and its run no other retry of its id can run, since that one would close the session
it needs.

A run is a list of inputs handled one after the other. In a timed run every retry handled was
armed before, as the timers of the event loop post only retries that were armed. Along every
timed run with a positive bound, every stretch in which no input resets the count of an id holds
at most that many rebuilds of it; and along every run whatever, each rebuild takes the failed
current session of its generation out of the registry and closes it, so that no session is
rebuilt twice.
-/

namespace MeshCall

open Std.Do

set_option mvcgen.warning false

variable {σ : Type}

/-! ## The books of retries -/

/-- The retry books for a bound `N` of retries in a row: no id is past the bound, every retry
was armed for a connection that was made, and a retry armed for a connection still open finds
its id below the bound. -/
structure RetryLedger (N : Int) (att armed made shut : List (String × Nat)) : Prop where
  bounded : ∀ id, ((Assoc.get? att id).getD 0 : Int) ≤ N
  armed_made : ∀ k ∈ armed, k ∈ made
  below : ∀ k ∈ armed, k ∈ shut ∨ ((Assoc.get? att k.1).getD 0 : Int) < N

/-- The retry books of a journaled call whose bound of retries in a row is `N`. -/
def RetryBooks (N : Int) (c : Call (σ × List Effect)) : Prop :=
  c.ctl.cfg.retry.maxAttempts = N ∧
    RetryLedger N c.ctl.attempts (armedRetries c.world.2) (opened c.world.2) (closings c.world.2)

namespace Controller

variable {c : Controller}

/-- A rebuild is a retry of the current session of an id, failed, in a live call. -/
theorem retryTarget_eq_some {i : Input} {s : Session} (h : c.retryTarget i = some s) :
    c.ended = false ∧ i = .event (.retry s.id s.gen) ∧ c.registry.get? s.id = some s ∧
      s.state = .failed := by
  unfold retryTarget at h
  split at h
  · exact absurd h (by simp)
  · rename_i hl
    split at h
    · rename_i id gen
      obtain ⟨hs, hf⟩ := Option.filter_eq_some_iff.mp h
      obtain ⟨hg, rfl⟩ := Registry.lookup_eq_some.mp hs
      have hid : s.id = id := (Registry.get?_eq_some hg).2
      subst hid
      exact ⟨by simpa using hl, rfl, hg, by simpa using hf⟩
    · exact absurd h (by simp)

/-- A retry is armed for a failure report of the current session of an id, below the bound. -/
theorem armsRetry_eq_some {i : Input} {k : String × Nat} (h : c.armsRetry i = some k) :
    i = .event (.peerState k.1 k.2 .failed) ∧ (c.registry.lookup k.1 k.2).isSome ∧
      c.retriesExhausted k.1 = false := by
  unfold armsRetry at h
  split at h
  · exact absurd h (by simp)
  · split at h
    · rename_i id gen
      split at h
      · rename_i hc
        obtain rfl := (Option.some.inj h).symm
        simp only [Bool.and_eq_true, Bool.not_eq_eq_eq_not, Bool.not_true] at hc
        exact ⟨rfl, Option.isSome_of_any hc.1, hc.2⟩
      · exact absurd h (by simp)
    · exact absurd h (by simp)

/-- A failure report neither resets nor rebuilds. -/
theorem armsRetry_quiet {i : Input} {k : String × Nat} (h : c.armsRetry i = some k)
    (id : String) : c.resetsRetries id i = false ∧ c.runsRetry id i = false := by
  obtain ⟨rfl, -⟩ := armsRetry_eq_some h
  simp [resetsRetries, runsRetry, retryTarget]

/-- A retry armed by a step finds its id below the bound, which the step leaves as it was. -/
theorem armsRetry_below {N : Int} (hN : 0 < N) (hmax : c.cfg.retry.maxAttempts = N) {i : Input}
    {k : String × Nat} (hk : c.armsRetry i = some k) :
    ((Assoc.get? (c.attemptsAfter i) k.1).getD 0 : Int) < N := by
  obtain ⟨hres, hrun⟩ := armsRetry_quiet hk k.1
  obtain ⟨-, -, hfree⟩ := armsRetry_eq_some hk
  rw [retriesInRow_after, hres, hrun]
  simp only [retriesExhausted, hmax, Bool.and_eq_false_iff, decide_eq_false_iff_not,
    not_le] at hfree
  simp only [Bool.false_eq_true, if_false, Nat.add_zero]
  omega

end Controller

/-- Whether a timer armed before could have posted `i`: a retry is handled only once it was
armed. -/
def Fired (t : List Effect) : Input → Prop
  | .event (.retry id gen) => (id, gen) ∈ armedRetries t
  | _ => True

instance (t : List Effect) (i : Input) : Decidable (Fired t i) :=
  match i with
  | .event (.retry id gen) => inferInstanceAs (Decidable ((id, gen) ∈ armedRetries t))
  | .event (.message _) | .event (.relayUp _) | .event .relayDown | .event (.peerState ..)
  | .event (.localCandidate ..) | .event (.speaking ..) | .event (.remoteMeter ..)
  | .event (.screenEnded _) | .command _ | .cancel => isTrue trivial

namespace Books

variable {c : Call (σ × List Effect)} {id : String} {s : Session}

/-- The current session of an id is live: its connection was made and not closed. -/
theorem live_of_get? (hb : Books [] c) (h : c.ctl.registry.get? id = some s) :
    Live c.ctl.lastGen (opened c.world.2) (closings c.world.2) s :=
  hb.alive s (by simpa using (Registry.get?_eq_some h).1)

/-- Every other connection made for an id that has a current session was closed. -/
theorem closed_of_superseded (hb : Books [] c) {k : String × Nat}
    (h : c.ctl.registry.get? k.1 = some s) (hk : k ∈ opened c.world.2) (hne : s.key ≠ k) :
    k ∈ closings c.world.2 := by
  rcases hb.owned k hk with ⟨s', hs', rfl⟩ | once
  · -- the owner of `k` is the current session of its id, which is `s`
    have hm : s' ∈ c.ctl.registry.sessions := by simpa using hs'
    have hids : (c.ctl.registry.sessions.map (·.id)).Nodup := by simpa using hb.ids
    have e : s = s' := Option.some.inj (h.symm.trans (Registry.get?_of_mem hids hm))
    exact absurd (congrArg Session.key e) hne
  · exact List.count_pos_iff.mp (once ▸ Nat.one_pos)

end Books

namespace RetryLedger

variable {N : Int} {c : Call (σ × List Effect)}

/-- A retry that rebuilds was armed below the bound: its connection is still open. -/
theorem target_below
    (hl : RetryLedger N c.ctl.attempts (armedRetries c.world.2) (opened c.world.2)
      (closings c.world.2))
    (hb : Books [] c) {i : Input} (hi : Fired c.world.2 i) {s : Session}
    (ht : c.ctl.retryTarget i = some s) : (c.ctl.retriesInRow s.id : Int) < N := by
  obtain ⟨-, rfl, hg, -⟩ := Controller.retryTarget_eq_some ht
  rcases hl.below _ hi with hshut | hlt
  · exact absurd hshut (hb.live_of_get? hg).unshut
  · exact hlt

end RetryLedger

/-- One timed step keeps the retry books of a call whose connection books hold. -/
theorem RetryBooks.step (L : Links σ) {N : Int} (hN : 0 < N) {c : Call (σ × List Effect)}
    (hb : Books [] c) (hr : RetryBooks N c) {i : Input} (hi : Fired c.world.2 i) :
    RetryBooks N ((dispatch L.journaled i).run c).2 := by
  obtain ⟨⟨⟨more, hmore⟩, harm, hcfg, hatt⟩, htarget⟩ := Triple.run_of (dispatch_retries L c i) rfl
  obtain ⟨hmax, hl⟩ := hr
  unfold RetryBooks
  rw [← hmore] at harm htarget ⊢
  simp only [since_append_self] at harm htarget
  refine ⟨hcfg ▸ hmax, fun id => ?_, fun k hk => ?_, fun k hk => ?_⟩
  · -- bounded: only a rebuild raises a count, and it was below the bound
    rw [hatt, Controller.retriesInRow_after]
    split_ifs with hres hrun
    · omega
    · obtain ⟨s, hs, hsid⟩ := (Option.any_eq_true _ _).mp hrun
      have := hl.target_below hb hi hs
      simp only [beq_iff_eq] at hsid
      subst hsid
      push_cast
      omega
    · simpa [Controller.retriesInRow] using hl.bounded id
  · -- a retry is armed for the current session of its id, whose connection was made
    rw [armedRetries_append, harm] at hk
    rcases List.mem_append.mp hk with hk | hk
    · exact opened_append .. ▸ List.mem_append_left _ (hl.armed_made k hk)
    · obtain ⟨-, hs, -⟩ := Controller.armsRetry_eq_some (Option.mem_toList.mp hk)
      obtain ⟨s, hs⟩ := Option.isSome_iff_exists.mp hs
      obtain ⟨hg, hgen⟩ := Registry.lookup_eq_some.mp hs
      have hid : s.id = k.1 := (Registry.get?_eq_some hg).2
      have hkey : s.key = k := by simp [Session.key, hid, hgen]
      exact opened_append .. ▸ List.mem_append_left _ (hkey ▸ (hb.live_of_get? hg).made)
  · rw [armedRetries_append, harm] at hk
    rcases List.mem_append.mp hk with hk | hk
    · rcases hl.below k hk with hshut | hlt
      · exact .inl (closings_append .. ▸ List.mem_append_left _ hshut)
      rw [hatt, Controller.retriesInRow_after]
      split_ifs with hres hrun
      · exact .inr (by omega)
      · -- a rebuild of the id either closes `k` itself or finds `k` superseded, hence closed
        obtain ⟨s, hs, hsid⟩ := (Option.any_eq_true _ _).mp hrun
        simp only [beq_iff_eq] at hsid
        obtain ⟨-, -, hg, -⟩ := Controller.retryTarget_eq_some hs
        left
        rw [closings_append]
        by_cases hkey : s.key = k
        · exact List.mem_append_right _ (hkey ▸ (htarget s hs).1 (hb.live_of_get? hg).not_done)
        · exact List.mem_append_left _
            (hb.closed_of_superseded (hsid ▸ hg) (hl.armed_made k hk) hkey)
      · exact .inr (by simpa [Controller.retriesInRow] using hlt)
    · exact .inr (hatt ▸ Controller.armsRetry_below hN hmax (Option.mem_toList.mp hk))

/-- A fresh call has retried nothing and armed nothing. -/
theorem start_retries (L : Links σ) (w : σ) {cfg : CallConfig} (hN : 0 < cfg.retry.maxAttempts)
    (media : Media.Manager) :
    RetryBooks cfg.retry.maxAttempts
      ((start L.journaled).run ⟨Controller.create cfg media, (w, [])⟩).2 := by
  have h : ⦃fun c => ⌜c = ⟨Controller.create cfg media, (w, [])⟩⌝⦄ start L.journaled
      ⦃⇓ _ c => ⌜RetryBooks cfg.retry.maxAttempts c⌝⦄ := by
    mvcgen [start, ctl, present, tell]
    simp_all +zetaDelta [RetryBooks, Links.journaled, Controller.create, RetryPolicy.normalize,
      apply_ite]
    exact ⟨fun _ => by simpa using hN.le, fun _ h => absurd h List.not_mem_nil,
      fun _ h => absurd h List.not_mem_nil⟩
  exact Triple.run_of h rfl

/-! ## Runs -/

/-- The calls a run from `c` passes through, each with the input it handles there. -/
def visits (L : Links σ) (c : Call σ) : List Input → List (Call σ × Input)
  | [] => []
  | i :: is => (c, i) :: visits L ((dispatch L i).run c).2 is

/-- The call a run from `c` ends in. -/
def runInputs (L : Links σ) (c : Call σ) : List Input → Call σ
  | [] => c
  | i :: is => runInputs L ((dispatch L i).run c).2 is

theorem visits_append (L : Links σ) (c : Call σ) (is js : List Input) :
    visits L c (is ++ js) = visits L c is ++ visits L (runInputs L c is) js := by
  induction is generalizing c with
  | nil => rfl
  | cons i is ih => simp [visits, runInputs, ih]

section

variable {L : Links σ} {w : σ}

theorem Reachable.runInputs {c : Call σ} (h : Reachable L w c) (is : List Input) :
    Reachable L w (runInputs L c is) := by
  induction is generalizing c with
  | nil => exact h
  | cons i is ih => exact ih (h.step i)

theorem Reachable.visits {c : Call σ} (h : Reachable L w c) {is : List Input} :
    ∀ v ∈ visits L c is, Reachable L w v.1 := by
  induction is generalizing c with
  | nil => simp [MeshCall.visits]
  | cons i is ih =>
    intro v hv
    rcases List.mem_cons.mp hv with rfl | hv
    · exact h
    · exact ih (h.step i) v hv

end

/-! ## Along a run -/

theorem dispatch_extends_journal (L : Links σ) (c : Call (σ × List Effect)) (i : Input) :
    c.world.2 <+: ((dispatch L.journaled i).run c).2.world.2 :=
  (Triple.run_of (dispatch_retries L c i) rfl).1.1

theorem retriesInRow_dispatch (L : Links σ) (c : Call (σ × List Effect)) (i : Input) (id : String) :
    ((dispatch L.journaled i).run c).2.ctl.retriesInRow id =
      if c.ctl.resetsRetries id i then 0
      else c.ctl.retriesInRow id + if c.ctl.runsRetry id i then 1 else 0 := by
  have hatt := (Triple.run_of (dispatch_retries L c i) rfl).1.2.2.2
  unfold Controller.retriesInRow
  rw [hatt]
  exact Controller.retriesInRow_after ..

section

variable {L : Links σ} {w : σ} {N : Int}

/-- The journal only grows along a run. -/
theorem journal_prefix_visits (c : Call (σ × List Effect)) {is : List Input} :
    ∀ v ∈ visits L.journaled c is, c.world.2 <+: v.1.world.2 := by
  induction is generalizing c with
  | nil => simp [visits]
  | cons i is ih =>
    intro v hv
    rcases List.mem_cons.mp hv with rfl | hv
    · exact List.prefix_refl _
    · exact (dispatch_extends_journal L c i).trans (ih _ v hv)

/-- A timed run keeps the retry books. -/
theorem RetryBooks.runInputs (hN : 0 < N) {c : Call (σ × List Effect)}
    (hc : Reachable L.journaled (w, []) c) (hr : RetryBooks N c) {is : List Input}
    (ht : ∀ v ∈ visits L.journaled c is, Fired v.1.world.2 v.2) :
    RetryBooks N (runInputs L.journaled c is) := by
  induction is generalizing c with
  | nil => exact hr
  | cons i is ih =>
    have hi : Fired c.world.2 i := ht (c, i) List.mem_cons_self
    exact ih (hc.step i) (hr.step L hN (Books.of_reachable hc) hi)
      fun v hv => ht v (List.mem_cons_of_mem _ hv)

/-- Along a timed stretch in which nothing resets the count of `id`, the retries in a row of
`id` at its start and the rebuilds of `id` in it are at most the bound together. -/
theorem retries_in_stretch (hN : 0 < N) {c : Call (σ × List Effect)}
    (hc : Reachable L.journaled (w, []) c) (hr : RetryBooks N c) (id : String)
    {is : List Input} (ht : ∀ v ∈ visits L.journaled c is, Fired v.1.world.2 v.2)
    (hq : ∀ v ∈ visits L.journaled c is, v.1.ctl.resetsRetries id v.2 = false) :
    (c.ctl.retriesInRow id : Int) +
      ((visits L.journaled c is).countP fun v => v.1.ctl.runsRetry id v.2) ≤ N := by
  induction is generalizing c with
  | nil => simpa [visits, Controller.retriesInRow] using hr.2.bounded id
  | cons i is ih =>
    have hi : Fired c.world.2 i := ht (c, i) List.mem_cons_self
    have hres : c.ctl.resetsRetries id i = false := hq (c, i) List.mem_cons_self
    -- the rest of the stretch starts one rebuild further, if this input is one
    have hrest := ih (hc.step i) (hr.step L hN (Books.of_reachable hc) hi)
      (fun v hv => ht v (List.mem_cons_of_mem _ hv)) (fun v hv => hq v (List.mem_cons_of_mem _ hv))
    rw [retriesInRow_dispatch, hres] at hrest
    simp only [visits, List.countP_cons]
    cases hrun : c.ctl.runsRetry id i <;> simp only [hrun] at hrest ⊢ <;> push_cast at hrest ⊢ <;>
      omega

/-- No session is rebuilt twice along a run: a rebuild closes the connection of the session it
rebuilds, and every later rebuild is of a session whose connection is open. -/
theorem rebuilds_nodup {c : Call (σ × List Effect)} (hc : Reachable L.journaled (w, []) c)
    (is : List Input) :
    ((visits L.journaled c is).filterMap fun v => (v.1.ctl.retryTarget v.2).map Session.key).Nodup := by
  induction is generalizing c with
  | nil => simp [visits]
  | cons i is ih =>
    simp only [visits, List.filterMap_cons]
    cases ht : c.ctl.retryTarget i with
    | none => exact ih (hc.step i)
    | some s =>
      refine List.nodup_cons.mpr ⟨fun hm => ?_, ih (hc.step i)⟩
      obtain ⟨v, hv, hk⟩ := List.mem_filterMap.mp hm
      obtain ⟨s', hs', hkey⟩ := Option.map_eq_some_iff.mp hk
      have hb := Books.of_reachable hc
      -- the step closes the rebuilt session's connection, and the journal keeps it closed
      have hstep := (Triple.run_of (dispatch_retries L c i) rfl).2 s ht
      have hshut := hstep.1 (hb.live_of_get? (Controller.retryTarget_eq_some ht).2.2.1).not_done
      have hlater : s.key ∈ closings v.1.world.2 :=
        (((journal_prefix_visits _ v hv).sublist.filterMap _).subset
          (((List.drop_sublist _ _).filterMap _).subset hshut))
      have hlive := (Books.of_reachable ((hc.step i).visits v hv)).live_of_get?
        (Controller.retryTarget_eq_some hs').2.2.1
      exact hlive.unshut (hkey ▸ hlater)

end

/-! ## Retries between resets -/

/-- Retries in a row are bounded. Take a call made with a positive bound `N` and fed the inputs
`pre ++ seg`, each retry among them armed before it is handled: in the stretch `seg`, where
nothing resets the count of an id, that id is rebuilt at most `N` times. Along any run, whatever
the bound, a retry rebuilds exactly when it finds the current session of its id failed and of its
generation, and then takes that session out of the registry, while any other retry leaves the
registry alone; and no session is rebuilt twice. -/
theorem retries_bounded_between_resets (L : Links σ) (w : σ) (cfg : CallConfig)
    (media : Media.Manager) :
    let c₀ := ((start L.journaled).run ⟨Controller.create cfg media, (w, [])⟩).2
    (0 < cfg.retry.maxAttempts → ∀ (pre seg : List Input) (id : String),
      (∀ v ∈ visits L.journaled c₀ (pre ++ seg), Fired v.1.world.2 v.2) →
      (∀ v ∈ visits L.journaled (runInputs L.journaled c₀ pre) seg,
        v.1.ctl.resetsRetries id v.2 = false) →
      (((visits L.journaled (runInputs L.journaled c₀ pre) seg).countP
        fun v => v.1.ctl.runsRetry id v.2 : Nat) : Int) ≤ cfg.retry.maxAttempts) ∧
    ∀ is : List Input,
      (∀ v ∈ visits L.journaled c₀ is, ∀ s, v.1.ctl.retryTarget v.2 = some s →
        v.2 = .event (.retry s.id s.gen) ∧ v.1.ctl.registry.get? s.id = some s ∧
          s.state = .failed ∧ ((dispatch L.journaled v.2).run v.1).2.ctl.registry.get? s.id = none) ∧
      (∀ v ∈ visits L.journaled c₀ is, ∀ id gen, v.2 = .event (.retry id gen) →
        v.1.ctl.retryTarget v.2 = none →
          ((dispatch L.journaled v.2).run v.1).2.ctl.registry = v.1.ctl.registry) ∧
      ((visits L.journaled c₀ is).filterMap
        fun v => (v.1.ctl.retryTarget v.2).map Session.key).Nodup := by
  intro c₀
  have hc₀ : Reachable L.journaled (w, []) c₀ := Reachable.init cfg media
  refine ⟨fun hN pre seg id ht hq => ?_,
    fun is => ⟨fun v hv s hs => ?_, fun v _ id gen hi hs => ?_, rebuilds_nodup hc₀ is⟩⟩
  · rw [visits_append] at ht
    -- the books hold where the stretch starts, and bound its rebuilds with the count there
    have hr := (start_retries L w hN media).runInputs hN hc₀
      fun v hv => ht v (List.mem_append_left _ hv)
    have hle := retries_in_stretch hN (hc₀.runInputs pre) hr id
      (fun v hv => ht v (List.mem_append_right _ hv)) hq
    omega
  · obtain ⟨-, hi, hg, hf⟩ := Controller.retryTarget_eq_some hs
    exact ⟨hi, hg, hf, ((Triple.run_of (dispatch_retries L v.1 v.2) rfl).2 s hs).2⟩
  · rw [hi] at hs ⊢
    exact Triple.run_of (dispatch_idle_retry L v.1 id gen) ⟨rfl, hs⟩

/-- With a bound of one, a session that failed is rebuilt once. -/
theorem one_retry_after_failure :
    let c₀ : Call (Pair.Side × List Effect) := ((start Pair.links.journaled).run
      ⟨Controller.create ⟨⟨"a", "Ann"⟩, "r", { maxAttempts := 1 }, 0⟩ default, ({}, [])⟩).2
    let seg := [Input.event (.message (.join ⟨"b", "Bea", true⟩)),
      .event (.peerState "b" 1 .failed), .event (.retry "b" 1)]
    (∀ v ∈ visits Pair.links.journaled c₀ ([] ++ seg), Fired v.1.world.2 v.2) ∧
      (∀ v ∈ visits Pair.links.journaled (runInputs Pair.links.journaled c₀ []) seg,
        v.1.ctl.resetsRetries "b" v.2 = false) ∧
      (((visits Pair.links.journaled (runInputs Pair.links.journaled c₀ []) seg).countP
        fun v => v.1.ctl.runsRetry "b" v.2 : Nat) : Int) ≤ 1 :=
  have hf : ∀ v ∈ visits Pair.links.journaled _ ([] ++ _), Fired v.1.world.2 v.2 := by decide
  have hq : ∀ v ∈ visits Pair.links.journaled _ _, v.1.ctl.resetsRetries "b" v.2 = false := by
    decide
  ⟨hf, hq, (retries_bounded_between_resets Pair.links {} _ default).1 (by decide) [] _ "b" hf hq⟩

end MeshCall
