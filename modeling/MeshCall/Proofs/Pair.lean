import Mathlib
import MeshCall.Proofs.Pair.Invariant
/-!
# Two parties agree on one connection

What the invariant of the pair gives about the envelopes and sessions of both controllers, in
every state the pair reaches: neither sends more than one offer or one answer; an offer goes
unanswered only at the party with the larger id while that party holds its own offer, so that
crossing offers are settled by exactly one side; and once both are connected with nothing
left to handle, exactly one of them holds a connected session, on the answer the other created.
-/

namespace MeshCall.Pair

variable {U : Setup} {S : State} {φ : Phase} {p : Party}

/-- `p` holds a connected session for the other party, whose connection has for its remote
description the answer that the other party's connection for its answering session created. -/
def Settled (U : Setup) (S : State) (p : Party) : Prop :=
  ∃ s t d, (S.call p).ctl.registry.get? (U.id p.other) = some s ∧ s.state = .connected ∧
    (S.call p.other).ctl.registry.get? (U.id p) = some t ∧ t.state = .answerSent ∧
    ((S.call p).world.line? (U.id p.other) s.gen).bind Line.remoteDesc = some d ∧
    ((S.call p.other).world.line? (U.id p) t.gen).bind Line.localDesc = some d ∧
    d.type = .answer

/-- At every stage a party has sent at most one offer and at most one answer. -/
theorem Stage.offers_answers_le_one (st : Stage) :
    (st.sent.map (U.note p)).countP (fun m => m.type == "offer") ≤ 1 ∧
      (st.sent.map (U.note p)).countP (fun m => m.type == "answer") ≤ 1 := by
  cases st <;> simp [Stage.sent, Setup.note, Setup.join, Setup.desc, Envelope.type]

/-- Handling an offer, a party sends nothing exactly when it has the larger id and holds its
own offer for the other; otherwise it sends the other one answer. -/
theorem Moves.offer_reply {st st' : Stage} {m : Envelope} {c : Call Side}
    (hm : Moves U p st (.message m) st') (ho : m.type = "offer") (hc : Ctl U p c st.session) :
    (st'.sent.map (U.note p) = st.sent.map (U.note p) ↔ U.id p.other < U.id p ∧
      ∃ s, c.ctl.registry.get? (U.id p.other) = some s ∧ s.state = .offerSent) ∧
    (st'.sent.map (U.note p) ≠ st.sent.map (U.note p) → ∃ a,
      st'.sent.map (U.note p) = st.sent.map (U.note p) ++ [a] ∧ a.type = "answer" ∧
        a.recipient = U.id p.other) := by
  obtain ⟨-, -, -, hholds, -⟩ := hc
  cases hm with
  | join => simp [Setup.note, Setup.join, Envelope.type] at ho
  | offer =>
    simp only [Holds, Stage.session] at hholds
    simp [Stage.sent, Registry.get?, hholds, Setup.note, Setup.desc, Envelope.type,
      Envelope.recipient]
  | keep hlt =>
    obtain ⟨s, hs, hid, -, hst, -⟩ := hholds
    simp [hlt, Registry.get?, hs, hid, hst, Stage.sent]
  | yield hlt =>
    simp [hlt, Stage.sent, Setup.note, Setup.desc, Envelope.type, Envelope.recipient]
  | answer => simp [Setup.note, Setup.desc, Envelope.type] at ho
  | win => simp [Setup.note, Setup.desc, Envelope.type] at ho

theorem Setup.exists_role (U : Setup) (r : Role) : ∃ q, U.role q = r := by
  by_cases h : U.role .a = r
  · exact ⟨.a, h⟩
  · refine ⟨.b, ?_⟩
    have hb : U.role .b = (U.role .a).other := U.role_other .a
    cases r <;> cases ha : U.role .a <;> simp_all [Role.other]

/-- With both parties connected and both queues empty, each role is past its relay-connected
event with nothing left to handle. -/
theorem Runs.quiet (h : Runs U S φ) (hq : ∀ q, S.up q = true ∧ S.queue q = []) (r : Role) :
    φ.stage r ≠ .down ∧ φ.stage r ≠ .joining ∧ φ.pending r = [] := by
  obtain ⟨q, rfl⟩ := U.exists_role r
  have hup := h.up q
  have hqueue := h.queue q
  rw [(hq q).1] at hup
  rw [(hq q).2] at hqueue
  refine ⟨fun hd => by simp [hd] at hup, fun hj => by simp [hj] at hqueue, ?_⟩
  simpa using (List.append_eq_nil_iff.mp hqueue.symm).2

/-- The two settled pictures of the table: connected on the first answer, or won on the
answer to the offer that was kept. -/
theorem Runs.settled_of (h : Runs U S φ)
    (hpair : φ.stage (U.role p) = .won ∧ φ.stage (U.role p).other = .yielded ∨
      φ.stage (U.role p) = .connected ∧ φ.stage (U.role p).other = .answered) :
    Settled U S p ∧ ∀ t ∈ (S.call p.other).ctl.registry.sessions, t.state ≠ .connected := by
  have hc := h.ctl p
  have hw := h.world p
  have hc' := h.ctl p.other
  have hw' := h.world p.other
  simp only [Setup.role_other] at hc' hw'
  obtain ⟨-, -, -, hholds, -⟩ := hc
  obtain ⟨-, -, -, hholds', -⟩ := hc'
  rcases hpair with ⟨hst, hst'⟩ | ⟨hst, hst'⟩
  all_goals
    rw [hst] at hholds hw
    rw [hst'] at hholds' hw'
    obtain ⟨s, hs, hid, hgen, hstate, -⟩ := hholds
    obtain ⟨t, ht, htid, htgen, htstate, -⟩ := hholds'
    simp only [Party.other_other] at htid
    -- the answer is the one the other party's connection for its session described
    refine ⟨⟨s, t, description (U.id p) t.gen .answer, by simp [Registry.get?, hs, hid], hstate,
      by simp [Registry.get?, ht, htid], htstate, ?_, ?_, rfl⟩, by simp [ht, htstate]⟩
  all_goals simp [Side.line?, hw, hw', Stage.world, Stage.lines, hgen, htgen]

/-- Once both parties are connected with nothing left to handle, one of them is settled on the
other's answer while the other holds no connected session; when neither join was dropped, the
settled one has the larger id. -/
theorem Runs.settled (h : Runs U S φ) (hq : ∀ q, S.up q = true ∧ S.queue q = []) :
    ∃ p, Settled U S p ∧ (∀ t ∈ (S.call p.other).ctl.registry.sessions, t.state ≠ .connected) ∧
      (U.join p ∈ S.got p.other → U.join p.other ∈ S.got p → U.id p.other < U.id p) := by
  obtain hbig | rfl : (φ.stage .big = .won ∧ φ.stage Role.big.other = .yielded ∨
      φ.stage .big = .connected ∧ φ.stage Role.big.other = .answered) ∨
      φ = ⟨.answered, .connected, false, true⟩ := by
    rcases Phase.quiet_cases h.mem (h.quiet hq) with rfl | rfl | rfl <;> decide
  · -- the larger id won after the offers crossed, or connected after its join was dropped
    obtain ⟨p, hp⟩ := U.exists_role .big
    obtain ⟨hs, hn⟩ := h.settled_of (p := p) (by rwa [hp])
    exact ⟨p, hs, hn, fun _ _ => (U.role_eq_big p).mp hp⟩
  · -- the join of the smaller id was dropped, so the other never got it
    obtain ⟨p, hp⟩ := U.exists_role .small
    obtain ⟨hs, hn⟩ := h.settled_of (p := p) (by simp [hp, Phase.stage, Role.other])
    refine ⟨p, hs, hn, fun hj _ => ?_⟩
    have hg := h.got p.other
    simp [hp, Role.other, Phase.got, Phase.dropped, Phase.stage, Stage.sent, Setup.note,
      Setup.desc] at hg
    simp [hg, Setup.join] at hj

/-- Some state the pair reaches shows the phase `φ`. -/
def Shown (U : Setup) (φ : Phase) : Prop := ∃ S, Reach U S ∧ Runs U S φ

theorem Shown.start : Shown U Phase.start := ⟨_, .init, Runs.init U⟩

/-- A role that is down can connect. -/
theorem Shown.connect {r : Role} (h : Shown U φ) (hr : U.role p = r) (hd : φ.stage r = .down) :
    Shown U (φ.set r .joining (φ.dropped r)) := by
  subst hr
  obtain ⟨S, hS, hR⟩ := h
  have hu : S.up p = false := (hR.up p).mpr hd
  exact ⟨_, hS.step (.connect hu), hR.connect hu⟩

/-- A role with an event to handle makes its move of the table. -/
theorem Shown.next {r : Role} {φ' : Phase} (h : Shown U φ) (hr : U.role p = r)
    (hq : φ.stage r = .joining ∨ φ.pending r ≠ []) (hn : φ.next r = some φ') : Shown U φ' := by
  subst hr
  obtain ⟨S, hS, hR⟩ := h
  obtain ⟨e, rest, he⟩ : ∃ e rest, S.queue p = e :: rest := by
    rw [hR.queue p]
    rcases hq with hj | hp
    · simp [hj]
    · obtain ⟨n, ns, hns⟩ := List.exists_cons_of_ne_nil hp
      simp only [hns, List.map_cons]
      split_ifs <;> exact ⟨_, _, rfl⟩
  obtain ⟨φ'', hn', hm⟩ := hR.next_of_queue he
  rw [hn] at hn'
  cases hn'
  exact ⟨_, hS.step (.deliver he), hR.deliver he hn hm⟩

theorem pair_negotiation_settles {U : Setup} {S : State} (hS : Reach U S) :
    (∀ p, (S.call p).world.sent.countP (fun m => m.type == "offer") ≤ 1 ∧
      (S.call p).world.sent.countP (fun m => m.type == "answer") ≤ 1) ∧
    (∀ p m rest, S.queue p = .message m :: rest → m.type = "offer" →
      let c := ((dispatch links (.event (.message m))).run (S.call p)).2
      (c.world.sent = (S.call p).world.sent ↔ U.id p.other < U.id p ∧
        ∃ s, (S.call p).ctl.registry.get? (U.id p.other) = some s ∧ s.state = .offerSent) ∧
      (c.world.sent ≠ (S.call p).world.sent → ∃ a, c.world.sent = (S.call p).world.sent ++ [a] ∧
        a.type = "answer" ∧ a.recipient = U.id p.other)) ∧
    ((∀ p, S.up p = true ∧ S.queue p = []) →
      ∃ p, Settled U S p ∧ (∀ t ∈ (S.call p.other).ctl.registry.sessions, t.state ≠ .connected) ∧
        (U.join p ∈ S.got p.other → U.join p.other ∈ S.got p → U.id p.other < U.id p)) := by
  obtain ⟨φ, h⟩ := hS.runs
  refine ⟨fun p => ?_, fun p m rest hq ho => ?_, h.settled⟩
  · rw [h.world p]
    exact Stage.offers_answers_le_one _
  · obtain ⟨φ', hn, hm⟩ := h.next_of_queue hq
    obtain ⟨-, hw⟩ := Moves.run U p hm (h.ctl p) (h.world p)
    dsimp only
    rw [hw, h.world p]
    exact Moves.offer_reply hm ho (h.ctl p)

/-- Two parties, aaaa and bbbb, with default media; bbbb has the larger id. -/
def Setup.sample : Setup where
  cfg p := ⟨⟨if p = .a then "aaaa" else "bbbb", ""⟩, "", default, 0⟩
  media _ := default
  distinct := by decide +kernel

theorem Setup.sample_role_a : Setup.sample.role .a = .small := by decide +kernel

theorem Setup.sample_role_b : Setup.sample.role .b = .big := by decide +kernel

/-- The join of aaaa is dropped, bbbb answers the offer of aaaa, and the pair settles with
aaaa connected. -/
theorem pair_settles_after_dropped_join :
    (∃ S m rest, Reach Setup.sample S ∧ S.queue .b = .message m :: rest ∧ m.type = "offer" ∧
      ((dispatch links (.event (.message m))).run (S.call .b)).2.world.sent ≠
        (S.call .b).world.sent) ∧
    ∃ S, Reach Setup.sample S ∧ (∀ p, S.up p = true ∧ S.queue p = []) ∧
      ∃ p, Settled Setup.sample S p := by
  have ha := Setup.sample_role_a
  have hb := Setup.sample_role_b
  -- aaaa connects first, so its join is dropped; then bbbb connects and joins
  have h1 : Shown Setup.sample ⟨.down, .joining, false, false⟩ := Shown.start.connect ha (by decide)
  have h2 : Shown Setup.sample ⟨.down, .idle, false, true⟩ := h1.next ha (by decide) (by decide)
  have h3 : Shown Setup.sample ⟨.joining, .idle, false, true⟩ := h2.connect hb (by decide)
  have h4 : Shown Setup.sample ⟨.idle, .idle, false, true⟩ := h3.next hb (by decide) (by decide)
  -- aaaa offers on the join, bbbb answers, and aaaa takes the answer
  have h5 : Shown Setup.sample ⟨.idle, .offered, false, true⟩ := h4.next ha (by decide) (by decide)
  have h6 : Shown Setup.sample ⟨.answered, .offered, false, true⟩ :=
    h5.next hb (by decide) (by decide)
  have h7 : Shown Setup.sample ⟨.answered, .connected, false, true⟩ :=
    h6.next ha (by decide) (by decide)
  refine ⟨?_, ?_⟩
  · -- bbbb holds no offer of its own, so it answers
    obtain ⟨S, hS, hR⟩ := h5
    have hp : Phase.pending ⟨.idle, .offered, false, true⟩ .big = [.offer] := by decide
    have hq : S.queue .b = [.message (Setup.sample.note .a .offer)] := by
      simp [hR.queue .b, hb, hp, Phase.stage, Party.other]
    have ho : (Setup.sample.note .a .offer).type = "offer" := rfl
    refine ⟨S, _, [], hS, hq, ho, fun heq => ?_⟩
    obtain ⟨-, s, hs, -⟩ := ((pair_negotiation_settles hS).2.1 .b _ [] hq ho).1.mp heq
    have hc := (hR.ctl .b).holds
    simp [hb, Phase.stage, Stage.session, Holds] at hc
    simp [Registry.get?, hc] at hs
  · obtain ⟨S, hS, hR⟩ := h7
    have hp : ∀ r, Phase.pending ⟨.answered, .connected, false, true⟩ r = [] := by
      intro r
      cases r <;> decide
    have hquiet : ∀ p, S.up p = true ∧ S.queue p = [] := by
      intro p
      have hu := hR.up p
      have hq := hR.queue p
      cases p
      all_goals
        simp only [ha, hb, hp] at hu hq
        simp_all [Phase.stage]
    obtain ⟨p, hset, -⟩ := (pair_negotiation_settles hS).2.2 hquiet
    exact ⟨S, hS, hquiet, p, hset⟩

end MeshCall.Pair
