import Mathlib
import MeshCall.Proofs.Retries
import MeshCall.Proofs.Reachable
import MeshCall.Proofs.Pair.System
import MeshCall.Proofs.Pair.Protocol
/-!
# What a controller does at each stage

The controller of one party, at each stage of the exchange, as its registry and its world show
it: at most one session, for the other party, of a fixed generation and state, the connections
it made with the descriptions set on them, and the envelopes it sent. Each move a party makes
on the stage table, it makes with its controller too: handling the event that carries the note
takes the controller from the first stage's picture to the second's.
-/

namespace MeshCall.Pair

open Std.Do

set_option mvcgen.warning false

namespace Setup

variable (U : Setup) (p : Party)

/-- The envelope of each note `p` sends. -/
def note : Note → Envelope
  | .join => U.join p
  | .offer => U.desc p "offer" 1
  | .answer gen => U.desc p "answer" gen

/-- The role of `p`: the larger id or the smaller. -/
def role : Role := if U.id p.other < U.id p then .big else .small

theorem role_eq_big : U.role p = .big ↔ U.id p.other < U.id p := by
  unfold role
  split <;> simp_all

@[simp] theorem role_other : U.role p.other = (U.role p).other := by
  have hne := U.id_other_ne p
  unfold role
  simp only [Party.other_other]
  by_cases h : U.id p.other < U.id p
  · simp [h, not_lt_of_gt h, Role.other]
  · simp [h, lt_of_le_of_ne (not_lt.mp h) hne.symm, Role.other]

end Setup

/-! ## Making a session -/

/-- The session `newSession` makes for `id` in `c`. -/
def fresh (c : Call Side) (id name : String) (audio : Bool) : Session :=
  { id := id, gen := c.ctl.lastGen + 1, serial := c.ctl.lastGen + 1, name := name, audio := audio }

/-- The call after `newSession` made and registered a session for `id`. -/
def opened (c : Call Side) (id name : String) (audio : Bool) : Call Side :=
  { ctl := { c.ctl with
      lastGen := c.ctl.lastGen + 1
      registry := ⟨c.ctl.registry.sessions ++ [fresh c id name audio]⟩
      counters := { c.ctl.counters with opened := c.ctl.counters.opened + 1 } }
    world := { c.world with lines := c.world.lines ++ [{ id := id, gen := c.ctl.lastGen + 1 }] } }

theorem newSession_triple (c₀ : Call Side) (id name : String) (audio : Bool)
    (h : c₀.ctl.registry.get? id = none) :
    ⦃fun c => ⌜c = c₀⌝⦄ newSession links id name audio
    ⦃⇓ r c => ⌜r = some (fresh c₀ id name audio) ∧ c = opened c₀ id name audio⌝⦄ := by
  mvcgen [newSession, ctl, modifyCtl, ask, request, present, tell]
    invariants
    | inv1 =>
      Invariant.withEarlyReturnNewDo
        (fun _ _ c => ⌜c = (⟨{ c₀.ctl with lastGen := c₀.ctl.lastGen + 1 },
          { c₀.world with lines := c₀.world.lines ++ [{ id := id, gen := c₀.ctl.lastGen + 1 }] }⟩ :
            Call Side)⌝)
        (fun _ _ _ => ⌜False⌝)
  all_goals simp_all +zetaDelta [links, Side.apply, Registry.upsert_of_get?_none, fresh, opened]

theorem newSession_run {c : Call Side} {id name : String} {audio : Bool}
    (h : c.ctl.registry.get? id = none) :
    (newSession links id name audio).run c = (some (fresh c id name audio), opened c id name audio) :=
  StateM.of_wp_run_eq rfl (fun r => r = (some (fresh c id name audio), opened c id name audio))
    (by simpa using newSession_triple c id name audio h c rfl)

-- The two forms below are the ones the handlers' verification conditions show.
theorem newSession_run_of_nil {c : Call Side} {id name : String} {audio : Bool}
    (h : c.ctl.registry.sessions = []) :
    (newSession links id name audio).run c = (some (fresh c id name audio), opened c id name audio) :=
  newSession_run (by simp [Registry.get?, h])

theorem newSession_of_nil {c : Call Side} {id name : String} {audio : Bool}
    (h : c.ctl.registry.sessions = []) :
    newSession links id name audio c = (some (fresh c id name audio), opened c id name audio) :=
  newSession_run_of_nil h

/-- The spec that lets symbolic execution go on past a new session, for the run equations
above to rewrite. -/
theorem newSession_spec (id name : String) (audio : Bool)
    {Q : PostCond (Option Session) (.arg (Call Side) .pure)} :
    ⦃spred(fun c => Q.1 ((newSession links id name audio).run c).1
      ((newSession links id name audio).run c).2)⦄
    newSession links id name audio ⦃Q⦄ :=
  Triple.of_run _

/-! ## Stages as a controller shows them -/

namespace Stage

/-- The session a party holds for the other at this stage: its generation and state. -/
def session : Stage → Option (Nat × SessionState)
  | down | joining | idle => none
  | offered | kept => some (1, .offerSent)
  | answered => some (1, .answerSent)
  | yielded => some (2, .answerSent)
  | connected | won => some (1, .connected)

/-- The connections `p` has made at this stage, with the descriptions set on them. -/
def lines (U : Setup) (p : Party) : Stage → List Line
  | down | joining | idle => []
  | offered | kept => [⟨U.id p.other, 1, some (description (U.id p.other) 1 .offer), none, false⟩]
  | answered => [⟨U.id p.other, 1, some (description (U.id p.other) 1 .answer),
      some (description (U.id p) 1 .offer), false⟩]
  | yielded => [⟨U.id p.other, 1, some (description (U.id p.other) 1 .offer), none, true⟩,
      ⟨U.id p.other, 2, some (description (U.id p.other) 2 .answer),
        some (description (U.id p) 1 .offer), false⟩]
  | connected => [⟨U.id p.other, 1, some (description (U.id p.other) 1 .offer),
      some (description (U.id p) 1 .answer), false⟩]
  | won => [⟨U.id p.other, 1, some (description (U.id p.other) 1 .offer),
      some (description (U.id p) 2 .answer), false⟩]

/-- The world of `p` at this stage. -/
def world (U : Setup) (p : Party) (st : Stage) : Side := ⟨st.lines U p, st.sent.map (U.note p)⟩

end Stage

variable (U : Setup) (p : Party)

/-- The registry holds the session `(gen, state)` for the other party, not closed yet, or
none. -/
def Holds (r : Registry) : Option (Nat × SessionState) → Prop
  | none => r.sessions = []
  | some (gen, st) => ∃ s, r.sessions = [s] ∧ s.id = U.id p.other ∧ s.gen = gen ∧ s.state = st ∧
      s.closeDone = false

/-- The controller of `p`, still running with its own configuration and media, holds the
session `ses` and has made no other. -/
@[mk_iff] structure Ctl (c : Call Side) (ses : Option (Nat × SessionState)) : Prop where
  self : c.ctl.cfg.self = (U.cfg p).self
  media : c.ctl.media = U.media p
  running : c.ctl.ended = false
  holds : Holds U p c.ctl.registry ses
  lastGen : c.ctl.lastGen = (ses.map Prod.fst).getD 0

/-- The moves of `p` on the stage table, by the event that makes each. -/
inductive Moves : Stage → Event → Stage → Prop
  | relayUp : Moves .joining (.relayUp false) .idle
  | join : Moves .idle (.message (U.note p.other .join)) .offered
  | offer : Moves .idle (.message (U.note p.other .offer)) .answered
  | keep : U.id p.other < U.id p → Moves .offered (.message (U.note p.other .offer)) .kept
  | yield : ¬ U.id p.other < U.id p → Moves .offered (.message (U.note p.other .offer)) .yielded
  | answer : Moves .offered (.message (U.note p.other (.answer 1))) .connected
  | win : Moves .kept (.message (U.note p.other (.answer 2))) .won

/-- Every note the stage table lets `p` handle is a move. -/
theorem Moves.of_handle {st st' : Stage} {n : Note} (h : st.handle (U.role p == .big) n = some st') :
    Moves U p st (.message (U.note p.other n)) st' := by
  unfold Stage.handle at h
  split at h <;> simp only [Option.some.injEq, reduceCtorEq] at h <;> subst h
  · exact .join
  · exact .offer
  · by_cases hb : U.role p = .big
    · simpa [hb] using Moves.keep ((U.role_eq_big p).mp hb)
    · simpa [hb] using Moves.yield (mt (U.role_eq_big p).mpr hb)
  · exact .answer
  · exact .win

/-- A move leaves a party connected and past its relay-connected event. -/
theorem Moves.past_joining {st st' : Stage} {e : Event} (hm : Moves U p st e st') :
    st' ≠ .down ∧ st' ≠ .joining := by
  cases hm <;> simp

/-! ## Each move, made by the controller -/

section Moves

variable {c₀ : Call Side}

theorem relayUp_moves (h : Ctl U p c₀ Stage.joining.session) (hw : c₀.world = Stage.joining.world U p) :
    ⦃fun c => ⌜c = c₀⌝⦄ dispatch links (.event (.relayUp false))
    ⦃⇓ _ c => ⌜Ctl U p c Stage.idle.session ∧ c.world = Stage.idle.world U p⌝⦄ := by
  obtain ⟨hself, hmedia, hrun, hholds, hgen⟩ := h
  have hne := U.id_other_ne p
  mvcgen [dispatch, handleEvent, handleRelayUp, sendJoin, send, persist, ctl, modifyCtl, ask,
    present, tell]
    invariants
    | inv1 => ⇓ _ c => ⌜c = { c₀ with ctl := { c₀.ctl with registry := {} } }⌝
  all_goals simp_all +zetaDelta [Holds, Stage.session, Registry.drain, Registry.snapshot,
    sortById, ctl_iff, Stage.world, Stage.lines, Stage.sent, Setup.note, Setup.join, Setup.id]

theorem join_moves (h : Ctl U p c₀ Stage.idle.session) (hw : c₀.world = Stage.idle.world U p) :
    ⦃fun c => ⌜c = c₀⌝⦄ dispatch links (.event (.message (U.note p.other .join)))
    ⦃⇓ _ c => ⌜Ctl U p c Stage.offered.session ∧ c.world = Stage.offered.world U p⌝⦄ := by
  obtain ⟨hself, hmedia, hrun, hholds, hgen⟩ := h
  have hne := U.id_other_ne p
  -- the envelope has to be concrete before the handlers match on it
  dsimp only [Setup.note, Setup.desc, Setup.join]
  mvcgen [dispatch, handleEvent, handleMessage, handleJoin, ctl, ask, request, present, tell,
    sendDescription, send, setSessionState, modifyCtl, newSession_spec]
  all_goals simp_all +zetaDelta [Holds, Stage.session, Registry.get?, Envelope.sender,
    Envelope.recipient, Setup.note, Setup.join, Setup.desc, Setup.id, newSession_run_of_nil,
    newSession_of_nil, Side.apply, Side.modify, ctl_iff, Stage.world, Stage.lines, Stage.sent,
    description, fresh, opened, Description.ofSession, Registry.modify, Session.setState]
  -- what simp left as equations between the new call and its parts
  all_goals subst_vars
  all_goals simp_all

theorem offer_moves (h : Ctl U p c₀ Stage.idle.session) (hw : c₀.world = Stage.idle.world U p) :
    ⦃fun c => ⌜c = c₀⌝⦄ dispatch links (.event (.message (U.note p.other .offer)))
    ⦃⇓ _ c => ⌜Ctl U p c Stage.answered.session ∧ c.world = Stage.answered.world U p⌝⦄ := by
  obtain ⟨hself, hmedia, hrun, hholds, hgen⟩ := h
  have hne := U.id_other_ne p
  dsimp only [Setup.note, Setup.desc, Setup.join]
  mvcgen [dispatch, handleEvent, handleMessage, handleOffer, ctl, ask, request, present, tell,
    sendDescription, send, setSessionState, modifyCtl, newSession_spec]
  all_goals simp_all +zetaDelta [Holds, Stage.session, Registry.get?, Envelope.sender,
    Envelope.recipient, Setup.note, Setup.join, Setup.desc, Setup.id, newSession_run_of_nil,
    newSession_of_nil, Side.apply, Side.modify, ctl_iff, Stage.world, Stage.lines, Stage.sent,
    description, fresh, opened, Description.ofSession, Description.toSession, Registry.modify,
    Session.setState]
  all_goals subst_vars
  all_goals simp_all

/-- With the larger id, `p` keeps its offer and drops the crossing one, changing nothing. -/
theorem keep_moves (hlt : U.id p.other < U.id p) (h : Ctl U p c₀ Stage.offered.session)
    (hw : c₀.world = Stage.offered.world U p) :
    ⦃fun c => ⌜c = c₀⌝⦄ dispatch links (.event (.message (U.note p.other .offer)))
    ⦃⇓ _ c => ⌜Ctl U p c Stage.kept.session ∧ c.world = Stage.kept.world U p⌝⦄ := by
  obtain ⟨hself, hmedia, hrun, hholds, hgen⟩ := h
  have hne := U.id_other_ne p
  obtain ⟨s, hs, hid, hg, hst, hcd⟩ := hholds
  dsimp only [Setup.note, Setup.desc]
  mvcgen [dispatch, handleEvent, handleMessage, handleOffer, ctl]
  all_goals simp_all +zetaDelta [Registry.get?, Envelope.sender, Envelope.recipient, Setup.note,
    Setup.desc, Setup.id, ctl_iff, Holds, Stage.session, Stage.world, Stage.lines, Stage.sent]
  all_goals subst_vars
  all_goals simp_all

/-- With the smaller id, `p` closes its offering session and answers the crossing offer with a
session of the next generation. -/
theorem yield_moves (hlt : ¬ U.id p.other < U.id p) (h : Ctl U p c₀ Stage.offered.session)
    (hw : c₀.world = Stage.offered.world U p) :
    ⦃fun c => ⌜c = c₀⌝⦄ dispatch links (.event (.message (U.note p.other .offer)))
    ⦃⇓ _ c => ⌜Ctl U p c Stage.yielded.session ∧ c.world = Stage.yielded.world U p⌝⦄ := by
  obtain ⟨hself, hmedia, hrun, hholds, hgen⟩ := h
  have hne := U.id_other_ne p
  obtain ⟨s, hs, hid, hg, hst, hcd⟩ := hholds
  dsimp only [Setup.note, Setup.desc]
  mvcgen [dispatch, handleEvent, handleMessage, handleOffer, discardSession, closeSession, ctl,
    ask, request, present, tell, sendDescription, send, setSessionState, modifyCtl,
    newSession_spec]
  all_goals simp_all +zetaDelta [Holds, Stage.session, Registry.get?, Registry.remove,
    Session.same, Session.close, Controller.noteClosed, Envelope.sender, Envelope.recipient,
    Setup.note, Setup.desc, Setup.id, Side.apply, Side.modify, ctl_iff, Stage.world, Stage.lines,
    Stage.sent, description, fresh, opened, newSession_run_of_nil, newSession_of_nil,
    Description.ofSession, Description.toSession, Registry.modify, Session.setState_state]
  all_goals subst_vars
  all_goals simp_all

theorem answer_moves (h : Ctl U p c₀ Stage.offered.session) (hw : c₀.world = Stage.offered.world U p) :
    ⦃fun c => ⌜c = c₀⌝⦄ dispatch links (.event (.message (U.note p.other (.answer 1))))
    ⦃⇓ _ c => ⌜Ctl U p c Stage.connected.session ∧ c.world = Stage.connected.world U p⌝⦄ := by
  obtain ⟨hself, hmedia, hrun, hholds, hgen⟩ := h
  have hne := U.id_other_ne p
  obtain ⟨s, hs, hid, hg, hst, hcd⟩ := hholds
  dsimp only [Setup.note, Setup.desc]
  mvcgen [dispatch, handleEvent, handleMessage, handleAnswer, ctl, modifyCtl, ask, request,
    present, tell]
  all_goals simp_all +zetaDelta [Holds, Stage.session, Registry.get?, Envelope.sender,
    Envelope.recipient, Setup.note, Setup.desc, Setup.id, Side.apply, Side.modify, ctl_iff,
    Stage.world, Stage.lines, Stage.sent, description, Description.toSession, Registry.modify,
    Session.setState_state]
  all_goals subst_vars
  all_goals simp_all

theorem win_moves (h : Ctl U p c₀ Stage.kept.session) (hw : c₀.world = Stage.kept.world U p) :
    ⦃fun c => ⌜c = c₀⌝⦄ dispatch links (.event (.message (U.note p.other (.answer 2))))
    ⦃⇓ _ c => ⌜Ctl U p c Stage.won.session ∧ c.world = Stage.won.world U p⌝⦄ := by
  obtain ⟨hself, hmedia, hrun, hholds, hgen⟩ := h
  have hne := U.id_other_ne p
  obtain ⟨s, hs, hid, hg, hst, hcd⟩ := hholds
  dsimp only [Setup.note, Setup.desc]
  mvcgen [dispatch, handleEvent, handleMessage, handleAnswer, ctl, modifyCtl, ask, request,
    present, tell]
  all_goals simp_all +zetaDelta [Holds, Stage.session, Registry.get?, Envelope.sender,
    Envelope.recipient, Setup.note, Setup.desc, Setup.id, Side.apply, Side.modify, ctl_iff,
    Stage.world, Stage.lines, Stage.sent, description, Description.toSession, Registry.modify,
    Session.setState_state]
  all_goals subst_vars
  all_goals simp_all

/-- Handling the event of a move takes the controller from one stage's picture to the next. -/
theorem Moves.run {st st' : Stage} {e : Event} (hm : Moves U p st e st')
    (h : Ctl U p c₀ st.session) (hw : c₀.world = st.world U p) :
    Ctl U p ((dispatch links (.event e)).run c₀).2 st'.session ∧
      ((dispatch links (.event e)).run c₀).2.world = st'.world U p := by
  have triple : ⦃fun c => ⌜c = c₀⌝⦄ dispatch links (.event e)
      ⦃⇓ _ c => ⌜Ctl U p c st'.session ∧ c.world = st'.world U p⌝⦄ := by
    cases hm with
    | relayUp => exact relayUp_moves U p h hw
    | join => exact join_moves U p h hw
    | offer => exact offer_moves U p h hw
    | keep hlt => exact keep_moves U p hlt h hw
    | yield hlt => exact yield_moves U p hlt h hw
    | answer => exact answer_moves U p h hw
    | win => exact win_moves U p h hw
  exact Triple.run_of triple rfl

end Moves

end MeshCall.Pair
