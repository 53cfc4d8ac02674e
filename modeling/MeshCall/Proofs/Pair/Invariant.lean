import Mathlib
import MeshCall.Proofs.Pair.Stages
/-!
# Every state of the pair shows a phase of the table

The invariant of the pair: some phase of `Phase.table` describes the whole state. Each
controller shows the picture of its role's stage, the relay has forwarded to each party what
the phase says it got, and the queue of each party holds its relay-connected event while it is
joining, then what it got and has not handled yet. Connecting moves a role from `down` to
`joining`; handling the head of a queue is the move `Phase.next` of its role, made by the
controller as `Moves.run` says.
-/

namespace MeshCall.Pair

/-- The state `S` of the pair shows the phase `φ`. -/
structure Runs (U : Setup) (S : State) (φ : Phase) : Prop where
  mem : φ ∈ Phase.table
  ctl : ∀ p, Ctl U p (S.call p) (φ.stage (U.role p)).session
  world : ∀ p, (S.call p).world = (φ.stage (U.role p)).world U p
  up : ∀ p, S.up p = false ↔ φ.stage (U.role p) = .down
  got : ∀ p, S.got p = (φ.got (U.role p)).map (U.note p.other)
  queue : ∀ p, S.queue p = (if φ.stage (U.role p) = .joining then [.relayUp false] else []) ++
    (φ.pending (U.role p)).map fun n => .message (U.note p.other n)

variable {U : Setup} {S : State} {φ : Phase} {p : Party}

theorem Runs.init (U : Setup) : Runs U (init U) Phase.start where
  mem := Phase.start_mem
  -- showing the call touches only the view, which the links ignore
  ctl p := by
    simp only [Phase.stage_start, Stage.session]
    exact ⟨rfl, rfl, rfl, rfl, rfl⟩
  world p := by
    simp only [Phase.stage_start]
    rfl
  up p := by simp [Pair.init]
  got p := by simp [Pair.init]
  queue p := by simp [Pair.init, Phase.pending]

/-- Connecting moves `p` from `down` to `joining`: its queue gets the relay-connected event,
and nothing was forwarded to it or from it before. -/
theorem Runs.connect (h : Runs U S φ) (hu : S.up p = false) :
    Runs U (S.connect p) (φ.set (U.role p) .joining (φ.dropped (U.role p))) := by
  have hd : φ.stage (U.role p) = .down := (h.up p).mp hu
  have hg : φ.got (U.role p) = [] := Phase.got_of_down h.mem hd
  have hg' : φ.got (U.role p).other = [] := by simp [Phase.got, hd, Stage.sent]
  refine ⟨Phase.connect_mem h.mem hd, fun q => ?_, fun q => ?_, fun q => ?_, fun q => ?_,
    fun q => ?_⟩
  all_goals rcases Party.eq_or_eq_other q p with rfl | rfl
  · simpa [State.connect, hd, Stage.session] using h.ctl q
  · simpa [State.connect] using h.ctl p.other
  · simpa [State.connect, hd, Stage.world, Stage.lines, Stage.sent] using h.world q
  · simpa [State.connect] using h.world p.other
  · simp [State.connect]
  · simpa [State.connect] using h.up p.other
  · simpa [State.connect] using h.got q
  · simpa [State.connect, hg', Stage.sent] using h.got p.other
  · simpa [State.connect, Phase.pending, hd, hg, Stage.handled] using h.queue q
  · simpa [State.connect, Phase.pending, hg', Stage.sent] using h.queue p.other

/-- A move of `p` made by its controller keeps the picture: the controller shows the new stage,
the other party's queue and log get what `p` sent on the move if it is connected, and `p`'s
queue loses the event it handled. -/
theorem Runs.deliver {e : Event} {rest : List Event} {φ' : Phase} (h : Runs U S φ)
    (hq : S.queue p = e :: rest) (hn : φ.next (U.role p) = some φ')
    (hm : Moves U p (φ.stage (U.role p)) e (φ'.stage (U.role p))) :
    Runs U (S.deliver p e rest) φ' := by
  obtain ⟨hctl, hw⟩ := Moves.run U p hm (h.ctl p) (h.world p)
  obtain ⟨hdown', hjoin'⟩ := Moves.past_joining U p hm
  have hdown : φ.stage (U.role p) ≠ .down := by
    intro hd
    simp [Phase.next, hd] at hn
  have hother : φ'.stage (U.role p).other = φ.stage (U.role p).other := by
    obtain ⟨st, d, rfl⟩ := Phase.next_eq_set hn
    exact Phase.stage_set_other
  -- what the relay forwards to the other party on this move
  have hout : (if S.up p.other then
        ((dispatch links (.event e)).run (S.call p)).2.world.sent.drop (S.call p).world.sent.length
        else []) =
      (if φ.stage (U.role p).other = .down then []
        else (φ'.stage (U.role p)).sent.drop (φ.stage (U.role p)).sent.length).map (U.note p) := by
    have hup := h.up p.other
    rw [hw, h.world p]
    simp only [Setup.role_other] at hup
    simp only [Stage.world, List.length_map, ← List.map_drop]
    split_ifs <;> simp_all
  refine ⟨Phase.next_mem h.mem hn, fun q => ?_, fun q => ?_, fun q => ?_, fun q => ?_,
    fun q => ?_⟩
  all_goals rcases Party.eq_or_eq_other q p with rfl | rfl
  · simpa [State.deliver] using hctl
  · simpa [State.deliver, hother] using h.ctl p.other
  · simpa [State.deliver] using hw
  · simpa [State.deliver, hother] using h.world p.other
  · simpa [State.deliver, hdown, hdown'] using h.up q
  · simpa [State.deliver, hother] using h.up p.other
  · obtain ⟨st, d, rfl⟩ := Phase.next_eq_set hn
    simpa [State.deliver] using h.got q
  · simp [State.deliver, h.got p.other, hout, Phase.got_next h.mem hn]
  · have hq' := h.queue q
    rw [hq] at hq'
    simp only [State.deliver, Function.update_of_ne (Party.ne_other q), Function.update_self,
      hjoin', if_false, List.nil_append, Phase.pending_next h.mem hn]
    split_ifs at hq' ⊢
    · simp at hq'
      exact hq'.2
    · rw [List.nil_append] at hq'
      rw [List.map_tail, ← hq', List.tail_cons]
  · simp [State.deliver, h.queue p.other, hout, hother, Phase.pending_next_other h.mem hn]

/-- The event at the head of a queue is a move of the stage table: the relay-connected event
while joining, and otherwise a note the party expects. -/
theorem Runs.next_of_queue {e : Event} {rest : List Event} (h : Runs U S φ)
    (hq : S.queue p = e :: rest) :
    ∃ φ', φ.next (U.role p) = some φ' ∧
      Moves U p (φ.stage (U.role p)) e (φ'.stage (U.role p)) := by
  have hq' := h.queue p
  rw [hq] at hq'
  by_cases hj : φ.stage (U.role p) = .joining
  · rw [if_pos hj, List.singleton_append, List.cons.injEq] at hq'
    obtain ⟨rfl, -⟩ := hq'
    refine ⟨_, Phase.next_of_joining hj, ?_⟩
    simpa [hj] using Moves.relayUp (U := U) (p := p)
  · rw [if_neg hj, List.nil_append] at hq'
    obtain ⟨n, ns, hp, rfl, -⟩ := List.map_eq_cons_iff.mp hq'.symm
    obtain ⟨st', hh⟩ := Phase.handle_of_pending h.mem hj hp
    exact ⟨_, Phase.next_of_pending hj hp hh, by simpa using Moves.of_handle U p hh⟩

/-- Every step of the pair keeps some phase of the table in view. -/
theorem Runs.step {S' : State} (h : Runs U S φ) (hs : Step S S') : ∃ φ', Runs U S' φ' := by
  cases hs with
  | connect hu => exact ⟨_, h.connect hu⟩
  | deliver hq =>
    obtain ⟨φ', hn, hm⟩ := h.next_of_queue hq
    exact ⟨φ', h.deliver hq hn hm⟩

/-- Every state the pair reaches shows a phase of the table. -/
theorem Reach.runs (hS : Reach U S) : ∃ φ, Runs U S φ := by
  induction hS with
  | init => exact ⟨_, Runs.init U⟩
  | step _ hs ih =>
    obtain ⟨φ, h⟩ := ih
    exact h.step hs

end MeshCall.Pair
