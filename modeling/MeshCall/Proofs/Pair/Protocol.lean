import Mathlib
/-!
# The offer and answer exchange of two parties

How far a party has got in making a session with the other one is a `Stage`, with what the
stage has sent the other and handled from it so far. A `Phase` is how far both have got, by
role (the party with the larger id and the one with the smaller), with whether the relay
dropped the join of each because the other was not connected yet.

From a phase, a party that is not connected can connect, and a connected one can handle its
next event: its relay-connected event first, then what the relay forwarded to it, in order.
The phases reachable from neither being connected are the ones `Phase.table` lists. That the
table is closed under both moves, that no party meets a note it does not expect there, and
which of its phases leave nothing to handle, are decided over the table.
-/

namespace MeshCall.Pair

/-- What a party tells the other: its join, its offer, or the answer for a session
generation. -/
inductive Note where
  | join
  | offer
  | answer (gen : Nat)
  deriving DecidableEq, Repr

/-- How far a party has got with the other. Once connected to the relay it sends its join
(`idle`); it offers on the other's join (`offered`) and answers an offer (`answered`). When
offers cross, the party with the larger id keeps its offer (`kept`) and the other answers it
with a fresh session (`yielded`); the answer to an offer connects the offering party
(`connected`, or `won` after keeping). -/
inductive Stage where
  | down
  | joining
  | idle
  | offered
  | kept
  | answered
  | yielded
  | connected
  | won
  deriving DecidableEq, Repr

namespace Stage

/-- The notes a party at this stage has sent, in order. -/
def sent : Stage → List Note
  | down | joining => []
  | idle => [.join]
  | offered | kept | connected | won => [.join, .offer]
  | answered => [.join, .answer 1]
  | yielded => [.join, .offer, .answer 2]

/-- The notes of the other party it has handled, in order. -/
def handled : Stage → List Note
  | down | joining | idle => []
  | offered => [.join]
  | kept | yielded => [.join, .offer]
  | answered => [.offer]
  | connected => [.join, .answer 1]
  | won => [.join, .offer, .answer 2]

/-- Where a party goes when it handles the note `n`; `big` says that its id is the larger.
A note it does not expect at this stage gives none. -/
def handle (big : Bool) : Stage → Note → Option Stage
  | idle, .join => some offered
  | idle, .offer => some answered
  | offered, .offer => some (if big then kept else yielded)
  | offered, .answer 1 => some connected
  | kept, .answer 2 => some won
  | _, _ => none

variable {big : Bool} {st st' : Stage} {n : Note}

theorem handled_of_handle (h : st.handle big n = some st') : st'.handled = st.handled ++ [n] := by
  unfold handle at h
  split at h <;> simp only [Option.some.injEq, reduceCtorEq] at h <;> subst h
  all_goals first | rfl | (cases big <;> rfl)

theorem sent_prefix_of_handle (h : st.handle big n = some st') : st.sent <+: st'.sent := by
  unfold handle at h
  split at h <;> simp only [Option.some.injEq, reduceCtorEq] at h <;> subst h
  all_goals first | decide | (cases big <;> decide)

theorem sent_ne_nil_of_handle (h : st.handle big n = some st') : st.sent ≠ [] := by
  unfold handle at h
  split at h <;> simp_all [sent]

end Stage

/-- The two parties, by the order of their ids. -/
inductive Role where
  | big
  | small
  deriving DecidableEq, Repr

namespace Role

def other : Role → Role
  | big => small
  | small => big

@[simp] theorem other_other (r : Role) : r.other.other = r := by
  cases r <;> rfl

@[simp] theorem other_ne (r : Role) : r.other ≠ r := by
  cases r <;> decide

end Role

/-- How far both parties have got, and whether the relay dropped the join of each. -/
structure Phase where
  big : Stage
  small : Stage
  bigDropped : Bool
  smallDropped : Bool
  deriving DecidableEq, Repr

namespace Phase

def stage (φ : Phase) : Role → Stage
  | .big => φ.big
  | .small => φ.small

def dropped (φ : Phase) : Role → Bool
  | .big => φ.bigDropped
  | .small => φ.smallDropped

/-- Moves role `r` on to stage `st`, with its join dropped or not as `d` says. -/
def set (φ : Phase) : Role → Stage → Bool → Phase
  | .big, st, d => { φ with big := st, bigDropped := d }
  | .small, st, d => { φ with small := st, smallDropped := d }

/-- What the relay forwarded to role `r`: all that the other sent, but its join if dropped. -/
def got (φ : Phase) (r : Role) : List Note :=
  if φ.dropped r.other then (φ.stage r.other).sent.tail else (φ.stage r.other).sent

/-- What the relay forwarded to `r` that it has not handled yet. -/
def pending (φ : Phase) (r : Role) : List Note :=
  (φ.got r).drop (φ.stage r).handled.length

/-- Role `r` handles its next event, if it has one: its relay-connected event, on which it
sends its join, dropped when the other is not connected; then what the relay forwarded. -/
def next (φ : Phase) (r : Role) : Option Phase :=
  if φ.stage r = .down then none
  else if φ.stage r = .joining then some (φ.set r .idle (φ.stage r.other == .down))
  else match φ.pending r with
    | [] => none
    | n :: _ => ((φ.stage r).handle (r == .big) n).map (φ.set r · (φ.dropped r))

/-- Neither party connected. -/
def start : Phase := ⟨.down, .down, false, false⟩

/-- The phases reachable from `start`. -/
def table : List Phase :=
  -- before any offer
  [⟨.down, .down, false, false⟩, ⟨.joining, .down, false, false⟩, ⟨.down, .joining, false, false⟩,
   ⟨.joining, .joining, false, false⟩, ⟨.idle, .down, true, false⟩, ⟨.down, .idle, false, true⟩,
   ⟨.idle, .joining, true, false⟩, ⟨.idle, .joining, false, false⟩,
   ⟨.joining, .idle, false, false⟩, ⟨.joining, .idle, false, true⟩,
   ⟨.idle, .idle, true, false⟩, ⟨.idle, .idle, false, false⟩, ⟨.idle, .idle, false, true⟩,
   -- one party has offered
   ⟨.offered, .idle, true, false⟩, ⟨.offered, .idle, false, false⟩,
   ⟨.idle, .offered, false, false⟩, ⟨.idle, .offered, false, true⟩,
   ⟨.offered, .answered, true, false⟩, ⟨.answered, .offered, false, true⟩,
   ⟨.connected, .answered, true, false⟩, ⟨.answered, .connected, false, true⟩,
   -- the offers crossed
   ⟨.offered, .offered, false, false⟩, ⟨.kept, .offered, false, false⟩,
   ⟨.offered, .yielded, false, false⟩, ⟨.kept, .yielded, false, false⟩,
   ⟨.won, .yielded, false, false⟩]

variable {φ φ' : Phase} {r : Role} {st : Stage} {d : Bool}

@[simp] theorem stage_set_self : (φ.set r st d).stage r = st := by
  cases r <;> rfl

@[simp] theorem stage_set_other : (φ.set r st d).stage r.other = φ.stage r.other := by
  cases r <;> rfl

@[simp] theorem dropped_set_self : (φ.set r st d).dropped r = d := by
  cases r <;> rfl

@[simp] theorem dropped_set_other : (φ.set r st d).dropped r.other = φ.dropped r.other := by
  cases r <;> rfl

/-- What `r` got does not change when it moves. -/
@[simp] theorem got_set_self : (φ.set r st d).got r = φ.got r := by
  simp [got]

@[simp] theorem got_set_other : (φ.set r st d).got r.other = if d then st.sent.tail else st.sent := by
  simp [got]

@[simp] theorem pending_set_self : (φ.set r st d).pending r = (φ.got r).drop st.handled.length := by
  simp [pending]

@[simp] theorem stage_start : start.stage r = .down := by
  cases r <;> rfl

@[simp] theorem got_start : start.got r = [] := by
  cases r <;> rfl

/-- A move changes the stage of the role that makes it, and its dropped join, only. -/
theorem next_eq_set (hn : φ.next r = some φ') : ∃ st d, φ' = φ.set r st d := by
  unfold next at hn
  split_ifs at hn
  · exact ⟨_, _, (Option.some.inj hn).symm⟩
  · split at hn
    · exact absurd hn (by simp)
    · obtain ⟨st, -, rfl⟩ := Option.map_eq_some_iff.mp hn
      exact ⟨st, _, rfl⟩

theorem next_of_joining (hj : φ.stage r = .joining) :
    φ.next r = some (φ.set r .idle (φ.stage r.other == .down)) := by
  simp [next, hj]

theorem next_of_pending (hj : φ.stage r ≠ .joining) {n : Note} {rest : List Note}
    (hp : φ.pending r = n :: rest) {st' : Stage} (hh : (φ.stage r).handle (r == .big) n = some st') :
    φ.next r = some (φ.set r st' (φ.dropped r)) := by
  have hd : φ.stage r ≠ .down := by
    intro hd
    simp [hd, Stage.handle] at hh
  simp [next, hd, hj, hp, hh]

theorem start_mem : start ∈ table := by decide

theorem connect_mem (h : φ ∈ table) (hd : φ.stage r = .down) :
    φ.set r .joining (φ.dropped r) ∈ table := by
  have closed : ∀ φ ∈ table, φ.stage r = .down → φ.set r .joining (φ.dropped r) ∈ table := by
    cases r <;> decide
  exact closed φ h hd

theorem next_mem (h : φ ∈ table) (hn : φ.next r = some φ') : φ' ∈ table := by
  have closed : ∀ φ ∈ table, ∀ φ' ∈ φ.next r, φ' ∈ table := by
    cases r <;> decide
  exact closed φ h φ' hn

theorem got_of_down (h : φ ∈ table) (hd : φ.stage r = .down) : φ.got r = [] := by
  have empty : ∀ φ ∈ table, φ.stage r = .down → φ.got r = [] := by
    cases r <;> decide
  exact empty φ h hd

theorem handled_prefix (h : φ ∈ table) : (φ.stage r).handled <+: φ.got r := by
  have pre : ∀ φ ∈ table, (φ.stage r).handled <+: φ.got r := by
    cases r <;> decide
  exact pre φ h

/-- A move of `r` adds to what the other got what `r` sent on it, unless the other is not
connected. -/
theorem got_next (h : φ ∈ table) (hn : φ.next r = some φ') :
    φ'.got r.other = φ.got r.other ++
      if φ.stage r.other = .down then [] else (φ'.stage r).sent.drop (φ.stage r).sent.length := by
  have added : ∀ φ ∈ table, ∀ φ' ∈ φ.next r, φ'.got r.other = φ.got r.other ++
      if φ.stage r.other = .down then [] else (φ'.stage r).sent.drop (φ.stage r).sent.length := by
    cases r <;> decide
  exact added φ h φ' hn

/-- A move of `r` takes off its queue the note it handled, and nothing on its relay-connected
event. -/
theorem pending_next (h : φ ∈ table) (hn : φ.next r = some φ') :
    φ'.pending r = if φ.stage r = .joining then φ.pending r else (φ.pending r).tail := by
  have taken : ∀ φ ∈ table, ∀ φ' ∈ φ.next r,
      φ'.pending r = if φ.stage r = .joining then φ.pending r else (φ.pending r).tail := by
    cases r <;> decide
  exact taken φ h φ' hn

/-- A move of `r` puts at the end of the other's queue what `r` sent on it, unless the other
is not connected. -/
theorem pending_next_other (h : φ ∈ table) (hn : φ.next r = some φ') :
    φ'.pending r.other = φ.pending r.other ++
      if φ.stage r.other = .down then [] else (φ'.stage r).sent.drop (φ.stage r).sent.length := by
  have added : ∀ φ ∈ table, ∀ φ' ∈ φ.next r, φ'.pending r.other = φ.pending r.other ++
      if φ.stage r.other = .down then [] else (φ'.stage r).sent.drop (φ.stage r).sent.length := by
    cases r <;> decide
  exact added φ h φ' hn

/-- A party meets only notes it expects. -/
theorem handle_of_pending (h : φ ∈ table) (hj : φ.stage r ≠ .joining) {n : Note}
    {rest : List Note} (hp : φ.pending r = n :: rest) :
    ∃ st', (φ.stage r).handle (r == .big) n = some st' := by
  have expected : ∀ φ ∈ table, φ.stage r ≠ .joining →
      ∀ n ∈ (φ.pending r).head?, ((φ.stage r).handle (r == .big) n).isSome := by
    cases r <;> decide
  exact Option.isSome_iff_exists.mp (expected φ h hj n (by simp [hp]))

/-- With both connected and nothing left to handle, one party has connected and the other
answered: the larger after the offers crossed, or either when one join was dropped. -/
theorem quiet_cases (h : φ ∈ table)
    (hq : ∀ r, φ.stage r ≠ .down ∧ φ.stage r ≠ .joining ∧ φ.pending r = []) :
    φ = ⟨.won, .yielded, false, false⟩ ∨ φ = ⟨.connected, .answered, true, false⟩ ∨
      φ = ⟨.answered, .connected, false, true⟩ := by
  have settled : ∀ φ ∈ table,
      (∀ r ∈ [Role.big, .small], φ.stage r ≠ .down ∧ φ.stage r ≠ .joining ∧ φ.pending r = []) →
      φ = ⟨.won, .yielded, false, false⟩ ∨ φ = ⟨.connected, .answered, true, false⟩ ∨
        φ = ⟨.answered, .connected, false, true⟩ := by
    decide
  exact settled φ h fun r _ => hq r

end Phase

end MeshCall.Pair
