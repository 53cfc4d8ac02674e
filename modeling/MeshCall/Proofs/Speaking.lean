import Mathlib
import MeshCall.Speaking.Rtp
/-!
# The speaking indicator follows its reference

A meter lives through observations, moves of the clock by any signed amount, and clears. What it
hears is a history of loud and quiet observations, each at the instant the clock showed, and of
clears. The reference reading of a history (`Meter.Speaks`) says a participant is speaking when
something loud was heard since the last clear and nothing quiet was heard after the last loud
observation, at `tL`, at an instant `t` whose saturated difference `t - tL` reaches the hold.

Main statement: after every step of every run, from a fresh meter with any threshold and hold,
the meter says speaking exactly when the reference does, and a step reports a change, carrying
the new value, exactly when it is an observation and the reference changed; a clear and a move of
the clock report nothing.

The invariant is `Meter.Agrees`: the meter keeps the instant of the last loud observation since
the last clear, and its speaking flag is the reference's. One lemma says what a single
observation does (`Agrees.observe`); the run follows by induction on the steps.
-/

namespace MeshCall

namespace Meter

/-- One step of a meter's life: an observation at the current instant, a move of the clock, or a
clear. -/
inductive Step where
  | level (n : Nat)
  | payload (n : Int)
  | packet (pkt : RtpPacket) (extId : Nat)
  | advance (d : Int)
  | clear
  deriving DecidableEq, Repr

namespace Step

/-- The instant after a step: only a move of the clock changes it. -/
def after (now : Int) : Step → Int
  | .advance d => now + d
  | _ => now

/-- What one step does to a meter at instant `now`: the meter after it and the change it reports,
if any. -/
def apply (m : Meter) (now : Int) : Step → Meter × Option Bool
  | .level n => m.observeLevel now n
  | .payload n => m.observePayload now n
  | .packet pkt e => m.observePacket now pkt e
  | .advance _ => (m, none)
  | .clear => (m.clear, none)

/-- The instant the clock shows after the steps. -/
def clock (now : Int) (sts : List Step) : Int := sts.foldl (fun now st => st.after now) now

/-- The meter after the steps, run from `m` with the clock at `now`. -/
def run : Meter → Int → List Step → Meter
  | m, _, [] => m
  | m, now, st :: sts => run (st.apply m now).1 (st.after now) sts

def observes : Step → Bool
  | .level _ | .payload _ | .packet .. => true
  | .advance _ | .clear => false

end Step

/-! ## The reference -/

/-- What a meter hears: loud and quiet observations with their instants, and clears. -/
inductive Heard where
  | loud (t : Int)
  | quiet (t : Int)
  | clear
  deriving DecidableEq, Repr

/-- An observation at `now`, loud or quiet. -/
def Heard.observed (loud : Bool) (now : Int) : Heard := if loud then .loud now else .quiet now

/-- Whether a packet is loud for threshold `t`: by the low seven bits of the first byte of audio
level extension `e` when `e` is not zero and the packet carries that extension with a byte,
otherwise by its payload being larger than sixteen bytes. -/
def packetLoud (t : Nat) (pkt : RtpPacket) (e : Nat) : Bool :=
  match if e = 0 then none else pkt.extension? e with
  | some (b :: _) => decide ((b &&& 0x7f).toNat < t)
  | _ => decide (pkt.payloadLength > 16)

/-- What a step at instant `now` lets a meter of threshold `t` hear. -/
def Step.heard? (t : Nat) (now : Int) : Step → Option Heard
  | .level n => some (.observed (decide (n < t)) now)
  | .payload n => some (.observed (decide (n > 16)) now)
  | .packet pkt e => some (.observed (packetLoud t pkt e) now)
  | .advance _ => none
  | .clear => some .clear

/-- What a run of steps from instant `now` lets a meter of threshold `t` hear, in order. -/
def heard (t : Nat) : Int → List Step → List Heard
  | _, [] => []
  | now, st :: sts => (st.heard? t now).toList ++ heard t (st.after now) sts

/-- The reference: something loud was heard, at `tL`, and after it only quiet observations,
each less than the hold after `tL` in saturated difference (so no clear, and no later loud one). -/
def Speaks (hold : Int) (h : List Heard) : Prop :=
  ∃ pre tL post, h = pre ++ .loud tL :: post ∧
    ∀ e ∈ post, ∃ t, e = .quiet t ∧ saturate (t - tL) < hold

/-- The instant of the last loud observation since the last clear, if any. -/
def lastLoud? (h : List Heard) : Option Int :=
  h.foldl (fun acc e => match e with
    | .loud t => some t
    | .quiet _ => acc
    | .clear => none) none

/-! ## The reference, one observation at a time -/

variable {hold : Int} {h : List Heard}

/-- A list that grew at its end, split around one of its members: the member is the new last one,
or it was there before. -/
theorem snoc_eq_append_cons {α : Type} {xs pre post : List α} {x y : α}
    (e : xs ++ [x] = pre ++ y :: post) :
    (post = [] ∧ y = x ∧ pre = xs) ∨ ∃ post', post = post' ++ [x] ∧ xs = pre ++ y :: post' := by
  rcases List.eq_nil_or_concat post with rfl | ⟨post', z, rfl⟩
  · obtain ⟨h1, h2⟩ := List.append_inj' e rfl
    exact Or.inl ⟨rfl, (List.singleton_inj.mp h2).symm, h1.symm⟩
  · have e' : xs ++ [x] = (pre ++ y :: post') ++ [z] := by simpa using e
    obtain ⟨h1, h2⟩ := List.append_inj' e' rfl
    obtain rfl := List.singleton_inj.mp h2
    exact Or.inr ⟨post', by simp, h1⟩

@[simp] theorem lastLoud?_loud (t : Int) : lastLoud? (h ++ [.loud t]) = some t := by
  simp [lastLoud?]

@[simp] theorem lastLoud?_quiet (t : Int) : lastLoud? (h ++ [.quiet t]) = lastLoud? h := by
  simp [lastLoud?]

@[simp] theorem lastLoud?_clear : lastLoud? (h ++ [.clear]) = none := by
  simp [lastLoud?]

/-- Quiet observations after a loud one leave it the last loud one. -/
theorem lastLoud?_of_quiet {pre post : List Heard} {tL : Int}
    (hq : ∀ e ∈ post, ∃ t, e = .quiet t ∧ saturate (t - tL) < hold) :
    lastLoud? (pre ++ .loud tL :: post) = some tL := by
  induction post using List.reverseRecOn with
  | nil => simp
  | append_singleton post e ih =>
    obtain ⟨t, rfl, -⟩ := hq e (by simp)
    have hpost := ih fun e' he' => hq e' (by simp [he'])
    have e : pre ++ .loud tL :: (post ++ [.quiet t]) = (pre ++ .loud tL :: post) ++ [.quiet t] :=
      by simp
    rw [e, lastLoud?_quiet, hpost]

theorem speaks_loud (t : Int) : Speaks hold (h ++ [.loud t]) :=
  ⟨h, t, [], rfl, by simp⟩

theorem not_speaks_clear : ¬ Speaks hold (h ++ [.clear]) := by
  rintro ⟨pre, tL, post, e, hq⟩
  rcases snoc_eq_append_cons e with ⟨-, he, -⟩ | ⟨post', rfl, -⟩
  · exact Heard.noConfusion he
  · obtain ⟨t, ht, -⟩ := hq .clear (by simp)
    exact Heard.noConfusion ht

/-- A quiet observation ends speaking exactly when it comes the hold or more after the last loud
one. -/
theorem speaks_quiet (t : Int) :
    Speaks hold (h ++ [.quiet t]) ↔
      Speaks hold h ∧ ∀ tL, lastLoud? h = some tL → saturate (t - tL) < hold := by
  constructor
  · rintro ⟨pre, tL, post, e, hq⟩
    rcases snoc_eq_append_cons e with ⟨-, he, -⟩ | ⟨post', rfl, rfl⟩
    · exact Heard.noConfusion he
    · have hq' : ∀ e ∈ post', ∃ t, e = .quiet t ∧ saturate (t - tL) < hold :=
        fun e he => hq e (by simp [he])
      refine ⟨⟨pre, tL, post', rfl, hq'⟩, fun tL' hl => ?_⟩
      obtain rfl : tL = tL' := Option.some.inj ((lastLoud?_of_quiet hq').symm.trans hl)
      obtain ⟨t', ht', hlt⟩ := hq (.quiet t) (by simp)
      obtain rfl : t = t' := Heard.quiet.inj ht'
      exact hlt
  · rintro ⟨⟨pre, tL, post, rfl, hq⟩, hlt⟩
    refine ⟨pre, tL, post ++ [.quiet t], by simp, fun e he => ?_⟩
    rcases List.mem_append.mp he with he | he
    · exact hq e he
    · obtain rfl := List.mem_singleton.mp he
      exact ⟨t, rfl, hlt tL (lastLoud?_of_quiet hq)⟩

/-! ## A meter agrees with what it heard -/

/-- A meter agrees with a history: it has threshold `t` and the hold, it keeps the instant of the
last loud observation since the last clear, and it says speaking exactly when the reference
does. -/
structure Agrees (t : Nat) (hold : Int) (m : Meter) (h : List Heard) : Prop where
  threshold_eq : m.threshold = t
  hold_eq : m.hold = hold
  lastLoud_eq : m.lastLoud = lastLoud? h
  speaking_iff : m.speaking = true ↔ Speaks hold h

/-- A value reported when it differs from the previous one tells the change of whatever the two
values stand for, and carries the new one. -/
theorem reported_change {x y : Bool} {P Q : Prop} (hx : x = true ↔ P) (hy : y = true ↔ Q) :
    ((if x != y then some x else none).isSome ↔ ¬ (P ↔ Q)) ∧
      ∀ b, (if x != y then some x else none) = some b → (b = true ↔ P) := by
  rw [← hx, ← hy]
  cases x <;> cases y <;> simp

namespace Agrees

variable {t : Nat} {m : Meter}

theorem create (threshold : Nat) (hold : Int) :
    Agrees (if threshold = 0 then 50 else threshold) hold (Meter.create threshold hold) [] where
  threshold_eq := rfl
  hold_eq := rfl
  lastLoud_eq := rfl
  speaking_iff := ⟨fun e => Bool.noConfusion e, fun ⟨pre, _, _, e, _⟩ => by simp at e⟩

/-- One observation: the meter agrees with the history grown by it, and reports exactly the
changes of the reference. -/
theorem observe (ha : Agrees t hold m h) (now : Int) (loud : Bool) :
    Agrees t hold (m.observe now loud).1 (h ++ [.observed loud now]) ∧
      ((m.observe now loud).2.isSome ↔
        ¬ (Speaks hold (h ++ [.observed loud now]) ↔ Speaks hold h)) ∧
      ∀ b, (m.observe now loud).2 = some b → (b = true ↔ Speaks hold (h ++ [.observed loud now])) := by
  have hnew : Agrees t hold (m.observe now loud).1 (h ++ [.observed loud now]) := by
    cases loud
    case true =>
      exact ⟨ha.threshold_eq, ha.hold_eq, by simp [Meter.observe, Heard.observed],
        by simp [Meter.observe, Heard.observed, speaks_loud]⟩
    case false =>
      refine ⟨ha.threshold_eq, ha.hold_eq, by simp [Meter.observe, Heard.observed, ha.lastLoud_eq], ?_⟩
      simp only [Meter.observe, Heard.observed, Bool.false_eq_true, if_false, speaks_quiet]
      -- a quiet observation turns speaking off once the hold has passed since the last loud one
      cases hs : m.speaking
      case false =>
        simp only [Bool.false_and, if_false, Bool.false_eq_true, false_iff, not_and]
        exact fun hsp => absurd (ha.speaking_iff.mpr hsp) (by simp [hs])
      case true =>
        obtain ⟨pre, tL, post, rfl, hq⟩ := ha.speaking_iff.mp hs
        have hl : m.lastLoud = some tL := ha.lastLoud_eq.trans (lastLoud?_of_quiet hq)
        simp only [holdElapsed, hl, ha.hold_eq, Bool.true_and, lastLoud?_of_quiet hq,
          Option.some.injEq, forall_eq', decide_eq_true_eq]
        refine ⟨fun h' => ⟨ha.speaking_iff.mp hs, ?_⟩, fun ⟨_, hlt⟩ => ?_⟩
        · split at h'
          · exact absurd h' (by simp)
          · omega
        · simp [not_le.mpr hlt]
  exact ⟨hnew, reported_change hnew.speaking_iff ha.speaking_iff⟩

/-- A packet is observed as its level when it has one, and by its payload otherwise. -/
theorem observePacket_eq (ha : Agrees t hold m h) (now : Int) (pkt : RtpPacket) (e : Nat) :
    m.observePacket now pkt e = m.observe now (packetLoud t pkt e) := by
  simp only [observePacket, packetLoud, observeLevel, observePayload, silentPayloadSize,
    ha.threshold_eq]
  by_cases he : e = 0
  · simp [he]
  · simp only [he, if_false, beq_iff_eq]
    cases hx : pkt.extension? e with
    | none => simp
    | some raw =>
      cases raw with
      | nil => simp [audioLevel?]
      | cons b _ =>
        have hb : (b &&& 0x7f).toNat = b.toNat % 128 := by
          rw [UInt8.toNat_and]
          exact Nat.and_two_pow_sub_one_eq_mod _ 7
        simp [audioLevel?, hb]

/-- One step: the meter agrees with the history grown by what the step lets it hear, and reports a
change exactly for an observation that changes the reference. -/
theorem step (ha : Agrees t hold m h) (now : Int) (st : Step) :
    let h' := h ++ (st.heard? t now).toList
    Agrees t hold (st.apply m now).1 h' ∧
      ((st.apply m now).2.isSome ↔ st.observes ∧ ¬ (Speaks hold h' ↔ Speaks hold h)) ∧
      ∀ b, (st.apply m now).2 = some b → (b = true ↔ Speaks hold h') := by
  cases st with
  | level n =>
    simpa [Step.apply, Step.heard?, Step.observes, observeLevel, ha.threshold_eq] using
      ha.observe now (decide (n < t))
  | payload n =>
    simpa [Step.apply, Step.heard?, Step.observes, observePayload, silentPayloadSize] using
      ha.observe now (decide (n > 16))
  | packet pkt e =>
    simpa [Step.apply, Step.heard?, Step.observes, ha.observePacket_eq] using
      ha.observe now (packetLoud t pkt e)
  | advance d => simpa [Step.apply, Step.heard?, Step.observes] using ha
  | clear =>
    refine ⟨⟨ha.threshold_eq, ha.hold_eq, by simp [Step.apply, Step.heard?, Meter.clear], ?_⟩,
      by simp [Step.apply, Step.observes], by simp [Step.apply]⟩
    simpa [Step.apply, Step.heard?, Meter.clear] using not_speaks_clear

/-- A run of steps: the meter agrees with everything heard along it. -/
theorem run (ha : Agrees t hold m h) (now : Int) (sts : List Step) :
    Agrees t hold (Step.run m now sts) (h ++ heard t now sts) := by
  induction sts generalizing m now h with
  | nil => simpa [Step.run, heard] using ha
  | cons st sts ih =>
    simpa [Step.run, heard, List.append_assoc] using ih (ha.step now st).1 (st.after now)

end Agrees

/-- What a run followed by one more step hears: what the run heard, then what the step hears at
the instant the clock shows after the run. -/
theorem heard_append_single (t : Nat) (now : Int) (pre : List Step) (st : Step) :
    heard t now (pre ++ [st]) = heard t now pre ++ (st.heard? t (Step.clock now pre)).toList := by
  induction pre generalizing now with
  | nil => simp [heard, Step.clock]
  | cons st' pre ih => simp [heard, Step.clock, ih]

end Meter

/-- The speaking indicator follows its reference. Take a fresh meter with any threshold (zero
meaning 50) and any hold, run any steps on it from any instant, and then one more step: the meter
then says speaking exactly when the reference reading of everything heard says so, and the step
reports a change exactly when it is an observation after which the reference differs from before,
the change carrying the new value. -/
theorem meter_follows_reference (threshold : Nat) (hold now : Int) (pre : List Meter.Step)
    (st : Meter.Step) :
    let t := if threshold = 0 then 50 else threshold
    let out := st.apply (Meter.Step.run (Meter.create threshold hold) now pre)
      (Meter.Step.clock now pre)
    let before := Meter.heard t now pre
    let after := Meter.heard t now (pre ++ [st])
    (out.1.speaking = true ↔ Meter.Speaks hold after) ∧
      (out.2.isSome ↔ st.observes ∧ ¬ (Meter.Speaks hold after ↔ Meter.Speaks hold before)) ∧
      ∀ b, out.2 = some b → (b = true ↔ Meter.Speaks hold after) := by
  intro t out before after
  have ha := (Meter.Agrees.create threshold hold).run now pre
  have hstep := ha.step (Meter.Step.clock now pre) st
  rw [List.nil_append, ← Meter.heard_append_single] at hstep
  exact ⟨hstep.1.speaking_iff, hstep.2⟩

end MeshCall
