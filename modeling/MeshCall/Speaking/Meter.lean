/-!
# Speaking meter

Turns audio observations into a speaking indicator. An observation is *loud* when its RFC 6464
level (0 is loudest, 127 is silence) is below the threshold, or, without a level, when the
encoded frame is larger than sixteen bytes (smaller frames are comfort noise). A loud
observation turns speaking on; a quiet one turns it off once the hold time has passed since the
last loud one, so that the indicator does not flicker between words.

Time is counted in nanoseconds. Differences of instants saturate at the bounds of a signed
64-bit count, and a meter that never heard anything loud has its last loud instant infinitely
far in the past.
-/

namespace MeshCall

/-- The default threshold, in dBov. -/
def defaultThreshold : Nat := 50

/-- The default hold time: 400 ms. -/
def defaultHold : Int := 400000000

/-- Frames of at most this many bytes are silence. -/
def silentPayloadSize : Nat := 16

/-- The bounds of a signed 64-bit count. -/
def int64Min : Int := -Int.pow 2 63

def int64Max : Int := Int.pow 2 63 - 1

/-- Clamps into the signed 64-bit range. -/
def saturate (x : Int) : Int := max int64Min (min int64Max x)

/-- Wraps into the signed 64-bit range, as machine arithmetic does. -/
def wrap64 (x : Int) : Int := (x + Int.pow 2 63) % Int.pow 2 64 - Int.pow 2 63

/-- The state of one meter. -/
structure Meter where
  threshold : Nat
  hold : Int
  speaking : Bool := false
  lastLoud : Option Int := none
  deriving DecidableEq, Repr, Inhabited

namespace Meter

/-- A fresh meter; a threshold of zero means the default. -/
def create (threshold : Nat) (hold : Int) : Meter :=
  { threshold := if threshold = 0 then defaultThreshold else threshold, hold := hold }

/-- Whether the hold time has passed at `now` since the last loud observation. -/
def holdElapsed (m : Meter) (now : Int) : Bool :=
  match m.lastLoud with
  | none => true
  | some t => decide (saturate (now - t) ≥ m.hold)

/-- One observation at `now`: the new meter and the change it reports, if any. -/
def observe (m : Meter) (now : Int) (loud : Bool) : Meter × Option Bool :=
  let m' := if loud then { m with lastLoud := some now } else m
  let next := if loud then true else if m.speaking && m.holdElapsed now then false else m.speaking
  ({ m' with speaking := next }, if next != m.speaking then some next else none)

/-- An RFC 6464 level in -dBov. -/
def observeLevel (m : Meter) (now : Int) (level : Nat) : Meter × Option Bool :=
  m.observe now (decide (level < m.threshold))

/-- One encoded frame of `n` bytes. -/
def observePayload (m : Meter) (now : Int) (n : Int) : Meter × Option Bool :=
  m.observe now (decide (n > silentPayloadSize))

/-- Forces the silent state without reporting it, so that the next loud observation is a change
again. -/
def clear (m : Meter) : Meter := { m with speaking := false, lastLoud := none }

end Meter

end MeshCall
