import MeshCall.Speaking.Rtp
/-!
# Scripted meter runs

Drives one speaking meter on a manual clock that starts at Unix time 1000 s, recording the
changes the meter reports at each step.
-/

namespace MeshCall.Sim

/-- The manual clock's starting instant, in nanoseconds since the Unix epoch. -/
def clockStart : Int := 1000 * 1000000000

inductive MeterStep where
  | level (n : Nat)
  | payload (n : Int)
  | packet (pkt : RtpPacket) (extId : Nat)
  | advance (ms : Int)
  | clear
  deriving Repr

/-- What one step answers: the state afterwards and the changes reported during it. -/
structure MeterOutcome where
  speaking : Bool
  changes : List Bool
  deriving Repr

/-- Milliseconds as a nanosecond duration, wrapping like 64-bit machine arithmetic. -/
def millis (ms : Int) : Int := wrap64 (ms * 1000000)

def meterStep (m : Meter) (now : Int) : MeterStep → Meter × Int × Option Bool
  | .level n => let (m, c) := m.observeLevel now n; (m, now, c)
  | .payload n => let (m, c) := m.observePayload now n; (m, now, c)
  | .packet pkt extId => let (m, c) := m.observePacket now pkt extId; (m, now, c)
  | .advance ms => (m, now + millis ms, none)
  | .clear => (m.clear, now, none)

/-- Runs the steps on a fresh meter with this threshold and hold time. -/
def runMeter (threshold : Nat) (holdMs : Int) (steps : List MeterStep) : List MeterOutcome :=
  (steps.foldl (fun (m, now, acc) st =>
    let (m', now', change) := meterStep m now st
    (m', now', acc ++ [⟨m'.speaking, change.toList⟩]))
    (Meter.create threshold (millis holdMs), clockStart, [])).2.2

end MeshCall.Sim
