import MeshCall.Numeric.Fixed
/-!
Traffic figures of a call: how many sessions were opened and closed and how many retries fired,
and the fixed-width texts a traffic report prints. A byte count is scaled by 1024 while it is
above 99 (at most to PiB), so that it always fits four characters with one decimal.
-/

namespace MeshCall

/-- Running counts of a call. -/
structure Counters where
  opened : Nat := 0
  closed : Nat := 0
  retries : Nat := 0
  deriving DecidableEq, Repr, Inhabited

namespace Traffic

def units : List String := ["B", "KiB", "MiB", "GiB", "TiB", "PiB"]

/-- Divides by 1024 while the value is above 99 and a larger unit is left. -/
def reduce (b : Float) (unit : Nat) : Nat → Float × Nat
  | 0 => (b, unit)
  | left + 1 => if b > 99 then reduce (b / 1024) (unit + 1) left else (b, unit)

/-- A byte amount in eight characters, such as `" 1.5 KiB"`. -/
def formatBytes (b : Float) : String :=
  let (v, unit) := reduce b 0 (units.length - 1)
  Fixed.padLeft 4 (Fixed.text 1 v) ++ " " ++ Fixed.padLeft 3 (units.getD unit "")

/-- One line of a traffic report. -/
def formatStats (peers sent recv : Int) (mediaPerSecond : Float) (retries : Int) : String :=
  "Peers: " ++ Fixed.padLeft 2 (toString peers) ++ " | Signal: " ++
    Fixed.padLeft 3 (toString sent) ++ "↑ " ++ Fixed.padLeft 3 (toString recv) ++
    "↓ | Media: " ++ formatBytes mediaPerSecond ++ "/s | Retries: " ++ toString retries

end Traffic

end MeshCall
