import MeshCall.Fault
/-!
# Files and byte readers

The files capture devices read, as a table from paths to contents, and the reading primitives
the container formats share: reading exactly `n` bytes, which ends cleanly (`EOF`) when nothing
is left and fails (`unexpected EOF`) when only part of them is, and little-endian integers.
-/

namespace MeshCall.Media

/-- Files by path. -/
structure Disk where
  files : List (String × List UInt8) := []
  deriving Inhabited

namespace Disk

/-- The contents of a file. -/
def read (d : Disk) (path : String) : Except Fault (List UInt8) :=
  match (d.files.find? (·.1 == path)).map (·.2) with
  | some bs => .ok bs
  | none => .error (Fault.plain ("open " ++ path ++ ": no such file or directory"))

def remove (d : Disk) (path : String) : Disk := ⟨d.files.filter (·.1 != path)⟩

end Disk

/-- Exactly `n` bytes from the front, and the rest. -/
def readFull (n : Nat) (bs : List UInt8) : Except Fault (List UInt8 × List UInt8) :=
  if n = 0 then .ok ([], bs)
  else if bs.isEmpty then .error Fault.eof
  else if bs.length < n then .error Fault.unexpectedEof
  else .ok (bs.take n, bs.drop n)

/-- A little-endian unsigned integer. -/
def littleEndian (bs : List UInt8) : Nat := bs.foldr (fun b acc => acc * 256 + b.toNat) 0

/-- One encoded sample and how long it plays, in nanoseconds. -/
structure Sample where
  data : List UInt8
  duration : Int
  deriving DecidableEq, Repr, Inhabited

end MeshCall.Media
