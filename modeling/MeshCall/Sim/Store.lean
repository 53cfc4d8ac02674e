import MeshCall.Store.File
/-!
# A bench for the saved-call file

The saved-call file sits in a directory of its own on a bench disk. Besides saving, loading and
clearing, a step can write raw text to the file, put a plain file where the directory should be,
or put a non-empty directory where the file should be. The directory is shown as `@STATEDIR@`
and the file as `@STATE@`.
-/

namespace MeshCall.Sim

open StateFile

/-- One step on the bench. -/
inductive StoreStep where
  | save (s : SavedCall)
  | load
  | clear
  | writeRaw (text : String)
  | blockDir
  | dirAtPath
  deriving Repr

/-- What a step answered. -/
inductive StoreResult where
  | done
  | loaded (found : Bool) (saved : SavedCall)
  | failed (f : Fault)

/-- Where a file name given to the bench lands, as the path parts from the bench's top
directory: the name is read inside `top/sub`, an empty part or `.` stays where it is and `..`
goes up a level, as paths are cleaned. -/
def landing (file : String) : List String :=
  (file.splitOn "/").foldl (fun acc c =>
    if c == "" || c == "." then acc else if c == ".." then acc.dropLast else acc ++ [c]) ["top", "sub"]

/-- The bench's places for a file of the given name. -/
def storePlace (file : String) : Place :=
  ⟨"@STATEDIR@", "@STATE@", formatOf (((landing file).getLast?).getD "top")⟩

/-- The bench before any step: empty, unless the name lands on the bench's top directory, which
is there, empty, inside a directory that is there too. -/
def startDisk (file : String) : Disk :=
  if (landing file).length < 2 then { dir := some (.dir true), path := some (.dir false) } else {}

/-- Writes text to the file, creating its directory first. -/
def writeRaw (p : Place) (text : String) (d : Disk) : Except Fault Disk := do
  let d ← (mkdirAll p d).mapError Fault.plain
  let d ← (create p d).mapError Fault.plain
  return { d with path := some (.file text) }

/-- Puts a plain file where the directory should be. -/
def blockDir (p : Place) (d : Disk) : Except Fault Disk :=
  match d.dir with
  | some (.dir _) => .error (Fault.plain ("open " ++ p.dirLabel ++ ": is a directory"))
  | _ => .ok { dir := some (.file ""), path := none }

/-- Puts a non-empty directory where the file should be. -/
def dirAtPath (p : Place) (d : Disk) : Except Fault Disk :=
  match d.dir with
  | some (.file _) => .error (Fault.plain ("mkdir " ++ p.dirLabel ++ ": not a directory"))
  | _ =>
    match d.path with
    | some (.file _) => .error (Fault.plain ("mkdir " ++ p.pathLabel ++ ": not a directory"))
    | _ => .ok { dir := some (.dir true), path := some (.dir true) }

/-- Runs one step. -/
def storeStep (p : Place) (d : Disk) : StoreStep → StoreResult × Disk
  | .save s => match save p s d with
    | (none, d) => (.done, d)
    | (some f, d) => (.failed f, d)
  | .load => match load p d with
    | .ok (some s) => (.loaded true s, d)
    | .ok none => (.loaded false {}, d)
    | .error f => (.failed f, d)
  | .clear => match clear p d with
    | .ok d => (.done, d)
    | .error f => (.failed f, d)
  | .writeRaw text => match writeRaw p text d with
    | .ok d => (.done, d)
    | .error f => (.failed f, d)
  | .blockDir => match blockDir p d with
    | .ok d => (.done, d)
    | .error f => (.failed f, d)
  | .dirAtPath => match dirAtPath p d with
    | .ok d => (.done, d)
    | .error f => (.failed f, d)

/-- Runs the steps on an empty bench for a file of the given name. -/
def runStore (file : String) (steps : List StoreStep) : List StoreResult :=
  let p := storePlace file
  (steps.foldl (fun (acc : List StoreResult × Disk) st =>
    let (r, d) := storeStep p acc.2 st
    (r :: acc.1, d)) ([], startDisk file)).1.reverse

end MeshCall.Sim
