import MeshCall.Session.State
/-!
# Remote sessions and the registry

One negotiation per remote participant. A session is known by the remote id and by its
generation: generations are handed out in increasing order, one per session created, so a late
callback that carries an older generation is recognisably stale. Each session also has a serial
of its own, which no other session shares; it tells two sessions apart even where they carry
the same id and generation. The registry holds at most one session per remote id; listings come
sorted by id.
-/

namespace MeshCall

/-- The negotiation state of one remote participant. -/
structure Session where
  id : String
  gen : Nat
  /-- Which session this is: no two sessions share it. -/
  serial : Nat
  name : String
  audio : Bool
  state : SessionState := .new
  /-- Whether the session was closed already: its connection is closed the first time only. -/
  closeDone : Bool := false
  deriving DecidableEq, Repr, Inhabited

namespace Session

/-- Moves to `next`; `closed` is final, and then nothing changes and the answer is `false`. -/
def setState (s : Session) (next : SessionState) : Session × Bool :=
  if s.state = .closed then (s, false) else ({ s with state := next }, true)

/-- Records a display name; an empty name is ignored. -/
def setName (s : Session) (name : String) : Session :=
  if name = "" then s else { s with name := name }

def setAudio (s : Session) (audio : Bool) : Session := { s with audio := audio }

/-- Closes the session: the state becomes `closed`, and the answer says whether the connection
is to be closed now, which is the first time only. -/
def close (s : Session) : Session × Bool :=
  if s.closeDone then (s, false) else ({ s with state := .closed, closeDone := true }, true)

/-- The very same session, whatever has changed in it since. -/
def same (a b : Session) : Bool := a.serial == b.serial

end Session

/-- Byte order of ids, in which listings are sorted. -/
def idBefore (a b : String) : Bool := decide (a < b)

/-- Sessions sorted by id. -/
def sortById (xs : List Session) : List Session :=
  xs.mergeSort fun a b => !idBefore b.id a.id

/-- The remote id → session table of a call. -/
structure Registry where
  sessions : List Session := []
  deriving DecidableEq, Repr, Inhabited

namespace Registry

def get? (r : Registry) (id : String) : Option Session := r.sessions.find? (·.id == id)

/-- Stores `s`, and gives back the session it displaced, if any. -/
def upsert (r : Registry) (s : Session) : Registry × Option Session :=
  match r.get? s.id with
  | some old => (⟨r.sessions.map fun x => if x.id == s.id then s else x⟩, some old)
  | none => (⟨r.sessions ++ [s]⟩, none)

/-- Removes the entry for `s.id` only when it still is `s`: a stale caller cannot evict the
session that replaced its own. -/
def remove (r : Registry) (s : Session) : Registry × Bool :=
  match r.get? s.id with
  | some cur => if cur.same s then (⟨r.sessions.filter (·.id != s.id)⟩, true) else (r, false)
  | none => (r, false)

def len (r : Registry) : Nat := r.sessions.length

/-- Every session, sorted by id. -/
def snapshot (r : Registry) : List Session := sortById r.sessions

/-- Every session sorted by id, and the registry emptied. -/
def drain (r : Registry) : List Session × Registry := (r.snapshot, {})

/-- Applies `f` to the session of `id`, if there is one. -/
def modify (r : Registry) (id : String) (f : Session → Session) : Registry :=
  ⟨r.sessions.map fun x => if x.id == id then f x else x⟩

/-- The current session of `id`, if it is generation `gen`. -/
def lookup (r : Registry) (id : String) (gen : Nat) : Option Session :=
  match r.get? id with
  | some s => if s.gen == gen then some s else none
  | none => none

end Registry

end MeshCall
