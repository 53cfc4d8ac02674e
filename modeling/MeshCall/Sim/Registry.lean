import MeshCall.Session.Registry
/-!
# Scripted registry runs

Drives a registry with sessions held by handle, as a caller holding session references would:
a session can be changed whether or not the registry holds it, and a change shows in the
registry when the registry holds that very session. A handle names a session by id and
generation, `id@gen`; when several sessions were created under one handle, it names the last of
them. Sessions may be created without a connection, or with a connection whose closing fails.
-/

namespace MeshCall.Sim

/-- A session as the caller holds it, with what its connection does. -/
structure Held where
  session : Session
  hasConn : Bool
  closeFails : Bool
  deriving DecidableEq, Repr, Inhabited

/-- The handle of a session. -/
def handleOf (s : Session) : String := s.id ++ "@" ++ toString s.gen

inductive RegistryStep where
  | create (id : String) (gen : Nat) (name : String) (audio : Bool) (hasConn closeFails : Bool)
  | upsert (h : String)
  | remove (h : String)
  | get (id : String)
  | len
  | forEach
  | drain
  | setState (h : String) (code : Int)
  | setName (h : String) (name : String)
  | setAudio (h : String) (audio : Bool)
  | close (h : String)
  | info (h : String)
  | genNext
  deriving Repr

inductive RegistryResult where
  | created (handle : String)
  | upserted (old : Option Session)
  | removed (done : Bool)
  | found (s : Option Session)
  | length (n : Nat)
  | ids (ids : List String)
  | drained (sessions : List Session)
  | ok (done : Bool)
  | failed (message : String)
  | info (s : Session)
  | gen (n : Nat)
  deriving Repr

/-- What one step answers: its result, if it has one, the registry afterwards and the
connections closed during the step. -/
structure RegistryOutcome where
  result : Option RegistryResult
  snapshot : List Session
  closed : List String
  deriving Repr

structure Bench where
  registry : Registry := {}
  held : List Held := []
  lastGen : Nat := 0
  deriving Inhabited

namespace Bench

def find? (b : Bench) (h : String) : Option Held :=
  (b.held.reverse.find? fun x => handleOf x.session == h)

/-- Changes the held session `h`, and the registry's entry when it is that very session. -/
def change (b : Bench) (h : String) (f : Session → Session) : Bench :=
  match b.find? h with
  | some x =>
    let held := b.held.map fun y =>
      if y.session.same x.session then { y with session := f y.session } else y
    let registry := match b.registry.get? x.session.id with
      | some cur => if cur.same x.session then b.registry.modify cur.id f else b.registry
      | none => b.registry
    { b with held := held, registry := registry }
  | none => b

/-- One step. -/
def step (b : Bench) : RegistryStep → Bench × Option RegistryResult × List String
  | .create id gen name audio hasConn closeFails =>
    let (gen, last) := if gen == 0 then (b.lastGen + 1, b.lastGen + 1) else (gen, b.lastGen)
    let s : Session :=
      { id := id, gen := gen, serial := b.held.length, name := name, audio := audio }
    ({ b with held := b.held ++ [⟨s, hasConn, closeFails⟩], lastGen := last },
      some (.created (handleOf s)), [])
  | .upsert h =>
    match b.find? h with
    | some x =>
      let (r, old) := b.registry.upsert x.session
      ({ b with registry := r }, some (.upserted old), [])
    | none => (b, none, [])
  | .remove h =>
    match b.find? h with
    | some x =>
      let (r, done) := b.registry.remove x.session
      ({ b with registry := r }, some (.removed done), [])
    | none => (b, none, [])
  | .get id => (b, some (.found (b.registry.get? id)), [])
  | .len => (b, some (.length b.registry.len), [])
  | .forEach => (b, some (.ids (b.registry.snapshot.map (·.id))), [])
  | .drain =>
    let (out, r) := b.registry.drain
    ({ b with registry := r }, some (.drained out), [])
  | .setState h code =>
    match b.find? h with
    | some x =>
      let (_, done) := x.session.setState (SessionState.ofCode code)
      (b.change h fun s => (s.setState (SessionState.ofCode code)).1, some (.ok done), [])
    | none => (b, none, [])
  | .setName h name => (b.change h (·.setName name), none, [])
  | .setAudio h audio => (b.change h (·.setAudio audio), none, [])
  | .close h =>
    match b.find? h with
    | some x =>
      let (_, now) := x.session.close
      let b' := b.change h fun s => s.close.1
      if now && x.hasConn then
        (b', some (if x.closeFails then .failed "close failed" else .ok true), [h])
      else (b', some (.ok true), [])
    | none => (b, none, [])
  | .info h =>
    match b.find? h with
    | some x => (b, some (.info x.session), [])
    | none => (b, none, [])
  | .genNext => ({ b with lastGen := b.lastGen + 1 }, some (.gen (b.lastGen + 1)), [])

end Bench

/-- Runs the steps in order from an empty registry. -/
def runRegistry (steps : List RegistryStep) : List RegistryOutcome :=
  (steps.foldl (fun (b, acc) st =>
    let (b', result, closed) := b.step st
    (b', acc ++ [⟨result, b'.registry.snapshot, closed⟩])) ((default : Bench), [])).2

end MeshCall.Sim
