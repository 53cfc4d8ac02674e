import MeshCall.Call.Basic
import MeshCall.Session.Registry
import MeshCall.Speaking.Meter
import MeshCall.Traffic
import MeshCall.Envelope.Wire
/-!
# The call controller: state and sessions

The controller owns the session registry of one call; every change to it happens in one event
handler at a time. Besides the registry it keeps the pending retries, the count of consecutive
retries per remote participant, the speaking meters, the local media and the traffic counters.

Sessions are created with the active local tracks attached and get the next generation; a
session that is replaced or torn down is closed exactly once, and its connection with it.
-/

namespace MeshCall

/-- A pending retry: the generation it is for and the timer that will post it. -/
structure RetryTask where
  gen : Nat
  timer : Nat
  deriving DecidableEq, Repr, Inhabited

/-- The speaking meter of the audio track of session `(id, gen)`. -/
structure RemoteMeter where
  id : String
  gen : Nat
  meter : Meter
  deriving DecidableEq, Repr, Inhabited

/-- The registered meter of the audio of session generation `gen`, by number. -/
structure MeterRef where
  gen : Nat
  meter : Nat
  deriving DecidableEq, Repr, Inhabited

/-! Lookups in lists of pairs keyed by id. -/

namespace Assoc

def get? {α : Type} (xs : List (String × α)) (k : String) : Option α :=
  (xs.find? (·.1 == k)).map (·.2)

def set {α : Type} (xs : List (String × α)) (k : String) (v : α) : List (String × α) :=
  if xs.any (·.1 == k) then xs.map fun p => if p.1 == k then (k, v) else p else xs ++ [(k, v)]

def erase {α : Type} (xs : List (String × α)) (k : String) : List (String × α) :=
  xs.filter (·.1 != k)

end Assoc

/-- The meters once `s` is closed: its meter is forgotten while it is still that session's. -/
def forgetMeter (meters : List (String × MeterRef)) (s : Session) : List (String × MeterRef) :=
  match Assoc.get? meters s.id with
  | some m => if m.gen == s.gen then Assoc.erase meters s.id else meters
  | none => meters

structure Controller where
  cfg : CallConfig
  media : Media.Manager
  registry : Registry := {}
  lastGen : Nat := 0
  ended : Bool := false
  retries : List (String × RetryTask) := []
  attempts : List (String × Nat) := []
  meters : List (String × MeterRef) := []
  localMeter : Meter
  /-- Every remote meter made, by number. -/
  remoteMeters : List RemoteMeter := []
  counters : Counters := {}
  deriving Inhabited

/-- A controller and the world around it. -/
structure Call (σ : Type) where
  ctl : Controller
  world : σ

abbrev CallM (σ : Type) := StateM (Call σ)

/-- The name a tile shows: the display name, or the id when there is none. -/
def displayName (name id : String) : String := if name = "" then id else name

namespace Controller

/-- A fresh controller; the active stream must already be set on the media. -/
def create (cfg : CallConfig) (media : Media.Manager) : Controller :=
  { cfg := { cfg with retry := cfg.retry.normalize }, media := media,
    localMeter := Meter.create cfg.threshold defaultHold }

/-- What closing `s` records: its meter is forgotten, and one more session counts as closed. -/
def noteClosed (c : Controller) (s : Session) : Controller :=
  { c with meters := forgetMeter c.meters s,
           counters := { c.counters with closed := c.counters.closed + 1 } }

def buttons (c : Controller) : Buttons :=
  ⟨!c.media.audioEnabled, !c.media.videoEnabled, c.media.sharing⟩

/-- What a rejoin after a restart needs. -/
def saved (c : Controller) : SavedCall :=
  ⟨c.cfg.room, c.cfg.self.name, !c.media.audioEnabled, !c.media.videoEnabled⟩

end Controller

section

variable {σ : Type} (L : Links σ)

def ask {α : Type} (f : σ → α × σ) : CallM σ α :=
  modifyGet fun c => let (a, w) := f c.world; (a, { c with world := w })

def tell (f : σ → σ) : CallM σ Unit := modify fun c => { c with world := f c.world }

def ctl : CallM σ Controller := return (← get).ctl

def modifyCtl (f : Controller → Controller) : CallM σ Unit := modify fun c => { c with ctl := f c.ctl }

def present (v : ViewCall) : CallM σ Unit := tell (L.present v)

/-- Hands an envelope to the relay; a relay that is down drops it. -/
def send (m : Envelope) : CallM σ Unit := do
  let _ ← ask (L.send m)

def sendJoin : CallM σ Unit := do
  let c ← ctl
  send L (.join ⟨c.cfg.self.id, c.cfg.self.name, c.media.audioEnabled⟩)

/-- Sends a local description to one peer; a description that has no envelope is dropped. -/
def sendDescription (d : SessionDescription) (peer : String) : CallM σ Unit := do
  let c ← ctl
  match Description.ofSession d c.cfg.self.id peer c.cfg.self.name c.media.audioEnabled with
  | .ok m => send L (.description m)
  | .error _ => pure ()

/-- Saves what a rejoin after a restart needs. -/
def persist : CallM σ Unit := do
  let c ← ctl
  let _ ← ask (L.save c.saved)

def request (s : Session) (r : ConnRequest) : CallM σ (Option Fault) := ask (L.request s.id s.gen r)

/-- Closes a session that is no longer registered: its connection is closed, its meter
forgotten and the session counted as closed. A closed session is left alone. -/
def closeSession (s : Session) : CallM σ Unit := do
  if s.state = .closed then return
  let (_, now) := s.close
  if now then
    let _ ← request L s .close
  modifyCtl (·.noteClosed s)

/-- Closes `s` and takes it out of the registry. Its tile stays: a replacement is expected. -/
def discardSession (s : Session) : CallM σ Unit := do
  modifyCtl fun c => { c with registry := (c.registry.remove s).1 }
  closeSession L s

/-- Drops a session whose negotiation failed, and its tile. -/
def abortNegotiation (s : Session) : CallM σ Unit := do
  discardSession L s
  present L (.removeTile s.id)

/-- Creates and registers a session for `id` with the active local tracks attached. The new
session gets the next generation, which tags every callback of its connection and, being
never handed out twice, serves as its serial. -/
def newSession (id name : String) (audio : Bool) : CallM σ (Option Session) := do
  let gen := (← ctl).lastGen + 1
  modifyCtl fun c => { c with lastGen := gen }
  if (← ask (L.newConn id gen)).isSome then return none
  let c ← ctl
  let tracks := match c.media.activeStream with
    | some a => c.media.sendTracks a
    | none => []
  let s : Session := { id := id, gen := gen, serial := gen, name := name, audio := audio }
  for t in tracks do
    if (← request L s (.addTrack t)).isSome then
      let _ ← request L s .close
      return none
  let (r, old) := (← ctl).registry.upsert s
  modifyCtl fun c => { c with registry := r }
  if let some o := old then closeSession L o
  modifyCtl fun c => { c with counters := { c.counters with opened := c.counters.opened + 1 } }
  present L (.addTile id (displayName name id) audio)
  present L (.setPeerState id .new)
  return some s

/-- Moves the registered session of `id` to a state. -/
def setSessionState (id : String) (st : SessionState) : CallM σ Unit :=
  modifyCtl fun c => { c with registry := c.registry.modify id fun s => (s.setState st).1 }

/-- The current session of `id` if it is generation `gen`. -/
def lookup (id : String) (gen : Nat) : CallM σ (Option Session) :=
  return (← ctl).registry.lookup id gen

def cancelRetry (id : String) : CallM σ Unit := do
  match Assoc.get? (← ctl).retries id with
  | some t =>
    tell (L.disarm t.timer)
    modifyCtl fun c => { c with retries := Assoc.erase c.retries id }
  | none => pure ()

/-- Arms a rebuild of the failed session `(id, gen)` after the retry delay, replacing a pending
one, unless the retries in a row for `id` reached the bound. -/
def scheduleRetry (id : String) (gen : Nat) : CallM σ Unit := do
  let c ← ctl
  let limit := c.cfg.retry.maxAttempts
  if limit > 0 && ((Assoc.get? c.attempts id).getD 0 : Int) ≥ limit then return
  cancelRetry L id
  let timer ← ask (L.arm c.cfg.retry.delayMs (.retry id gen))
  modifyCtl fun c => { c with retries := Assoc.set c.retries id ⟨gen, timer⟩ }

/-- Sends the stream's tracks on every session in place of the current ones, then makes it
active. A session that refuses keeps its old track. -/
def setActiveStream (stream : Nat) : CallM σ Unit := do
  let c ← ctl
  let tracks := match c.media.stream? stream with
    | some s => c.media.sendTracks s
    | none => []
  for rs in c.registry.snapshot do
    for t in tracks do
      let _ ← request L rs (.replaceTrack t.kind t)
  modifyCtl fun c => { c with media := c.media.setActive (some stream) }
  present L (.setButtons (← ctl).buttons)

/-- Tears the call down: retries cancelled, sessions closed, the relay closed, capture stopped.
With `forget` the saved call is cleared too. -/
def shutdown (forget : Bool) : CallM σ Unit := do
  if (← ctl).ended then return
  modifyCtl fun c => { c with ended := true }
  for (id, _) in (← ctl).retries do
    cancelRetry L id
  let (drained, r) := (← ctl).registry.drain
  modifyCtl fun c => { c with registry := r }
  for s in drained do
    closeSession L s
  tell L.closeRelay
  modifyCtl fun c => { c with media := c.media.stopAll }
  if forget then
    let _ ← ask L.clear
  present L .clear

/-- Makes the speaking meter of the audio track of session `(id, gen)`; gives its number. -/
def newRemoteMeter (id : String) (gen : Nat) : CallM σ Nat := do
  let c ← ctl
  let meter := Meter.create c.cfg.threshold defaultHold
  modifyCtl fun c => { c with remoteMeters := c.remoteMeters ++ [⟨id, gen, meter⟩] }
  return c.remoteMeters.length

/-- Shows the local participant and the controls. -/
def start : CallM σ Unit := do
  let c ← ctl
  present L (.showLocal c.cfg.self.id c.cfg.self.name c.media.audioEnabled)
  present L (.setButtons c.buttons)

end

end MeshCall
