import MeshCall.Call.Basic
import MeshCall.Roster.Terminal
import MeshCall.Envelope.Wire
/-!
# A scripted world for a call

Everything around a controller, played by recorders: a relay that writes down the frames it is
given, peer connections that write down every request, a saved-call store, timers that fire only
when told to, and a view that writes down every change and forwards it to a terminal roster.

Failures can be injected per remote id and step (`*` stands for every id): `new_conn`,
`add_track`, `create_offer`, `create_answer`, `set_local`, `set_remote`, `add_candidate`,
`replace_track` and `close` fail; `offer_type` makes offers provisional answers and
`answer_type` makes answers rollbacks. Connections describe themselves by their key `id#i`,
where `i` numbers the connections made for that id, from zero.

Tracks are named by the stream that owns them: `camera/<kind>`, or `screen#k/<kind>` where `k`
numbers screen streams in the order they were first handed to a connection.
-/

namespace MeshCall.Sim

/-- One connection request as it was recorded. -/
inductive ConnCall where
  | addTrack (track : String)
  | replaceTrack (kind : MediaKind) (track : String)
  | createOffer
  | createAnswer
  | setLocal (d : SessionDescription)
  | setRemote (d : SessionDescription)
  | addCandidate (c : IceCandidate)
  | close
  deriving DecidableEq, Repr

structure CallRecord where
  call : ConnCall
  failed : Bool
  deriving DecidableEq, Repr

/-- A connection that was made. -/
structure ConnEntry where
  id : String
  gen : Nat
  index : Nat
  deriving DecidableEq, Repr

def ConnEntry.key (c : ConnEntry) : String := c.id ++ "#" ++ toString c.index

/-- A store request as it was recorded. -/
inductive StoreRecord where
  | save (s : SavedCall)
  | clear
  deriving DecidableEq, Repr

structure Timer where
  handle : Nat
  delayMs : Int
  event : Event
  deriving DecidableEq, Repr

structure Network where
  failures : List (String × String) := []
  relayFails : Bool := false
  storeFails : Bool := false
  conns : List ConnEntry := []
  screens : List Nat := []
  timers : List Timer := []
  nextTimer : Nat := 0
  relayClosed : Nat := 0
  terminal : Terminal := {}
  /-- What happened during the current step. -/
  calls : List (String × CallRecord) := []
  sent : List String := []
  store : List StoreRecord := []
  views : List ViewCall := []
  printed : String := ""
  deriving Inhabited

namespace Network

/-- Whether step `step` is set to fail for `id`. -/
def fails (n : Network) (id step : String) : Bool :=
  n.failures.any fun (i, s) => (i == id || i == "*") && s == step

def conn? (n : Network) (id : String) (gen : Nat) : Option ConnEntry :=
  n.conns.find? fun c => c.id == id && c.gen == gen

/-- Names a track, numbering a screen stream seen for the first time. -/
def nameTrack (n : Network) (t : TrackRef) : String × Network :=
  match t.source with
  | .camera => ("camera/" ++ t.kind.name, n)
  | .screen =>
    let n := if n.screens.contains t.stream then n else { n with screens := n.screens ++ [t.stream] }
    let k := (n.screens.idxOf t.stream) + 1
    ("screen#" ++ toString k ++ "/" ++ t.kind.name, n)

def record (n : Network) (c : ConnEntry) (call : ConnCall) (failed : Bool) : Network :=
  { n with calls := n.calls ++ [(c.key, ⟨call, failed⟩)] }

/-- The step name a request fails under. -/
def stepName : ConnRequest → String
  | .addTrack _ => "add_track"
  | .replaceTrack _ _ => "replace_track"
  | .setLocal _ => "set_local"
  | .setRemote _ => "set_remote"
  | .addCandidate _ => "add_candidate"
  | .close => "close"

def injected (step : String) : Fault := Fault.plain (step ++ " failed")

def request (id : String) (gen : Nat) (r : ConnRequest) (n : Network) : Option Fault × Network :=
  match n.conn? id gen with
  | none => (none, n)
  | some c =>
    let (call, n) := match r with
      | .addTrack t => let (name, n) := n.nameTrack t; (ConnCall.addTrack name, n)
      | .replaceTrack k t => let (name, n) := n.nameTrack t; (ConnCall.replaceTrack k name, n)
      | .setLocal d => (.setLocal d, n)
      | .setRemote d => (.setRemote d, n)
      | .addCandidate cand => (.addCandidate cand, n)
      | .close => (.close, n)
    let step := stepName r
    let failed := n.fails id step
    (if failed then some (injected step) else none, n.record c call failed)

def describe (id : String) (gen : Nat) (t : SdpType) (n : Network) :
    Except Fault SessionDescription × Network :=
  match n.conn? id gen with
  | none => (.error (injected "describe"), n)
  | some c =>
    let offer := t == .offer
    let step := if offer then "create_offer" else "create_answer"
    let call := if offer then ConnCall.createOffer else .createAnswer
    if n.fails id step then (.error (injected step), n.record c call true)
    else
      let d : SessionDescription :=
        if offer then
          if n.fails id "offer_type" then ⟨.pranswer, "v=0 pranswer " ++ c.key⟩
          else ⟨.offer, "v=0 offer " ++ c.key⟩
        else if n.fails id "answer_type" then ⟨.rollback, ""⟩
        else ⟨.answer, "v=0 answer " ++ c.key⟩
      (.ok d, n.record c call false)

def newConn (id : String) (gen : Nat) (n : Network) : Option Fault × Network :=
  if n.fails id "new_conn" then (some (injected "new_conn"), n)
  else
    let index := (n.conns.filter (·.id == id)).length
    (none, { n with conns := n.conns ++ [⟨id, gen, index⟩] })

def send (m : Envelope) (n : Network) : Option Fault × Network :=
  if n.relayFails then (some (Fault.plain "not connected"), n)
  else
    match m.encode with
    | .ok frame => (none, { n with sent := n.sent ++ [frame] })
    | .error e => (some (Fault.plain e.message), n)

def storeResult (n : Network) : Option Fault := if n.storeFails then some (Fault.plain "disk full") else none

def present (v : ViewCall) (n : Network) : Network :=
  let (t, out) := n.terminal.apply v
  { n with views := n.views ++ [v], terminal := t, printed := n.printed ++ out }

def arm (delayMs : Int) (e : Event) (n : Network) : Nat × Network :=
  (n.nextTimer, { n with timers := n.timers ++ [⟨n.nextTimer, delayMs, e⟩], nextTimer := n.nextTimer + 1 })

def disarm (h : Nat) (n : Network) : Network := { n with timers := n.timers.filter (·.handle != h) }

/-- Forgets what happened during the last step. -/
def newStep (n : Network) : Network :=
  { n with calls := [], sent := [], store := [], views := [], printed := "" }

end Network

/-- The recorders as the world of a controller. -/
def links : Links Network where
  send := Network.send
  closeRelay n := { n with relayClosed := n.relayClosed + 1 }
  newConn := Network.newConn
  request := Network.request
  describe := Network.describe
  save s n := (n.storeResult, { n with store := n.store ++ [.save s] })
  clear n := (n.storeResult, { n with store := n.store ++ [.clear] })
  arm := Network.arm
  disarm := Network.disarm
  present := Network.present

end MeshCall.Sim
