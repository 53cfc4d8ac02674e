import Mathlib
import MeshCall.Call.Loop
/-!
# Two controllers on one relay

The setting of a call between two participants, `a` and `b`. Each runs a controller whose
connections never fail: a connection keeps the descriptions set on it and describes itself by
the remote id and generation it was made for. Between the two, a relay forwards each envelope
that one sends to the other if the other is connected at that moment, in the order they were
sent, and drops it otherwise. A party that connects finds its relay-connected event queued
before anything forwarded to it, and handles its queue one event at a time; no user leaves, the
relay never reconnects, no retry fires, and nobody shares a screen or ends the call.

Beside the controllers the state keeps a log that no controller reads: what the relay
forwarded to each party.
-/

namespace MeshCall.Pair

/-- A connection that never fails: the descriptions set on it, and whether it was closed. -/
structure Line where
  id : String
  gen : Nat
  localDesc : Option SessionDescription := none
  remoteDesc : Option SessionDescription := none
  closed : Bool := false
  deriving DecidableEq, Repr

/-- The world of one controller: its connections, and every envelope it handed to the relay. -/
structure Side where
  lines : List Line := []
  sent : List Envelope := []

namespace Side

/-- The connection made for `(id, gen)`. -/
def line? (w : Side) (id : String) (gen : Nat) : Option Line :=
  w.lines.find? fun l => l.id == id && l.gen == gen

/-- Changes the connection made for `(id, gen)`. -/
def modify (w : Side) (id : String) (gen : Nat) (f : Line → Line) : Side :=
  { w with lines := w.lines.map fun l => if l.id == id && l.gen == gen then f l else l }

/-- What a request does to the connection made for `(id, gen)`. -/
def apply (w : Side) (id : String) (gen : Nat) : ConnRequest → Side
  | .setLocal d => w.modify id gen fun l => { l with localDesc := some d }
  | .setRemote d => w.modify id gen fun l => { l with remoteDesc := some d }
  | .close => w.modify id gen fun l => { l with closed := true }
  | _ => w

end Side

/-- The description a connection creates: of the kind asked for, naming the connection. -/
def description (id : String) (gen : Nat) (t : SdpType) : SessionDescription :=
  ⟨t, id ++ "#" ++ toString gen⟩

/-- Links that never fail: the relay takes every envelope, connections are made and answer
every request, and nothing else is recorded. -/
def links : Links Side where
  send m w := (none, { w with sent := w.sent ++ [m] })
  closeRelay w := w
  newConn id gen w := (none, { w with lines := w.lines ++ [{ id := id, gen := gen }] })
  request id gen r w := (none, w.apply id gen r)
  describe id gen t w := (.ok (description id gen t), w)
  save _ w := (none, w)
  clear w := (none, w)
  arm _ _ w := (0, w)
  disarm _ w := w
  present _ w := w

@[simp] theorem links_send (m : Envelope) (w : Side) :
    links.send m w = (none, { w with sent := w.sent ++ [m] }) := rfl

@[simp] theorem links_newConn (id : String) (gen : Nat) (w : Side) :
    links.newConn id gen w = (none, { w with lines := w.lines ++ [{ id := id, gen := gen }] }) :=
  rfl

@[simp] theorem links_request (id : String) (gen : Nat) (r : ConnRequest) (w : Side) :
    links.request id gen r w = (none, w.apply id gen r) := rfl

@[simp] theorem links_describe (id : String) (gen : Nat) (t : SdpType) (w : Side) :
    links.describe id gen t w = (.ok (description id gen t), w) := rfl

@[simp] theorem links_save (s : SavedCall) (w : Side) : links.save s w = (none, w) := rfl

@[simp] theorem links_present (v : ViewCall) (w : Side) : links.present v w = w := rfl

@[simp] theorem links_disarm (t : Nat) (w : Side) : links.disarm t w = w := rfl

/-- The two participants. -/
inductive Party where
  | a
  | b
  deriving DecidableEq, Repr

namespace Party

def other : Party → Party
  | a => b
  | b => a

@[simp] theorem other_other (p : Party) : p.other.other = p := by
  cases p <;> rfl

@[simp] theorem other_ne (p : Party) : p.other ≠ p := by
  cases p <;> decide

@[simp] theorem ne_other (p : Party) : p ≠ p.other := by
  cases p <;> decide

theorem eq_or_eq_other (q p : Party) : q = p ∨ q = p.other := by
  cases q <;> cases p <;> simp [other]

end Party

/-- The configuration and media each party starts with; the two have different ids. -/
structure Setup where
  cfg : Party → CallConfig
  media : Party → Media.Manager
  distinct : (cfg .a).self.id ≠ (cfg .b).self.id

namespace Setup

variable (U : Setup)

def id (p : Party) : String := (U.cfg p).self.id

theorem id_other_ne (p : Party) : U.id p.other ≠ U.id p := by
  cases p
  · exact fun h => U.distinct h.symm
  · exact U.distinct

/-- The join `p` sends once it is connected. -/
def join (p : Party) : Envelope :=
  .join ⟨U.id p, (U.cfg p).self.name, (U.media p).audioEnabled⟩

/-- The description of kind `type` that `p` sends the other party for its session of
generation `gen`. -/
def desc (p : Party) (type : String) (gen : Nat) : Envelope :=
  .description ⟨type, U.id p.other ++ "#" ++ toString gen, U.id p, U.id p.other,
    (U.cfg p).self.name, (U.media p).audioEnabled⟩

end Setup

/-- Both controllers, the relay's view of who is connected, the queue of events each party has
yet to handle, and the log of what the relay forwarded. -/
structure State where
  call : Party → Call Side
  up : Party → Bool
  queue : Party → List Event
  /-- Every envelope the relay forwarded to each party, in order. -/
  got : Party → List Envelope

/-- Both controllers created and shown, neither connected. -/
def init (U : Setup) : State where
  call p := ((start links).run ⟨Controller.create (U.cfg p) (U.media p), {}⟩).2
  up _ := false
  queue _ := []
  got _ := []

namespace State

/-- `p` connects to the relay: its relay-connected event goes before anything forwarded to it. -/
def connect (S : State) (p : Party) : State :=
  { S with up := Function.update S.up p true,
           queue := Function.update S.queue p (.relayUp false :: S.queue p) }

/-- `p` handles `e`, the head of its queue; what it sent meanwhile is forwarded to the other
party if that one is connected. -/
def deliver (S : State) (p : Party) (e : Event) (rest : List Event) : State :=
  let c := ((dispatch links (.event e)).run (S.call p)).2
  let out := if S.up p.other then c.world.sent.drop (S.call p).world.sent.length else []
  { call := Function.update S.call p c
    up := S.up
    queue := Function.update (Function.update S.queue p rest) p.other
      (S.queue p.other ++ out.map .message)
    got := Function.update S.got p.other (S.got p.other ++ out) }

end State

/-- One step of the pair: a party that is not connected connects, or a party handles the head of
its queue. -/
inductive Step : State → State → Prop
  | connect {S : State} {p : Party} : S.up p = false → Step S (S.connect p)
  | deliver {S : State} {p : Party} {e : Event} {rest : List Event} :
    S.queue p = e :: rest → Step S (S.deliver p e rest)

/-- The states the pair reaches from its start, in any interleaving. -/
inductive Reach (U : Setup) : State → Prop
  | init : Reach U (init U)
  | step {S S' : State} : Reach U S → Step S S' → Reach U S'

end MeshCall.Pair
