import Mathlib
import MeshCall.Call.Controller
/-!
# The journal of a call

Links that answer as given links do and record every call made on them, with whether it
failed. What the controller did to the world is then read off the journal: the envelopes it
sent, the connections it made, those it asked to close, and the generations it asked
connections for.
-/

namespace MeshCall

/-- One call of the controller on its world, and whether it failed. -/
inductive Effect where
  | send (m : Envelope) (failed : Bool)
  | closeRelay
  | newConn (id : String) (gen : Nat) (failed : Bool)
  | request (id : String) (gen : Nat) (r : ConnRequest) (failed : Bool)
  | describe (id : String) (gen : Nat) (type : SdpType) (failed : Bool)
  | save (saved : SavedCall) (failed : Bool)
  | clear (failed : Bool)
  | arm (delayMs : Int) (e : Event) (timer : Nat)
  | disarm (timer : Nat)
  | present (v : ViewCall)
  deriving DecidableEq

variable {σ : Type}

/-- `L`, with each call appended to a journal beside the world. -/
def Links.journaled (L : Links σ) : Links (σ × List Effect) where
  send m w := ((L.send m w.1).1, (L.send m w.1).2, w.2 ++ [.send m (L.send m w.1).1.isSome])
  closeRelay w := (L.closeRelay w.1, w.2 ++ [.closeRelay])
  newConn id gen w := ((L.newConn id gen w.1).1, (L.newConn id gen w.1).2,
    w.2 ++ [.newConn id gen (L.newConn id gen w.1).1.isSome])
  request id gen r w := ((L.request id gen r w.1).1, (L.request id gen r w.1).2,
    w.2 ++ [.request id gen r (L.request id gen r w.1).1.isSome])
  describe id gen t w := ((L.describe id gen t w.1).1, (L.describe id gen t w.1).2,
    w.2 ++ [.describe id gen t !(L.describe id gen t w.1).1.toBool])
  save s w := ((L.save s w.1).1, (L.save s w.1).2, w.2 ++ [.save s (L.save s w.1).1.isSome])
  clear w := ((L.clear w.1).1, (L.clear w.1).2, w.2 ++ [.clear (L.clear w.1).1.isSome])
  arm d e w := ((L.arm d e w.1).1, (L.arm d e w.1).2, w.2 ++ [.arm d e (L.arm d e w.1).1])
  disarm t w := (L.disarm t w.1, w.2 ++ [.disarm t])
  present v w := (L.present v w.1, w.2 ++ [.present v])

/-- The envelope a call handed to the relay, whether the relay took it or not. -/
def Effect.sent? : Effect → Option Envelope
  | .send m _ => some m
  | _ => none

/-- The connection a call made, if it is a creation that succeeded. -/
def Effect.opened? : Effect → Option (String × Nat)
  | .newConn id gen failed => if failed then none else some (id, gen)
  | _ => none

/-- The connection a call asked to close. -/
def Effect.closing? : Effect → Option (String × Nat)
  | .request id gen .close _ => some (id, gen)
  | _ => none

/-- The generation a call asked a connection for, whether it was made or not. -/
def Effect.tried? : Effect → Option Nat
  | .newConn _ gen _ => some gen
  | _ => none

/-- The envelopes sent, in order. -/
def sent (t : List Effect) : List Envelope := t.filterMap Effect.sent?

/-- The connections made, as (remote id, generation), in order. -/
def opened (t : List Effect) : List (String × Nat) := t.filterMap Effect.opened?

/-- The connections asked to close, once per request, in order. -/
def closings (t : List Effect) : List (String × Nat) := t.filterMap Effect.closing?

/-- The generations connections were asked for, in order. -/
def tried (t : List Effect) : List Nat := t.filterMap Effect.tried?

@[simp] theorem sent_append (t u : List Effect) : sent (t ++ u) = sent t ++ sent u := by
  simp [sent]

@[simp] theorem opened_append (t u : List Effect) : opened (t ++ u) = opened t ++ opened u := by
  simp [opened]

@[simp] theorem closings_append (t u : List Effect) :
    closings (t ++ u) = closings t ++ closings u := by
  simp [closings]

@[simp] theorem tried_append (t u : List Effect) : tried (t ++ u) = tried t ++ tried u := by
  simp [tried]

@[simp] theorem sent_nil : sent [] = [] := rfl
@[simp] theorem opened_nil : opened [] = [] := rfl

@[simp] theorem closings_nil : closings [] = [] := rfl

@[simp] theorem tried_nil : tried [] = [] := rfl

@[simp] theorem sent_cons (e : Effect) (t : List Effect) :
    sent (e :: t) = e.sent?.toList ++ sent t := by
  cases h : e.sent? <;> simp [sent, h]

@[simp] theorem opened_cons (e : Effect) (t : List Effect) :
    opened (e :: t) = e.opened?.toList ++ opened t := by
  cases h : e.opened? <;> simp [opened, h]

@[simp] theorem closings_cons (e : Effect) (t : List Effect) :
    closings (e :: t) = e.closing?.toList ++ closings t := by
  cases h : e.closing? <;> simp [closings, h]

@[simp] theorem tried_cons (e : Effect) (t : List Effect) :
    tried (e :: t) = e.tried?.toList ++ tried t := by
  cases h : e.tried? <;> simp [tried, h]

end MeshCall
