import MeshCall.Call.Loop
import MeshCall.Sim.Network
import MeshCall.Sim.Meter
/-!
# Scripted call runs

Runs a controller in the scripted world, one step at a time. Events a step posts are handled in
order before the step ends; once the call has ended, posted events are dropped and commands are
refused with `call ended`. The speaking meters run on a manual clock that starts at Unix time
1000 s. After every step the run reports what happened during it: the frames sent, the view
changes and printed lines, the connection requests, the store requests, and the state of the
sessions, timers, media and counters.
-/

namespace MeshCall.Sim

/-- How a call is set up. -/
structure CallSetup where
  cfg : CallConfig
  devices : Media.Devices
  prefs : Media.Prefs
  activate : Bool
  failures : List (String × String)
  relayFails : Bool
  storeFails : Bool

/-- A meter observation. -/
inductive Observation where
  | level (n : Nat)
  | payload (n : Int)
  deriving Repr

inductive CallStep where
  | message (decoded : Except Fault Envelope)
  | deliver (m : Envelope)
  | relayUp (reconnect : Bool)
  | relayDown
  | relayFail (on : Bool)
  | storeFail (on : Bool)
  | setFail (id step : String) (on : Bool)
  | peerState (id : String) (conn : Int) (state : ConnectionState)
  | localCandidate (id : String) (conn : Int) (c : IceCandidate)
  | fire
  | toggleMute
  | toggleCamera
  | shareScreen
  | screenEnd
  | setActiveCamera
  | endCall
  | cancel
  | speaking (id : String) (gen : Nat) (speaking : Bool)
  | remoteMeter (id : String) (gen : Nat)
  | observe (meter : Option Nat) (o : Observation)
  | micSamples (sizes : List Int)
  | advance (ms : Int)
  | render
  | sync

inductive CallResult where
  | delivered (kind : String)
  | failed (f : Fault)
  | noConn
  | fired (n : Nat)
  | muted (b : Bool)
  | off (b : Bool)
  | sharing (b : Bool)
  | ok
  | noCamera
  | meter (n : Nat)
  | speaking (b : Bool)
  | pumped (n : Nat)
  | micEnded
  | render (text : String)

/-- The local media in brief. -/
structure MediaSummary where
  active : String
  sharing : Bool
  audio : Bool
  video : Bool

/-- What one step reports. -/
structure Snapshot where
  result : Option CallResult
  sent : List String
  views : List ViewCall
  printed : String
  calls : List (String × CallRecord)
  store : List StoreRecord
  sessions : List Session
  timers : List Int
  media : MediaSummary
  relayClosed : Nat
  counters : Counters

structure CallRun where
  call : Call Network
  clock : Int

namespace CallRun

def exec {α : Type} (r : CallRun) (m : CallM Network α) : α × CallRun :=
  let (a, c) := m.run r.call
  (a, { r with call := c })

def ctl (r : CallRun) : Controller := r.call.ctl

def world (r : CallRun) : Network := r.call.world

def setWorld (r : CallRun) (f : Network → Network) : CallRun :=
  { r with call := { r.call with world := f r.call.world } }

def setCtl (r : CallRun) (f : Controller → Controller) : CallRun :=
  { r with call := { r.call with ctl := f r.call.ctl } }

/-- Handles a posted event, unless the call has ended. -/
def post (r : CallRun) (e : Event) : CallRun := (r.exec (dispatch links (.event e))).2

/-- Runs a command, refused once the call has ended. -/
def command {α : Type} (r : CallRun) (m : CallM Network (Except Fault α)) : Except Fault α × CallRun :=
  if r.ctl.ended then (.error Fault.ended, r) else r.exec m

/-- The connection a peer event is for: by position among the connections made for `id`,
negative positions counting from the end. -/
def connAt (r : CallRun) (id : String) (pos : Int) : Option ConnEntry :=
  let cs := r.world.conns.filter (·.id == id)
  let i : Int := if pos < 0 then cs.length + pos else pos
  if i < 0 then none else cs[i.toNat]?

/-- Posts a speaking change reported by a meter. -/
def reported (r : CallRun) (id : String) (gen : Nat) : Option Bool → CallRun
  | some b => r.post (.speaking id gen b)
  | none => r

def observeWith (m : Meter) (now : Int) : Observation → Meter × Option Bool
  | .level n => m.observeLevel now n
  | .payload n => m.observePayload now n

/-- The microphone track the capture pump feeds: that of the first camera stream. -/
def micTrack (r : CallRun) : Option Media.Track := (r.ctl.media.stream? 0).bind (·.audio)

def boolResult (f : Bool → CallResult) : Except Fault Bool → Option CallResult
  | .ok b => some (f b)
  | .error e => some (.failed e)

/-- One step. -/
def step (r : CallRun) : CallStep → CallRun × Option CallResult
  | .message (.error e) => (r, some (.failed e))
  | .message (.ok m) => (r.post (.message m), some (.delivered (kindName m)))
  | .deliver m => (r.post (.message m), some (.delivered (kindName m)))
  | .relayUp reconnect => (r.post (.relayUp reconnect), none)
  | .relayDown => (r.post .relayDown, none)
  | .relayFail on => (r.setWorld fun n => { n with relayFails := on }, none)
  | .storeFail on => (r.setWorld fun n => { n with storeFails := on }, none)
  | .setFail id stp on =>
    (r.setWorld fun n =>
      let rest := n.failures.filter (· != (id, stp))
      { n with failures := if on then rest ++ [(id, stp)] else rest }, none)
  | .peerState id pos st =>
    match r.connAt id pos with
    | some c => (r.post (.peerState id c.gen st), none)
    | none => (r, some .noConn)
  | .localCandidate id pos cand =>
    match r.connAt id pos with
    | some c => (r.post (.localCandidate id c.gen cand), none)
    | none => (r, some .noConn)
  | .fire =>
    let armed := r.world.timers
    let r := r.setWorld fun n => { n with timers := [] }
    (armed.foldl (fun r t => r.post t.event) r, some (.fired armed.length))
  | .toggleMute => let (res, r) := r.command (toggleMute links); (r, boolResult .muted res)
  | .toggleCamera => let (res, r) := r.command (toggleCamera links); (r, boolResult .off res)
  | .shareScreen => let (res, r) := r.command (shareScreen links); (r, boolResult .sharing res)
  | .screenEnd =>
    let m := r.ctl.media
    match (m.streams.filter (·.source == .screen)).getLast? with
    | some s =>
      let r := r.setCtl fun c => { c with media := c.media.modify s.id fun x =>
        { x with video := x.video.map Media.Track.stop } }
      match r.ctl.media.activeStream with
      | some a => if a.source == .screen then (r.post (.screenEnded a.id), none) else (r, none)
      | none => (r, none)
    | none => (r, none)
  | .setActiveCamera =>
    match r.ctl.media.camera with
    | none => (r, some .noCamera)
    | some cam =>
      let (res, r) := r.command (do setActiveStream links cam; return (.ok () : Except Fault Unit))
      (r, some (match res with | .ok () => .ok | .error e => .failed e))
  | .endCall =>
    let (res, r) := r.command (do endCall links; return (.ok () : Except Fault Unit))
    (r, some (match res with | .ok () => .ok | .error e => .failed e))
  | .cancel => ((r.exec (dispatch links .cancel)).2, none)
  | .speaking id gen b => (r.post (.speaking id gen b), none)
  | .remoteMeter id gen =>
    let (i, r) := r.exec (newRemoteMeter id gen)
    (r.post (.remoteMeter id gen i), some (.meter i))
  | .observe none o =>
    let (m, change) := observeWith r.ctl.localMeter r.clock o
    let r := r.setCtl fun c => { c with localMeter := m }
    (r.reported r.ctl.cfg.self.id 0 change, some (.speaking m.speaking))
  | .observe (some i) o =>
    match r.ctl.remoteMeters[i]? with
    | some rm =>
      let (m, change) := observeWith rm.meter r.clock o
      let r := r.setCtl fun c => { c with remoteMeters := c.remoteMeters.set i { rm with meter := m } }
      (r.reported rm.id rm.gen change, some (.speaking m.speaking))
    | none => (r, none)
  | .micSamples sizes =>
    match r.micTrack with
    | some t =>
      if t.ended then (r, some .micEnded)
      else
        let r := sizes.foldl (fun r n =>
          if (r.micTrack.map (·.enabled)).getD false then
            let (m, change) := r.ctl.localMeter.observePayload r.clock n
            (r.setCtl fun c => { c with localMeter := m }).reported r.ctl.cfg.self.id 0 change
          else r) r
        (r, some (.pumped sizes.length))
    | none => (r, some .micEnded)
  | .advance ms => ({ r with clock := r.clock + millis ms }, none)
  | .render => (r, some (.render r.world.terminal.render))
  | .sync => (r, none)
where
  kindName : Envelope → String
    | .join _ => "join"
    | .description _ => "description"
    | .candidate _ => "candidate"
    | .audioToggle _ => "audio_toggle"
    | .userLeft _ => "user_left"

def summary (m : Media.Manager) : MediaSummary :=
  ⟨(m.activeStream.map (·.source.name)).getD "none", m.sharing, m.audioEnabled, m.videoEnabled⟩

def snapshot (r : CallRun) (result : Option CallResult) : Snapshot :=
  let w := r.world
  { result := result, sent := w.sent, views := w.views, printed := w.printed, calls := w.calls,
    store := w.store, sessions := r.ctl.registry.snapshot, timers := w.timers.map (·.delayMs),
    media := summary r.ctl.media, relayClosed := w.relayClosed, counters := r.ctl.counters }

end CallRun

/-- Sets a call up and runs the steps: the setup's report first, then one per step. Setting up
fails when the camera stream cannot be acquired. -/
def runCall (setup : CallSetup) (steps : List CallStep) : Except Fault (List Snapshot) := do
  let m0 : Media.Manager := { devices := setup.devices }
  let (m1, cam) ← m0.acquireCameraAndMic setup.prefs
  let m2 := if setup.activate then m1.setActive (some cam) else m1
  let world : Network :=
    { failures := setup.failures, relayFails := setup.relayFails, storeFails := setup.storeFails }
  let r0 : CallRun := ⟨⟨Controller.create setup.cfg m2, world⟩, clockStart⟩
  let r1 := (r0.exec (start links)).2
  let first := r1.snapshot none
  let (_, snaps) := steps.foldl (fun (r, acc) st =>
    let r := r.setWorld Network.newStep
    let (r, res) := r.step st
    (r, acc ++ [r.snapshot res])) (r1, [first])
  pure snaps

end MeshCall.Sim
