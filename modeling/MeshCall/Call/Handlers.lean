import MeshCall.Call.Controller
/-!
# The call controller: events and commands

Relay envelopes from the local participant, and unicast envelopes addressed to someone else, are
ignored. A join is answered with an offer unless the sender's session is still healthy; an offer
replaces whatever session the sender had, except when both sides offered at once and the local
id is the larger, in which case the local offer stands. An answer completes an offer that was
sent and nothing else.

Peer events carry the generation of the session they were made for and are ignored once that
session was replaced. A failed connection is rebuilt after the retry delay by re-announcing the
local participant, at most the configured number of times in a row; reaching `connected` resets
the count. A relay (re)connect drops every session, since the peers saw the local participant
leave, and announces it afresh.
-/

namespace MeshCall

section

variable {σ : Type} (L : Links σ)

def handleJoin (m : Join) : CallM σ Unit := do
  if let some s := (← ctl).registry.get? m.sender then
    if s.state.healthy then return
    discardSession L s
  let some s ← newSession L m.sender m.name m.audioEnabled | return
  match ← ask (L.describe s.id s.gen .offer) with
  | .error _ => abortNegotiation L s
  | .ok offer =>
    if (← request L s (.setLocal offer)).isSome then
      abortNegotiation L s
      return
    setSessionState s.id .offerSent
    present L (.setPeerState s.id .offerSent)
    sendDescription L offer m.sender

def handleOffer (m : Description) : CallM σ Unit := do
  let c ← ctl
  if let some s := c.registry.get? m.sender then
    if s.state = .offerSent && decide (m.sender < c.cfg.self.id) then return
    discardSession L s
  let some s ← newSession L m.sender m.name m.audioEnabled | return
  match m.toSession with
  | .error _ => abortNegotiation L s
  | .ok desc =>
    if (← request L s (.setRemote desc)).isSome then
      abortNegotiation L s
      return
    match ← ask (L.describe s.id s.gen .answer) with
    | .error _ => abortNegotiation L s
    | .ok answer =>
      if (← request L s (.setLocal answer)).isSome then
        abortNegotiation L s
        return
      setSessionState s.id .answerSent
      present L (.setPeerState s.id .answerSent)
      sendDescription L answer m.sender

def handleAnswer (m : Description) : CallM σ Unit := do
  let some s := (← ctl).registry.get? m.sender | return
  if s.state ≠ .offerSent then return
  let .ok desc := m.toSession | return
  if (← request L s (.setRemote desc)).isSome then return
  modifyCtl fun c => { c with registry := c.registry.modify s.id fun x =>
    ((x.setName m.name).setAudio m.audioEnabled |>.setState .connected).1 }
  let name := (((← ctl).registry.get? s.id).map (·.name)).getD s.name
  present L (.setName s.id (displayName name s.id))
  present L (.setMic s.id m.audioEnabled)
  present L (.setPeerState s.id .connected)

def handleCandidate (m : CandidateNote) : CallM σ Unit := do
  let some s := (← ctl).registry.get? m.sender | return
  if s.state = .closed then return
  let _ ← request L s (.addCandidate m.candidate)

def handleAudioToggle (m : AudioToggle) : CallM σ Unit := do
  let some s := (← ctl).registry.get? m.sender | return
  modifyCtl fun c => { c with registry := c.registry.modify m.sender (·.setAudio m.enabled) }
  present L (.setMic m.sender m.enabled)
  present L (.setSpeaking m.sender false)
  -- a muted peer stops sending, so its meter never hears the silence
  modifyCtl fun c =>
    match Assoc.get? c.meters m.sender with
    | some r =>
      if r.gen == s.gen then
        { c with remoteMeters := c.remoteMeters.modify r.meter fun x => { x with meter := x.meter.clear } }
      else c
    | none => c

def handleUserLeft (m : UserLeft) : CallM σ Unit := do
  if m.id == (← ctl).cfg.self.id then return
  cancelRetry L m.id
  modifyCtl fun c => { c with attempts := Assoc.erase c.attempts m.id }
  if let some s := (← ctl).registry.get? m.id then discardSession L s
  present L (.removeTile m.id)

/-- The single entry point of relay envelopes. -/
def handleMessage (m : Envelope) : CallM σ Unit := do
  let self := (← ctl).cfg.self.id
  if m.sender == self then return
  if m.recipient != "" && m.recipient != self then return
  match m with
  | .join j => handleJoin L j
  | .description d => if d.type == "offer" then handleOffer L d else handleAnswer L d
  | .candidate c => handleCandidate L c
  | .audioToggle a => handleAudioToggle L a
  | .userLeft u => handleUserLeft L u

/-- Announces the local participant; every session is stale after a relay reconnect, so all are
dropped first. -/
def handleRelayUp : CallM σ Unit := do
  let (drained, r) := (← ctl).registry.drain
  modifyCtl fun c => { c with registry := r }
  for s in drained do
    cancelRetry L s.id
    closeSession L s
    present L (.removeTile s.id)
  modifyCtl fun c => { c with attempts := [] }
  sendJoin L
  persist L

def handlePeerState (id : String) (gen : Nat) (state : ConnectionState) : CallM σ Unit := do
  let some s ← lookup id gen | return
  match state with
  | .connected =>
    setSessionState id .connected
    modifyCtl fun c => { c with attempts := Assoc.set c.attempts id 0 }
    present L (.setPeerState id .connected)
  | .failed =>
    let (_, moved) := s.setState .failed
    if !moved then return
    setSessionState id .failed
    present L (.setPeerState id .failed)
    scheduleRetry L id gen
  | _ => pure ()

def handleLocalCandidate (id : String) (gen : Nat) (cand : IceCandidate) : CallM σ Unit := do
  let some _ ← lookup id gen | return
  let self := (← ctl).cfg.self.id
  send L (.candidate ⟨cand, self, id⟩)

/-- Drops the failed session and re-announces the local participant, so that the peer offers
again. A session that was replaced, recovered or closed meanwhile cancels the retry. -/
def handleRetry (id : String) (gen : Nat) : CallM σ Unit := do
  modifyCtl fun c =>
    match Assoc.get? c.retries id with
    | some t => if t.gen == gen then { c with retries := Assoc.erase c.retries id } else c
    | none => c
  let some s ← lookup id gen | return
  if s.state ≠ .failed then return
  modifyCtl fun c =>
    { c with attempts := Assoc.set c.attempts id ((Assoc.get? c.attempts id).getD 0 + 1),
             counters := { c.counters with retries := c.counters.retries + 1 } }
  discardSession L s
  sendJoin L

def handleSpeaking (id : String) (gen : Nat) (speaking : Bool) : CallM σ Unit := do
  let c ← ctl
  if id == c.cfg.self.id then
    if speaking && !c.media.audioEnabled then return
    present L (.setSpeaking id speaking)
    return
  let some s ← lookup id gen | return
  if speaking && !s.audio then return
  present L (.setSpeaking id speaking)

/-- Falls back to the camera when the capture of the active share stops on its own. -/
def handleScreenEnded (stream : Nat) : CallM σ Unit := do
  let c ← ctl
  if c.media.active != some stream then return
  if let some cam := c.media.camera then setActiveStream L cam

def handleEvent : Event → CallM σ Unit
  | .message m => handleMessage L m
  | .relayUp _ => handleRelayUp L
  | .relayDown => pure ()
  | .peerState id gen st => handlePeerState L id gen st
  | .localCandidate id gen cand => handleLocalCandidate L id gen cand
  | .retry id gen => handleRetry L id gen
  | .speaking id gen b => handleSpeaking L id gen b
  | .remoteMeter id gen meter => do
    if (← lookup id gen).isSome then
      modifyCtl fun c => { c with meters := Assoc.set c.meters id ⟨gen, meter⟩ }
  | .screenEnded stream => handleScreenEnded L stream

/-! ## Commands -/

/-- Flips the microphone and tells the room; answers whether it is now muted. -/
def toggleMute : CallM σ (Except Fault Bool) := do
  match (← ctl).media.toggleAudio with
  | .error e => return .error e
  | .ok (m, enabled) =>
    modifyCtl fun c => { c with media := m }
    let self := (← ctl).cfg.self.id
    present L (.setMic self enabled)
    if !enabled then
      present L (.setSpeaking self false)
      modifyCtl fun c => { c with localMeter := c.localMeter.clear }
    present L (.setButtons (← ctl).buttons)
    persist L
    send L (.audioToggle ⟨self, enabled⟩)
    return .ok !enabled

/-- Flips the video of the active stream; answers whether it is now off. -/
def toggleCamera : CallM σ (Except Fault Bool) := do
  match (← ctl).media.toggleVideo with
  | .error e => return .error e
  | .ok (m, enabled) =>
    modifyCtl fun c => { c with media := m }
    present L (.setButtons (← ctl).buttons)
    persist L
    return .ok !enabled

/-- Starts a screen share, or stops the current one; answers whether one is active. -/
def shareScreen : CallM σ (Except Fault Bool) := do
  let c ← ctl
  if c.media.sharing then
    if let some cam := c.media.camera then setActiveStream L cam
    return .ok false
  match c.media.acquireScreenShare with
  | .error e => return .error e
  | .ok (m, id) =>
    modifyCtl fun c => { c with media := m }
    setActiveStream L id
    return .ok true

/-- Leaves the room for good: the saved call is forgotten. -/
def endCall : CallM σ Unit := shutdown L true

end

end MeshCall
