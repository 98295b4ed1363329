import UllReceiver.Library.Halting
import UllReceiver.Link.AclPackets

/-!
# The keeper

`auto_link.c`: the task that connects to the saved peer, takes it through the proprietary exchange
and starts the audio.  What it asks of its surroundings is answered by an arbitrary sequence.
-/

namespace UllReceiver.Link

open Library Library.Halting

/-- `bond.h` and `device.h`, which the owner of a receiver has made from it. -/
structure Bond where
  target : Vector UInt8 6
  identity : Vector UInt8 6
  rand : Vector UInt8 8
  ediv : Vector UInt8 2
  ltk : Vector UInt8 16
  sirk : Vector UInt8 16

/-- `peer`, less what the reassembly works on, as `start_connection` leaves it. -/
structure Peer where
  aclLimit : Nat := 27
  encrypted : Bool := false
  encryptionRequested : Bool := false
  setup : Bool := false
  peerVerified : Bool := false
  idleSent : Bool := false
  holding : Bool := false
  disconnected : Bool := false
  failed : Bool := false
  connectedAt : Int := 0
  nextAction : Int := 0
  lastFeedback : Int := 0
  previousFeedback : UInt32 := 0
  maxTxOctets : UInt16 := 0
  rawGuard : UInt8 := 0
  rawStatus : UInt8 := 0
  rawTries : UInt8 := 0
  startupStep : UInt8 := 0
  activityValid : Bool := false
  rawAcked : Bool := false
  airReady : Bool := false
  started : Bool := false
  streamAttempted : Bool := false
  activity : List UInt8 := List.replicate 30 0
  controlSlot : UInt8 := 0
  diagnosticOk : Bool := false
deriving DecidableEq

/-- What the surroundings say when they are asked: the flags other tasks set, the controller, the
event queue, the clock and the modules of the audio. -/
structure Answer where
  enabled : Bool
  paused : Bool
  lost : Bool
  -- `ull_hci_try_send`
  accepted : Bool
  event : Option (List UInt8)
  now : Int
  source : Bool
  trial : Bool
  pump : Bool
  pumpBusy : Bool
  -- two words of `ull_tone_trial_stream_state`
  phase : UInt32
  feedback : UInt32
  quiesced : Bool
  -- an array of the stack before anything is written to it
  stack : Nat → UInt8

inductive Callee
  | micNewSession
  | featureSet (on : Bool)
  | resetSequence
  | parentRetired
  | trialContinuous
  | pumpContinuous
  | pauseForReconnect
  | resumeAfterReconnect
  | restart
deriving DecidableEq

/-- What the keeper takes and does, as far as it matters to others. -/
inductive LinkEvent
  /-- `process` is given a packet. -/
  | processed (packet : List UInt8)
  /-- A call of `l2cap`. -/
  | message (encrypted : Bool) (cid : UInt16) (payload : List UInt8)
  | sent (packet : List UInt8)
  | called (callee : Callee)
deriving DecidableEq

/-- An event, and what `failed` was when it came. -/
structure Entry where
  failed : Bool
  event : LinkEvent
deriving DecidableEq

/-- The keeper less its reassembly. -/
structure Session where
  peer : Peer
  answers : Nat → Answer
  /-- The last event first. -/
  log : List Entry
  /-- An access outside an array. -/
  fault : Bool

structure Keeper where
  assembly : Assembly
  session : Session

namespace Session

def note (e : LinkEvent) (s : Session) : Session :=
  { s with log := ⟨s.peer.failed, e⟩ :: s.log }

def update (f : Peer → Peer) (s : Session) : Session :=
  { s with peer := f s.peer }

def fail (s : Session) : Session :=
  s.update fun peer => { peer with failed := true }

def ask (s : Session) : Answer × Session :=
  (s.answers 0, { s with answers := fun n => s.answers (n + 1) })

/-- `send_packet`, of which so many tries are left. -/
def sendPacket (packet : List UInt8) : Nat → Session → Bool × Session
  | 0, s => (false, s)
  | n + 1, s =>
      if s.ask.1.enabled then
        if s.ask.2.ask.1.accepted then (true, s.ask.2.ask.2.note (.sent packet))
        else sendPacket packet n s.ask.2.ask.2
      else (false, s.ask.2)

def sendPackets : List (List UInt8) → Session → Bool × Session
  | [], s => (true, s)
  | packet :: packets, s =>
      let r := s.sendPacket packet 200
      if r.1 then sendPackets packets r.2 else (false, r.2)

def sendAcl (handle cid : UInt16) (payload : List UInt8) (s : Session) : Bool × Session :=
  if handle = 0xffff ∨ payload.length > 296 then (false, s)
  else
    match sendAclPackets handle s.peer.aclLimit cid payload with
    | none => (false, { s with fault := true })
    | some packets => s.sendPackets packets

end Session

/-! ## Messages of the peer -/

def expectedMode : List UInt8 := [0, 0, 0, 0, 0, 0x77, 1, 0, 0, 0x7d, 0, 0]

def idleRequest : List UInt8 := [17, 0, 0, 0, 0, 3, 0, 0, 0]

def idleReply : List UInt8 := [17, 1, 0, 0, 0, 3, 0, 0, 0]

def idleMessage : List UInt8 := 15 :: List.replicate 280 0

inductive L2capVerdict
  | refused
  | verified
  | idleRequested
  | held
  /-- The message goes to the control log. -/
  | logged
  | replied (cid : UInt16) (payload : List UInt8)
  | ignored
deriving DecidableEq

/-- Which branch of `l2cap` a message takes; `none` is an access outside the message. -/
def l2capVerdict (bond : Bond) (peer : Peer) (cid : UInt16) (p : List UInt8) :
    Option L2capVerdict :=
  if cid = 0x101 then
    if ¬ peer.encrypted then some .refused
    else if p.length = 45 then do
      let kind ← loadSpan p 0 2
      if kind = [14, 2] then do
        let head ← loadSpan p 2 2
        let sirk ← loadSpan p 4 16
        let mode ← loadSpan p 25 12
        if head ≠ [1, 1] ∨ sirk ≠ bond.sirk.toList ∨ mode ≠ expectedMode then some .refused
        else some .verified
      else some .logged
    else if p.length = 9 then do
      let kind ← load p 0
      if kind = 17 ∧ ¬ peer.idleSent then do
        let request ← loadSpan p 0 9
        if ¬ peer.peerVerified ∨ request ≠ idleRequest then some .refused
        else some .idleRequested
      else some .logged
    else if p.length = 281 then do
      let kind ← load p 0
      if kind = 15 ∧ peer.peerVerified ∧ peer.idleSent then some .held else some .logged
    else some .logged
  else if cid = 4 ∧ p.length = 3 then do
    let code ← load p 0
    if code = 2 then some (.replied 4 [3, 23, 0]) else some .ignored
  else if cid = 4 ∧ p.length ≥ 7 then do
    let code ← load p 0
    if code = 6 then do
      let id ← load p 1
      let lo ← load p 2
      some (.replied 4 [1, 6, id, lo, 10])
    else some .ignored
  else if cid = 6 ∧ p ≠ [] then do
    let code ← load p 0
    if code = 1 then some (.replied 6 [5, 5]) else some .ignored
  else if cid = 5 ∧ p.length ≥ 4 then do
    let code ← load p 0
    if code = 0x12 then do
      let id ← load p 1
      some (.replied 5 [0x13, id, 2, 0, 1, 0])
    else some .ignored
  else some .ignored

/-- What `l2cap` does once the idle exchange is asked for. -/
def Session.sendIdle (handle : UInt16) (s : Session) : Session :=
  let reply := s.sendAcl handle 0x101 idleReply
  if reply.1 then
    let idle := reply.2.sendAcl handle 0x101 idleMessage
    if idle.1 then idle.2 else idle.2.fail
  else reply.2.fail

def Session.l2cap (bond : Bond) (handle cid : UInt16) (p : List UInt8) (s : Session) : Session :=
  let t := s.note (.message s.peer.encrypted cid p)
  match l2capVerdict bond s.peer cid p with
  | none => { t with fault := true }
  | some .refused => t.fail
  | some .verified => t.update fun peer => { peer with peerVerified := true }
  | some .idleRequested => (t.update fun peer => { peer with idleSent := true }).sendIdle handle
  | some .held => t.update fun peer => { peer with holding := true }
  | some (.replied cid payload) => (t.sendAcl handle cid payload).2
  | some .logged | some .ignored => t

/-! ## Events -/

def byte (p : List UInt8) (i : Nat) : UInt8 :=
  p.getD i 0

def word (p : List UInt8) (i : Nat) : UInt16 :=
  (byte p i).toUInt16 ||| (byte p (i + 1)).toUInt16 <<< 8

def span (p : List UInt8) (i n : Nat) : List UInt8 :=
  (p.drop i).take n

/-- The vendor event with the data `d`. -/
def vendorEvent (d : List UInt8) (peer : Peer) : Peer :=
  -- the tags ULLC, ULLD, ULLT, ULLR and ULLP
  if d.length = 38 ∧ span d 0 5 = [0x55, 0x4c, 0x4c, 0x43, 1] then
    { peer with
      activityValid := byte d 5 = 0 ∧ byte d 6 = 6
      controlSlot := byte d 7
      activity := span d 8 30 }
  else if d.length = 12 ∧ span d 0 5 = [0x55, 0x4c, 0x4c, 0x44, 1] then
    { peer with
      diagnosticOk := byte d 6 = 0 ∧ byte d 7 ≠ 0 ∧ word d 8 = 27 ∧ word d 10 = 513 }
  else if d.length = 12 ∧ span d 0 5 = [0x55, 0x4c, 0x4c, 0x54, 1] then
    let peer := if byte d 5 = 1 then { peer with rawGuard := byte d 8, rawStatus := byte d 9 }
      else peer
    if byte d 5 = 2 ∧ byte d 6 = 0xe4 then
      if byte d 8 ≠ 7 ∨ byte d 9 ≠ 1 then { peer with failed := true }
      else { peer with rawAcked := true }
    else peer
  else if d.length = 16 ∧ span d 0 6 = [0x55, 0x4c, 0x4c, 0x52, 1, 1] then
    { peer with airReady := true }
  else if d.length = 28 ∧ span d 0 5 = [0x55, 0x4c, 0x4c, 0x50, 3] ∧ byte d 5 = 3 then
    { peer with failed := true }
  else peer

namespace Keeper

def onSession (f : Session → Session) (k : Keeper) : Keeper :=
  { k with session := f k.session }

def update (f : Peer → Peer) (k : Keeper) : Keeper :=
  k.onSession (Session.update f)

/-- A connection complete event: the time is that of the surroundings. -/
def connected (handle : UInt16) (k : Keeper) : Keeper :=
  { assembly := { k.assembly with handle }
    session := k.session.ask.2.update fun peer =>
      { peer with connectedAt := k.session.ask.1.now } }

/-- A disconnection event. -/
def detached (d : List UInt8) (k : Keeper) : Keeper :=
  let retired := k.session.peer.started ∧ byte d 0 = 0 ∧ k.assembly.handle ≠ 0xffff ∧
    word d 1 = k.assembly.handle
  let session := if retired then k.session.note (.called .parentRetired) else k.session
  { assembly := { k.assembly with handle := 0xffff }
    session := if session.peer.started then session
      else session.update fun peer => { peer with disconnected := true } }

/-- An encryption change event. -/
def encryptionChanged (on : Bool) (k : Keeper) : Keeper :=
  k.update fun peer => { peer with encrypted := on, failed := peer.failed || !on }

/-- `process` of an event. -/
def processEvent (bond : Bond) (p : List UInt8) (k : Keeper) : Keeper :=
  let d := p.drop 3
  let len := (byte p 2).toNat
  if p.length ≠ 3 + len then k.onSession Session.fail
  else if byte p 1 = 0x3e ∧ len ≥ 12 ∧ (byte d 0 = 1 ∨ byte d 0 = 10) then
    if byte d 1 ≠ 0 then k.update fun peer => { peer with disconnected := true }
    else if span d 6 6 ≠ bond.target.toList then k.onSession Session.fail
    else k.connected (word d 2)
  else if byte p 1 = 5 ∧ len ≥ 4 then k.detached d
  else if byte p 1 = 0x3e ∧ len = 11 ∧ byte d 0 = 7 then
    k.update fun peer => { peer with maxTxOctets := word d 3 }
  else if byte p 1 = 0xff then k.update (vendorEvent d)
  else if byte p 1 = 8 ∧ len ≥ 4 then k.encryptionChanged (byte d 0 = 0 ∧ byte d 3 ≠ 0)
  else if byte p 1 = 0x3e ∧ len ≥ 3 ∧ byte d 0 = 5 then
    k.onSession fun s => (s.sendPacket [1, 0x1b, 0x20, 2, byte d 1, byte d 2] 200).2
  else k

/-- `process` of any other packet. -/
def processAcl (bond : Bond) (p : List UInt8) (k : Keeper) : Keeper :=
  match acceptAcl k.assembly p with
  | none => k.onSession fun s => { s with fault := true }
  | some .ignored => k
  | some (.kept a) => { k with assembly := a }
  | some (.refused a) => { assembly := a, session := k.session.fail }
  | some (.delivered a cid payload) =>
      { assembly := { a with assembled := 0 }
        session := k.session.l2cap bond a.handle cid payload }

def process (bond : Bond) (p : List UInt8) (k : Keeper) : Keeper :=
  if p.length < 3 then k
  else if byte p 0 = 4 then k.processEvent bond p
  else k.processAcl bond p

/-- A packet of the queue, fed to `process`. -/
def feed (bond : Bond) (p : List UInt8) (k : Keeper) : Keeper :=
  (k.onSession (Session.note (.processed p))).process bond p

end Keeper

end UllReceiver.Link
