import UllReceiver.Link.Keeper

/-!
# The keeper's task

`auto_link.c`: commands to the controller, with the events that come while one is answered, the
setup of a connection, the startup of the audio in it and the loop around them.  Console output is
left out.
-/

namespace UllReceiver.Link

open Library Library.Halting

abbrev Task := Halting Keeper

namespace Keeper

def ask : Task Answer :=
  step fun k => (k.session.ask.1, { k with session := k.session.ask.2 })

def call (callee : Callee) : Task Unit :=
  modify (onSession (Session.note (.called callee)))

def updatePeer (f : Peer → Peer) : Task Unit :=
  modify (update f)

def fail : Task Unit :=
  modify (onSession Session.fail)

def sendPacket (packet : List UInt8) : Task Bool :=
  step fun k =>
    let r := k.session.sendPacket packet 200
    (r.1, { k with session := r.2 })

def sendAcl (cid : UInt16) (payload : List UInt8) : Task Bool :=
  step fun k =>
    let r := k.session.sendAcl k.assembly.handle cid payload
    (r.1, { k with session := r.2 })

end Keeper

open Keeper

/-! ## Commands -/

/-- The event `b` if it answers the command: `some none` is a failure, else what `reply` then
holds. -/
def commandAnswer (opcode : UInt16) (reply : Option (List UInt8)) (b : List UInt8) :
    Option (Option (List UInt8)) :=
  if b.length ≥ 7 ∧ byte b 0 = 4 ∧ b.length = 3 + (byte b 2).toNat then
    if byte b 1 = 14 ∧ word b 4 = opcode then
      match reply with
      | none => some (if byte b 6 = 0 then some [] else none)
      | some room =>
          if b.length - 6 > room.length then some none
          else some (if byte b 6 = 0 then some (b.drop 6) else none)
    else if byte b 1 = 15 ∧ word b 5 = opcode then
      some (if byte b 3 = 0 then some (reply.getD []) else none)
    else none
  else none

section Task

variable (bond : Bond)

/-- The loop of `command`. -/
def awaitReply (opcode : UInt16) (reply : Option (List UInt8)) (deadline : Int) :
    Nat → Task (Option (List UInt8))
  | 0 => halt
  | n + 1 => do
      let a ← ask
      if ¬ a.enabled ∨ a.now ≥ deadline then Pure.pure none
      else
        match a.event with
        | none => awaitReply opcode reply deadline n
        | some b =>
            match commandAnswer opcode reply b with
            | some r => Pure.pure r
            | none =>
                modify (if opcode = 0x0c03 then id else feed bond b) >>= fun _ =>
                if a.lost then Pure.pure none else awaitReply opcode reply deadline n

/-- `command`: no result when it fails, else what `reply` holds. -/
def command (n : Nat) (opcode : UInt16) (params : List UInt8) (reply : Option (List UInt8)) :
    Task (Option (List UInt8)) :=
  if params.length > 60 then Pure.pure none
  else do
    let _ ← (if opcode = 0x0c03 then call .resetSequence else Pure.pure ())
    let ok ← Keeper.sendPacket ([1] ++ le16 opcode ++ [UInt8.ofNat params.length] ++ params)
    if ok then do
      let a ← ask
      awaitReply bond opcode reply (a.now + 5000000) n
    else Pure.pure none

/-- `CMD`. -/
def cmd (n : Nat) (opcode : UInt16) (params : List UInt8) : Task Bool := do
  let r ← command bond n opcode params none
  Pure.pure r.isSome

/-- A command whose reply is checked. -/
def commandReply (n : Nat) (opcode : UInt16) (params : List UInt8) (room : Nat)
    (check : List UInt8 → Bool) : Task (Option (List UInt8)) := do
  let a ← ask
  let r ← command bond n opcode params (some ((List.range room).map a.stack))
  Pure.pure (r.filter check)

/-! ## Setup -/

def cleanMap : List UInt8 := [0xff, 0xff, 0x01, 0xe0, 0x13]

def features : List UInt8 := [0, 0xff, 0xf9, 1, 8, 0, 0, 0, 0x40]

def connectionParams : List UInt8 :=
  [0, 1, 0] ++ bond.target.toList ++ [1] ++ [16, 16, 24, 24, 0, 500, 2, 2].flatMap le16

def startConnection (n : Nat) : Task Bool := do
  call .micNewSession
  modify fun k =>
    { assembly := ⟨0xffff, 0, List.replicate fragmentBytes 0⟩
      session := { k.session with peer := {} } }
  call (.featureSet false)
  let ok ← cmd bond n 0x0c03 []
  if ok then do
    let r ← commandReply bond n 0x2002 [] 16 fun reply =>
      reply.length = 4 ∧ word reply 1 ≥ 27 ∧ byte reply 3 ≠ 0
    match r with
    | none => Pure.pure false
    | some reply => do
        updatePeer fun peer => { peer with aclLimit := min (word reply 1).toNat 251 }
        call (.featureSet true)
        let r ← commandReply bond n 0x2003 [] 16 fun reply => reply = features
        if r.isSome then
          (cmd bond n 0x0c01 [255, 255, 255, 255, 255, 255, 255, 63]).andThen <|
          (cmd bond n 0x2001 [255, 255, 31, 0, 0, 0, 0, 0]).andThen <|
          (cmd bond n 0x2005 bond.identity.toList).andThen <|
          (cmd bond n 0x2014 cleanMap).andThen <|
          cmd bond n 0x2043 (connectionParams bond)
        else Pure.pure false
  else Pure.pure false

/-! ## Audio startup -/

def verifyMap (n : Nat) : Task Bool := do
  let k ← Halting.get
  let r ← commandReply bond n 0x2015 (le16 k.assembly.handle) 8 fun _ => true
  -- the handle is read again when the command has ended
  let k ← Halting.get
  Pure.pure <| match r with
    | none => false
    | some reply =>
        reply.length = 8 ∧ word reply 1 = k.assembly.handle ∧ span reply 3 5 = cleanMap

/-- The five bytes of an activity with its slot. -/
def setSlot (expected : List UInt8) (slot : Nat) (bytes : List UInt8) : List UInt8 :=
  expected.take (slot * 5) ++ bytes ++ expected.drop (slot * 5 + 5)

def advertisingParams (kind : UInt8) : List UInt8 :=
  [kind, 0, 0, 160, 0, 0, 160, 0, 0, 7, 0, 0, 0, 0, 0, 0, 0, 0, 0, 127, 1, 0, 1, 0, 0]

/-- A look at the controller's activities. -/
def readActivity (n : Nat) : Task Bool :=
  (cmd bond n 0xfcfa []).andThen do
    let k ← Halting.get
    Pure.pure (k.session.peer.activityValid && k.session.peer.controlSlot == 0)

def reserveSlots (n : Nat) : List (Nat × UInt8) → List UInt8 → Task Bool
  | [], _ => Pure.pure true
  | (slot, kind) :: slots, expected => do
      updatePeer fun peer => { peer with activityValid := false }
      let ok ← (cmd bond n 0x2036 (advertisingParams kind)).andThen (readActivity bond n)
      if ok then do
        let k ← Halting.get
        let expected := setSlot expected slot [1, 1, kind, 0, 0]
        if k.session.peer.activity = expected then reserveSlots n slots expected
        else Pure.pure false
      else Pure.pure false

def reserveAudio (n : Nat) : Task Bool := do
  updatePeer fun peer => { peer with activityValid := false }
  let ok ← readActivity bond n
  if ok then do
    let k ← Halting.get
    let expected := k.session.peer.activity
    if span expected 5 15 = [0, 0, 255, 0, 0, 0, 0, 255, 0, 0, 0, 0, 255, 0, 0] then
      reserveSlots bond n [(1, 0xee), (2, 0xef), (3, 0xed)] expected
    else Pure.pure false
  else Pure.pure false

/-- The step that opens the streams. -/
def openAudio (n : Nat) : Task Bool := do
  let a ← ask
  if a.source then do
    let ok ← (verifyMap bond n).andThen <| (cmd bond n 0xfcf0 []).andThen <|
      (Halting.get >>= fun k => Pure.pure k.session.peer.diagnosticOk).andThen <|
      (reserveAudio bond n).andThen <|
      (Keeper.sendAcl 0x101 [2, 1, 0]).andThen <|
      (Keeper.sendAcl 0x101 [4, 1, 0, 100, 100, 0]).andThen <|
      Keeper.sendAcl 0x101 [2, 2, 0]
    if ok then do
      let k ← Halting.get
      let ok ← cmd bond n 0x2022 (le16 k.assembly.handle ++ le16 251 ++ le16 2120)
      if ok then do
        updatePeer fun peer => { peer with startupStep := 1 }
        Pure.pure true
      else Pure.pure false
    else Pure.pure false
  else Pure.pure true

/-- The steps that send E4 and E0, by the command `opcode`. -/
def sendRaw (n : Nat) (opcode : UInt16) (done : UInt8) (next : Int) : Task Bool := do
  updatePeer fun peer => { peer with rawGuard := 255, rawStatus := 255 }
  let ok ← cmd bond n opcode []
  if ok then do
    updatePeer fun peer => { peer with startupStep := done, rawTries := 0, nextAction := next }
    Pure.pure true
  else do
    let k ← Halting.get
    if k.session.peer.rawGuard ≠ 4 then Pure.pure false
    else do
      updatePeer fun peer => { peer with rawTries := peer.rawTries + 1 }
      let k ← Halting.get
      if k.session.peer.rawTries ≥ 12 then Pure.pure false
      else do
        updatePeer fun peer => { peer with nextAction := next }
        Pure.pure true

/-- The step that starts the trial. -/
def startTrial (n : Nat) (now : Int) : Task Bool := do
  let ok ← (verifyMap bond n).andThen <|
    (do call .trialContinuous; let a ← ask; Pure.pure a.trial : Task Bool).andThen
    (do call .pumpContinuous; let a ← ask; Pure.pure a.pump)
  if ok then do
    updatePeer fun peer => { peer with streamAttempted := true }
    let ok ← cmd bond n 0xfcfb []
    if ok then do
      updatePeer fun peer => { peer with started := true }
      let ok ← (Keeper.sendAcl 0x101 [6, 1, 0]).andThen (Keeper.sendAcl 0x101 [6, 2, 0])
      if ok then do
        let a ← ask
        updatePeer fun peer => { peer with lastFeedback := a.now }
        Pure.pure true
      else Pure.pure false
    else do
      updatePeer fun peer => { peer with rawTries := peer.rawTries + 1 }
      let k ← Halting.get
      if k.session.peer.rawTries ≥ 10 then Pure.pure false
      else do
        updatePeer fun peer => { peer with nextAction := now + 1000 }
        Pure.pure true
  else Pure.pure false

/-- The switch of `audio_startup`. -/
def startupSwitch (n : Nat) (now : Int) : Task Bool := do
  let k ← Halting.get
  let peer := k.session.peer
  if peer.startupStep = 0 then openAudio bond n
  else if peer.startupStep = 1 then
    if peer.maxTxOctets < 182 then Pure.pure true
    else sendRaw bond n 0xfcf3 2 (now + 250000)
  else if peer.startupStep = 2 then
    if ¬ peer.rawAcked then Pure.pure true else sendRaw bond n 0xfcf4 3 (now + 1000)
  else if peer.startupStep = 3 then
    if ¬ peer.airReady then Pure.pure true else startTrial bond n now
  else Pure.pure false

def audioStartup (n : Nat) (now : Int) : Task Bool := do
  let k ← Halting.get
  if now < k.session.peer.nextAction then Pure.pure true else startupSwitch bond n now

/-! ## The loop -/

def audioLive (now : Int) : Task Bool := do
  let a ← ask
  updatePeer fun peer =>
    if a.feedback ≠ peer.previousFeedback then
      { peer with previousFeedback := a.feedback, lastFeedback := now }
    else peer
  let k ← Halting.get
  Pure.pure (a.pumpBusy && decide (now - k.session.peer.lastFeedback ≤ 5000000))

/-- The loop of `stop_audio`: the cancellation is driven until the trial is over or time is up;
the result is whether every command went through. -/
def cancelAudio (n : Nat) (deadline : Int) : Nat → Task Bool
  | 0 => halt
  | m + 1 => do
      let ok ← cmd bond n 0xfcfd []
      if ok then do
        let a ← ask
        if ¬ a.pumpBusy ∧ a.phase ≥ 3 then Pure.pure true
        else if a.now < deadline then cancelAudio n deadline m
        else Pure.pure true
      else Pure.pure false

def stopAudio (n : Nat) : Task Bool := do
  let k ← Halting.get
  if ¬ k.session.peer.streamAttempted then Pure.pure true
  else do
    let a ← ask
    let ok ← cancelAudio bond n (a.now + 500000) n
    if ok then do
      let a ← ask
      if a.pumpBusy ∨ a.phase < 3 ∨ a.phase ≥ 6 then Pure.pure false
      else do
        call .pauseForReconnect
        let a ← ask
        if a.quiesced then do
          let ok ← cmd bond n 0xfcff []
          if ok then do
            call .resumeAfterReconnect
            Pure.pure true
          else Pure.pure false
        else Pure.pure false
    else Pure.pure false

def requestEncryption (n : Nat) (now : Int) : Task Unit := do
  let k ← Halting.get
  if ¬ k.session.peer.encryptionRequested ∧ now - k.session.peer.connectedAt ≥ 1000000 then do
    updatePeer fun peer => { peer with encryptionRequested := true }
    let ok ← cmd bond n 0x2019 (le16 k.assembly.handle ++ bond.rand.toList ++ bond.ediv.toList ++
      bond.ltk.toList)
    if ok then Pure.pure () else fail
  else Pure.pure ()

def sendSetup : Task Unit := do
  let k ← Halting.get
  if k.session.peer.encrypted ∧ ¬ k.session.peer.setup then do
    updatePeer fun peer => { peer with setup := true }
    let ok ← Keeper.sendAcl 0x101 ([14, 1] ++ List.replicate 43 0)
    if ok then Pure.pure () else fail
  else Pure.pure ()

def startHeld (n : Nat) (now : Int) : Task Unit := do
  let k ← Halting.get
  if k.session.peer.holding then do
    let ok ← audioStartup bond n now
    if ok then Pure.pure () else fail
  else Pure.pure ()

/-- One turn of the loop of a connection, behind the event it processes: whether it goes on. -/
def turn (n : Nat) (now started : Int) : Task Bool := do
  let k ← Halting.get
  if k.session.peer.started then do
    let live ← audioLive now
    if live then Pure.pure true
    else do
      fail
      Pure.pure true
  else if k.assembly.handle ≠ 0xffff then do
    requestEncryption bond n now
    sendSetup
    startHeld bond n now
    let k ← Halting.get
    if ¬ k.session.peer.started ∧ now - k.session.peer.connectedAt > 20000000 then do
      fail
      Pure.pure true
    else Pure.pure true
  else Pure.pure (decide (now - started ≤ 20000000))

/-- An event of the queue, if there is one. -/
def receive : Task Unit := do
  let a ← ask
  match a.event with
  | none => Pure.pure ()
  | some p => modify (feed bond p)

def connectionLoop (n : Nat) (started : Int) : Nat → Task Unit
  | 0 => halt
  | m + 1 => do
      let a ← ask
      let k ← Halting.get
      if a.enabled ∧ ¬ a.paused ∧ ¬ k.session.peer.failed ∧ ¬ k.session.peer.disconnected ∧
          ¬ a.lost then do
        receive bond
        let a ← ask
        let more ← turn bond n a.now started
        if more then connectionLoop n started m else Pure.pure ()
      else Pure.pure ()

/-- One connection from its setup to the end of its audio. -/
def connection (n : Nat) : Task Unit := do
  let ok ← startConnection bond n
  if ok then do
    let a ← ask
    connectionLoop bond n a.now n
    let ok ← stopAudio bond n
    if ok then Pure.pure ()
    else do
      call .restart
      halt
  else Pure.pure ()

/-- `run`: connections one after another, as long as the keeper is not paused. -/
def run (n : Nat) : Nat → Task Unit
  | 0 => halt
  | m + 1 => do
      let a ← ask
      if ¬ a.enabled ∨ a.paused then run n m
      else do
        connection bond n
        run n m

end Task

/-- The keeper when its task begins; its peer is first cleared before anything reads it. -/
def Keeper.init (answers : Nat → Answer) : Keeper :=
  ⟨⟨0, 0, List.replicate fragmentBytes 0⟩, ⟨{}, answers, [], false⟩⟩

end UllReceiver.Link
