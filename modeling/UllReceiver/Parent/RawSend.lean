import UllReceiver.Parent.LlcpPool
import UllReceiver.Parent.RawLlcp

/-!
# Sending proprietary LLCP PDUs

The part of `raw_llcp.c` that puts E4, E0 and E2 in the controller's queue: the reservation of the
transmit slots, the wrapped free, the guards of `raw_send` and what a PDU sent leaves in the session.
-/

namespace UllReceiver.Parent

open Air

def noPlan : AirSessionPlan where
  startHs := 0
  startHus := 0
  aclInstant := 0
  eventCounter := 0
  accessAddress := 0
  offsetUs := 0
  e2 := Vector.replicate 68 0

def noAnchor : AirAnchor where
  hs := 0
  intervalHs := 0
  hus := 0
  eventCounter := 0

/-- The statics of `raw_llcp.c`, and the controller's pool. -/
structure RawModule where
  raw : RawLlcp
  e4Confirmed : Bool
  e4ConfirmedUs : Int
  committedFirst : AirSessionPlan
  firstCommitUs : Int
  /-- The slots of the reservation `held`. -/
  held : List Slot
  releasedSlots : Nat
  tailOk : Bool
  pool : LlcpPool

/-- What `raw_send` finds outside its statics. -/
structure SendCall where
  k : Controller
  /-- The SDK's free is the wrapped one. -/
  hookReady : Bool
  /-- The SDK's transmit function is the known one. -/
  txReady : Bool
  memAddr : UInt16 → UInt32
  nodeAllocated : Bool
  driverStatus : UInt8
  /-- The clock after the driver was called. -/
  sentUs : Int

/-- The E0 for an event counter; that of the second stream has no microphone. -/
def e0Bytes (second : Bool) (instant : UInt16) : Vector UInt8 39 :=
  if second then ⟨(e0SecondStream ++ le16 instant).toArray, rfl⟩
  else ⟨(e0Parameters ++ le16 instant).toArray, rfl⟩

def RawLlcp.clearSession (s : RawLlcp) : RawLlcp :=
  { s with
    e1Received := false, sessionPrepared := false, sessionLlc := 0, sessionLld := 0
    sentE0 := Vector.replicate 39 0, receivedE1 := Vector.replicate 9 0
    originAnchor := noAnchor, preparedPlan := noPlan }

namespace RawModule

def init : RawModule where
  raw := {
    handedOff := false, e1Expected := false, e0Counter := 0, e0SentUs := 0
    sentE0 := Vector.replicate 39 0, receivedE1 := Vector.replicate 9 0
    originAnchor := noAnchor, preparedPlan := noPlan, sessionLlc := 0, sessionLld := 0
    e1Received := false, sessionPrepared := false, e2Confirmed := false
    committedLlc := 0, committedLld := 0, secondAvailable := false, airParent := .zero
    parentRetired := false, detachedStereo := false, detached := .reset
    controlProbeFrames := 0, controlAutoPoll := true }
  e4Confirmed := false
  e4ConfirmedUs := 0
  committedFirst := noPlan
  firstCommitUs := 0
  held := []
  releasedSlots := 0
  tailOk := false
  pool := .init

def onRaw (f : RawLlcp → RawLlcp) (m : RawModule) : RawModule :=
  { m with raw := f m.raw }

def onPool (f : LlcpPool → LlcpPool) (m : RawModule) : RawModule :=
  { m with pool := f m.pool }

/-! ## Slots -/

/-- A slot that a reservation took goes back. -/
def returnSlot (rom : PoolRom) (m : RawModule) (i : Slot) : RawModule :=
  m.onPool fun p => (p.actualFree rom i).noteReturned i

/-- `__wrap_r_ble_util_buf_llcp_tx_free`; `tail` tells whether the bytes behind the payload still
hold `0xa5`. -/
def wrapFree (rom : PoolRom) (tail : Bool) (i : Slot) (m : RawModule) : RawModule :=
  if m.raw.handedOff ∧ m.held.head?.map slotOffset = some (slotOffset i) then
    { m.held.foldl (returnSlot rom)
        { m.onRaw fun s => { s with handedOff := false } with
          releasedSlots := m.held.length, tailOk := tail } with
      held := [] }
  else m.onPool (·.actualFree rom i)

/-- The free of a slot this module reserved, which goes through the wrapped one. -/
def freeReserved (rom : PoolRom) (m : RawModule) (i : Slot) : RawModule :=
  (m.wrapFree rom true i).onPool (·.noteReturned i)

/-- `ull_pool_reserve` on `held`. -/
def poolReserve (rom : PoolRom) (memAddr : UInt16 → UInt32) (count : Nat) (m : RawModule) :
    Bool × RawModule :=
  if count < 1 ∨ count > 7 then (false, m)
  else
    let (valid, owned, free) := LlcpPool.takeAll 20 [] m.pool.free
    let start := LlcpPool.reservedStart memAddr valid owned count
    let m := { m with
      held := []
      pool := { m.pool with
        free, reservations := { taken := owned, returned := [] } :: m.pool.reservations } }
    let m := (LlcpPool.surplus start count owned).foldl (freeReserved rom) m
    (start.isSome, { m with held := LlcpPool.kept start count owned })

/-- `ull_pool_release` of all of `held`. -/
def poolRelease (rom : PoolRom) (m : RawModule) : RawModule :=
  { m.held.foldl (freeReserved rom) m with held := [] }

/-! ## Sending -/

/-- What E0 and E2 need besides an idle link. -/
def opcodeReady (c : SendCall) (opcode : UInt8) (plan : Option AirSessionPlan) (m : RawModule) :
    Bool :=
  if opcode = 0xe0 then
    (match plan with
      | some first => m.raw.secondAvailable && m.raw.e2Confirmed && first == m.committedFirst &&
          c.k.llcEnv == m.raw.committedLlc && c.k.lldEnv == m.raw.committedLld &&
          decide (c.k.timeUs - m.firstCommitUs ≤ 1000000)
      | none => m.e4Confirmed && decide (c.k.timeUs - m.e4ConfirmedUs ≤ 5000000)) &&
      (RawLlcp.captureAnchor c.k).isSome
  else if opcode = 0xe2 then plan.any fun plan => m.raw.preparedPlanCurrent c.k plan
  else true

/-- The guards of `raw_send` before the reservation. -/
def sendReady (c : SendCall) (opcode : UInt8) (plan : Option AirSessionPlan) (m : RawModule) :
    Bool :=
  c.hookReady && c.k.llcEnv != 0 && c.k.lldEnv != 0 &&
    (c.k.lld c.k.lldEnv).flags &&& 0x60 == 0x60 &&
    !m.raw.handedOff && !(c.k.llc c.k.llcEnv).queued && !(c.k.lld c.k.lldEnv).descriptor &&
    (c.k.llc c.k.llcEnv).flags &&& 2 == 0 && c.txReady && m.opcodeReady c opcode plan

/-- The session after E4. -/
def sentE4 (m : RawModule) : RawModule :=
  { m.onRaw fun s => { s.clearSession with
      secondAvailable := false, committedLlc := 0, committedLld := 0
      e2Confirmed := false, e1Expected := false } with
    committedFirst := noPlan, e4Confirmed := false }

/-- The session after E0; `second` for the second stream. -/
def sentE0 (c : SendCall) (second : Bool) (m : RawModule) : RawModule :=
  let instant := c.k.eventCounter + if second then 24 else 12
  { m.onRaw fun s => { s.clearSession with
      secondAvailable := if second then false else s.secondAvailable
      e2Confirmed := false, e1Expected := true
      e0Counter := instant, e0SentUs := c.sentUs, sentE0 := e0Bytes second instant
      originAnchor := (RawLlcp.captureAnchor c.k).getD noAnchor
      sessionLlc := c.k.llcEnv, sessionLld := c.k.lldEnv } with
    e4Confirmed := false }

/-- The session after E2. -/
def sentE2 (c : SendCall) (plan : AirSessionPlan) (m : RawModule) : RawModule :=
  if getElem m.raw.sentE0 2 proposal_kind = 1 then
    { m.onRaw fun s => { s.clearSession with
        committedLlc := c.k.llcEnv, committedLld := c.k.lldEnv, secondAvailable := true } with
      committedFirst := plan, firstCommitUs := c.sentUs }
  else
    { m.onRaw fun s => { s.clearSession with
        committedLlc := 0, committedLld := 0, secondAvailable := false } with
      committedFirst := noPlan }

/-- The session after a PDU the driver took. -/
def sent (c : SendCall) (opcode : UInt8) (plan : Option AirSessionPlan) (m : RawModule) :
    RawModule :=
  if opcode = 0xe4 then m.sentE4
  else if opcode = 0xe0 then m.sentE0 c plan.isSome
  else if opcode = 0xe2 then m.sentE2 c (plan.getD noPlan)
  else m

/-- `raw_send`. -/
def rawSend (rom : PoolRom) (c : SendCall) (opcode : UInt8) (plan : Option AirSessionPlan)
    (m : RawModule) : UInt8 × RawModule :=
  if opcode ≠ 0x12 ∧ opcode ≠ 0xe4 ∧ opcode ≠ 0xe0 ∧ opcode ≠ 0xe2 then (0x12, m)
  else if opcode = 0xe2 ∧ plan = none then (0x12, m)
  else if !m.sendReady c opcode plan then (0x0c, m)
  else
    match m.poolReserve rom c.memAddr 7 with
    | (false, m) => (0x0c, m)
    | (true, m) =>
        if !c.nodeAllocated then (0x0c, m.poolRelease rom)
        else
          let m := { m.onRaw fun s => { s with handedOff := true } with
            releasedSlots := 0, tailOk := false }
          if c.driverStatus ≠ 0 then
            (c.driverStatus, (m.onRaw fun s => { s with handedOff := false }).poolRelease rom)
          else (0, m.sent c opcode plan)

/-- `ull_raw_send`. -/
def send (rom : PoolRom) (c : SendCall) (opcode : UInt8) (m : RawModule) : UInt8 × RawModule :=
  if opcode = 0xe2 then (0x12, m) else m.rawSend rom c opcode none

/-- `ull_raw_request_second_stream`. -/
def requestSecondStream (rom : PoolRom) (c : SendCall) (first : AirSessionPlan) (m : RawModule) :
    UInt8 × RawModule :=
  m.rawSend rom c 0xe0 (some first)

/-- `ull_raw_commit_session`. -/
def commitSession (rom : PoolRom) (c : SendCall) (plan : AirSessionPlan) (m : RawModule) :
    UInt8 × RawModule :=
  if m.raw.airParent.active then
    let (valid, raw) := m.raw.commitAir c.k plan
    (if valid then 0 else 0x0c, { m with raw })
  else m.rawSend rom c 0xe2 (some plan)

/-! ## The other entry points -/

/-- `acknowledged`: the controller's callback for a PDU of this module. -/
def acknowledged (link opcode : UInt8) (nowUs : Int) (m : RawModule) : RawModule :=
  if link = 0 ∧ m.releasedSlots = 7 ∧ m.tailOk then
    if opcode = 0xe4 then { m with e4Confirmed := true, e4ConfirmedUs := nowUs }
    else if opcode = 0xe2 then m.onRaw fun s => { s with e2Confirmed := true }
    else m
  else m

/-- `ull_raw_reset_sequence`. -/
def resetSequence (m : RawModule) : RawModule :=
  { m.onRaw fun s => { s.clearSession with
      parentRetired := false, detachedStereo := false, detached := .reset, controlProbeFrames := 0
      e1Expected := false, e2Confirmed := false, secondAvailable := false
      committedLlc := 0, committedLld := 0, airParent := .zero } with
    e4Confirmed := false, committedFirst := noPlan }

/-- A received control PDU of the ACL link, of which `hookReady` tells that the SDK's functions for
its buffer are the known ones. -/
structure Indication where
  destination : UInt16
  payload : List UInt8
  hookReady : Bool

/-- `ull_raw_receive_e1`. -/
def receiveE1 (k : Controller) (ind : Indication) (m : RawModule) : Bool × RawModule :=
  if ind.destination >>> 8 ≠ 0 ∨ ind.payload.length ≠ 9 ∨ byteAt ind.payload 0 ≠ 0xe1 then (false, m)
  else if m.raw.e1Expected ∧ k.timeUs - m.raw.e0SentUs < 5000000 ∧ k.llcEnv ≠ 0 ∧ k.lldEnv ≠ 0 ∧
      k.usable k.llcEnv k.lldEnv 0x40 ∧ ind.hookReady ∧
      (ind.payload.drop 1).take 6 = e0Parameters.drop 31 ∧
      get16 (byteAt ind.payload 7) (byteAt ind.payload 8) = m.raw.e0Counter then
    (true, m.onRaw fun s => { s with
      e1Expected := false, e1Received := true, sessionPrepared := false
      receivedE1 := Vector.ofFn fun i => byteAt ind.payload i.val })
  else (false, m)

/-- `ull_raw_session_channel_map`. -/
def sessionChannelMap (k : Controller) (m : RawModule) : Option (Vector UInt8 5) :=
  let cs := (k.lld m.raw.sessionLld).csIndex
  let map : Vector UInt8 5 := #v[(k.cs cs 17).toUInt8, (k.cs cs 17 >>> 8).toUInt8,
    (k.cs cs 18).toUInt8, (k.cs cs 18 >>> 8).toUInt8, (k.cs cs 19 &&& 31).toUInt8]
  if m.raw.sessionConnectionValid k ∧ cs < 6 ∧ usedChannels map ≥ 2 then some map else none

/-- `ull_raw_second_stream_ready`. -/
def secondStreamReady (m : RawModule) : Bool :=
  m.raw.e1Received && getElem m.raw.sentE0 2 proposal_kind == 2

/-- The seed of the second stream. -/
def secondSeed (first : AirSessionPlan) (eventCounter : UInt32) : AirSessionSeed :=
  { RawLlcp.planSeed first with eventCounter, receiveEnabled := 0 }

/-- Half-microseconds from the start of the first stream to that of the second. -/
def streamDelta (first second : AirSessionPlan) : Int :=
  ((second.startHs - first.startHs) &&& clockMask).toNat * 625 + second.startHus.toNat -
    first.startHus.toNat

/-- `ull_raw_prepare_second_stream`; the controller is read three times. -/
def prepareSecondStream (k0 k1 k2 : Controller) (first : AirSessionPlan) (m : RawModule) :
    Option AirSessionPlan × RawModule :=
  if m.sessionChannelMap k0 ≠
      some (Vector.ofFn fun i => getElem first.e2 (19 + i.val) (e2_map i)) then (none, m)
  else if !(m.secondStreamReady && first == m.committedFirst && k1.llcEnv == m.raw.committedLlc &&
      k1.lldEnv == m.raw.committedLld) then (none, m)
  else
    match m.raw.planForCurrentAnchor k1 (secondSeed first 0) first.offsetUs with
    | none => (none, m)
    | some candidate =>
        let delta := streamDelta first candidate
        if 0 < delta ∧ delta ≤ 4000000 ∧ delta % 10000 = 0 then
          match m.raw.planForCurrentAnchor k2
              (secondSeed first (first.eventCounter + UInt32.ofNat (delta / 10000).toNat))
              first.offsetUs with
          | none => (none, m)
          | some second => (some second, m.onRaw fun s =>
              { s with preparedPlan := second, sessionPrepared := true })
        else (none, m)

end RawModule

end UllReceiver.Parent
