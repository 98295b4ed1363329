import UllReceiver.Air.AirSession
import UllReceiver.Parent.ParentAck

/-!
# Parent control over Air

The part of `raw_llcp.c` that carries the parent's control PDUs in Air events: the transaction that
sends E2 once E1 came over Air, and the detached link after the native connection is retired.  The
controller's memory is a state of its own.  Reports to the console are left out.
-/

namespace UllReceiver.Parent

open Air

/-- The fields read of a link controller block. -/
structure Llc where
  /-- The control queue at +40 holds a node. -/
  queued : Bool
  /-- +66. -/
  flags : UInt16

/-- The fields read of a link driver block. -/
structure Lld where
  /-- +4 and +8. -/
  arbitrationHs : UInt32
  arbitrationHus : UInt32
  /-- The control descriptor at +36 is not null. -/
  descriptor : Bool
  /-- +72. -/
  anchorHs : UInt32
  /-- +100. -/
  intervalHs : UInt32
  /-- +126. -/
  eventsPending : UInt16
  /-- +132. -/
  flags : UInt16
  /-- +142. -/
  csIndex : UInt8

/-- The controller as this module sees it; address 0 is the null pointer. -/
structure Controller where
  llcEnv : UInt32
  lldEnv : UInt32
  llc : UInt32 → Llc
  lld : UInt32 → Lld
  /-- Word `i` of a control structure. -/
  cs : UInt8 → Nat → UInt16
  eventCounter : UInt16
  timeUs : Int

structure ParentPdu where
  header : UInt8
  length : UInt8
  payload : Vector UInt8 68
deriving DecidableEq

def ParentPdu.zero : ParentPdu :=
  { header := 0, length := 0, payload := Vector.replicate 68 0 }

structure AirControlRx where
  present : UInt8
  header : UInt8
  length : UInt8
  payload : Vector UInt8 60
deriving DecidableEq

/-- The Air transaction of the second stream's parent. -/
structure AirParent where
  active : Bool
  pending : Bool
  txSn : UInt8
  rxNesn : UInt8
  hardwareSequence : UInt16
  llc : UInt32
  lld : UInt32
  acceptedE1 : Vector UInt8 9
  message : ParentPdu
deriving DecidableEq

def AirParent.zero : AirParent :=
  { active := false, pending := false, txSn := 0, rxNesn := 0, hardwareSequence := 0, llc := 0
    lld := 0, acceptedE1 := Vector.replicate 9 0, message := .zero }

/-- The statics of `raw_llcp.c`. -/
structure RawLlcp where
  handedOff : Bool
  e1Expected : Bool
  e0Counter : UInt16
  e0SentUs : Int
  sentE0 : Vector UInt8 39
  receivedE1 : Vector UInt8 9
  originAnchor : AirAnchor
  preparedPlan : AirSessionPlan
  sessionLlc : UInt32
  sessionLld : UInt32
  e1Received : Bool
  sessionPrepared : Bool
  e2Confirmed : Bool
  committedLlc : UInt32
  committedLld : UInt32
  secondAvailable : Bool
  airParent : AirParent
  parentRetired : Bool
  detachedStereo : Bool
  detached : ParentAck
  controlProbeFrames : UInt32
  controlAutoPoll : Bool

/-- What the USB audio component is told. -/
inductive UsbAction
  | volumeUp
  | volumeDown
  | playPause
  | micMute (muted : Bool)
deriving DecidableEq

/-- Both directions are encrypted and no procedure of the link is under way. -/
def Controller.usable (k : Controller) (llc lld : UInt32) (busy : UInt16) : Bool :=
  (k.lld lld).flags &&& 0x60 == 0x60 && (k.llc llc).flags &&& busy == 0

def Controller.parentSequence (k : Controller) (llc lld : UInt32) : Option UInt16 :=
  if llc = 0 ∨ lld = 0 ∨ k.llcEnv ≠ llc ∨ k.lldEnv ≠ lld ∨ (k.lld lld).csIndex ≥ 6 ∨
      (k.lld lld).flags &&& 0x60 ≠ 0x60 ∨ (k.llc llc).flags &&& 0x40 ≠ 0 then none
  else some (k.cs (k.lld lld).csIndex 12 &&& 0x3000)

namespace RawLlcp

def airParentCurrent (s : RawLlcp) (k : Controller) : Bool :=
  s.airParent.active &&
    k.parentSequence s.airParent.llc s.airParent.lld == some s.airParent.hardwareSequence

def captureAnchor (k : Controller) : Option AirAnchor :=
  let lld := k.lld k.lldEnv
  if k.lldEnv = 0 ∨ k.llcEnv = 0 ∨ lld.anchorHs ≠ lld.arbitrationHs ∨ lld.arbitrationHus > 624 ∨
      lld.eventsPending > 32 then none
  else if lld.anchorHs > 0x0fffffff ∨ lld.intervalHs ≠ 96 then none
  else some
    { hs := lld.anchorHs, intervalHs := lld.intervalHs, hus := lld.arbitrationHus.toUInt16
      eventCounter := k.eventCounter + lld.eventsPending }

def sessionConnectionValid (s : RawLlcp) (k : Controller) : Bool :=
  let elapsed := k.timeUs - s.e0SentUs
  s.e1Received && s.sessionLlc != 0 && s.sessionLld != 0 && k.llcEnv == s.sessionLlc &&
    k.lldEnv == s.sessionLld && decide (elapsed ≥ 0) && decide (elapsed < 1000000) &&
    k.usable s.sessionLlc s.sessionLld 0x40

/-- The plan for the current anchor, when it is the one for the anchor of the original E0. -/
def planForCurrentAnchor (s : RawLlcp) (k : Controller) (seed : AirSessionSeed)
    (offset : UInt32) : Option AirSessionPlan :=
  if s.sessionConnectionValid k then
    match captureAnchor k with
    | none => none
    | some current =>
        match planBuild s.sentE0 s.receivedE1 s.originAnchor seed offset,
          planBuild s.sentE0 s.receivedE1 current seed offset with
        | .ok original, .ok plan => if original = plan then some plan else none
        | _, _ => none
  else none

/-- The seed a prepared plan was built from, read back from its E2. -/
def planSeed (plan : AirSessionPlan) : AirSessionSeed :=
  { accessAddress := plan.accessAddress
    eventCounter := plan.eventCounter
    receiveEnabled := getElem plan.e2 18 e2_receive
    channelMap := Vector.ofFn fun i => getElem plan.e2 (19 + i.val) (e2_map i)
    iv := Vector.ofFn fun i => getElem plan.e2 (44 + i.val) (e2_iv i)
    key := Vector.ofFn fun i => getElem plan.e2 (52 + i.val) (e2_key i) }

def preparedPlanCurrent (s : RawLlcp) (k : Controller) (plan : AirSessionPlan) : Bool :=
  s.sessionPrepared && plan == s.preparedPlan &&
    s.planForCurrentAnchor k (planSeed plan) plan.offsetUs == some plan

/-- `ull_raw_prepare_session`. -/
def prepareSession (s : RawLlcp) (k : Controller) (seed : AirSessionSeed) (offset : UInt32) :
    Option AirSessionPlan × RawLlcp :=
  match s.planForCurrentAnchor k seed offset with
  | some plan => (some plan, { s with preparedPlan := plan, sessionPrepared := true })
  | none => (none, s)

/-- `ull_raw_parent_poll_header`. -/
def parentPollHeader (s : RawLlcp) (k : Controller) : Option UInt8 :=
  if k.llcEnv ≠ 0 ∧ k.lldEnv ≠ 0 ∧
      (k.llcEnv = s.committedLlc ∧ k.lldEnv = s.committedLld ∨
        k.llcEnv = s.sessionLlc ∧ k.lldEnv = s.sessionLld) ∧
      k.usable k.llcEnv k.lldEnv 0x40 ∧ (k.lld k.lldEnv).csIndex < 6 then
    some ((1 : UInt8) ||| ((k.cs (k.lld k.lldEnv).csIndex 12 >>> 10) &&& 12).toUInt8)
  else none

/-- The PDU of the active transaction: the pending message, or an empty poll. -/
def airParentPdu (a : AirParent) : ParentPdu where
  header := (if a.pending then (3 : UInt8) else 1) ||| a.txSn <<< 3 ||| a.rxNesn <<< 2
  length := if a.pending then a.message.length else 0
  payload := if a.pending then
      Vector.ofFn fun i => if i.val < a.message.length.toNat then a.message.payload[i] else 0
    else Vector.replicate 68 0

/-- `ull_raw_parent_air_pdu`. -/
def parentAirPdu (s : RawLlcp) (k : Controller) : Option ParentPdu :=
  if s.airParent.active then
    if s.airParentCurrent k then some (airParentPdu s.airParent) else none
  else (s.parentPollHeader k).map fun header => { ParentPdu.zero with header }

def detachedEligible (s : RawLlcp) (k : Controller) : Bool :=
  s.parentRetired && s.detachedStereo && k.llcEnv == 0 && k.lldEnv == 0 && s.e2Confirmed &&
    !s.secondAvailable && !s.e1Expected && !s.sessionPrepared && !s.handedOff &&
    !s.airParent.pending

/-- `ull_raw_detached_parent_air_pdu`: the PDU, or `none` for the false result, and the statics. -/
def detachedParentAirPdu (s : RawLlcp) (k : Controller) : Option ParentPdu × RawLlcp :=
  let s := { s with detachedStereo := true }
  if s.detachedEligible k then
    if s.detached.active then (some { ParentPdu.zero with header := s.detached.header }, s)
    else if s.controlProbeFrames ≠ 0 ∨ s.controlAutoPoll then
      (some { ParentPdu.zero with header := 1 },
        { s with controlProbeFrames :=
          if s.controlProbeFrames ≠ 0 then s.controlProbeFrames - 1 else 0 })
    else (none, s)
  else (none, s)

/-- The action of a PDU consumed for the first time. -/
def controlAction (received : AirControlRx) : List UsbAction :=
  let control := received.payload.toList.drop 4
  if received.header &&& 3 == 2 && received.payload[2] == 1 && received.payload[3] == 1 then
    if received.length == 10 && parentAckWheel control 6 then
      if byteAt control 3 = 1 then [.volumeUp]
      else if byteAt control 3 = 2 then [.volumeDown]
      else []
    else if received.length == 6 && parentAckMedia control 2 && byteAt control 1 == 2 then
      [.playPause]
    else if received.length == 7 && parentAckMic control 3 then
      [.micMute (byteAt control 0 == 5)]
    else []
  else []

/-- The detached path of `ull_raw_receive_air_control`. -/
def receiveDetached (s : RawLlcp) (received : AirControlRx) (sent : ParentPdu) :
    Bool × RawLlcp × List UsbAction :=
  let (ok, detached) := s.detached.receive received.header (some received.payload.toList)
    received.length.toUInt32 sent.header sent.length.toUInt32
  (ok, { s with detached },
    if ok && detached.accepted != s.detached.accepted then controlAction received else [])

/-- The E1 of the second stream starts the transaction. -/
def receiveE1 (s : RawLlcp) (k : Controller) (received : AirControlRx) (sent : ParentPdu) :
    Bool × RawLlcp :=
  let elapsed := k.timeUs - s.e0SentUs
  match k.parentSequence s.sessionLlc s.sessionLld with
  | none => (false, s)
  | some hardware =>
      if s.e1Expected ∧ getElem s.sentE0 2 proposal_kind = 2 ∧ elapsed ≥ 0 ∧
          elapsed < 1000000 ∧ sent.length = 0 ∧
          sent.header &&& 3 = 1 ∧ snBit received.header = nesnBit sent.header ∧
          nesnBit received.header ≠ snBit sent.header ∧
          s.sessionLlc = s.committedLlc ∧ s.sessionLld = s.committedLld ∧ !s.handedOff ∧
          !(k.llc s.sessionLlc).queued ∧ !(k.lld s.sessionLld).descriptor ∧
          (k.llc s.sessionLlc).flags &&& 2 = 0 ∧
          (received.payload.toList.drop 1).take 6 = (s.sentE0.toList.drop 31).take 6 ∧
          get16 received.payload[7] received.payload[8] = s.e0Counter then
        let e1 := Vector.ofFn fun i => received.payload[i.val]
        (true, { s with
          e1Expected := false, e1Received := true, sessionPrepared := false, receivedE1 := e1
          airParent := { AirParent.zero with
            active := true, llc := s.sessionLlc, lld := s.sessionLld, hardwareSequence := hardware
            txSn := nesnBit received.header, rxNesn := snBit received.header ^^^ 1
            acceptedE1 := e1 } })
      else (false, s)

/-- `sent` is the PDU the transaction has outstanding. -/
def exactPdu (a : AirParent) (sent : ParentPdu) : Bool :=
  snBit sent.header == a.txSn && sent.length == (if a.pending then a.message.length else 0) &&
    sent.header &&& 3 == (if a.pending then (3 : UInt8) else 1) &&
    sent.payload.toList.take sent.length.toNat == a.message.payload.toList.take sent.length.toNat

/-- The transaction after a reply with header `h`: the outstanding PDU is `acked` or not, and the
reply's own number is followed. -/
def answered (a : AirParent) (acked : Bool) (h : UInt8) : AirParent :=
  let a := if acked then { a with txSn := a.txSn ^^^ 1 } else a
  let a := if acked && a.pending then { a with pending := false, message := .zero } else a
  if snBit h = a.rxNesn then { a with rxNesn := a.rxNesn ^^^ 1 } else a

/-- A reply within the transaction. -/
def receiveReply (s : RawLlcp) (k : Controller) (received : AirControlRx) (sent : ParentPdu) :
    RawLlcp :=
  let acked := exactPdu s.airParent sent && nesnBit received.header != s.airParent.txSn
  let confirmed := acked && s.airParent.pending
  let a := answered s.airParent acked received.header
  -- an acknowledged E2 ends the transaction once the numbers are the untouched hardware ones again
  let returned := confirmed &&
    k.parentSequence a.llc a.lld == some (a.txSn.toUInt16 <<< 13 ||| a.rxNesn.toUInt16 <<< 12)
  { s with
    e2Confirmed := s.e2Confirmed || confirmed
    airParent := if returned then { a with active := false } else a }

/-- `ull_raw_receive_air_control`. -/
def receiveAirControl (s : RawLlcp) (k : Controller) (received : AirControlRx)
    (sent : ParentPdu) : Bool × RawLlcp × List UsbAction :=
  if received.present = 0 ∨ received.length > 60 ∨ sent.length > 68 ∨ received.header &&& 0xe0 ≠ 0 ∨
      sent.header &&& ~~~15 ≠ 0 then (false, s, [])
  else if s.detachedEligible k then s.receiveDetached received sent
  else
    let isE1 := received.header &&& 3 == 3 && received.length == 9 && received.payload[0] == 0xe1
    let empty := received.header &&& 3 == 1 && received.length == 0
    if !isE1 && !empty then (false, s, [])
    else if !s.airParent.active then
      if isE1 then
        let (valid, s) := s.receiveE1 k received sent
        (valid, s, [])
      else (false, s, [])
    else if s.airParentCurrent k && (empty ||
        received.payload.toList.take 9 == s.airParent.acceptedE1.toList) then
      (true, s.receiveReply k received sent, [])
    else (false, s, [])

/-- `ull_raw_commit_session` while a transaction is active: E2 becomes its pending message. -/
def commitAir (s : RawLlcp) (k : Controller) (plan : AirSessionPlan) : Bool × RawLlcp :=
  let a := s.airParent
  if getElem s.sentE0 2 proposal_kind = 2 ∧ s.airParentCurrent k ∧ !a.pending ∧ !s.handedOff ∧
      !(k.llc a.llc).queued ∧
      !(k.lld a.lld).descriptor ∧ (k.llc a.llc).flags &&& 2 = 0 ∧ s.preparedPlanCurrent k plan then
    (true, { s with
      e2Confirmed := false, sessionPrepared := false, secondAvailable := false
      airParent := { a with
        pending := true
        message := { a.message with length := 68, payload := plan.e2 } } })
  else (false, s)

end RawLlcp

theorem answered_fields (a : AirParent) (acked : Bool) (h : UInt8) :
    (RawLlcp.answered a acked h).active = a.active ∧
      (RawLlcp.answered a acked h).pending = (a.pending && !acked) ∧
      (RawLlcp.answered a acked h).txSn = (if acked then a.txSn ^^^ 1 else a.txSn) ∧
      (acked = false → (RawLlcp.answered a acked h).message = a.message) ∧
      ((RawLlcp.answered a acked h).rxNesn = a.rxNesn ∨
        (RawLlcp.answered a acked h).rxNesn = a.rxNesn ^^^ 1) := by
  obtain ⟨active, pending, txSn, rxNesn, hardware, llc, lld, e1, message⟩ := a
  unfold RawLlcp.answered
  by_cases hflip : snBit h = rxNesn <;> cases acked <;> cases pending <;> simp [hflip]

end UllReceiver.Parent
