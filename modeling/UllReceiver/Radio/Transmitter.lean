import Mathlib
import UllReceiver.Library.Loan
import UllReceiver.Library.Overlay
import UllReceiver.Radio.Reservation

/-!
# The scheduled transmitter

`radio_tx.c`: one request at a time is laid out in the controller's exchange memory and handed to
the arbiter of the ROM, which later calls back.  What the ROM answers to a call is an argument of
the function that makes it.  Traces, copies of registers that are only reported, and a second alarm
that nothing sets are left out.
-/

namespace UllReceiver.Radio

open Air (clockMask)
open Library

/-- A control structure and a transmit descriptor in exchange memory. -/
abbrev CsBlock := Vector UInt16 45
abbrev TxDescriptor := Vector UInt16 7

/-- The configuration of the build, and `sdk_cfg_priv_opts[26]`. -/
structure TxBuild where
  rxTimingFieldAdd : UInt32
  txPathFieldAdd : UInt32
  airSequenceBypass : Bool
  syncWindow : UInt8

/-- The build as it is configured without overrides. -/
def TxBuild.stock (syncWindow : UInt8) : TxBuild where
  rxTimingFieldAdd := 0
  txPathFieldAdd := 24
  airSequenceBypass := false
  syncWindow

/-- Exchange memory and registers, as far as the transmitter writes them. -/
structure RadioMemory where
  cs : CsBlock
  replyCs : CsBlock
  stopCs : CsBlock
  descriptor : TxDescriptor
  repeatDescriptor : TxDescriptor
  /-- The bytes of the payload buffer. -/
  payload : List UInt8
  /-- `RX_TIMING_2M` -/
  rxTiming : UInt32
  testControl : UInt32
  radioControl : UInt32

inductive TxCallback
  | null
  | frameDone
  | other
deriving DecidableEq

/-- The contexts of the three programs: the address of `tx`, and that with bit 0 or bit 1
flipped.  `none` is the one of a cleared program, `other` belongs to somebody else. -/
inductive TxContext
  | none
  | first
  | reply
  | stop
  | other
deriving DecidableEq

/-- `struct tx_program` -/
structure TxProgram where
  callback : TxCallback
  context : TxContext
  span : TxSpan
  priority : UInt8
  cs : UInt8
deriving DecidableEq

def TxProgram.zero : TxProgram where
  callback := .null
  context := .none
  span := ⟨0, 0, 0⟩
  priority := 0
  cs := 0

/-- `struct program_entry` -/
structure ProgramEntry where
  hs : UInt32
  callback : TxCallback
  context : TxContext
  used : Bool
deriving DecidableEq

/-- An entry that calls back into the transmitter. -/
def ProgramEntry.live (e : ProgramEntry) : Prop :=
  e.used = true ∧ e.callback = .frameDone

instance (e : ProgramEntry) : Decidable e.live :=
  inferInstanceAs (Decidable (_ ∧ _))

/-- The word at `sch_arb_env+8`. -/
inductive ArbSlot
  | none
  | ours
  | foreign
deriving DecidableEq

/-- The ROM's side: its arbiter, its programming queue and its alarm. -/
structure Scheduler where
  /-- Our element waits in the arbiter. -/
  queued : Bool
  active : ArbSlot
  entries : Fin 16 → ProgramEntry
  consumer : UInt8
  producer : UInt8
  count : UInt8
  /-- Our alarm is set. -/
  alarm : Bool
  /-- The parameters of the inactive advertising activities 1 to 3 with the handles EE, EF, ED. -/
  parameters : Fin 3 → Option UInt32
  progDelay : UInt8

/-- `r_rwip_time_get` -/
structure RadioTime where
  hs : UInt32
  hus : UInt32

/-- `struct ull_radio_tx_result` -/
structure TxResult extends RadioTxResult where
  endHs : UInt32
  callbackReason : UInt8
  faultDetail : UInt8
  deadlineFired : UInt8
  deadlineHs : UInt32
  deadlineHus : UInt16
  rxCallbacks : UInt16
  txCallbacks : UInt16
  rxFreed : UInt16
  abortControl : UInt32
  abortChecks : UInt8
  followupStatus : UInt8
  followupHs : UInt32
  followupHus : UInt16
  firstEndHs : UInt32
  firstEndHus : UInt16
  suppliedPrefix : List UInt8

def RadioRxSnapshot.zero : RadioRxSnapshot where
  hs := 0
  hus := 0
  descriptor := Vector.replicate 10 0
  copied := 0
  payload := Vector.replicate 64 0

def TxResult.zero : TxResult where
  phase := .idle
  txCount := 0
  rxSnapshots := 0
  rxInvalid := 0
  rx := Vector.replicate 3 .zero
  endHs := 0
  callbackReason := 0
  faultDetail := 0
  deadlineFired := 0
  deadlineHs := 0
  deadlineHus := 0
  rxCallbacks := 0
  txCallbacks := 0
  rxFreed := 0
  abortControl := 0
  abortChecks := 0
  followupStatus := 0
  followupHs := 0
  followupHus := 0
  firstEndHs := 0
  firstEndHus := 0
  suppliedPrefix := []

/-- The static `tx`. -/
structure Tx where
  arb : TxSpan
  alarmHs : UInt32
  program : TxProgram
  replyProgram : TxProgram
  stopProgram : TxProgram
  result : TxResult
  activityParameters : Option UInt32
  replyParameters : Option UInt32
  stopParameters : Option UInt32
  payloadOffset : UInt16
  savedCs : CsBlock
  savedReplyCs : CsBlock
  savedStopCs : CsBlock
  savedDescriptor : TxDescriptor
  savedRepeatDescriptor : TxDescriptor
  savedTestBits : UInt32
  savedEnable : UInt32
  savedRxTiming : UInt32
  rxTimingSet : Bool
  savedSequenceFlags : UInt32
  sequenceFlagsSet : Bool
  programIndex : UInt8
  replyIndex : UInt8
  stopIndex : UInt8
  format : UInt8
  alarmSet : Bool
  globalsSet : Bool
  storageSet : Bool
  followupPending : Bool
  followupActive : Bool
  followupWindowUs : UInt16
  followupChannel : UInt8
  phy : UInt8
  prequeuedReply : Bool
  firstEnded : Bool
  replyEnded : Bool
  stopEnded : Bool
  stopAbortRequested : Bool
  repeatPayload : Bool

/-- Cleared, with `program_index` 255. -/
def Tx.zero : Tx where
  arb := ⟨0, 0, 0⟩
  alarmHs := 0
  program := .zero
  replyProgram := .zero
  stopProgram := .zero
  result := .zero
  activityParameters := none
  replyParameters := none
  stopParameters := none
  payloadOffset := 0
  savedCs := Vector.replicate 45 0
  savedReplyCs := Vector.replicate 45 0
  savedStopCs := Vector.replicate 45 0
  savedDescriptor := Vector.replicate 7 0
  savedRepeatDescriptor := Vector.replicate 7 0
  savedTestBits := 0
  savedEnable := 0
  savedRxTiming := 0
  rxTimingSet := false
  savedSequenceFlags := 0
  sequenceFlagsSet := false
  programIndex := 255
  replyIndex := 0
  stopIndex := 0
  format := 0
  alarmSet := false
  globalsSet := false
  storageSet := false
  followupPending := false
  followupActive := false
  followupWindowUs := 0
  followupChannel := 0
  phy := 0
  prequeuedReply := false
  firstEnded := false
  replyEnded := false
  stopEnded := false
  stopAbortRequested := false
  repeatPayload := false

structure TxSystem where
  tx : Tx
  mem : RadioMemory
  rom : Scheduler
  /-- The payload buffers taken from the controller and given back, newest first. -/
  payloads : List (LedgerEntry UInt16)

/-! ## Masks and offsets -/

def testEnable : UInt32 := 0x4000
def radioAbort : UInt32 := 0x04000000
def testBits : UInt32 := 0x08003800
def airSequenceBypassMask : UInt32 := 0x000c0000
def activity : UInt8 := 1
/-- `TX_FORMAT` -/
def txFormat : UInt8 := 2
/-- `DESC_OFFSET` -/
def descOffset : UInt16 := 0x1400 + 126
/-- `REPEAT_DESC_OFFSET` -/
def repeatDescOffset : UInt16 := 0x1400 + 126 * 2

/-- The word of a control structure at a byte offset. -/
def csWord (cs : CsBlock) (offset : Nat) : UInt16 :=
  (cs[offset / 2]?).getD 0

/-- Words stored one after another, each under its byte offset. -/
def putWords (words : List (Nat × UInt16)) (cs : CsBlock) : CsBlock :=
  overlay (words.map fun word => (word.1 / 2, word.2)) cs

/-- The rate word of a receiver. -/
def receiveRate (phy : UInt8) : UInt16 :=
  (0x1000 : UInt16) ||| ((phy - 1).toUInt16 <<< 2)

/-- The rate word of a transmitter that then listens. -/
def transmitRate (phy : UInt8) : UInt16 :=
  (0x1100 : UInt16) ||| (phy - 1).toUInt16 ||| ((phy - 1).toUInt16 <<< 2)

def channelWord (channel : UInt8) : UInt16 :=
  (0x8000 : UInt16) ||| channel.toUInt16

/-- The words that count what was received and sent. -/
def counterOffsets : List Nat := [68, 70, 72, 74, 76, 78]

namespace TxSystem

def onTx (f : Tx → Tx) (s : TxSystem) : TxSystem :=
  { s with tx := f s.tx }

def onResult (f : TxResult → TxResult) (s : TxSystem) : TxSystem :=
  { s with tx := { s.tx with result := f s.tx.result } }

def onMem (f : RadioMemory → RadioMemory) (s : TxSystem) : TxSystem :=
  { s with mem := f s.mem }

def onRom (f : Scheduler → Scheduler) (s : TxSystem) : TxSystem :=
  { s with rom := f s.rom }

def setPhase (phase : RadioTxPhase) (s : TxSystem) : TxSystem :=
  s.onResult fun r => { r with phase }

def faulted (detail : UInt8) (s : TxSystem) : TxSystem :=
  s.onResult fun r => { r with faultDetail := detail, phase := .fault }

/-- `ull_radio_tx_min_lead` -/
def minLead (s : TxSystem) : UInt32 :=
  if s.rom.progDelay ≠ 0 then s.rom.progDelay.toUInt32 + 2 else 8

/-- `tx_release_storage` -/
def releaseStorage (s : TxSystem) : TxSystem :=
  if s.tx.storageSet then
    { s with
      mem := { s.mem with
        cs := s.tx.savedCs
        replyCs := if s.tx.prequeuedReply then s.tx.savedReplyCs else s.mem.replyCs
        stopCs := if s.tx.repeatPayload then s.tx.savedStopCs else s.mem.stopCs
        descriptor := s.tx.savedDescriptor
        repeatDescriptor :=
          if s.tx.repeatPayload then s.tx.savedRepeatDescriptor else s.mem.repeatDescriptor }
      payloads := .given s.tx.payloadOffset :: s.payloads
      tx := { s.tx with storageSet := false } }
  else s

/-- `tx_active_is_ours` -/
def activeIsOurs (s : TxSystem) : Bool :=
  s.rom.active == .ours

/-- `tx_entry_is_ours` -/
def entryIsOurs (index : UInt8) (p : TxProgram) (requireConsumer : Bool) (s : TxSystem) : Bool :=
  if h : index.toNat < 16 then
    let e := s.rom.entries ⟨index.toNat, h⟩
    (!requireConsumer || s.rom.consumer == index) && e.used && e.callback == p.callback &&
      e.context == p.context && e.hs == p.span.hs
  else false

/-- `tx_program_is_ours` -/
def programIsOurs (requireConsumer : Bool) (s : TxSystem) : Bool :=
  s.entryIsOurs s.tx.programIndex s.tx.program requireConsumer ||
    (s.tx.prequeuedReply && s.entryIsOurs s.tx.replyIndex s.tx.replyProgram requireConsumer) ||
    (s.tx.repeatPayload && s.entryIsOurs s.tx.stopIndex s.tx.stopProgram requireConsumer)

/-- `entries[index].used` -/
def entryUsed (index : UInt8) (s : TxSystem) : Bool :=
  if h : index.toNat < 16 then (s.rom.entries ⟨index.toNat, h⟩).used else false

/-- The activities that were handed over with the request are still the same. -/
def parametersKept (s : TxSystem) : Bool :=
  s.rom.parameters 0 == s.tx.activityParameters &&
    (!s.tx.prequeuedReply || s.rom.parameters 1 == s.tx.replyParameters) &&
    (!s.tx.repeatPayload || s.rom.parameters 2 == s.tx.stopParameters)

/-- `r_sch_arb_remove(&tx.arb,1)`: the slot is freed, and a due event may take it. -/
def arbRemoveActive (due : Bool) (s : TxSystem) : TxSystem :=
  if s.activeIsOurs then s.onRom fun rom => { rom with active := if due then .foreign else .none }
  else s

/-- `tx_restore_globals` -/
def restoreGlobals (s : TxSystem) : TxSystem :=
  if s.tx.globalsSet then
    let control := (s.mem.radioControl &&& ~~~(testEnable ||| radioAbort)) ||| s.tx.savedEnable
    { s with
      mem := { s.mem with
        rxTiming := if s.tx.rxTimingSet then s.tx.savedRxTiming else s.mem.rxTiming
        testControl := (s.mem.testControl &&& ~~~testBits) ||| s.tx.savedTestBits
        radioControl :=
          if s.tx.sequenceFlagsSet then
            (control &&& ~~~airSequenceBypassMask) ||| s.tx.savedSequenceFlags
          else control }
      tx := { s.tx with rxTimingSet := false, sequenceFlagsSet := false, globalsSet := false } }
  else s

/-- `abort_checks` -/
def abortChecks (s : TxSystem) : UInt8 :=
  (if s.activeIsOurs then 1 else 0) ||| (if s.programIsOurs true then 2 else 0)

/-- The abort command, and a stopper it hits. -/
def commandAbort (s : TxSystem) : TxSystem :=
  let control := (s.mem.radioControl &&& ~~~testEnable) ||| radioAbort
  let stopping := s.tx.repeatPayload && s.entryIsOurs s.tx.stopIndex s.tx.stopProgram true
  { s with
    mem := { s.mem with radioControl := control }
    tx := { s.tx with
      stopAbortRequested := s.tx.stopAbortRequested || stopping
      result := { s.tx.result with
        abortChecks := s.abortChecks, abortControl := control, phase := .aborting } } }

/-- `tx_abort_active` -/
def abortActive (s : TxSystem) : TxSystem :=
  if s.tx.result.phase ≠ .active ∧ s.tx.result.phase ≠ .aborting then s
  else if s.abortChecks ≠ 3 then
    s.onResult fun r => { r with abortChecks := s.abortChecks, faultDetail := 1, phase := .fault }
  else s.commandAbort

/-- `r_sch_alarm_clear`, where the alarm is set. -/
def clearAlarm (s : TxSystem) : TxSystem :=
  if s.tx.alarmSet then
    { s with rom := { s.rom with alarm := false }, tx := { s.tx with alarmSet := false } }
  else s

/-- `tx_deadline`, called after the ROM has removed the alarm. -/
def deadline (now : RadioTime) (s : TxSystem) : TxSystem :=
  let s := s.onTx fun tx => { tx with
    alarmSet := false
    result := { tx.result with
      deadlineFired := 1, deadlineHs := now.hs, deadlineHus := now.hus.toUInt16 } }
  s.abortActive

end TxSystem

/-! ## Received packets -/

/-- A descriptor that `r_lld_rxdesc_check_hack` points at, its slot, the clock, and the first bytes
of its buffer. -/
structure RxReading where
  slot : UInt8
  descriptor : Vector UInt16 10
  now : RadioTime
  payload : Vector UInt8 64

/-- What a callback finds of received packets. -/
structure RxAnswers where
  /-- The controller's tables are where they are expected. -/
  known : Bool
  /-- `r_ble_util_buf_get_rx_buf_size` -/
  capacity : UInt16
  readings : List RxReading

/-- A descriptor of someone else, or one that points outside the receive buffers. -/
def RxReading.invalid (activity : UInt8) (d : RxReading) : Bool :=
  let offset := d.descriptor[9]
  d.slot ≥ 10 || (d.descriptor[6] >>> 11) &&& 31 != activity.toUInt16 ||
    (offset != 0 && (offset < 0x7805 || offset > 0x9805 || (offset - 0x7805) % 0x400 != 0))

/-- The bytes that are copied out of the buffer. -/
def RxReading.bytes (capacity : UInt16) (d : RxReading) : Nat :=
  if d.descriptor[9] = 0 then 0
  else min (min (getElem d.descriptor 2 descriptor_length >>> 8).toNat capacity.toNat) 64

namespace TxResult

/-- One descriptor taken: copied while there is room for it, then freed.  The stopper's packets
are freed unread. -/
def received (activity : UInt8) (capacity : UInt16) (d : RxReading) (r : TxResult) : TxResult :=
  let freed := r.rxFreed + 1
  if h : activity ≠ 3 ∧ r.rxSnapshots.toNat < 3 then
    let snapshot : RadioRxSnapshot :=
      { hs := d.now.hs, hus := d.now.hus.toUInt16, descriptor := d.descriptor
        copied := UInt8.ofNat (d.bytes capacity)
        payload := Vector.ofFn fun i : Fin 64 =>
          if i.val < d.bytes capacity then d.payload[i] else r.rx[r.rxSnapshots.toNat].payload[i] }
    { r with
      rx := r.rx.set r.rxSnapshots.toNat snapshot, rxSnapshots := r.rxSnapshots + 1
      rxFreed := freed }
  else { r with rxFreed := freed }

def receiveAll (activity : UInt8) (capacity : UInt16) : List RxReading → TxResult → TxResult
  | [], r => r
  | d :: ds, r =>
      if d.invalid activity then { r with rxInvalid := 1 }
      else receiveAll activity capacity ds (r.received activity capacity d)

/-- A whole packet whose checksum the hardware has passed. -/
def complete (snapshot : RadioRxSnapshot) : Bool :=
  snapshot.copied ≥ 7 &&
    snapshot.copied.toUInt16 == getElem snapshot.descriptor 2 descriptor_length >>> 8 &&
    getElem snapshot.descriptor 1 descriptor_status &&& 9 == 0

/-- Some packet received so far is complete. -/
def answered (r : TxResult) : Bool :=
  (r.rx.toList.take r.rxSnapshots.toNat).any complete

end TxResult

namespace TxSystem

/-- `tx_receive_owned` -/
def receiveOwned (activity : UInt8) (a : RxAnswers) (s : TxSystem) : TxSystem :=
  s.onResult fun r =>
    if a.known then r.receiveAll activity a.capacity (a.readings.take 10)
    else { r with rxInvalid := 1 }

/-! ## Callbacks -/

/-- What the ROM and the clock tell a frame callback. -/
structure FrameAnswers where
  firstEnd : RadioTime
  endTime : RadioTime
  /-- The clock once the follow-up is to be queued. -/
  now : RadioTime
  rx : RxAnswers
  /-- A due event takes the slot that our element leaves. -/
  due : Bool
  /-- The status of `r_sch_arb_insert`. -/
  inserted : UInt8

/-- `r_sch_arb_insert(&tx.arb)` -/
def arbInsert (status : UInt8) (s : TxSystem) : TxSystem :=
  if status = 0 then s.onRom fun rom => { rom with queued := true } else s

/-- What `tx_queue_followup` finds. -/
def followupScene (now : RadioTime) (s : TxSystem) : FollowupScene where
  parametersKept := s.rom.parameters 0 == s.tx.activityParameters
  activeOurs := s.activeIsOurs
  activeOther := s.rom.active == .foreign
  programs := s.rom.count
  nowHs := now.hs
  nowHus := now.hus
  progDelay := s.rom.progDelay

/-- The control structure turned into a receiver on the channel of the follow-up. -/
def followupCs (tx : Tx) (cs : CsBlock) : CsBlock :=
  putWords ([(4, receiveRate tx.phy), (22, channelWord tx.followupChannel),
    (26, (tx.followupWindowUs + 1) / 2)] ++ counterOffsets.map fun offset => (offset, 0)) cs

def followupStatus (status : UInt8) (s : TxSystem) : TxSystem :=
  s.onResult fun r => { r with followupStatus := status }

/-- The event laid out once more, for the follow-up. -/
def layFollowup (arb program : TxSpan) (alarmHs : UInt32) (s : TxSystem) : TxSystem :=
  { s with
    tx := { s.tx with
      format := 29, followupActive := true, arb, alarmHs, programIndex := 255
      program := { s.tx.program with span := program } }
    mem := { s.mem with cs := followupCs s.tx s.mem.cs } }

/-- `tx_queue_followup` -/
def queueFollowup (a : FrameAnswers) (s : TxSystem) : TxSystem :=
  let s := s.onTx fun tx => { tx with followupPending := false }
  match txQueueFollowup (s.followupScene a.now) (s.tx.result.followupHs, s.tx.result.followupHus)
    s.tx.followupWindowUs with
  | .fault => s.faulted 2
  | .conflict => s.followupStatus 5
  | .late => s.followupStatus 4
  | .programmed arb program alarmHs =>
      let s := s.layFollowup arb program alarmHs
      if a.inserted = 0 then ((s.setPhase .queued).arbInsert a.inserted).followupStatus 1
      else (s.followupStatus 5).setPhase .ended

/-- The program a callback is for. -/
inductive TxRole
  | first
  | reply
  | stop
deriving DecidableEq

/-- `stop` and `reply` in `tx_frame_done`. -/
def roleOf (context : TxContext) (s : TxSystem) : TxRole :=
  if s.tx.repeatPayload ∧ context = s.tx.stopProgram.context then .stop
  else if s.tx.prequeuedReply ∧ context = s.tx.replyProgram.context then .reply
  else .first

def programOf (role : TxRole) (s : TxSystem) : TxProgram :=
  match role with
  | .first => s.tx.program
  | .reply => s.tx.replyProgram
  | .stop => s.tx.stopProgram

def indexOf (role : TxRole) (s : TxSystem) : UInt8 :=
  match role with
  | .first => s.tx.programIndex
  | .reply => s.tx.replyIndex
  | .stop => s.tx.stopIndex

def roleEnded (role : TxRole) (s : TxSystem) : Bool :=
  match role with
  | .first => s.tx.firstEnded
  | .reply => s.tx.replyEnded
  | .stop => s.tx.stopEnded

/-- `previous_pending` -/
def previousPending (role : TxRole) (s : TxSystem) : Bool :=
  match role with
  | .first => false
  | .reply => !s.tx.firstEnded
  | .stop => !s.tx.firstEnded || !s.tx.replyEnded

def roleActivity (role : TxRole) : UInt8 :=
  match role with
  | .first => activity
  | .reply => 2
  | .stop => 3

/-- The follow-up is no longer needed. -/
def followupOmitted (s : TxSystem) : TxSystem :=
  s.onTx fun tx => { tx with
    followupPending := false, result := { tx.result with followupStatus := 7 } }

/-- A received packet: once one is complete the event has done its work. -/
def packetReceived (role : TxRole) (a : FrameAnswers) (s : TxSystem) : TxSystem :=
  let s := s.onResult fun r => { r with rxCallbacks := r.rxCallbacks + 1 }
  let s := s.receiveOwned (roleActivity role) a.rx
  if role = .stop then s
  else
    let native := s.tx.followupPending && !s.tx.prequeuedReply && s.tx.format == 2
    let repeatFirst := s.tx.repeatPayload && role != .reply
    if (s.tx.followupActive || role == .reply || native || repeatFirst) &&
        s.tx.result.rxInvalid == 0 && s.tx.result.answered then
      if native then s.followupOmitted.abortActive else s.abortActive
    else s

/-- What is noted of a program of several that has ended. -/
def noteEnded (role : TxRole) (reason : UInt8) (a : FrameAnswers) (s : TxSystem) : TxSystem :=
  match role with
  | .stop => s.onTx fun tx => { tx with stopEnded := true }
  | .reply => s.onTx fun tx => { tx with
      replyEnded := true
      result := { tx.result with followupStatus := if reason = 0 then 3 else 6 } }
  | .first => s.onTx fun tx => { tx with
      firstEnded := true
      result := { tx.result with
        txCount := csWord s.mem.cs 68, firstEndHs := a.firstEnd.hs
        firstEndHus := a.firstEnd.hus.toUInt16 } }

/-- The event is over unless it was lost before. -/
def closed (reason : UInt8) (a : FrameAnswers) (s : TxSystem) : TxSystem :=
  s.onResult fun r => { r with
    callbackReason := reason, endHs := a.endTime.hs
    phase := if r.phase ≠ .fault then .ended else .fault }

/-- One of several prequeued programs has ended. -/
def prequeuedEnded (role : TxRole) (reason : UInt8) (a : FrameAnswers) (s : TxSystem) : TxSystem :=
  let s := s.noteEnded role reason a
  if !s.tx.firstEnded || !s.tx.replyEnded || (s.tx.repeatPayload && !s.tx.stopEnded) then s
  else s.clearAlarm.closed reason a

/-- The only program of the event has ended: everything but the storage is given back. -/
def singleClosed (reason : UInt8) (a : FrameAnswers) (s : TxSystem) : TxSystem :=
  let s := s.clearAlarm
  let s := s.onTx fun tx => { tx with
    result := { tx.result with
      txCount := if tx.followupActive then tx.result.txCount else csWord s.mem.cs 68
      followupStatus :=
        if tx.followupActive then if reason = 0 then 3 else 6 else tx.result.followupStatus } }
  (s.restoreGlobals.arbRemoveActive a.due).closed reason a

/-- The end of the only program, which the follow-up may come after. -/
def singleEnded (reason : UInt8) (a : FrameAnswers) (s : TxSystem) : TxSystem :=
  let s := s.singleClosed reason a
  if s.tx.followupPending ∧ reason = 0 ∧ s.tx.result.phase = .ended ∧
      s.tx.result.rxInvalid = 0 then
    (s.onResult fun r => { r with
      firstEndHs := a.firstEnd.hs, firstEndHus := a.firstEnd.hus.toUInt16 }).queueFollowup a
  else s

/-- The end of one program. -/
def programEnded (role : TxRole) (reason : UInt8) (a : FrameAnswers) (s : TxSystem) : TxSystem :=
  let s := if reason ≠ 4 then s.receiveOwned (roleActivity role) a.rx else s
  if s.tx.prequeuedReply then s.prequeuedEnded role reason a else s.singleEnded reason a

/-- `tx_frame_done`: 0 completed, 1 aborted, 4 skipped, 2 and 3 one packet received or sent. -/
def frameDone (hs : UInt32) (context : TxContext) (reason : UInt8) (a : FrameAnswers)
    (s : TxSystem) : TxSystem :=
  let role := s.roleOf context
  let program := s.programOf role
  let ours := s.entryIsOurs (s.indexOf role) program false
  let early := s.previousPending role && reason != 4
  if context ≠ program.context ∨ hs ≠ program.span.hs ∨ ours = false ∨ early then
    let detail : UInt8 := 0x10 ||| (if context ≠ program.context then 1 else 0) |||
      (if hs ≠ program.span.hs then 2 else 0) ||| (if ours then 0 else 4) |||
      (if early then 8 else 0)
    s.onResult fun r => { r with callbackReason := reason, faultDetail := detail, phase := .fault }
  else if s.tx.prequeuedReply && s.roleEnded role then
    if reason = 0 ∨ reason = 1 ∨ reason = 4 then s else s.faulted 0x20
  else if role = .stop ∧ reason = 3 then s.faulted 0x22
  else if reason = 2 then s.packetReceived role a
  else if reason = 3 then s.onResult fun r => { r with txCallbacks := r.txCallbacks + 1 }
  else if reason ≠ 0 ∧ reason ≠ 1 ∧ reason ≠ 4 then s
  else s.programEnded role reason a

/-- `tx_cancelled` -/
def cancelled (s : TxSystem) : TxSystem :=
  if s.tx.result.phase ≠ .queued then s.faulted 3 else s.setPhase .cancelled

/-- `tx_stopped` -/
def stopped (s : TxSystem) : TxSystem :=
  s.abortActive

/-! ## The start of an event -/

/-- What `r_sch_prog_push` does: whether it writes the entry at its producer index, and where it
leaves its indices. -/
structure PushAnswer where
  written : Bool
  producer : UInt8
  count : UInt8

structure StartAnswers where
  /-- The antenna selection for each program, bits 7 and 6. -/
  antenna : Fin 3 → UInt8 × UInt8
  /-- The power word set for each program. -/
  power : Fin 3 → UInt16
  push : Fin 3 → PushAnswer
  due : Bool

/-- `r_sch_prog_push` -/
def progPush (a : PushAnswer) (p : TxProgram) (s : TxSystem) : TxSystem :=
  s.onRom fun rom => { rom with
    entries := fun i =>
      if a.written ∧ i.val = rom.producer.toNat then
        { hs := p.span.hs, callback := p.callback, context := p.context, used := true }
      else rom.entries i
    producer := a.producer
    count := a.count }

/-- The format word with the antenna selection. -/
def formatWord (format : UInt8) (antenna : UInt8 × UInt8) : UInt16 :=
  format.toUInt16 ||| (antenna.1.toUInt16 <<< 7) ||| (antenna.2.toUInt16 <<< 6)

def antennaKnown (antenna : UInt8 × UInt8) : Bool :=
  antenna.1 ≤ 1 && antenna.2 ≤ 1

/-- The element is given back and the request refused. -/
def refuse (due : Bool) (s : TxSystem) : TxSystem :=
  (s.arbRemoveActive due).setPhase .refused

/-- What must hold before anything is touched. -/
def startable (s : TxSystem) : Bool :=
  s.tx.result.phase == .queued && s.activeIsOurs && s.parametersKept && s.rom.count == 0 &&
    s.mem.radioControl &&& (testEnable ||| radioAbort) == 0 && s.mem.testControl &&& testBits == 0

/-- `timing_probe` -/
def timingProbe (B : TxBuild) (s : TxSystem) : Bool :=
  (B.rxTimingFieldAdd != 0 || B.txPathFieldAdd != 0) && s.tx.format == txFormat &&
    s.tx.phy == 2 && (!s.tx.prequeuedReply || s.tx.repeatPayload)

/-- The event sends a stream bitmap where sequence numbers would stand. -/
def sequenceBypass (B : TxBuild) (s : TxSystem) : Bool :=
  B.airSequenceBypass && s.tx.format == txFormat && s.tx.phy == 2 &&
    (!s.tx.prequeuedReply || s.tx.repeatPayload)

/-- Format and power of the first control structure. -/
def firstFormat (a : StartAnswers) (s : TxSystem) : TxSystem :=
  s.onMem fun mem => { mem with
    cs := putWords [(0, formatWord s.tx.format (a.antenna 0)), (24, a.power 0)] mem.cs }

def replyFormat (a : StartAnswers) (s : TxSystem) : TxSystem :=
  let format := if s.tx.repeatPayload then txFormat else 29
  if s.tx.prequeuedReply then s.onMem fun mem => { mem with
    replyCs := putWords [(0, formatWord format (a.antenna 1)), (24, a.power 1)] mem.replyCs }
  else s

def stopFormat (a : StartAnswers) (s : TxSystem) : TxSystem :=
  if s.tx.repeatPayload then s.onMem fun mem => { mem with
    stopCs := putWords [(0, formatWord 29 (a.antenna 2)), (24, a.power 2)] mem.stopCs }
  else s

/-- One control structure after another; an unknown antenna ends it, with what has been written
so far. -/
def selectAntennas (a : StartAnswers) (s : TxSystem) : Except TxSystem TxSystem :=
  if !antennaKnown (a.antenna 0) then .error s
  else if s.tx.prequeuedReply && !antennaKnown (a.antenna 1) then .error (s.firstFormat a)
  else if s.tx.repeatPayload && !antennaKnown (a.antenna 2) then
    .error ((s.firstFormat a).replyFormat a)
  else .ok (((s.firstFormat a).replyFormat a).stopFormat a)

/-- The registers saved, and set for the event. -/
def setGlobals (B : TxBuild) (s : TxSystem) : TxSystem :=
  let timing := s.timingProbe B
  let bypass := s.sequenceBypass B
  let control := s.mem.radioControl &&& ~~~testEnable
  { s with
    tx := { s.tx with
      savedEnable := s.mem.radioControl &&& testEnable
      savedTestBits := s.mem.testControl &&& testBits
      globalsSet := true
      savedRxTiming := if timing then s.mem.rxTiming else s.tx.savedRxTiming
      rxTimingSet := s.tx.rxTimingSet || timing
      savedSequenceFlags :=
        if bypass then control &&& airSequenceBypassMask else s.tx.savedSequenceFlags
      sequenceFlagsSet := s.tx.sequenceFlagsSet || bypass }
    mem := { s.mem with
      rxTiming :=
        if timing then s.mem.rxTiming + (B.rxTimingFieldAdd <<< 16) + B.txPathFieldAdd
        else s.mem.rxTiming
      radioControl := if bypass then control ||| airSequenceBypassMask else control
      testControl := s.mem.testControl &&& ~~~testBits } }

/-- The stopper, pushed into a third entry. -/
def pushStop (a : StartAnswers) (s : TxSystem) : TxSystem :=
  let s := s.onTx fun tx => { tx with stopIndex := s.rom.producer }
  if s.tx.stopIndex ≥ 16 ∨ s.tx.stopIndex = s.tx.programIndex ∨
      s.tx.stopIndex = s.tx.replyIndex ∨ s.rom.count ≠ 2 then s.faulted 9
  else
    let s := s.progPush (a.push 2) s.tx.stopProgram
    if !s.entryIsOurs s.tx.stopIndex s.tx.stopProgram false then s.faulted 10 else s

/-- The reply, pushed into a second entry, and what comes after it. -/
def pushReply (a : StartAnswers) (s : TxSystem) : TxSystem :=
  let s := s.onTx fun tx => { tx with replyIndex := s.rom.producer }
  if s.tx.replyIndex ≥ 16 ∨ s.tx.replyIndex = s.tx.programIndex ∨ s.rom.count ≠ 1 then s.faulted 6
  else
    let s := s.progPush (a.push 1) s.tx.replyProgram
    if !s.entryIsOurs s.tx.replyIndex s.tx.replyProgram false then s.faulted 7
    else
      let s := s.followupStatus 1
      if s.tx.repeatPayload then s.pushStop a else s

/-- The programs pushed, each into an entry of its own; otherwise the fault says where it failed. -/
def pushPrograms (a : StartAnswers) (s : TxSystem) : TxSystem :=
  let s := s.progPush (a.push 0) s.tx.program
  if !s.programIsOurs false then s.faulted 5
  else if s.tx.prequeuedReply then s.pushReply a
  else s

def activated (s : TxSystem) : TxSystem :=
  s.onResult fun r => { r with
    phase := .active, followupStatus := if s.tx.followupActive then 2 else r.followupStatus }

/-- `r_sch_alarm_set` -/
def setAlarm (s : TxSystem) : TxSystem :=
  { s with rom := { s.rom with alarm := true }, tx := { s.tx with alarmSet := true } }

/-- The event begun: registers first, then the programs, and the alarm once they are all in. -/
def begun (B : TxBuild) (a : StartAnswers) (s : TxSystem) : TxSystem :=
  let s := ((s.setGlobals B).activated).pushPrograms a
  if s.tx.result.phase = .fault then s else s.setAlarm

/-- `tx_started`, called with the element in the active slot. -/
def started (B : TxBuild) (a : StartAnswers) (s : TxSystem) : TxSystem :=
  if !s.startable then s.refuse a.due
  else if s.timingProbe B && s.mem.rxTiming != 0x00020407 then s.refuse a.due
  else
    let s := s.onTx fun tx => { tx with programIndex := s.rom.producer }
    if s.tx.programIndex ≥ 16 then
      ((s.onResult fun r => { r with faultDetail := 4 }).arbRemoveActive a.due).setPhase .fault
    else
      match s.selectAntennas a with
      | .error s => s.refuse a.due
      | .ok s => s.begun B a

/-! ## The task's side -/

structure SubmitAnswers where
  /-- The ROM's tables and environments are where they are expected. -/
  tablesKnown : Bool
  now : RadioTime
  /-- The buffer allocated, 0 without one. -/
  payload : UInt16
  inserted : UInt8

/-- The link label, rates and receive window of CS1, and the fields of the connection. -/
def csWords (B : TxBuild) (r : RadioTxRequest) : List (Nat × UInt16) :=
  let window := if r.receiveUs ≠ 0 then r.receiveUs else r.txReceiveUs
  [(2, 0x0800 ||| 1), (4, if r.receiveUs ≠ 0 then receiveRate r.phy else transmitRate r.phy),
    (12, r.accessAddress.toUInt16), (14, (r.accessAddress >>> 16).toUInt16),
    (16, r.crcInit.toUInt16), (18, (r.crcInit >>> 16).toUInt16), (22, channelWord r.channel),
    (26, if window ≠ 0 then (window + 1) / 2 else B.syncWindow.toUInt16), (28, descOffset), (30, 0),
    (32, 0), (34, 0xffff), (36, 0xffff), (38, 0x001f), (40, 251), (42, 0)] ++
    counterOffsets.map fun offset => (offset, 0)

/-- The offsets that the other control structures take from CS1. -/
def sharedOffsets : List Nat :=
  [2, 4, 12, 14, 16, 18, 22, 26, 28, 30, 32, 34, 36, 38, 40, 42, 68, 70, 72, 74, 76, 78]

def shared (cs : CsBlock) : List (Nat × UInt16) :=
  sharedOffsets.map fun offset => (offset, csWord cs offset)

def replyWords (r : RadioTxRequest) (cs : CsBlock) : List (Nat × UInt16) :=
  shared cs ++ [(2, 0x0800 ||| 2),
    (4, if r.repeatPayload ≠ 0 then csWord cs 4 else receiveRate r.phy)] ++
    (if r.repeatPayload ≠ 0 then [(28, repeatDescOffset)] else []) ++
    [(22, channelWord r.followupChannel), (26, (r.followupWindowUs + 1) / 2)]

def stopWords (r : RadioTxRequest) (cs : CsBlock) : List (Nat × UInt16) :=
  shared cs ++ [(2, 0x0800 ||| 3), (4, receiveRate r.phy), (22, channelWord r.followupChannel),
    (26, 10), (28, 0), (30, 0)]

def requestDescriptor (r : RadioTxRequest) (payload : UInt16) : TxDescriptor :=
  #v[0, r.header.toUInt16 ||| (UInt16.ofNat r.length <<< 8), payload, 0, 0, 0, 0]

/-- Exchange memory laid out for the request. -/
def layout (B : TxBuild) (r : RadioTxRequest) (payload : UInt16) (mem : RadioMemory) :
    RadioMemory :=
  let cs := putWords (csWords B r) mem.cs
  { mem with
    cs
    replyCs := if r.prequeuedReply ≠ 0 then putWords (replyWords r cs) mem.replyCs else mem.replyCs
    stopCs := if r.repeatPayload ≠ 0 then putWords (stopWords r cs) mem.stopCs else mem.stopCs
    descriptor := requestDescriptor r payload
    repeatDescriptor :=
      if r.repeatPayload ≠ 0 then requestDescriptor r payload else mem.repeatDescriptor
    payload := r.payload }

/-- The static `tx` for an accepted request. -/
def requestTx (r : RadioTxRequest) (payload : UInt16) (rom : Scheduler) (mem : RadioMemory) : Tx :=
  let plan := r.txPlan
  let prequeued := r.prequeuedReply ≠ 0
  let repeating := r.repeatPayload ≠ 0
  let delayed := r.followupDelayUs ≠ 0
  let program : TxProgram := { TxProgram.zero with
    callback := .frameDone, context := .first, span := plan.program, cs := activity }
  { Tx.zero with
    payloadOffset := payload
    activityParameters := rom.parameters 0
    replyParameters := if prequeued then rom.parameters 1 else none
    stopParameters := if repeating then rom.parameters 2 else none
    stopIndex := 255, replyIndex := 255
    prequeuedReply := prequeued, repeatPayload := repeating
    format := if r.receiveUs ≠ 0 then 29 else txFormat
    phy := r.phy
    followupWindowUs := if delayed then r.followupWindowUs else 0
    followupChannel := if delayed then r.followupChannel else 0
    followupPending := delayed && !prequeued
    savedCs := mem.cs, savedDescriptor := mem.descriptor
    savedReplyCs := if prequeued then mem.replyCs else Vector.replicate 45 0
    savedStopCs := if repeating then mem.stopCs else Vector.replicate 45 0
    savedRepeatDescriptor := if repeating then mem.repeatDescriptor else Vector.replicate 7 0
    storageSet := true
    arb := plan.arb, alarmHs := plan.alarmHs
    program
    replyProgram :=
      match plan.reply with
      | some span => { program with
          context := .reply, span, cs := 2, priority := if repeating then 1 else 0 }
      | none => .zero
    stopProgram :=
      match plan.stop with
      | some span => { program with context := .stop, span, cs := 3, priority := 2 }
      | none => .zero
    result := { TxResult.zero with
      phase := .queued
      followupHs := if delayed then r.followupAt.1 else 0
      followupHus := if delayed then r.followupAt.2 else 0
      suppliedPrefix := r.payload.take 8 } }

/-- `memset(&tx,0,sizeof(tx)); tx.program_index = 255;` -/
def cleared (s : TxSystem) : TxSystem :=
  { s with tx := .zero }

/-- `ull_radio_tx_submit` -/
def submit (B : TxBuild) (r : RadioTxRequest) (a : SubmitAnswers) (s : TxSystem) :
    UInt8 × TxSystem :=
  if r.refused then (0x12, s)
  else if s.tx.result.phase ≠ .idle ∨ !a.tablesKnown then (0x0c, s)
  else if s.rom.parameters 0 = none ∨ (r.prequeuedReply ≠ 0 ∧ s.rom.parameters 1 = none) ∨
      (r.repeatPayload ≠ 0 ∧ s.rom.parameters 2 = none) then (0x0c, s)
  else
    let ahead := (r.startHs - a.now.hs) &&& clockMask
    if ahead < s.minLead ∨ ahead > 3200 then (timeExpired, s)
    else if a.payload = 0 then (0x07, s)
    else
      let s := { s with
        payloads := .taken a.payload :: s.payloads
        tx := requestTx r a.payload s.rom s.mem
        mem := layout B r a.payload s.mem }
      if a.inserted ≠ 0 then (scheduleConflict, s.releaseStorage.cleared)
      else (0, s.arbInsert a.inserted)

/-- An entry still used is one of ours, and one that is not has ended. -/
def repeatHeld (s : TxSystem) : Bool :=
  s.activeIsOurs && [TxRole.first, .reply, .stop].all fun role =>
    (s.indexOf role).toNat < 16 &&
      if s.entryUsed (s.indexOf role) then
        s.entryIsOurs (s.indexOf role) (s.programOf role) false
      else s.roleEnded role

/-- `ull_radio_tx_cancel`; `removed` is the status of `r_sch_arb_remove(&tx.arb,0)`. -/
def cancel (removed : UInt8) (s : TxSystem) : TxSystem :=
  let s := s.onTx fun tx => { tx with followupPending := false }
  if s.tx.result.phase = .queued then
    if removed = 0 then
      let s := s.onRom fun rom => { rom with queued := false }
      if s.activeIsOurs then s else s.setPhase .cancelled
    else s
  else if s.tx.repeatPayload ∧ (s.tx.result.phase = .active ∨ s.tx.result.phase = .aborting) then
    if s.repeatHeld then s else s.faulted 1
  else s.abortActive

structure CollectAnswers where
  now : RadioTime
  /-- `ET` word 0 of the stopper's entry. -/
  stopState : UInt32
  due : Bool

/-- The stopper's window is over and nothing has stopped it. -/
def stopperLate (a : CollectAnswers) (s : TxSystem) : Bool :=
  let coarse : Int :=
    (((a.now.hs - s.tx.stopProgram.span.hs + 0x08000000) &&& clockMask).toNat : Int) - 0x08000000
  s.tx.repeatPayload && s.tx.firstEnded && s.tx.replyEnded && !s.tx.stopEnded &&
    !s.tx.stopAbortRequested &&
    (s.tx.result.phase == .active || s.tx.result.phase == .aborting) && s.activeIsOurs &&
    s.entryIsOurs s.tx.stopIndex s.tx.stopProgram true && (a.stopState >>> 3) &&& 7 == 2 &&
    coarse * 625 + a.now.hus.toNat - s.tx.stopProgram.span.hus.toNat ≥ 40

def stopRequested (s : TxSystem) : TxSystem :=
  s.onTx fun tx => { tx with stopAbortRequested := true }

/-- Every program of a prequeued event has ended. -/
def programsEnded (s : TxSystem) : Bool :=
  s.tx.prequeuedReply && s.tx.firstEnded && s.tx.replyEnded &&
    (!s.tx.repeatPayload || s.tx.stopEnded)

/-- An entry of a prequeued event has passed to someone else, or the slot has. -/
def overtaken (s : TxSystem) : Bool :=
  (s.entryUsed s.tx.programIndex && !s.entryIsOurs s.tx.programIndex s.tx.program false) ||
    (s.entryUsed s.tx.replyIndex && !s.entryIsOurs s.tx.replyIndex s.tx.replyProgram false) ||
    (s.tx.repeatPayload && s.entryUsed s.tx.stopIndex &&
      !s.entryIsOurs s.tx.stopIndex s.tx.stopProgram false) ||
    s.rom.active == .foreign

def entriesUsed (s : TxSystem) : Bool :=
  s.entryUsed s.tx.programIndex || s.entryUsed s.tx.replyIndex ||
    (s.tx.repeatPayload && s.entryUsed s.tx.stopIndex)

/-- The end of `ull_radio_tx_collect`: what is still out keeps it waiting. -/
def reclaim (s : TxSystem) : Collected × TxSystem :=
  if s.tx.result.phase = .queued ∨ s.tx.result.phase = .active ∨ s.tx.result.phase = .aborting ∨
      s.tx.globalsSet ∨ s.tx.alarmSet ∨ s.activeIsOurs ∨ s.programIsOurs false then (.pending, s)
  else (.reclaimed s.tx.result.toRadioTxResult, s.releaseStorage.cleared)

/-- The stopper is aborted once its window is over. -/
def stopLate (a : CollectAnswers) (s : TxSystem) : TxSystem :=
  if s.stopperLate a then s.stopRequested.abortActive else s

/-- A prequeued event is given back once its entries have retired. -/
def settle (a : CollectAnswers) (s : TxSystem) : Collected × TxSystem :=
  if s.programsEnded then
    if s.overtaken then (.lost (s.faulted 0x21).tx.result.toRadioTxResult, s.faulted 0x21)
    else if s.entriesUsed then (.pending, s)
    else (s.restoreGlobals.arbRemoveActive a.due).reclaim
  else s.reclaim

/-- `ull_radio_tx_collect` -/
def collect (a : CollectAnswers) (s : TxSystem) : Collected × TxSystem :=
  if s.tx.result.phase = .fault ∨ (s.tx.storageSet ∧ !s.parametersKept) then
    (.lost s.tx.result.toRadioTxResult, s)
  else (s.stopLate a).settle a

end TxSystem

end UllReceiver.Radio
