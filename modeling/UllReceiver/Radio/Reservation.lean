import UllReceiver.Radio.Arguments

/-!
# What a request reserves

The times that `ull_radio_tx_submit` and `tx_queue_followup` hand to the arbiter, to the alarm and
to the programming queue of the radio. A coarse tick is 625 half microseconds.
-/

namespace UllReceiver.Radio

open Air (clockMask)

/-- The times of a `struct tx_program`, or of a reservation. -/
structure TxSpan where
  hs : UInt32
  hus : UInt32
  durationHus : UInt32
deriving DecidableEq

/-- The times that a submitted request leaves behind. -/
structure TxPlan where
  arb : TxSpan
  program : TxSpan
  alarmHs : UInt32
  -- with a prequeued reply, and with a repeat
  reply : Option TxSpan
  stop : Option TxSpan
  -- `tx.result.followup_hs` and `followup_hus`
  followup : Option (UInt32 × UInt16)
deriving DecidableEq

namespace RadioTxRequest

/-- The airtime that `ull_radio_tx_submit` starts from. -/
def packetUs (r : RadioTxRequest) : UInt32 :=
  if r.phy = 1 then (UInt32.ofNat r.length + 10) * 8 else (UInt32.ofNat r.length + 11) * 4

/-- `air_us`, as the reservation uses it. -/
def plannedUs (r : RadioTxRequest) : UInt32 :=
  if r.receiveUs ≠ 0 then r.receiveUs.toUInt32
  else if r.prequeuedReply ≠ 0 then
    r.followupDelayUs.toUInt32 + r.followupWindowUs.toUInt32 + 300 +
      (if r.repeatPayload ≠ 0 then r.packetUs + 150 else 0)
  else if r.txReceiveUs ≠ 0 then
    let replyUs : UInt32 := if r.phy = 1 then (64 + 10) * 8 else (64 + 11) * 4
    r.packetUs + (150 + r.txReceiveUs.toUInt32 + replyUs)
  else r.packetUs

def burstTicks (r : RadioTxRequest) : UInt32 :=
  (r.startHus.toUInt32 + 2 * r.plannedUs + 624) / 625 + 1

/-- The instant of the follow-up. -/
def followupAt (r : RadioTxRequest) : UInt32 × UInt16 :=
  let fine := r.startHus.toUInt32 + 2 * r.followupDelayUs.toUInt32
  ((r.startHs + fine / 625) &&& clockMask, (fine % 625).toUInt16)

/-- The stopper of a repeat: a receive window of 20 us. -/
def stopSpan (r : RadioTxRequest) : TxSpan :=
  let fine := r.startHus.toUInt32 + 5950
  { hs := (r.startHs + fine / 625) &&& clockMask, hus := fine % 625, durationHus := 40 }

def stopTicks (r : RadioTxRequest) : UInt32 :=
  (r.startHus.toUInt32 + 5950 + 40 + 624) / 625

/-- The times that `ull_radio_tx_submit` fills in. -/
def txPlan (r : RadioTxRequest) : TxPlan :=
  let arb : TxSpan :=
    { hs := r.startHs, hus := r.startHus.toUInt32
      durationHus := (r.burstTicks + 2) * 625 - r.startHus.toUInt32 }
  let alarmHs := (r.startHs + r.burstTicks) &&& clockMask
  let followup := if r.followupDelayUs ≠ 0 then some r.followupAt else none
  if r.prequeuedReply ≠ 0 then
    let delayHus := 2 * r.followupDelayUs.toUInt32
    let repeating := r.repeatPayload ≠ 0
    { arb
      program := { arb with durationHus := delayHus }
      alarmHs := if repeating then (r.startHs + r.stopTicks) &&& clockMask else alarmHs
      reply := some { hs := r.followupAt.1, hus := r.followupAt.2.toUInt32
                      durationHus := arb.durationHus - delayHus }
      stop := if repeating then some r.stopSpan else none
      followup }
  else { arb, program := arb, alarmHs, reply := none, stop := none, followup }

end RadioTxRequest

/-- What `tx_queue_followup` finds: whether the activity's parameters are the ones it was
submitted with, the arbiter's current element, the length of the programming queue, the clock and
the delay of programming. -/
structure FollowupScene where
  parametersKept : Bool
  activeOurs : Bool
  activeOther : Bool
  programs : UInt8
  nowHs : UInt32
  nowHus : UInt32
  progDelay : UInt8

inductive FollowupQueued where
  | fault
  | conflict
  | late
  | programmed (arb program : TxSpan) (alarmHs : UInt32)
deriving DecidableEq

def followupTicks (hus window : UInt16) : UInt32 :=
  (hus.toUInt32 + 2 * window.toUInt32 + 624) / 625 + 1

/-- `tx_queue_followup`, up to its insertion of the reservation. -/
def txQueueFollowup (scene : FollowupScene) (followup : UInt32 × UInt16) (window : UInt16) :
    FollowupQueued :=
  if !scene.parametersKept || scene.activeOurs || scene.programs == 0 then .fault
  else if scene.activeOther || scene.programs > 1 then .conflict
  else
    let ahead := (followup.1 - scene.nowHs) &&& clockMask
    let leadHus : Int := ahead.toNat * 625 + followup.2.toNat - scene.nowHus.toNat
    if scene.progDelay = 0 ∨ ahead > 3200 ∨ leadHus < (scene.progDelay.toNat + 1) * 625 then .late
    else
      let ticks := followupTicks followup.2 window
      let arb : TxSpan :=
        { hs := followup.1, hus := followup.2.toUInt32
          durationHus := (ticks + 2) * 625 - followup.2.toUInt32 }
      .programmed arb arb ((arb.hs + ticks) &&& clockMask)

end UllReceiver.Radio
