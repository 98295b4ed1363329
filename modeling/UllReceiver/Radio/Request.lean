import Mathlib

/-!
# Radio events

The types of `radio_tx.h`: what the trial asks the transmitter for, and what it gets back.
Fields that are only reported to the console are left out.
-/

namespace UllReceiver.Radio

theorem descriptor_status : 1 < 10 := by decide

theorem descriptor_length : 2 < 10 := by decide

structure RadioTxRequest where
  startHs : UInt32
  startHus : UInt16
  accessAddress : UInt32
  crcInit : UInt32
  payload : List UInt8
  channel : UInt8
  header : UInt8
  phy : UInt8
  receiveUs : UInt16
  txReceiveUs : UInt16
  followupDelayUs : UInt16
  followupWindowUs : UInt16
  followupChannel : UInt8
  prequeuedReply : UInt8
  repeatPayload : UInt8
deriving DecidableEq

inductive RadioTxPhase
  | idle
  | queued
  | active
  | aborting
  | ended
  | cancelled
  | refused
  | fault
deriving DecidableEq

structure RadioRxSnapshot where
  hs : UInt32
  hus : UInt16
  descriptor : Vector UInt16 10
  copied : UInt8
  payload : Vector UInt8 64
deriving DecidableEq

structure RadioTxResult where
  phase : RadioTxPhase
  txCount : UInt16
  rxSnapshots : UInt8
  rxInvalid : UInt8
  rx : Vector RadioRxSnapshot 3
deriving DecidableEq

/-- What `ull_radio_tx_collect` reports: 0, 1 or -1. -/
inductive Collected
  | pending
  | reclaimed (result : RadioTxResult)
  | lost (result : RadioTxResult)

/-- `ULL_TX_SCHEDULE_CONFLICT`. -/
def scheduleConflict : UInt8 := 0x80

/-- `ULL_TX_TIME_EXPIRED`. -/
def timeExpired : UInt8 := 0x81

end UllReceiver.Radio
