import Mathlib

/-!
# Air session plans

`air_session.c`: the plan of an Air session from the exchanged E0 and E1, and the start of any of
its subevents.
-/

namespace UllReceiver.Air

/-! The cells of the messages and of the channel map that are read one by one. -/

theorem proposal_kind : 2 < 39 := by decide

theorem proposal_instant_low : 37 < 39 := by decide

theorem proposal_instant_high : 38 < 39 := by decide

theorem reply_kind : 0 < 9 := by decide

theorem map_top : 4 < 5 := by decide

theorem map_byte (i : Fin 37) : i.val / 8 < 5 := by omega

theorem e2_kind : 0 < 68 := by decide

theorem e2_receive : 18 < 68 := by decide

theorem e2_map (i : Fin 5) : 19 + i.val < 68 := by omega

theorem e2_iv (i : Fin 8) : 44 + i.val < 68 := by omega

theorem e2_key (i : Fin 16) : 52 + i.val < 68 := by omega

def clockMask : UInt32 := 0x0fffffff

def airIntervalUs : UInt32 := 5000
def airSubintervalUs : UInt32 := 1420
def airSubevents : UInt8 := 3
def groupSpanUs : UInt32 := airSubintervalUs * 3

/-- A scheduled ACL anchor on the 28-bit clock of 312.5 us. -/
structure AirAnchor where
  hs : UInt32
  intervalHs : UInt32
  hus : UInt16
  eventCounter : UInt16
deriving DecidableEq

structure AirSessionSeed where
  accessAddress : UInt32
  eventCounter : UInt32
  channelMap : Vector UInt8 5
  receiveEnabled : UInt8
  iv : Vector UInt8 8
  key : Vector UInt8 16
deriving DecidableEq

structure AirSessionPlan where
  startHs : UInt32
  startHus : UInt16
  aclInstant : UInt16
  eventCounter : UInt32
  accessAddress : UInt32
  offsetUs : UInt32
  e2 : Vector UInt8 68
deriving DecidableEq

/-- The serialized E0, up to its event counter. -/
def e0Parameters : List UInt8 :=
  [0xe0, 0x01, 0x01, 0x02, 0x01, 0x02, 0x02, 0x5f, 0x10, 0x28, 0x00, 0x88, 0x13, 0x00, 0x88, 0x13,
    0x00, 0x5f, 0x00, 0x28, 0x00, 0x03, 0x02, 0x8c, 0x05, 0x00, 0x11, 0x01, 0x01, 0x04, 0x00, 0xd0,
    0x07, 0x00, 0xa0, 0x0f, 0x00]

/-- The proposal of the second stream, which has no microphone. -/
def e0SecondStream : List UInt8 :=
  (((e0Parameters.set 2 2).set 9 0).set 19 0).set 26 1

def le16 (v : UInt16) : List UInt8 :=
  [v.toUInt8, (v >>> 8).toUInt8]

def le24 (v : UInt32) : List UInt8 :=
  [v.toUInt8, (v >>> 8).toUInt8, (v >>> 16).toUInt8]

def le32 (v : UInt32) : List UInt8 :=
  [v.toUInt8, (v >>> 8).toUInt8, (v >>> 16).toUInt8, (v >>> 24).toUInt8]

def get16 (lo hi : UInt8) : UInt16 :=
  lo.toUInt16 ||| hi.toUInt16 <<< 8

/-- Channels `0..36` a map uses. -/
def usedChannels (map : Vector UInt8 5) : Nat :=
  ((List.finRange 37).filter fun i =>
    map.get ⟨i.val / 8, by omega⟩ >>> UInt8.ofNat (i.val % 8) &&& 1 == 1).length

/-- The E2 request for a plan. -/
def planE2 (proposal : Vector UInt8 39) (seed : AirSessionSeed) (offsetUs : UInt32)
    (instant : UInt16) : Vector UInt8 68 :=
  ⟨([0xe2] ++ le32 seed.accessAddress ++ le24 offsetUs ++ le24 groupSpanUs ++ le24 groupSpanUs ++
      [0] ++ le16 instant ++ [1, seed.receiveEnabled] ++ seed.channelMap.toList ++
      le32 seed.eventCounter ++ le32 1026 ++
      le32 (1026 + if proposal[2] == 2 || seed.receiveEnabled != 0 then 302 else 142) ++
      le32 0xffffffff ++ le32 0xffffffff ++ seed.iv.toList ++ seed.key.toList).toArray, by
    simp [le16, le24, le32]⟩

/-- `ull_air_session_plan_build`, with the status it returns as the error. -/
def planBuild (proposal : Vector UInt8 39) (reply : Vector UInt8 9) (anchor : AirAnchor)
    (seed : AirSessionSeed) (offsetUs : UInt32) : Except Int AirSessionPlan :=
  let expected := if proposal[2] == 2 then e0SecondStream else e0Parameters
  let instant := get16 proposal[37] proposal[38]
  let ahead := instant - anchor.eventCounter
  let fine := anchor.hus.toUInt32 + offsetUs * 2
  if proposal.toList.take 37 ≠ expected ∨ reply[0] ≠ 0xe1 ∨
      reply.toList.drop 1 ≠ proposal.toList.drop 31 ∨ anchor.hs > clockMask ∨ anchor.hus > 624 ∨
      anchor.intervalHs ≠ 96 ∨ seed.receiveEnabled > 1 ∨ seed.accessAddress = 0 ∨
      seed.channelMap[4] &&& 0xe0 ≠ 0 ∨ offsetUs < 2000 ∨ offsetUs > 4000 ∨
      (proposal[2] = 2 ∧ seed.receiveEnabled ≠ 0) then .error (-1)
  else if usedChannels seed.channelMap < 2 then .error (-1)
  else if ahead < 2 ∨ ahead > 32 then .error (-2)
  else .ok
    { startHs := (anchor.hs + ahead.toUInt32 * anchor.intervalHs + fine / 625) &&& clockMask
      startHus := (fine % 625).toUInt16
      aclInstant := instant
      eventCounter := seed.eventCounter
      accessAddress := seed.accessAddress
      offsetUs
      e2 := planE2 proposal seed offsetUs instant }

/-- `ull_air_session_time`: coarse and fine start of subevent `subevent` of event `eventIndex`. -/
def sessionTime (plan : AirSessionPlan) (eventIndex : UInt32) (subevent : UInt8) :
    Option (UInt32 × UInt16) :=
  if subevent ≥ airSubevents ∨ plan.startHs > clockMask ∨ plan.startHus > 624 then none
  else
    let fine := plan.startHus.toUInt64 + eventIndex.toUInt64 * (airIntervalUs * 2).toUInt64 +
      subevent.toUInt64 * (airSubintervalUs * 2).toUInt64
    some (((plan.startHs.toUInt64 + fine / 625) &&& clockMask.toUInt64).toUInt32,
      (fine % 625).toUInt16)

end UllReceiver.Air
