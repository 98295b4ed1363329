import UllReceiver.Air.AirFrame
import UllReceiver.Air.AirSession

/-!
# Air packets

`tone_packet.c` and `tone_source.c`: channel selection, the session cipher and the packets built
from records, audio and a parent PDU.  The block cipher mode of mbedTLS and the stored cue are
parameters.
-/

namespace UllReceiver.Air

/-! ## Channel selection -/

def permute (x : UInt16) : UInt16 :=
  let x := (x &&& 0xaaaa) >>> 1 ||| (x &&& 0x5555) <<< 1
  let x := (x &&& 0xcccc) >>> 2 ||| (x &&& 0x3333) <<< 2
  (x &&& 0xf0f0) >>> 4 ||| (x &&& 0x0f0f) <<< 4

def channelUsed (map : Vector UInt8 5) (i : Fin 37) : Bool :=
  map.get ⟨i.val / 8, map_byte i⟩ >>> UInt8.ofNat (i.val % 8) &&& 1 == 1

/-- The used channels in ascending order. -/
def csaChannels (map : Vector UInt8 5) : List (Fin 37) :=
  (List.finRange 37).filter (channelUsed map)

/-- One step of the generator. -/
def csaNext (id prn : UInt16) : UInt16 :=
  17 * permute prn + id

/-- `distance`: neighbouring subevents are at least this far apart. -/
def csaDistance (used : Nat) : Nat :=
  max (max 1 (min 3 (used - 5))) (min 11 ((used - 10) / 2))

/-- The generator state and channel index after `n` further subevents. -/
def csaSubevents (id : UInt16) (used : Nat) : Nat → UInt16 × Nat → UInt16 × Nat
  | 0, s => s
  | n + 1, (prn, index) =>
      let prn := csaNext id prn
      let width := used + 1 - 2 * csaDistance used
      csaSubevents id used n
        (prn, (index + csaDistance used + width * (prn ^^^ id).toNat / 65536) % used)

/-- `ull_ble_csa2_subevent`. -/
def csa2Subevent (aa : UInt32) (counter : UInt16) (map : Vector UInt8 5) (subevent : UInt8) :
    Option UInt8 :=
  let channels := csaChannels map
  let used := channels.length
  if getElem map 4 map_top &&& 0xe0 ≠ 0 ∨ subevent > 3 ∨ used < 2 then none
  else
    let id := (aa >>> 16 ^^^ aa).toUInt16
    let prn := csaNext id (csaNext id (csaNext id (counter ^^^ id)))
    let eventPrn := prn ^^^ id
    let unmapped : Fin 37 := ⟨eventPrn.toNat % 37, Nat.mod_lt _ (by decide)⟩
    let index := if channelUsed map unmapped then channels.idxOf unmapped
      else used * eventPrn.toNat / 65536
    (channels[(csaSubevents id used subevent.toNat (prn, index)).2]?).map fun i => UInt8.ofNat i.val

/-! ## Cipher -/

/-- CCM of mbedTLS with one byte of additional data and a tag of four bytes; `none` is a failure. -/
structure Ccm where
  encrypt : (key : Vector UInt8 16) → (nonce : List UInt8) → (aad : UInt8) → (plain : List UInt8) →
    Option { c : List UInt8 // c.length = plain.length + 4 }
  decrypt : (key : Vector UInt8 16) → (nonce : List UInt8) → (aad : UInt8) → (cipher : List UInt8) →
    Option { p : List UInt8 // p.length = cipher.length - 4 }

inductive PacketError
  /-- The value -1. -/
  | argument
  /-- The value -2. -/
  | cipher
deriving DecidableEq

def ccmNonce (iv : Vector UInt8 8) (counter : UInt64) (direction : UInt8) : List UInt8 :=
  [counter.toUInt8, (counter >>> 8).toUInt8, (counter >>> 16).toUInt8, (counter >>> 24).toUInt8,
    (counter >>> 32).toUInt8 ||| direction <<< 7] ++ iv.toList

/-- `ull_ble_ccm_encrypt`; `capacity` is that of the output. -/
def ccmEncrypt (ccm : Ccm) (key : Vector UInt8 16) (iv : Vector UInt8 8) (counter : UInt64)
    (direction aad : UInt8) (payload : List UInt8) (capacity : Nat) :
    Except PacketError (List UInt8) :=
  if payload.length = 0 ∨ payload.length > 240 ∨ capacity < payload.length + 4 ∨
      counter ≥ (1 : UInt64) <<< 39 ∨ direction > 1 then .error .argument
  else
    match ccm.encrypt key.reverse (ccmNonce iv counter direction) aad payload with
    | none => .error .cipher
    | some c => .ok c.val

/-- `ull_ble_ccm_decrypt`. -/
def ccmDecrypt (ccm : Ccm) (key : Vector UInt8 16) (iv : Vector UInt8 8) (counter : UInt64)
    (direction aad : UInt8) (payload : List UInt8) (capacity : Nat) :
    Except PacketError (List UInt8) :=
  if payload.length < 5 ∨ payload.length > 244 ∨ capacity < payload.length - 4 ∨
      counter ≥ (1 : UInt64) <<< 39 ∨ direction > 1 then .error .argument
  else
    match ccm.decrypt key.reverse (ccmNonce iv counter direction) aad payload with
    | none => .error .cipher
    | some p => .ok p.val

def planIv (plan : AirSessionPlan) : Vector UInt8 8 :=
  Vector.ofFn fun i => plan.e2[44 + i.val]

def planKey (plan : AirSessionPlan) : Vector UInt8 16 :=
  Vector.ofFn fun i => plan.e2[52 + i.val]

def planMap (plan : AirSessionPlan) : Vector UInt8 5 :=
  Vector.ofFn fun i => plan.e2[19 + i.val]

/-! ## Packets -/

def airAudioChannelBytes : Nat := 95
def toneFrameCount : UInt32 := 201

/-- Both channels of one frame. -/
abbrev Stereo := Vector (Vector UInt8 95) 2

structure TonePacketOptions where
  eventIndex : UInt32
  packetCounter : UInt64
  direction : UInt8
  header : UInt8
  aad : UInt8
  txSequence : Vector UInt8 2
  ackSequence : Vector UInt8 2
  streamMask : UInt8

/-- A packet; of `pdu` the first `length` bytes of the source's buffer. -/
structure TonePacket where
  startHs : UInt32
  startHus : UInt16
  channel : UInt8
  length : UInt8
  pdu : List UInt8
deriving DecidableEq

theorem stream_lt (i : Fin 2) : i.val < 2 :=
  i.isLt

/-- The records of the streams in `mask`: empty ones, or those of `audio`. -/
def packetRecords (mask : UInt8) (tx ack : Vector UInt8 2) (audio : Option Stereo) :
    List AirTxRecord :=
  ((List.finRange 2).filter fun i => mask &&& (1 : UInt8) <<< UInt8.ofNat (i.val + 1) != 0).map
    fun i =>
      { payload := (audio.map fun frames => (getElem frames i (stream_lt i)).toList).getD []
        streamId := UInt8.ofNat (i.val + 1), txSequence := getElem tx i (stream_lt i)
        ackSequence := getElem ack i (stream_lt i), kind := 0 }

/-- `ull_tone_build_mask` over the stored frames. -/
def toneBuildMask (tone : UInt32 → Stereo) (frameIndex : UInt32) (tx ack : Vector UInt8 2)
    (mask : UInt8) (capacity : Nat) : Except AirFrameError (List UInt8 × UInt8) :=
  if frameIndex ≥ toneFrameCount ∨ (mask ≠ 2 ∧ mask ≠ 4 ∧ mask ≠ 6) then .error .argument
  else downlinkBuild capacity (packetRecords mask tx ack (some (tone frameIndex)))
    [UInt8.ofNat airAudioChannelBytes] 0

/-- The aggregate a packet carries, without a parent PDU, and its stream mask. -/
def packetAggregate (tone : UInt32 → Stereo) (o : TonePacketOptions) (empty : Bool)
    (audio : Option Stereo) : Option (List UInt8 × UInt8) :=
  let requested := if o.streamMask ≠ 0 then o.streamMask else 6
  if requested ≠ 2 ∧ requested ≠ 4 ∧ requested ≠ 6 then none
  else if empty ∨ audio.isSome then
    (downlinkBuild 201
      (packetRecords requested o.txSequence o.ackSequence (if empty then none else audio))
      [UInt8.ofNat airAudioChannelBytes] 0).toOption
  else
    (toneBuildMask tone o.eventIndex o.txSequence o.ackSequence requested 201).toOption.filter
      fun built => built.1.length == 100 || built.1.length == 199

/-- The parent PDU after the records, when `pollHeader` asks for one. -/
def appendParent (o : TonePacketOptions) (empty : Bool) (pollHeader : Option UInt8)
    (stereoAck : Bool) (control : List UInt8) (controlLength : Nat) (aggregate : List UInt8) :
    Option (List UInt8) :=
  match pollHeader with
  | none => some aggregate
  | some header =>
      let requested := if o.streamMask ≠ 0 then o.streamMask else 6
      let misused := if stereoAck then
          requested != 6 || o.header != 0x32 || o.aad != 0x22 || controlLength != 0
        else !empty || requested != 2 || o.header != 0x11 || o.aad != 1
      if misused ∨ controlLength > 68 ∨
          header &&& ~~~12 ≠ (if controlLength ≠ 0 then 3 else 1) ∨
          aggregate.length + 2 + controlLength > 201 then none
      else some (aggregate ++ [header, UInt8.ofNat controlLength] ++ control.take controlLength)

/-- `build_packet`. -/
def buildPacket (ccm : Ccm) (tone : UInt32 → Stereo) (plan : AirSessionPlan)
    (o : TonePacketOptions) (empty : Bool) (pollHeader : Option UInt8) (stereoAck : Bool)
    (control : List UInt8) (controlLength : Nat) (audio : Option Stereo) :
    Except PacketError TonePacket :=
  if getElem plan.e2 0 e2_kind ≠ 0xe2 ∨ (audio.isNone ∧ !empty ∧ o.eventIndex ≥ toneFrameCount) then
    .error .argument
  else
    match packetAggregate tone o empty audio, sessionTime plan o.eventIndex 0,
      csa2Subevent plan.accessAddress (plan.eventCounter + o.eventIndex).toUInt16
        (planMap plan) 1 with
    | some (aggregate, mask), some (startHs, startHus), some channel =>
        if o.header >>> 3 &&& 15 ≠ mask then .error .argument
        else
          match appendParent o empty pollHeader stereoAck control controlLength aggregate with
          | none => .error .argument
          | some aggregate =>
              match ccmEncrypt ccm (planKey plan) (planIv plan) o.packetCounter o.direction o.aad
                aggregate 205 with
              | .error _ => .error .cipher
              | .ok body => .ok
                { startHs, startHus, channel
                  length := UInt8.ofNat (aggregate.length + 6)
                  pdu := o.header :: UInt8.ofNat (aggregate.length + 4) :: body }
    | _, _, _ => .error .argument

section Builders

variable (ccm : Ccm) (tone : UInt32 → Stereo) (plan : AirSessionPlan) (o : TonePacketOptions)

/-- `ull_tone_packet_build`. -/
def tonePacketBuild : Except PacketError TonePacket :=
  buildPacket ccm tone plan o false none false [] 0 none

/-- `ull_audio_packet_build`. -/
def audioPacketBuild (frames : Stereo) : Except PacketError TonePacket :=
  buildPacket ccm tone plan o false none false [] 0 (some frames)

/-- `ull_empty_packet_build`. -/
def emptyPacketBuild : Except PacketError TonePacket :=
  buildPacket ccm tone plan o true none false [] 0 none

/-- `ull_poll_packet_build`. -/
def pollPacketBuild (parentHeader : UInt8) : Except PacketError TonePacket :=
  buildPacket ccm tone plan o true (some parentHeader) false [] 0 none

/-- `ull_control_packet_build`. -/
def controlPacketBuild (parentHeader : UInt8) (payload : List UInt8) (length : Nat) :
    Except PacketError TonePacket :=
  if length ≠ 0 then buildPacket ccm tone plan o true (some parentHeader) false payload length none
  else .error .argument

/-- `ull_audio_parent_ack_packet_build`. -/
def audioParentAckPacketBuild (frames : Stereo) (parentHeader : UInt8) :
    Except PacketError TonePacket :=
  buildPacket ccm tone plan o false (some parentHeader) true [] 0 (some frames)

/-- `ull_empty_parent_ack_packet_build`. -/
def emptyParentAckPacketBuild (parentHeader : UInt8) : Except PacketError TonePacket :=
  buildPacket ccm tone plan o true (some parentHeader) true [] 0 none

/-- `ull_tone_parent_ack_packet_build`. -/
def toneParentAckPacketBuild (parentHeader : UInt8) : Except PacketError TonePacket :=
  buildPacket ccm tone plan o false (some parentHeader) true [] 0 none

end Builders

end UllReceiver.Air
