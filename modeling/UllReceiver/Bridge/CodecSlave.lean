import UllReceiver.Bridge.CodecWire

/-!
# Codec slave

`process` of the codec board with its encode and decode workers, from `codec/src/main.c`.  The two
codecs are parameters: `pcm_codec_encode`, `mic_codec_reset` and `mic_codec_decode` as functions of
their state, with the status they return.  Counters that only `stats` prints are left out.
-/

namespace UllReceiver.Bridge

abbrev PcmBlock := Vector Int16 480
abbrev MicPcm := Vector Int16 240
abbrev Packet := Vector UInt8 190
abbrev MicPayload := Vector UInt8 40

structure Codecs (E D : Type) where
  encode : E → PcmBlock → Int × Packet × E
  reset : D → Int × D
  decode : D → Option MicPayload → MicPcm → Int × MicPcm × D

structure Slave (E D : Type) where
  tx : CwFrame
  cached : CwFrame
  haveCached : Bool
  lastSession : UInt32
  lastSeq : UInt32
  decoderSession : UInt32
  haveDecoderSession : Bool
  decoderDirty : Bool
  decReady : Bool
  encoder : E
  decoder : D
  micOut : MicPcm

/-- One call of the encoder worker, with the request it was made for. -/
structure EncodeCall where
  session : UInt32
  seq : UInt32
  pcm : PcmBlock
  result : Int
  packet : Packet

/-- A 16-bit sample as the two bytes of the frame. -/
def le16 (x : Int16) : List UInt8 :=
  [x.toUInt16.toUInt8, (x.toUInt16 >>> 8).toUInt8]

def cwGet16 (f : CwFrame) (off : Nat) : Int16 :=
  ((f.byte off).toUInt16 ||| (f.byte (off + 1)).toUInt16 <<< 8).toInt16

def CwFrame.orByte (f : CwFrame) (i : Nat) (x : UInt8) : CwFrame :=
  f.write i [f.byte i ||| x]

/-- The frame's play samples. -/
def playIn (f : CwFrame) : PcmBlock :=
  Vector.ofFn fun i => cwGet16 f (cwPlayIn + 2 * i.val)

/-- The samples as the bytes the requester copies into the frame. -/
def pcmBytes (pcm : PcmBlock) : List UInt8 :=
  pcm.toList.flatMap le16

def playOut (f : CwFrame) : Packet :=
  Vector.ofFn fun i => f.byte (cwPlayOut + i.val)

def micIn (f : CwFrame) : MicPayload :=
  Vector.ofFn fun i => f.byte (cwMicIn + i.val)

/-- The checks `process` makes of a received request beside its checksum. -/
def requestHeader (rx : CwFrame) (bits : Nat) : Bool :=
  bits == cwBytes * 8 && cwGet32 rx 0 == cwRequest && rx.byte 4 == 2 && rx.byte 6 == 0 &&
    rx.byte 7 == 0 && (rx.byte 5 &&& ~~~15) == 0 &&
    (rx.byte 5 &&& (cwMic ||| cwPlc)) != (cwMic ||| cwPlc) &&
    (List.range 12).all fun i => rx.byte (20 + i) == 0

variable {E D : Type}

/-- `decode_worker` between two notifications. -/
def Slave.decodeWork (c : Codecs E D) (s : Slave E D) (reset audio plc : Bool)
    (payload : MicPayload) : Int × Slave E D :=
  if !s.decReady then (-1, s)
  else
    let (rc, s) :=
      if reset then
        let (rc, decoder) := if s.decoderDirty then c.reset s.decoder else (0, s.decoder)
        if rc = 0 then (rc, { s with decoder, decoderDirty := false })
        else (rc, { s with decoder, decReady := false })
      else (0, s)
    if rc = 0 ∧ audio then
      let (rc, micOut, decoder) := c.decode s.decoder (if plc then none else some payload) s.micOut
      (if rc = 2 then 0 else rc, { s with decoder, micOut, decoderDirty := true })
    else (rc, s)

/-- The reply's playback part: the packet, or the error bit. -/
def replyPlay (tx : CwFrame) (result : Int) (packet : Packet) : CwFrame :=
  if result ≠ 0 then tx.orByte 6 cwEncodeError
  else (tx.orByte 5 cwPlay).write cwPlayOut packet.toList

/-- The reply's microphone part. -/
def replyMic (tx : CwFrame) (flags : UInt8) (audio : Bool) (result : Int) (out : MicPcm) : CwFrame :=
  if result ≠ 0 then tx.orByte 6 cwDecodeError
  else
    let tx := if flags &&& cwReset ≠ 0 then tx.orByte 5 cwReset else tx
    if audio then
      (tx.orByte 5 (flags &&& (cwMic ||| cwPlc))).write cwMicOut (out.toList.flatMap le16)
    else tx

/-- The `CW_PLAY` part of `process`: the reply so far, the slave and the call made. -/
def Slave.servePlay (c : Codecs E D) (s : Slave E D) (rx tx : CwFrame) :
    CwFrame × Slave E D × Option EncodeCall :=
  if rx.byte 5 &&& cwPlay ≠ 0 then
    let pcm := playIn rx
    let (result, packet, encoder) := c.encode s.encoder pcm
    (replyPlay tx result packet, { s with encoder },
      some { session := cwGet32 rx 8, seq := cwGet32 rx 12, pcm, result, packet })
  else (tx, s, none)

/-- The decoder part of `process`: microphone data, concealment and reset. -/
def Slave.serveMic (c : Codecs E D) (s : Slave E D) (rx tx : CwFrame) : CwFrame × Slave E D :=
  let flags := rx.byte 5
  let session := cwGet32 rx 8
  let decodeAudio := decide (flags &&& (cwMic ||| cwPlc) ≠ 0)
  let decodePlc := decide (flags &&& cwPlc ≠ 0)
  let decodeReset := decide (flags &&& cwReset ≠ 0) ||
    (decodeAudio && (!s.haveDecoderSession || s.decoderSession != session))
  if decodeAudio || decodeReset then
    let (result, s) := s.decodeWork c decodeReset decodeAudio decodePlc (micIn rx)
    let s := if result = 0 ∧ decodeReset then
        { s with haveDecoderSession := true, decoderSession := session } else s
    (replyMic tx flags decodeAudio result s.micOut, s)
  else (tx, s)

/-- The part of `process` for a well-formed request that is not a repetition. -/
def Slave.serve (c : Codecs E D) (crc32 : List UInt8 → UInt32) (s : Slave E D) (rx : CwFrame) :
    Slave E D × Option EncodeCall :=
  let session := cwGet32 rx 8
  let seq := cwGet32 rx 12
  let tx := cwBegin cwResponse 0 cwOk session seq (cwGet32 rx 16)
  let (tx, s, call) := s.servePlay c rx tx
  let (tx, s) := s.serveMic c rx tx
  let tx := cwSeal crc32 tx
  ({ s with tx, cached := tx, haveCached := true, lastSession := session, lastSeq := seq }, call)

/-- `process`: the slave after one transfer that received `rx`, and the encoder call it made. -/
def Slave.process (c : Codecs E D) (crc32 : List UInt8 → UInt32) (s : Slave E D) (rx : CwFrame)
    (bits : Nat) : Slave E D × Option EncodeCall :=
  let session := cwGet32 rx 8
  let seq := cwGet32 rx 12
  if !(cwCrcOk crc32 rx && requestHeader rx bits) then
    ({ s with tx := cwSeal crc32 (cwBegin cwResponse 0 cwBadWire session seq (cwGet32 rx 16)) },
      none)
  else if s.haveCached && session == s.lastSession && seq == s.lastSeq then
    ({ s with tx := s.cached }, none)
  else s.serve c crc32 rx

/-- The slave as `serve` leaves it before its first transfer. -/
def Slave.init (crc32 : List UInt8 → UInt32) (encoder : E) (decoder : D) : Slave E D where
  tx := cwSeal crc32 (cwBegin cwResponse 0 cwNotReady 0 0 0)
  cached := .zero
  haveCached := false
  lastSession := 0
  lastSeq := 0
  decoderSession := 0
  haveDecoderSession := false
  decoderDirty := false
  decReady := true
  encoder := encoder
  decoder := decoder
  micOut := Vector.replicate 240 0

end UllReceiver.Bridge
