import UllReceiver.Bridge.CodecSlave
import UllReceiver.Audio.Source

/-!
# Radio-side codec worker

The statics and the worker loop `run` of `pcm_stream.c`, one definition for each stretch of code
between two points where another task can be seen.  Counters kept for diagnostics and the capture
samples handed to USB are left out.
-/

namespace UllReceiver.Bridge

open Audio

scoped instance micSlots : NeZero 16 :=
  ⟨by decide⟩

/-- A queued record.  Beside the packet it carries, for the proofs only, the number of requests
made and of rearms completed when it was pushed. -/
structure Record where
  packet : Packet
  request : Nat
  generation : Nat
deriving DecidableEq

instance : Inhabited Record :=
  ⟨{ packet := Vector.replicate 190 0, request := 0, generation := 0 }⟩

structure MicPacket where
  frame : UInt32
  epoch : UInt32
  atUs : UInt32
  seq : UInt8
  payload : MicPayload

/-- Size of the microphone ring. -/
def micRing : UInt32 := 16

/-- The statics of `pcm_stream.c`. -/
structure PcmStream where
  source : AudioSource Record
  ready : Bool
  micEnabled : Bool
  micActive : Bool
  epoch : UInt32
  packets : Fin 16 → MicPacket
  written : UInt32
  readPos : UInt32
  tx : CwFrame
  rx : CwFrame
  previousSession : UInt32
  previousSeq : UInt32
  havePrevious : Bool
  requested : Bool
  acknowledged : Bool

inductive RequestKind
  | handshake
  | live
deriving DecidableEq

/-- Where the worker stands. -/
inductive WorkerPc
  | top
  | acknowledge
  | waiting
  | depart
  | iterate
  | fill
  | transfer (kind : RequestKind)
  | accept (kind : RequestKind)
  | pushCopy (kind : RequestKind)
  | pushStore (kind : RequestKind)
  | finish (kind : RequestKind) (accepted : Bool)
deriving DecidableEq

/-- The local variables of `run`. -/
structure RunState where
  pc : WorkerPc
  base : UInt32
  seq : UInt32
  resetEpoch : UInt32
  lastMicFrame : UInt32
  lastMicSeq : UInt8
  haveMic : Bool
  wasCapture : Bool
  nextSilence : Int
  lastTransfer : Int
  currentEpoch : UInt32
  session : UInt32
  capture : Bool
  now : Int
  /-- `written` as `ull_audio_source_push` loaded it. -/
  pushAt : UInt32

/-- What one iteration reads from USB and the clock; `pcm` is zero past the frames USB had. -/
structure PlaybackInput where
  mounted : Bool
  playbackActive : Bool
  playbackBufferedFrames : UInt32
  now : Int
  pcm : PcmBlock

structure Worker where
  stream : PcmStream
  run : RunState

namespace Worker

/-- A requested pause: everything stale is dropped before the acknowledgement. -/
def park (w : Worker) : Worker where
  stream := { w.stream with
    micActive := false, havePrevious := false, readPos := w.stream.written }
  run := { w.run with pc := .acknowledge, haveMic := false, wasCapture := false }

def goto (w : Worker) (pc : WorkerPc) : Worker :=
  { w with run := { w.run with pc } }

/-- Head of the loop: the pause request is looked at first. -/
def top (w : Worker) : Worker :=
  if w.stream.requested then w.park else w.goto .iterate

def session (w : Worker) : UInt32 :=
  w.run.base + w.stream.epoch

/-- The request sent until the slave has answered once. -/
def handshake (crc32 : List UInt8 → UInt32) (w : Worker) : Worker :=
  let seq := w.run.seq + 1
  { stream := { w.stream with
      tx := cwSeal crc32 (cwBegin cwRequest 0 0 w.session seq 0) }
    run := { w.run with
      currentEpoch := w.stream.epoch, session := w.session, seq, pc := .transfer .handshake } }

/-- Nothing to ask of the slave in this iteration. -/
def idle (w : Worker) : Worker :=
  { stream := { w.stream with micActive := false }
    run := { w.run with wasCapture := false, pc := .top } }

/-- Whether a playback block goes into this request. -/
def wantsPlay (w : Worker) (input : PlaybackInput) : Bool :=
  let play := w.stream.source.written - w.stream.source.read < audioQueueFrames - 1
  let play := play && !(input.mounted && input.playbackActive &&
    input.playbackBufferedFrames < 240)
  play && !(!input.playbackActive && input.now < w.run.nextSilence)

/-- Begins a live request, up to the point where the microphone ring is looked at. -/
def live (w : Worker) (input : PlaybackInput) : Worker :=
  let currentEpoch := w.stream.epoch
  let session := w.session
  let capture := w.stream.micEnabled
  let play := w.wantsPlay input
  let stream := { w.stream with micActive := capture }
  if !play && (!capture || input.now - w.run.lastTransfer < 5000) then
    { stream, run := { w.run with currentEpoch, session, capture, now := input.now, pc := .top } }
  else
    let reset := capture && (!w.run.wasCapture || w.run.resetEpoch != currentEpoch)
    let flags := (if play then cwPlay else 0) ||| (if reset then cwReset else 0)
    let seq := w.run.seq + 1
    let tx := cwBegin cwRequest flags 0 session seq 0
    { stream := { stream with tx := if play then tx.write cwPlayIn (pcmBytes input.pcm) else tx }
      run := { w.run with
        currentEpoch, session, capture, seq, now := input.now
        resetEpoch := if reset then currentEpoch else w.run.resetEpoch
        haveMic := if reset then false else w.run.haveMic
        wasCapture := capture
        nextSilence := if play then input.now + 5000 else w.run.nextSilence
        pc := .fill } }

/-- One turn of the loop over the microphone ring: the packet is passed over or put in the
request. -/
def takeMicPacket (w : Worker) (p : MicPacket) : Bool × Worker :=
  let stream := { w.stream with readPos := w.stream.readPos + 1 }
  if p.epoch ≠ w.run.currentEpoch ∨ UInt32.ofInt w.run.now - p.atUs > 40000 then
    (false, { w with stream })
  else
    let delta := p.frame - w.run.lastMicFrame
    if w.run.haveMic && (delta == 0 || (p.seq == w.run.lastMicSeq && delta < 16)) then
      (false, { w with stream })
    else
      let tx := cwPut32 ((w.stream.tx.write cwMicIn p.payload.toList).orByte 5 cwMic) 16 p.frame
      (true,
        { stream := { stream with tx }
          run := { w.run with lastMicFrame := p.frame, lastMicSeq := p.seq, haveMic := true } })

/-- The loop over the `n` packets the ring held when its write index was read. -/
def takeMic (w : Worker) : Nat → Worker
  | 0 => w
  | n + 1 =>
      match w.takeMicPacket (w.stream.packets (Library.ringSlot 16 w.stream.readPos.toNat)) with
      | (true, w) => w
      | (false, w) => w.takeMic n

/-- Completes and seals the request. -/
def fill (crc32 : List UInt8 → UInt32) (w : Worker) : Worker :=
  let w :=
    if !w.run.capture then
      { stream := { w.stream with readPos := w.stream.written }
        run := { w.run with haveMic := false } }
    else w.takeMic (w.stream.written - w.stream.readPos).toNat
  { stream := { w.stream with tx := cwSeal crc32 w.stream.tx }
    run := { w.run with pc := .transfer .live } }

/-- `exchange` returned true with `rx` filled. -/
def exchanged (w : Worker) (kind : RequestKind) (rx : CwFrame) (now : Int) : Worker where
  stream := { w.stream with rx }
  run := { w.run with
    lastTransfer := if kind = .live then now else w.run.lastTransfer
    pc := .accept kind }

/-- `exchange` returned false; `rx` may have been overwritten all the same. -/
def failed (w : Worker) (kind : RequestKind) (rx : CwFrame) : Worker :=
  match kind with
  | .handshake =>
      { stream := { w.stream with rx }, run := { w.run with pc := .top } }
  | .live =>
      { stream := { w.stream with rx, ready := false, micActive := false, havePrevious := false }
        run := { w.run with wasCapture := false, pc := .top } }

/-- The tests `accept_response` makes before it uses a reply. -/
def acceptable (crc32 : List UInt8 → UInt32) (s : PcmStream) (currentSession : UInt32) : Bool :=
  cwValid crc32 s.rx cwResponse && s.havePrevious && cwGet32 s.rx 8 == s.previousSession &&
    cwGet32 s.rx 12 == s.previousSeq && s.previousSession == currentSession

/-- The session a reply must belong to: the one of the handshake, or the newest one. -/
def replySession (w : Worker) : RequestKind → UInt32
  | .handshake => w.run.session
  | .live => w.session

/-- `accept_response` up to its call of `ull_audio_source_push`, whose first test is included. -/
def accept (crc32 : List UInt8 → UInt32) (w : Worker) (kind : RequestKind) : Worker :=
  let accepted := acceptable crc32 w.stream (w.replySession kind)
  let written := w.stream.source.written
  if accepted && w.stream.rx.byte 5 &&& cwPlay != 0 &&
      decide (written - w.stream.source.read < audioQueueFrames) then
    { w with run := { w.run with pushAt := written, pc := .pushCopy kind } }
  else w.goto (.finish kind accepted)

/-- The record a push copies from the reply. -/
def record (w : Worker) (requests generation : Nat) : Record :=
  { packet := playOut w.stream.rx, request := requests, generation }

def pushCopy (w : Worker) (kind : RequestKind) (r : Record) : Worker where
  stream := { w.stream with source := { w.stream.source with
    queue := Function.update w.stream.source.queue (queueSlot w.run.pushAt) r } }
  run := { w.run with pc := .pushStore kind }

def pushStore (w : Worker) (kind : RequestKind) : Worker where
  stream := { w.stream with source := { w.stream.source with written := w.run.pushAt + 1 } }
  run := { w.run with pc := .finish kind true }

/-- After `accept_response`: the request just made becomes the one a reply is expected for. -/
def finish (w : Worker) (kind : RequestKind) (accepted : Bool) : Worker where
  stream := { w.stream with
    previousSession := w.run.session, previousSeq := w.run.seq, havePrevious := true
    ready := w.stream.ready ||
      (decide (kind = .handshake) && accepted && w.stream.rx.byte 6 == cwOk) }
  run := { w.run with pc := .top }

end Worker

end UllReceiver.Bridge
