import UllReceiver.Bridge.PcmStream
import UllReceiver.Library.Runs

/-!
# The codec bridge

Radio worker, codec slave, reconnect coordinator and audio consumer together, with every order of
their steps.  A transfer may be missed, reported failed or damaged in either direction; damage is
whatever the checksum or the bit count reveals.  Selections and rearms both run on the controller,
so they do not overlap.
-/

namespace UllReceiver.Bridge

open Audio

/-- Where the coordinator stands in `ull_pcm_stream_pause_for_reconnect` and
`ull_audio_source_rearm`. -/
inductive CoordinatorPc
  | idle
  | pauseRequested
  | pauseStore
  | pausePoll
  | rearmAcknowledged
  | rearmWritten
  | rearmRead (written : UInt32)
  | rearmDiscard (written read : UInt32)
  | rearmStore (written : UInt32)
  | rearmClear
deriving DecidableEq

/-- A request as it was made. -/
structure Request where
  session : UInt32
  seq : UInt32
  pcm : Option PcmBlock
  generation : Nat

/-- The request the worker has just begun. -/
def Worker.made (w : Worker) (pcm : Option PcmBlock) (generation : Nat) : Request :=
  { session := w.run.session, seq := w.run.seq, pcm, generation }

/-- What happened so far, oldest first. -/
structure LinkHistory where
  requests : List Request
  calls : List EncodeCall
  pushes : List Record
  rearms : Nat

structure Link (E D : Type) where
  worker : Worker
  slave : Slave E D
  coordinator : CoordinatorPc
  history : LinkHistory

/-- One call of `exchange`. -/
inductive Transfer
  | missed
  | crossed (reported : Bool) (toSlave : CwFrame) (bits : Nat) (toWorker : CwFrame)

inductive LinkAction
  | worker (input : PlaybackInput)
  | transfer (t : Transfer) (now : Int)
  | pause
  | poll (expired : Bool)
  | rearm
  | coordinator
  | resume
  | select (event : UInt32) (buffer : Record)
  | newSession
  | enableMic (enable : Bool)
  | microphone (frame atUs : UInt32) (seq : UInt8) (payload : MicPayload)

variable {E D : Type}

namespace Link

def request (b : Link E D) (pcm : Option PcmBlock) (w : Worker) : Link E D :=
  { b with
    worker := w
    history := { b.history with
      requests := b.history.requests ++ [w.made pcm b.history.rearms] } }

/-- The worker's next step on its own. -/
def workerStep (crc32 : List UInt8 → UInt32) (b : Link E D) (input : PlaybackInput) :
    Option (Link E D) :=
  let w := b.worker
  let s := w.stream
  match w.run.pc with
  | .top => some { b with worker := w.top }
  | .acknowledge =>
      some { b with worker :=
        { stream := { s with acknowledged := true }, run := { w.run with pc := .waiting } } }
  | .waiting => some { b with worker := if s.requested then w else w.goto .depart }
  | .depart =>
      some { b with worker :=
        { stream := { s with acknowledged := false }, run := { w.run with pc := .top } } }
  | .iterate =>
      if !s.ready then some (b.request none (w.handshake crc32))
      else if !s.source.requested then some { b with worker := w.idle }
      else
        let w' := w.live input
        if w'.run.pc = .fill then
          some (b.request (if w.wantsPlay input then some input.pcm else none) w')
        else some { b with worker := w' }
  | .fill => some { b with worker := w.fill crc32 }
  | .transfer _ => none
  | .accept kind => some { b with worker := w.accept crc32 kind }
  | .pushCopy kind =>
      let r := w.record b.history.requests.length b.history.rearms
      some { b with worker := w.pushCopy kind r }
  | .pushStore kind =>
      some { b with
        worker := w.pushStore kind
        history := { b.history with
          pushes := b.history.pushes ++ [w.record b.history.requests.length b.history.rearms] } }
  | .finish kind accepted => some { b with worker := w.finish kind accepted }

/-- What may be received for `sent`. -/
def Received (crc32 : List UInt8 → UInt32) (sent received : CwFrame) (bits : Nat) : Prop :=
  received = sent ∧ bits = cwBytes * 8 ∨ cwCrcOk crc32 received = false ∨ bits ≠ cwBytes * 8

instance (crc32 : List UInt8 → UInt32) (sent received : CwFrame) (bits : Nat) :
    Decidable (Received crc32 sent received bits) :=
  inferInstanceAs (Decidable (_ ∨ _))

/-- The transfer of the request in `tx` against the reply the slave has ready. -/
def transferStep (c : Codecs E D) (crc32 : List UInt8 → UInt32) (b : Link E D) (t : Transfer)
    (now : Int) : Option (Link E D) :=
  match b.worker.run.pc, t with
  | .transfer kind, .missed => some { b with worker := b.worker.failed kind b.worker.stream.rx }
  | .transfer kind, .crossed reported toSlave bits toWorker =>
      if Received crc32 b.worker.stream.tx toSlave bits ∧
          Received crc32 b.slave.tx toWorker (cwBytes * 8) then
        let (slave, call) := b.slave.process c crc32 toSlave bits
        some { b with
          worker := if reported then b.worker.exchanged kind toWorker now
            else b.worker.failed kind toWorker
          slave
          history := { b.history with calls := b.history.calls ++ call.toList } }
      else none
  | _, _ => none

/-- The coordinator's next step inside a call. -/
def coordinatorStep (b : Link E D) : Option (Link E D) :=
  let w := b.worker
  let s := w.stream
  match b.coordinator with
  | .pauseRequested =>
      some { b with coordinator := if s.requested then .idle else .pauseStore }
  | .pauseStore =>
      some { b with
        worker := { w with stream := { s with requested := true } }, coordinator := .pausePoll }
  | .rearmAcknowledged =>
      some { b with coordinator := if s.acknowledged then .rearmWritten else .idle }
  | .rearmWritten => some { b with coordinator := .rearmRead s.source.written }
  | .rearmRead written =>
      some { b with coordinator :=
        if written - s.source.read > audioQueueFrames then .idle
        else .rearmDiscard written s.source.read }
  | .rearmDiscard written read =>
      some { b with
        worker := { w with stream := { s with source := { s.source with
          discarded := s.source.discarded + (written - read) } } }
        coordinator := .rearmStore written }
  | .rearmStore written =>
      some { b with
        worker := { w with stream := { s with source := { s.source with
          read := written, requested := false } } }
        coordinator := .rearmClear }
  | .rearmClear =>
      some { b with
        worker := { w with stream := { s with source := { s.source with
          latch := fun _ => Latch.zero, lastEvent := 0, selectedAny := false } } }
        coordinator := .idle
        history := { b.history with rearms := b.history.rearms + 1 } }
  | .idle | .pausePoll => none

/-- The controller is inside `ull_audio_source_rearm`. -/
def rearming (b : Link E D) : Prop :=
  match b.coordinator with
  | .idle | .pauseRequested | .pauseStore | .pausePoll => False
  | _ => True

instance (b : Link E D) : Decidable b.rearming := by
  unfold rearming
  split <;> infer_instance

/-- `ull_air_microphone_frame`. -/
def microphoneFrame (s : PcmStream) (frame atUs : UInt32) (seq : UInt8) (payload : MicPayload) :
    PcmStream :=
  if !s.micActive || s.written - s.readPos ≥ micRing then s
  else
    { s with
      packets := Function.update s.packets (Library.ringSlot 16 s.written.toNat)
        { frame, epoch := s.epoch, atUs, seq, payload }
      written := s.written + 1 }

def act (c : Codecs E D) (crc32 : List UInt8 → UInt32) (b : Link E D) :
    LinkAction → Option (Link E D)
  | .worker input => b.workerStep crc32 input
  | .transfer t now => b.transferStep c crc32 t now
  | .pause =>
      -- the first test of the pause, on an acknowledgement not yet retired
      if b.coordinator = .idle then
        some { b with coordinator :=
          if b.worker.stream.acknowledged then .idle else .pauseRequested }
      else none
  | .poll expired =>
      if b.coordinator = .pausePoll then
        some { b with coordinator :=
          if b.worker.stream.acknowledged || expired then .idle else .pausePoll }
      else none
  | .rearm =>
      if b.coordinator = .idle then
        some { b with coordinator :=
          if b.worker.stream.requested then .rearmAcknowledged else .idle }
      else none
  | .coordinator => b.coordinatorStep
  | .resume =>
      if b.coordinator = .idle then
        some { b with worker := { b.worker with stream := { b.worker.stream with
          requested := false } } }
      else none
  | .select event buffer =>
      if b.rearming then none
      else
        some { b with worker := { b.worker with stream := { b.worker.stream with
          source := (b.worker.stream.source.select event buffer).2.2 } } }
  | .newSession =>
      some { b with worker := { b.worker with stream := { b.worker.stream with
        epoch := b.worker.stream.epoch + 1 } } }
  | .enableMic enable =>
      some { b with worker := { b.worker with stream := { b.worker.stream with
        micEnabled := enable } } }
  | .microphone frame atUs seq payload =>
      let s := microphoneFrame b.worker.stream frame atUs seq payload
      some { b with worker := { b.worker with stream := s } }

def Step (c : Codecs E D) (crc32 : List UInt8 → UInt32) (b : Link E D) (a : LinkAction)
    (b' : Link E D) : Prop :=
  b.act c crc32 a = some b'

/-- Both boards after start-up, before the worker's first iteration. -/
def init (crc32 : List UInt8 → UInt32) (base : UInt32) (packets : Fin 16 → MicPacket)
    (encoder : E) (decoder : D) (rx : CwFrame) : Link E D where
  worker :=
    { stream :=
        { source := .init, ready := false, micEnabled := true, micActive := false, epoch := 0
          packets, written := 0, readPos := 0, tx := .zero, rx
          previousSession := 0, previousSeq := 0, havePrevious := false
          requested := false, acknowledged := false }
      run :=
        { pc := .top, base, seq := 0, resetEpoch := 0xffffffff, lastMicFrame := 0
          lastMicSeq := 0, haveMic := false, wasCapture := false, nextSilence := 0
          lastTransfer := 0, currentEpoch := 0, session := 0, capture := false, now := 0
          pushAt := 0 } }
  slave := .init crc32 encoder decoder
  coordinator := .idle
  history := { requests := [], calls := [], pushes := [], rearms := 0 }

end Link

end UllReceiver.Bridge
