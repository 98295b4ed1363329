import UllReceiver.Bridge.Moves

/-!
# The microphone ring

The bridge with a clock, and with `ull_air_microphone_frame` and the worker's loop over the ring
taken apart: between any two reads or writes of what they share the other one may run. The clock is
`esp_timer_get_time`, and every packet carries the moment of its stamp beside the 32 bits of it.
-/

namespace UllReceiver.Bridge

/-- The arguments of `ull_air_microphone_frame`. -/
structure MicCall where
  frame : UInt32
  seq : UInt8
  payload : MicPayload

/-- Where the controller stands in `ull_air_microphone_frame`; `w` is `written` as it was loaded. -/
inductive MicProducer
  | idle
  | active (call : MicCall)
  | room (call : MicCall) (w : UInt32)
  | stamp (call : MicCall) (w : UInt32)
  | publish (call : MicCall) (w : UInt32)

/-- Where the worker stands on the microphone ring; `mw` is `written` as it was loaded, `queuedAt`
the moment the packet was stamped. -/
inductive MicFill
  | load
  | drop (mw : UInt32)
  | loop (mw : UInt32)
  | taken (mw : UInt32) (p : MicPacket) (queuedAt : Nat)
  | seal

/-- What became of a packet taken from the ring. -/
inductive MicVerdict
  | otherEpoch
  | aged
  | duplicate
  | forwarded
deriving DecidableEq

/-- The tests of the loop over the ring. -/
def Worker.verdict (w : Worker) (p : MicPacket) : MicVerdict :=
  if p.epoch ≠ w.run.currentEpoch then .otherEpoch
  else if UInt32.ofInt w.run.now - p.atUs > 40000 then .aged
  else if w.run.haveMic && (p.frame - w.run.lastMicFrame == 0 ||
    (p.seq == w.run.lastMicSeq && p.frame - w.run.lastMicFrame < 16)) then .duplicate
  else .forwarded

/-- A packet taken from the ring: when it was stamped, when the iteration had read its clock, and
when the packet was taken. -/
structure MicTaken where
  packet : MicPacket
  queuedAt : Nat
  sampledAt : Nat
  takenAt : Nat
  epoch : UInt32
  verdict : MicVerdict

structure MicLink (E D : Type) where
  link : Link E D
  clock : Nat
  /-- The clock as this iteration has read it. -/
  sampled : Option Nat
  producer : MicProducer
  fill : MicFill
  /-- When each slot was stamped. -/
  stamps : Fin 16 → Nat
  /-- All packets taken so far. -/
  taken : List MicTaken

inductive MicAction
  | tick (us : Nat)
  | sample
  | link (a : LinkAction)
  | fill
  | call (call : MicCall)
  | append

variable {E D : Type}

namespace MicLink

def withStream (s : MicLink E D) (stream : PcmStream) : MicLink E D :=
  { s with link := { s.link with worker := { s.link.worker with stream } } }

/-- The controller's next step in `ull_air_microphone_frame`. -/
def appendStep (s : MicLink E D) : Option (MicLink E D) :=
  let stream := s.link.worker.stream
  match s.producer with
  | .idle => none
  | .active call =>
      if stream.written - stream.readPos ≥ micRing then some { s with producer := .idle }
      else some { s with producer := .room call stream.written }
  | .room call w =>
      let slot := Library.ringSlot 16 w.toNat
      let p := { stream.packets slot with
        frame := call.frame, seq := call.seq, epoch := stream.epoch }
      some { s.withStream { stream with packets := Function.update stream.packets slot p } with
        producer := .stamp call w }
  | .stamp call w =>
      let slot := Library.ringSlot 16 w.toNat
      let p := { stream.packets slot with atUs := UInt32.ofNat s.clock }
      some { s.withStream { stream with packets := Function.update stream.packets slot p } with
        producer := .publish call w
        stamps := Function.update s.stamps slot s.clock }
  | .publish call w =>
      let slot := Library.ringSlot 16 w.toNat
      let p := { stream.packets slot with payload := call.payload }
      some { s.withStream { stream with
          packets := Function.update stream.packets slot p, written := w + 1 } with
        producer := .idle }

/-- The worker's next step on the ring, which only it takes packets from. -/
def fillStep (crc32 : List UInt8 → UInt32) (s : MicLink E D) : Option (MicLink E D) :=
  let w := s.link.worker
  if w.run.pc ≠ .fill then none
  else
    match s.fill with
    | .load => some { s with
        fill := if !w.run.capture then .drop w.stream.written else .loop w.stream.written }
    | .drop mw => some { s with
        link := { s.link with worker :=
          { stream := { w.stream with readPos := mw }, run := { w.run with haveMic := false } } }
        fill := .seal }
    | .loop mw =>
        if w.stream.readPos = mw then some { s with fill := .seal }
        else
          let slot := Library.ringSlot 16 w.stream.readPos.toNat
          some { s with fill := .taken mw (w.stream.packets slot) (s.stamps slot) }
    | .taken mw p queuedAt =>
        let (forwarded, w') := w.takeMicPacket p
        some { s with
          link := { s.link with worker := w' }
          fill := if forwarded then .seal else .loop mw
          taken := s.taken ++
            [{ packet := p, queuedAt, sampledAt := w.run.now.toNat, takenAt := s.clock
               epoch := w.run.currentEpoch, verdict := w.verdict p }] }
    | .seal => some { s with
        link := { s.link with worker :=
          { stream := { w.stream with tx := cwSeal crc32 w.stream.tx }
            run := { w.run with pc := .transfer .live } } }
        fill := .load }

/-- A step of the rest of the bridge. What the worker does with the time it has read is done with
the moment of that reading. -/
def linkStep (c : Codecs E D) (crc32 : List UInt8 → UInt32) (s : MicLink E D) :
    LinkAction → Option (MicLink E D)
  | .microphone .. => none
  | .worker input =>
      if s.link.worker.run.pc = .fill then none
      else if s.link.worker.run.pc = .iterate then
        if s.sampled.map Int.ofNat = some input.now then
          (s.link.act c crc32 (.worker input)).map fun link => { s with link, sampled := none }
        else none
      else (s.link.act c crc32 (.worker input)).map fun link => { s with link }
  | .transfer t now =>
      if now = Int.ofNat s.clock then
        (s.link.act c crc32 (.transfer t now)).map fun link => { s with link }
      else none
  | a => (s.link.act c crc32 a).map fun link => { s with link }

def act (c : Codecs E D) (crc32 : List UInt8 → UInt32) (s : MicLink E D) :
    MicAction → Option (MicLink E D)
  | .tick us => some { s with clock := s.clock + us }
  | .sample =>
      if s.link.worker.run.pc = .iterate ∧ s.sampled = none then
        some { s with sampled := some s.clock }
      else none
  | .link a => s.linkStep c crc32 a
  | .fill => s.fillStep crc32
  | .call call =>
      match s.producer with
      | .idle => some { s with
          producer := if s.link.worker.stream.micActive then .active call else .idle }
      | _ => none
  | .append => s.appendStep

def Step (c : Codecs E D) (crc32 : List UInt8 → UInt32) (s : MicLink E D) (a : MicAction)
    (s' : MicLink E D) : Prop :=
  s.act c crc32 a = some s'

/-- The bridge at some time of the clock, with no call of the controller under way. -/
def start (b : Link E D) (clock : Nat) : MicLink E D where
  link := b
  clock := clock
  sampled := none
  producer := .idle
  fill := .load
  stamps := fun _ => 0
  taken := []

end MicLink

/-! ## Whole calls -/

variable {c : Codecs E D} {crc32 : List UInt8 → UInt32}

/-- A call without interruption is the bridge's own step. -/
theorem append_whole {s : MicLink E D} (hidle : s.producer = .idle) (call : MicCall) :
    ∃ trace s', Library.Run (MicLink.Step c crc32) s trace s' ∧ s'.producer = .idle ∧
      s'.link.worker.stream = Link.microphoneFrame s.link.worker.stream call.frame
        (UInt32.ofNat s.clock) call.seq call.payload := by
  have hcall : MicLink.Step c crc32 s (.call call) { s with
      producer := if s.link.worker.stream.micActive then .active call else .idle } := by
    unfold MicLink.Step MicLink.act
    rw [hidle]
  by_cases hactive : s.link.worker.stream.micActive = true
  · rw [if_pos hactive] at hcall
    by_cases hfull : s.link.worker.stream.written - s.link.worker.stream.readPos ≥ micRing
    · have hdrop : MicLink.Step c crc32 { s with producer := .active call } .append
          { s with producer := .idle } := by
        show (if _ then _ else _) = _
        rw [if_pos hfull]
      refine ⟨_, _, (Library.Run.single hcall).snoc hdrop, rfl, ?_⟩
      unfold Link.microphoneFrame
      rw [if_pos (by simp [hfull])]
    · have hroom : MicLink.Step c crc32 { s with producer := .active call } .append
          { s with producer := .room call s.link.worker.stream.written } := by
        show (if _ then _ else _) = _
        rw [if_neg hfull]
      have hwrite : Library.Run (MicLink.Step c crc32)
          { s with producer := .room call s.link.worker.stream.written }
          [.append, .append, .append] _ := Library.Run.of_foldlM (f := MicLink.act c crc32) rfl
      refine ⟨_, _, ((Library.Run.single hcall).snoc hroom).append hwrite, rfl, ?_⟩
      unfold Link.microphoneFrame
      rw [if_neg (by simp [hfull, hactive])]
      simp only [MicLink.withStream, Function.update_self, Function.update_idem]
  · rw [if_neg hactive] at hcall
    refine ⟨_, _, Library.Run.single hcall, rfl, ?_⟩
    unfold Link.microphoneFrame
    rw [if_pos (by simp [hactive])]

end UllReceiver.Bridge
