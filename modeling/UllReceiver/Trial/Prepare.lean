import UllReceiver.Trial.State

/-!
# Prepared frames

How a frame is built, the caches of packets built ahead for a guessed acknowledgement, and the
choice among them.
-/

namespace UllReceiver.Trial

open Air Audio Parent Radio

/-- Everything a frame is prepared for; `frame_matches` compares it. -/
structure FrameKey where
  index : UInt32
  streamMask : UInt8
  txSequence : Vector UInt8 2
  ackSequence : Vector UInt8 2
  parent : ParentPdu

/-- What the streams of a frame carry. -/
inductive FrameAudio
  | empty
  /-- The stored cue, when there is no source. -/
  | cue
  | frames (frames : Stereo)

def receiveFrame (index : UInt32) : Bool :=
  index < 2

/-- A time `fine` half-microseconds later. -/
def shiftTime (later : UInt32) (hs : UInt32) (hus : UInt16) : UInt32 × UInt16 :=
  let fine := hus.toUInt32 + later
  ((hs + fine / 625) &&& clockMask, (fine % 625).toUInt16)

/-- `receive_time_shift`. -/
def receiveTimeShift (index hs : UInt32) (hus : UInt16) : UInt32 × UInt16 :=
  if receiveFrame index then shiftTime 1600 hs hus else (hs, hus)

def pollTxShiftUs : UInt32 := 20

namespace FrameKey

def poll (k : FrameKey) : Bool :=
  k.streamMask == 2 && !receiveFrame k.index

def parentAck (k : FrameKey) : Bool :=
  k.streamMask == 6 && !receiveFrame k.index && k.parent.header != 0

/-- An acknowledgement that carries more than its numbers. -/
def refused (k : FrameKey) : Bool :=
  k.parentAck && (k.parent.length != 0 || k.parent.header &&& ~~~12 != 1)

def header (k : FrameKey) : UInt8 :=
  k.streamMask <<< 3 ||| if k.poll then 1 else if k.parentAck then 2 else 0

def options (k : FrameKey) : TonePacketOptions where
  eventIndex := k.index
  packetCounter := 0
  direction := 1
  header := k.header
  aad := k.header &&& 0xe3
  txSequence := k.txSequence
  ackSequence := k.ackSequence
  streamMask := k.streamMask

/-- The packet for a key. -/
def packet (ccm : Ccm) (tone : UInt32 → Stereo) (plan : AirSessionPlan) (k : FrameKey)
    (audio : FrameAudio) : Except PacketError TonePacket :=
  if k.parentAck then
    match audio with
    | .empty => emptyParentAckPacketBuild ccm tone plan k.options k.parent.header
    | .frames frames => audioParentAckPacketBuild ccm tone plan k.options frames k.parent.header
    | .cue => toneParentAckPacketBuild ccm tone plan k.options k.parent.header
  else if k.poll then
    if k.parent.length ≠ 0 then
      controlPacketBuild ccm tone plan k.options k.parent.header k.parent.payload.toList
        k.parent.length.toNat
    else pollPacketBuild ccm tone plan k.options k.parent.header
  else
    match audio with
    | .empty => emptyPacketBuild ccm tone plan k.options
    | .frames frames => audioPacketBuild ccm tone plan k.options frames
    | .cue => tonePacketBuild ccm tone plan k.options

/-- The length a packet must have. -/
def packetLength (k : FrameKey) (audio : FrameAudio) : Nat :=
  if k.poll then 13 + k.parent.length.toNat
  else
    (match audio with
      | .empty => if k.streamMask = 6 then 15 else 11
      | _ => if k.streamMask = 6 then 205 else 106) + if k.parentAck then 2 else 0

/-- Start and channel of the radio event for a packet; `none` when no channel can be chosen. -/
def event (plan : AirSessionPlan) (k : FrameKey) (packet : TonePacket) :
    Option (UInt32 × UInt16 × UInt8) :=
  let (hs, hus) := if k.poll then shiftTime (2 * pollTxShiftUs) packet.startHs packet.startHus
    else (packet.startHs, packet.startHus)
  let (hs, hus) := receiveTimeShift k.index hs hus
  if receiveFrame k.index then
    (csa2Subevent plan.accessAddress (plan.eventCounter + k.index).toUInt16 (planMap plan) 1).map
      fun channel => (hs, hus, channel)
  else some (hs, hus, packet.channel)

end FrameKey

/-- `build_prepared_frame` once the audio is known; `generation` is that of the feedback. -/
def buildFrame (ccm : Ccm) (tone : UInt32 → Stereo) (plan : AirSessionPlan) (k : FrameKey)
    (audio : FrameAudio) (generation : UInt32) : Option PreparedFrame :=
  if k.refused then none
  else
    match k.packet ccm tone plan audio with
    | .error _ => none
    | .ok packet =>
        if packet.length.toNat ≠ k.packetLength audio ∨
            packet.pdu.take 2 ≠ [k.header, packet.length - 2] then none
        else (k.event plan packet).map fun (hs, hus, channel) =>
          { innerHs := hs, outerHs := hs, innerHus := hus, outerHus := hus, generation
            index := k.index
            channel, header := k.header, streamMask := k.streamMask
            pollHeader := k.parent.header
            txSequence := k.txSequence, ackSequence := k.ackSequence
            parent := if k.poll || k.parentAck then k.parent else .zero
            valid := true
            receive := receiveFrame k.index
            stereoAudio := k.streamMask == 6 && !(audio matches .empty)
            cacheReused := false
            length := packet.length.toNat - 2
            wire := packet.pdu.drop 2 }

/-- `frame_matches`. -/
def frameMatches (p : PreparedFrame) (k : FrameKey) : Bool :=
  k.parent.length ≤ 68 && p.valid && p.index == k.index && p.streamMask == k.streamMask &&
    p.parent.header == k.parent.header && p.parent.length == k.parent.length &&
    p.parent.payload.toList.take k.parent.length.toNat ==
      k.parent.payload.toList.take k.parent.length.toNat &&
    p.txSequence == k.txSequence && p.ackSequence == k.ackSequence

/-- `control_poll_due`: the parent's interval is six frames. -/
def controlPollDue (t : ToneTrial) (index : UInt32) : Bool :=
  index ≥ t.streamStarts[1] && (index - t.streamStarts[1]) % 6 == 0

/-- The streams a frame carries now. -/
def ToneTrial.streamMask (t : ToneTrial) (index : UInt32) : UInt8 :=
  if t.secondConfirmed && index ≥ t.streamStarts[1] && t.feedback.channels[1].valid then 6 else 2

/-- The key of a frame for the feedback as it is. -/
def ToneTrial.frameKey (t : ToneTrial) (index : UInt32) (parent : ParentPdu) : FrameKey where
  index
  streamMask := t.streamMask index
  txSequence := (t.feedback.sequences index t.streamStarts).1
  ackSequence := (t.feedback.sequences index t.streamStarts).2
  parent

/-- The key of a prepared frame. -/
def PreparedFrame.key (p : PreparedFrame) : FrameKey :=
  { index := p.index, streamMask := p.streamMask, txSequence := p.txSequence
    ackSequence := p.ackSequence, parent := p.parent }

/-- An entry taken from a cache. -/
def PreparedFrame.reused (p : PreparedFrame) (generation : UInt32) : PreparedFrame :=
  { p with generation, cacheReused := true }

variable {W : Type}

namespace TrialSystem

/-- The parent PDU for a frame; `none` when the raw layer refuses. -/
def parentPdu (P : Platform W) (index : UInt32) (s : TrialSystem W) :
    Option ParentPdu × TrialSystem W :=
  if s.trial.streamMask index = 2 ∧ !receiveFrame index then
    let (pdu, world) := P.parentAirPdu s.world
    (pdu, { s with world })
  else if s.trial.streamMask index = 6 ∧ !receiveFrame index ∧ controlPollDue s.trial index then
    let (pdu, world) := P.detachedParentAirPdu s.world
    (some (pdu.getD .zero), { s with world })
  else (some .zero, s)

/-- The audio of a frame, selected only for a stereo frame of a source. -/
def selectAudio (P : Platform W) (k : FrameKey) (s : TrialSystem W) :
    Option FrameAudio × TrialSystem W :=
  if k.streamMask = 2 then (some .empty, s)
  else if !s.audioSource then (some .cue, s)
  else
    let (frames, world) := P.arrivals s.world
    let source := frames.foldl (fun source f => source.step (.push f)) s.source
    let (selected, audio, _) := source.source.select k.index default
    let s := { s with world, source := source.step (.select k.index default) }
    if selected < 0 then (none, s)
    else if selected = 0 then (some .empty, s)
    else (some (.frames audio), s)

/-- `build_prepared_frame`. -/
def buildPreparedFrame (P : Platform W) (k : FrameKey) (s : TrialSystem W) :
    Option PreparedFrame × TrialSystem W :=
  if k.refused then (none, s)
  else
    match s.selectAudio P k with
    | (none, s) => (none, s)
    | (some audio, s) =>
        (buildFrame P.ccm P.tone s.trial.plan k audio s.trial.feedback.generation,
          { s with ccmKey := some (planKey s.trial.plan) })

/-- A cache entry is replaced, or made invalid when nothing was built for it. -/
def store (slots : Fin 2 → PreparedFrame) (slot : Fin 2) (built : Option PreparedFrame) :
    Fin 2 → PreparedFrame :=
  Function.update slots slot (built.getD { slots slot with valid := false })

/-- The cached packet of a key, the prepared one first. -/
def cached (t : ToneTrial) (k : FrameKey) : Option PreparedFrame :=
  [t.prepared (frameSlot k.index), t.alternate (frameSlot k.index), t.gap (frameSlot k.index)].find?
    fun p => frameMatches p k

/-- `prepare_frame` for the key that was found. -/
def prepareKey (P : Platform W) (k : FrameKey) (s : TrialSystem W) : Bool × TrialSystem W :=
  match cached s.trial k with
  | some p => (true, s.onTrial fun t => { t with
      prepared := store t.prepared (frameSlot k.index) (some (p.reused t.feedback.generation)) })
  | none =>
      let (built, s) := s.buildPreparedFrame P k
      (built.isSome, s.onTrial fun t => { t with
        prepared := store t.prepared (frameSlot k.index) built })

/-- `prepare_frame`. -/
def prepareFrame (P : Platform W) (index : UInt32) (s : TrialSystem W) : Bool × TrialSystem W :=
  if index ≥ s.frameLimit then (true, s)
  else
    match s.parentPdu P index with
    | (none, s) => (false, s)
    | (some parent, s) =>
        { s with history := { s.history with parent } }.prepareKey P
          (s.trial.frameKey index parent)

/-- The packet for the acknowledgement expected next, kept as the alternate. -/
def prepareGuess (P : Platform W) (k : FrameKey) (s : TrialSystem W) : Bool × TrialSystem W :=
  let (built, s) := s.buildPreparedFrame P k
  (built.isSome, s.onTrial fun t => { t with
    alternate := store t.alternate (frameSlot k.index) built })

/-- The same for the gap entry. -/
def prepareGap (P : Platform W) (k : FrameKey) (s : TrialSystem W) : Bool × TrialSystem W :=
  let (built, s) := s.buildPreparedFrame P k
  (built.isSome, s.onTrial fun t => { t with gap := store t.gap (frameSlot k.index) built })

/-- The first acknowledgement guessed after `p`. -/
def guessedAck (p : PreparedFrame) (index : UInt32) : UInt8 :=
  if p.streamMask = 6 then (p.ackSequence[0] + 1) &&& 15
  else ((if index ≠ 0 then index - 1 else 0) &&& 15).toUInt8

/-- The acknowledgement after a microphone gap, if another guess is worth it. -/
def gapAck (t : ToneTrial) (p : PreparedFrame) (index : UInt32) (guessed : UInt8) : Option UInt8 :=
  let mic := t.feedback.channels[0]
  if p.streamMask = 6 ∧ index ≠ 0 ∧ mic.valid ∧ mic.frame ≥ t.streamStarts[0] ∧
      mic.frame < index - 1 then
    let advance := index - 1 - mic.frame
    let ack := ((p.ackSequence[0].toUInt32 + advance) &&& 15).toUInt8
    if advance > 1 ∧ ack ≠ p.ackSequence[0] ∧ ack ≠ guessed then some ack else none
  else none

/-- `prepare_alternate`. -/
def prepareAlternate (P : Platform W) (index : UInt32) (s : TrialSystem W) :
    Bool × TrialSystem W :=
  if index ≥ s.frameLimit then (true, s)
  else
    let slot := frameSlot index
    let s := s.onTrial fun t => { t with
      alternate := store t.alternate slot none, gap := store t.gap slot none }
    let p := s.trial.prepared slot
    if !p.valid ∨ p.index ≠ index ∨ p.receive ∨ (p.streamMask ≠ 2 ∧ p.streamMask ≠ 6) then (true, s)
    else
      let ack := guessedAck p index
      if ack = p.ackSequence[0] then (true, s)
      else
        match s.prepareGuess P { p.key with ackSequence := p.ackSequence.set 0 ack } with
        | (false, s) => (false, s)
        | (true, s) =>
            match gapAck s.trial p index ack with
            | none => (true, s)
            | some ack =>
                s.prepareGap P { p.key with ackSequence := p.ackSequence.set 0 ack }

end TrialSystem

end UllReceiver.Trial
