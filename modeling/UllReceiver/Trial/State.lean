import UllReceiver.Air.AirFeedback
import UllReceiver.Audio.SourceRun
import UllReceiver.Trial.Retry

/-!
# Trial state

The statics of `tone_trial.c` in its default build (`ULL_RX_DIAGNOSTIC` 4, empty bootstrap and
parent poll on, no repeated audio, no sequence control and no control gap), and everything the
trial calls.  Statistics that are only reported are left out.
-/

namespace UllReceiver.Trial

open Air Audio Parent Radio

/-- `struct prepared_frame`; of `wire` the first `length` bytes. -/
structure PreparedFrame where
  innerHs : UInt32
  outerHs : UInt32
  generation : UInt32
  innerHus : UInt16
  outerHus : UInt16
  index : UInt32
  channel : UInt8
  header : UInt8
  streamMask : UInt8
  pollHeader : UInt8
  txSequence : Vector UInt8 2
  ackSequence : Vector UInt8 2
  parent : ParentPdu
  valid : Bool
  receive : Bool
  stereoAudio : Bool
  cacheReused : Bool
  length : Nat
  wire : List UInt8
deriving DecidableEq

def PreparedFrame.zero : PreparedFrame where
  innerHs := 0
  outerHs := 0
  generation := 0
  innerHus := 0
  outerHus := 0
  index := 0
  channel := 0
  header := 0
  streamMask := 0
  pollHeader := 0
  txSequence := Vector.replicate 2 0
  ackSequence := Vector.replicate 2 0
  parent := .zero
  valid := false
  receive := false
  stereoAudio := false
  cacheReused := false
  length := 0
  wire := []

def planZero : AirSessionPlan :=
  { startHs := 0, startHus := 0, aclInstant := 0, eventCounter := 0, accessAddress := 0
    offsetUs := 0, e2 := Vector.replicate 68 0 }

structure ToneTrial where
  plan : AirSessionPlan
  nextFrame : UInt32
  submitted : UInt32
  skipped : UInt32
  reports : UInt32
  txCount : UInt16
  phase : TrialPhase
  reason : UInt8
  cancel : Bool
  requestedHs : UInt32
  requestedHus : UInt16
  crcInit : UInt32
  activeFrame : UInt32
  preparationFailure : UInt8
  firstConfirmed : Bool
  secondRequested : Bool
  secondCommitted : Bool
  secondConfirmed : Bool
  streamStarts : Vector UInt32 2
  feedback : AirFeedback
  receivedValid : UInt32
  receivedRejected : UInt32
  setupStartedUs : Int
  prepared : Fin 2 → PreparedFrame
  alternate : Fin 2 → PreparedFrame
  gap : Fin 2 → PreparedFrame

/-- `memset(&trial,0,sizeof(trial))`. -/
def ToneTrial.zero : ToneTrial where
  plan := planZero
  nextFrame := 0
  submitted := 0
  skipped := 0
  reports := 0
  txCount := 0
  phase := .idle
  reason := 0
  cancel := false
  requestedHs := 0
  requestedHus := 0
  crcInit := 0
  activeFrame := 0
  preparationFailure := 0
  firstConfirmed := false
  secondRequested := false
  secondCommitted := false
  secondConfirmed := false
  streamStarts := Vector.replicate 2 0
  feedback := .zero
  receivedValid := 0
  receivedRejected := 0
  setupStartedUs := 0
  prepared := fun _ => .zero
  alternate := fun _ => .zero
  gap := fun _ => .zero

/-- The cache slot of a frame, `index&1u`. -/
abbrev frameSlot (index : UInt32) : Fin 2 :=
  latchSlot index

/-- What the trial calls.  Every call may find the world changed: time passes, the peer answers,
the codec worker pushes.  `error` carries a status that is not zero. -/
structure Platform (W : Type) where
  ccm : Ccm
  tone : UInt32 → Stereo
  /-- `r_rwip_time_get().hs`. -/
  clockHs : W → UInt32 × W
  timerUs : W → Int × W
  timerMs : W → UInt32 × W
  random : W → UInt32 × W
  randomIv : W → Vector UInt8 8 × W
  randomKey : W → Vector UInt8 16 × W
  /-- Frames pushed since the last call. -/
  arrivals : W → List Stereo × W
  minLead : W → UInt32 × W
  submit : RadioTxRequest → W → UInt8 × W
  cancel : W → W
  collect : W → Collected × W
  sessionConfirmed : W → Bool × W
  sessionChannelMap : W → Except UInt8 (Vector UInt8 5) × W
  prepareSession : AirSessionSeed → UInt32 → W → Except UInt8 AirSessionPlan × W
  sessionCrcInit : W → Except UInt8 UInt32 × W
  commitSession : AirSessionPlan → W → UInt8 × W
  requestSecondStream : AirSessionPlan → W → UInt8 × W
  secondStreamReady : W → Bool × W
  prepareSecondStream : AirSessionPlan → W → Except UInt8 AirSessionPlan × W
  parentAirPdu : W → Option ParentPdu × W
  detachedParentAirPdu : W → Option ParentPdu × W
  receiveAirControl : AirControlRx → ParentPdu → W → W
  microphoneFrames : List MicrophoneFrame → W → W

/-- The result of an event in which nothing was received. -/
def silentResult (phase : RadioTxPhase) (txCount : UInt16) : RadioTxResult where
  phase
  txCount
  rxSnapshots := 0
  rxInvalid := 0
  rx := Vector.replicate 3
    { hs := 0, hus := 0, descriptor := Vector.replicate 10 0, copied := 0
      payload := Vector.replicate 64 0 }

/-- A platform that grants every call at once: the clocks stand still, every random address is
`0x71764129`, the session is confirmed and every event comes back as `result`. -/
def Platform.prompt (result : Collected) : Platform Unit where
  ccm := {
    encrypt := fun _ _ _ plain => some ⟨List.replicate (plain.length + 4) 0, List.length_replicate⟩
    decrypt := fun _ _ _ cipher => some ⟨List.replicate (cipher.length - 4) 0, List.length_replicate⟩ }
  tone _ := default
  clockHs w := (0, w)
  timerUs w := (0, w)
  timerMs w := (0, w)
  random w := (0x71764129, w)
  randomIv w := (Vector.replicate 8 0, w)
  randomKey w := (Vector.replicate 16 0, w)
  arrivals w := ([], w)
  minLead w := (0, w)
  submit _ w := (0, w)
  cancel w := w
  collect w := (result, w)
  sessionConfirmed w := (true, w)
  sessionChannelMap w := (.ok (Vector.replicate 5 0x1f), w)
  prepareSession seed _ w :=
    (.ok { planZero with
      startHs := 100, accessAddress := seed.accessAddress
      e2 := (Vector.replicate 68 0x1f).set 0 0xe2 e2_kind }, w)
  sessionCrcInit w := (.ok 0x555555, w)
  commitSession _ w := (0, w)
  requestSecondStream _ w := (0x0c, w)
  secondStreamReady w := (false, w)
  prepareSecondStream _ w := (.error 1, w)
  parentAirPdu w := (some .zero, w)
  detachedParentAirPdu w := (none, w)
  receiveAirControl _ _ w := w
  microphoneFrames _ w := w

/-- A reply in event `event` whose plain text is `plain`. -/
def eventReply (event : Nat) (header : UInt8) (plain : List UInt8) : RadioTxResult :=
  { silentResult .ended 1 with
    rxSnapshots := 1
    rx := (silentResult .ended 1).rx.set 0
      { hs := UInt32.ofNat (100 + 16 * event), hus := 0
        descriptor := (Vector.replicate 10 0).set 2
          (header.toUInt16 ||| UInt16.ofNat (plain.length + 4) <<< 8) descriptor_length
        copied := UInt8.ofNat (plain.length + 4)
        payload := Vector.ofFn fun i => plain.getD i 0 } }

/-- The 32-bit clock reads zero when the eighth event is collected. -/
def wheelMs (events : Nat) : Nat :=
  4294967256 + 5 * events

theorem wheel_sealed (plain : List UInt8) :
    (List.replicate (plain.length + 4) (0 : UInt8)).length = plain.length + 4 :=
  List.length_replicate

theorem wheel_opened (cipher : List UInt8) :
    (cipher.take (cipher.length - 4)).length = cipher.length - 4 := by
  simp

/-- A platform that counts the events collected, 5 ms each; event `n` comes back as `results n`, and
the second stream joins two frames after the first one. -/
def eventPlatform (results : Nat → RadioTxResult) : Platform Nat where
  ccm := {
    encrypt := fun _ _ _ plain => some ⟨List.replicate (plain.length + 4) 0, wheel_sealed plain⟩
    decrypt := fun _ _ _ cipher => some ⟨cipher.take (cipher.length - 4), wheel_opened cipher⟩ }
  tone _ := default
  clockHs n := (UInt32.ofNat (16 * n), n)
  timerUs n := (1000 * wheelMs n, n)
  timerMs n := (UInt32.ofNat (wheelMs n), n)
  random n := (0x71764129, n)
  randomIv n := (Vector.replicate 8 0, n)
  randomKey n := (Vector.replicate 16 0, n)
  arrivals n := ([], n)
  minLead n := (0, n)
  submit _ n := (0, n)
  cancel n := n
  collect n := (.reclaimed (results n), n + 1)
  sessionConfirmed n := (true, n)
  sessionChannelMap n := (.ok (Vector.replicate 5 0x1f), n)
  prepareSession seed _ n :=
    (.ok { planZero with
      startHs := 100, accessAddress := seed.accessAddress
      e2 := (Vector.replicate 68 0x1f).set 0 0xe2 e2_kind }, n)
  sessionCrcInit n := (.ok 0x555555, n)
  commitSession _ n := (0, n)
  requestSecondStream _ n := (0, n)
  secondStreamReady n := (true, n)
  prepareSecondStream plan n := (.ok { plan with eventCounter := plan.eventCounter + 2 }, n)
  parentAirPdu n := (some { ParentPdu.zero with header := 1 }, n)
  detachedParentAirPdu n := (some { ParentPdu.zero with header := 1 }, n)
  receiveAirControl _ _ n := n
  microphoneFrames _ n := n

/-- Both streams answer in event 2 and again in event 7, there with one byte of control data. -/
def wheelResult : Nat → RadioTxResult
  | 2 => eventReply 2 0x30 [0, 0x01, 4, 0x01, 4]
  | 7 => eventReply 7 0x31 [0, 0x06, 4, 0x06, 4, 2, 1, 7]
  | _ => silentResult .ended 1

def wheelPlatform : Platform Nat :=
  eventPlatform wheelResult

/-- A call of `ull_radio_tx_submit`: the trial at that moment, the parent PDU its frame was prepared
for, and the request. -/
structure Submission where
  trial : ToneTrial
  parent : ParentPdu
  request : RadioTxRequest
  status : UInt8

/-- The frame whose bytes a submission copies. -/
def Submission.frame (s : Submission) : PreparedFrame :=
  s.trial.prepared (frameSlot s.trial.nextFrame)

/-- Which policies claim a submission. -/
structure Claim where
  frame : UInt32
  probe : Bool
  burst : Bool
  automatic : Bool
  /-- The trial has finished and has not been rearmed. -/
  finished : Bool

/-- What the trial has done in a session. -/
inductive Call
  | claim (c : Claim)
  | submit (s : Submission)
  /-- `ended`: the trial ends with this collection. -/
  | collected (phase : RadioTxPhase) (txCount : UInt16) (ended : Bool)
  | control (rx : AirControlRx) (parent : ParentPdu)
  | noteTx (frame : UInt32) (streamMask : UInt8) (txSequence : Vector UInt8 2)

/-- A record kept beside the program, which it never reads. -/
structure TrialHistory where
  /-- The calls since boot or the last rearm, newest first. -/
  calls : List Call
  /-- The PDU the last `prepare_frame` was given. -/
  parent : ParentPdu
  probesArmed : Nat
  burstsArmed : Nat
  finished : Bool

structure TrialSystem (W : Type) where
  trial : ToneTrial
  retry : Retry
  /-- `audio_source` is not null. -/
  audioSource : Bool
  source : Tracked Stereo
  continuous : Bool
  /-- The key the cipher context may hold. -/
  ccmKey : Option (Vector UInt8 16)
  world : W
  history : TrialHistory

variable {W : Type}

namespace TrialSystem

/-- At boot. -/
def init (world : W) : TrialSystem W where
  trial := .zero
  retry := .init
  audioSource := false
  source := .init
  continuous := false
  ccmKey := none
  world
  history := { calls := [], parent := .zero, probesArmed := 0, burstsArmed := 0, finished := false }

def frameLimit (s : TrialSystem W) : UInt32 :=
  if s.audioSource then if s.continuous then 0xfffffffe else 60000 else toneFrameCount

/-- Append to the record. -/
def log (c : Call) (s : TrialSystem W) : TrialSystem W :=
  { s with history := { s.history with calls := c :: s.history.calls } }

/-- Change the trial's statics. -/
def onTrial (f : ToneTrial → ToneTrial) (s : TrialSystem W) : TrialSystem W :=
  { s with trial := f s.trial }

/-- A policy change that reads the millisecond clock. -/
def onRetry (P : Platform W) (f : UInt32 → Retry → Retry) (s : TrialSystem W) : TrialSystem W :=
  let (now, world) := P.timerMs s.world
  { s with retry := f now s.retry, world }

/-- `report`, of which the console reads the phase. -/
def report (s : TrialSystem W) : TrialSystem W :=
  { s with retry := { s.retry with streamPhase := s.trial.phase } }

/-- `lead`. -/
def lead (P : Platform W) (hs : UInt32) (s : TrialSystem W) : UInt32 × TrialSystem W :=
  let (now, world) := P.clockHs s.world
  ((hs - now) &&& clockMask, { s with world })

end TrialSystem

end UllReceiver.Trial
