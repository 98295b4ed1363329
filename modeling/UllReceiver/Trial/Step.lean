import UllReceiver.Trial.AccessAddress
import UllReceiver.Trial.Prepare

/-!
# Trial steps

`ull_tone_trial_start`, `ull_tone_trial_step` and the calls around them.  Each function returns the
status of the source and the system after it.
-/

namespace UllReceiver.Trial

open Air Audio Parent Radio

variable {W : Type}

namespace TrialSystem

/-- `finish`. -/
def finish (P : Platform W) (phase : TrialPhase) (reason : UInt8) (s : TrialSystem W) :
    TrialSystem W :=
  let s := s.onRetry P fun now => Retry.finish now phase
  { s with
    trial := { s.trial with
      phase, reason, plan := planZero, feedback := .zero
      prepared := fun _ => .zero, alternate := fun _ => .zero, gap := fun _ => .zero }
    ccmKey := none
    history := { s.history with finished := true } }.report

/-- A reservation that will not be used: its frame is passed over. -/
def skipFrame (P : Platform W) (s : TrialSystem W) : TrialSystem W :=
  (s.onTrial fun t => { t with nextFrame := t.nextFrame + 1, skipped := t.skipped + 1 }).onRetry P
    Retry.burstSkip

/-! ## Second stream -/

/-- The join of the second stream once E1 is there. -/
def joinSecondStream (P : Platform W) (s : TrialSystem W) : UInt8 × TrialSystem W :=
  let (prepared, world) := P.prepareSecondStream s.trial.plan s.world
  match prepared with
  | .error _ => (9, { s with world })
  | .ok second =>
      let (crc, world) := P.sessionCrcInit world
      match crc with
      | .error _ => (9, { s with world })
      | .ok crc =>
          if crc ≠ s.trial.crcInit then (9, { s with world })
          else
            let (status, world) := P.commitSession second world
            let s := { s with world }
            if status ≠ 0 then (11, s)
            else (0, s.onTrial fun t => { t with
              secondCommitted := true
              streamStarts := t.streamStarts.set 1 (second.eventCounter - t.plan.eventCounter)
                Nat.one_lt_two })

/-- `advance_second_stream`. -/
def advanceSecondStream (P : Platform W) (s : TrialSystem W) : UInt8 × TrialSystem W :=
  if s.trial.secondCommitted then
    let (confirmed, world) := P.sessionConfirmed s.world
    (0, { s with world }.onTrial fun t => { t with
      secondConfirmed := t.secondConfirmed || confirmed })
  else
    let (now, world) := P.timerUs s.world
    let s := { s with world }
    if now - s.trial.setupStartedUs > 2000000 then (7, s)
    else if !s.trial.secondRequested then
      let (status, world) := P.requestSecondStream s.trial.plan s.world
      let s := { s with world }
      if status = 0x0c then (0, s)
      else if status ≠ 0 then (8, s)
      else (0, s.onTrial fun t => { t with secondRequested := true })
    else
      let (ready, world) := P.secondStreamReady s.world
      let s := { s with world }
      if ready then s.joinSecondStream P else (0, s)

/-! ## Submission -/

/-- `control_retry_slot`: every fourth parent poll is sent once. -/
def controlSlot (t : ToneTrial) (p : PreparedFrame) : Bool :=
  p.index ≥ getElem t.streamStarts 1 Nat.one_lt_two &&
    (p.index - getElem t.streamStarts 1 Nat.one_lt_two) / 6 % 4 != 0

/-- `retry_audio_eligible` at the millisecond `now`. -/
def audioEligible (now : UInt32) (s : TrialSystem W) (p : PreparedFrame) : Bool :=
  s.audioSource && !p.receive && p.stereoAudio && p.streamMask == 6 &&
    (p.length == 203 && p.header == 0x30 ||
      p.length == 205 && p.header == 0x32 && p.cacheReused && s.retry.controlQuiet now &&
        controlSlot s.trial p)

/-- One call of `ull_radio_tx_submit`. -/
def submitRequest (P : Platform W) (request : RadioTxRequest) (s : TrialSystem W) :
    UInt8 × TrialSystem W :=
  let (status, world) := P.submit request s.world
  (status, { s with world }.log (.submit
    { trial := s.trial, parent := s.history.parent, request, status }))

/-- What `submit_with_retry_fallback` returns and sets. -/
structure Submitted where
  status : UInt8
  fallbackSuccess : Bool
  autoFailureRecorded : Bool

/-- `submit_with_retry_fallback`. -/
def submitWithRetryFallback (P : Platform W) (request : RadioTxRequest) (automatic : Bool)
    (s : TrialSystem W) : Submitted × TrialSystem W :=
  let (status, s) := s.submitRequest P request
  if !automatic ∨ status ≠ scheduleConflict then
    ({ status, fallbackSuccess := false, autoFailureRecorded := false }, s)
  else
    let s := s.onRetry P fun now => Retry.fallbackStart now status
    let (single, s) := s.submitRequest P
      { request with repeatPayload := 0, prequeuedReply := 0, followupDelayUs := 2350 }
    let s := { s with retry := s.retry.fallbackEnd (single == 0) }
    if single = 0 then
      ({ status := 0, fallbackSuccess := true, autoFailureRecorded := true }, s)
    else ({ status, fallbackSuccess := false, autoFailureRecorded := true }, s)

/-- The frame that is next, as it stands prepared. -/
def nextPrepared (s : TrialSystem W) : PreparedFrame :=
  s.trial.prepared (frameSlot s.trial.nextFrame)

/-- The next frame becomes the active one. -/
def activate (s : TrialSystem W) : TrialSystem W :=
  s.onTrial fun t => { t with
    activeFrame := t.nextFrame
    requestedHs := s.nextPrepared.innerHs, requestedHus := s.nextPrepared.innerHus }

/-- The policies asked in turn whether the frame is repeated. -/
def claim (P : Platform W) (s : TrialSystem W) : Claim × TrialSystem W :=
  let p := s.nextPrepared
  let frame := s.trial.activeFrame
  let (now, world) := P.timerMs s.world
  let eligible := audioEligible now s p
  let retry := s.retry
  let retry := if p.stereoAudio ∧ p.header = 0x32 ∧ p.length = 205 then
      if eligible then { retry with controlRepeated := retry.controlRepeated + 1 }
      else { retry with controlHeld := retry.controlHeld + 1 }
    else retry
  let (probe, retry) := retry.probeTake eligible frame
  let (now, world) := P.timerMs world
  let (burst, retry) := retry.burstTake now eligible
  let (now, world) := P.timerMs world
  let (automatic, retry) := if probe ∨ burst then (false, retry)
    else retry.autoTake now eligible s.trial.cancel frame
  let c := { frame, probe, burst, automatic, finished := s.history.finished }
  (c, { s with retry, world }.log (.claim c))

/-- The request for a prepared frame. -/
def frameRequest (t : ToneTrial) (p : PreparedFrame) (again : Bool) (replyChannel : UInt8) :
    RadioTxRequest :=
  let paired := !p.receive || again
  { startHs := p.outerHs, startHus := p.outerHus
    accessAddress := t.plan.accessAddress, crcInit := t.crcInit
    payload := p.wire, channel := p.channel, header := p.header, phy := 2
    receiveUs := if p.receive then 600 else 0
    txReceiveUs := 0
    followupDelayUs := if again then 1420 else if paired then 2350 else 0
    followupWindowUs := if paired then 150 else 0
    followupChannel := replyChannel
    prequeuedReply := if again then 1 else 0
    repeatPayload := if again then 1 else 0 }

/-- After the submission: the next frame is built while the radio holds this one. -/
def prepareNext (P : Platform W) (s : TrialSystem W) : TrialSystem W :=
  let failed (s : TrialSystem W) : TrialSystem W :=
    { s with world := P.cancel s.world }.onTrial fun t => { t with
      preparationFailure := 5, cancel := true }
  match s.prepareFrame P s.trial.nextFrame with
  | (false, s) => failed s
  | (true, s) =>
      match s.prepareAlternate P s.trial.nextFrame with
      | (false, s) => failed s
      | (true, s) => s

/-- What the result of a submission means for the trial. -/
def submitOutcome (P : Platform W) (status : UInt8) (s : TrialSystem W) : UInt8 × TrialSystem W :=
  if status = scheduleConflict ∨ status = timeExpired then
    (0, ((s.skipFrame P).onTrial fun t => { t with phase := .waitE2 }).report)
  else if status ≠ 0 then (0, s.finish P .failed 6)
  else
    (0, (s.onTrial fun t => { t with
      nextFrame := t.nextFrame + 1, submitted := t.submitted + 1
      phase := .transmitting }).prepareNext P)

/-- The channel of the reply; a single transmission listens on the same one. -/
def replyChannel (t : ToneTrial) (p : PreparedFrame) (again : Bool) : Option UInt8 :=
  if !p.receive ∨ again then
    csa2Subevent t.plan.accessAddress (t.plan.eventCounter + t.nextFrame).toUInt16
      (planMap t.plan) 2
  else some 0

/-- The policies learn what became of the submission. -/
def retrySubmitted (P : Platform W) (again : Bool) (outcome : Submitted) (s : TrialSystem W) :
    TrialSystem W :=
  s.onRetry P fun now r =>
    let r := r.submitted now outcome.status outcome.autoFailureRecorded again
      outcome.fallbackSuccess
    if outcome.status = 0 then r.probeFollowed s.trial.activeFrame else r

/-- The claimed frame is given to the radio. -/
def submitClaimed (P : Platform W) (c : Claim) (s : TrialSystem W) : UInt8 × TrialSystem W :=
  let again := c.probe || c.burst || c.automatic
  match replyChannel s.trial s.nextPrepared again with
  | none => (0, s.finish P .failed 4)
  | some channel =>
      let (outcome, s) := s.submitWithRetryFallback P
        (frameRequest s.trial s.nextPrepared again channel) c.automatic
      (s.retrySubmitted P again outcome).submitOutcome P outcome.status

/-- The frame that was prepared is given to the radio. -/
def submitFrame (P : Platform W) (s : TrialSystem W) : UInt8 × TrialSystem W :=
  let (c, s) := s.activate.claim P
  s.submitClaimed P c

/-! ## Planning -/

inductive Attempt
  | ready
  /-- The instant can no longer be met, or is too far away. -/
  | late
  | failed (reason : UInt8)

/-- The next frame is prepared and its start compared with the clock again. -/
def prepareInTime (P : Platform W) (minimum : UInt32) (s : TrialSystem W) :
    Attempt × TrialSystem W :=
  match s.prepareFrame P s.trial.nextFrame with
  | (false, s) => (.failed 5, s)
  | (true, s) =>
      let (ahead, s) := s.lead P s.nextPrepared.outerHs
      (if ahead ≥ minimum ∧ ahead ≤ 3200 then .ready else .late, s)

/-- One round of the loop over the frames; `ticket` is the lead the first one may use. -/
def attemptFrame (P : Platform W) (minimum : UInt32) (ticket : Bool) (s : TrialSystem W) :
    Attempt × TrialSystem W :=
  match sessionTime s.trial.plan s.trial.nextFrame 0 with
  | none => (.failed 4, s)
  | some (hs, hus) =>
      let (ahead, s) := s.lead P (receiveTimeShift s.trial.nextFrame hs hus).1
      let preparationMin := minimum + if ticket then 0 else 1
      if ahead ≥ preparationMin ∧ ahead ≤ 3200 then s.prepareInTime P minimum else (.late, s)

/-- The loop over frames until one can still be sent; `fuel` bounds the frames left.  The result is
the reason of a failure. -/
def planFrames (P : Platform W) (minimum : UInt32) :
    Nat → Bool → TrialSystem W → Option UInt8 × TrialSystem W
  | 0, _, s => (none, s)
  | fuel + 1, ticket, s =>
      if s.trial.nextFrame ≥ s.frameLimit then (none, s)
      else
        match s.attemptFrame P minimum ticket with
        | (.ready, s) => (none, s)
        | (.failed reason, s) => (some reason, s)
        | (.late, s) => planFrames P minimum fuel false (s.skipFrame P)

/-- The end of the stream. -/
def finishStream (P : Platform W) (s : TrialSystem W) : TrialSystem W :=
  let (confirmed, world) := P.sessionConfirmed s.world
  let s := { s with world }
  if s.trial.secondCommitted ∧ confirmed then s.finish P .finished 0 else s.finish P .failed 12

/-- The frames left are planned and the first one that can be sent is. -/
def planNext (P : Platform W) (minimum : UInt32) (ticket : Bool) (s : TrialSystem W) :
    UInt8 × TrialSystem W :=
  match s.planFrames P minimum (s.frameLimit - s.trial.nextFrame).toNat ticket with
  | (some reason, s) => (0, s.finish P .failed reason)
  | (none, s) =>
      if s.trial.nextFrame = s.frameLimit then (0, s.finishStream P) else s.submitFrame P

/-- The part of `ull_tone_trial_step` after collection. -/
def schedule (P : Platform W) (minimum : UInt32) (s : TrialSystem W) : UInt8 × TrialSystem W :=
  match s.advanceSecondStream P with
  | (error, s) =>
      if error ≠ 0 then (0, s.finish P .failed error)
      else
        let (ticket, retry) := s.retry.takeLead
        { s with retry }.planNext P minimum ticket

/-! ## Collection -/

/-- Half-microseconds from the requested start to a reply. -/
def replyElapsed (t : ToneTrial) (rx : RadioRxSnapshot) : Int :=
  ((rx.hs - t.requestedHs) &&& clockMask).toNat * 625 + rx.hus.toNat - t.requestedHus.toNat

/-- A control PDU goes to the raw layer with the parent PDU of the frame it answers. -/
def hearControl (P : Platform W) (control : AirControlRx) (s : TrialSystem W) : TrialSystem W :=
  let sent := s.trial.prepared (frameSlot s.trial.activeFrame)
  let s := if control.length ≠ 0 then s.onRetry P Retry.controlReceived else s
  { s with world := P.receiveAirControl control sent.parent s.world }.log
    (.control control sent.parent)

/-- A reply in time acknowledges the records of the frame. -/
def noteTx (s : TrialSystem W) : TrialSystem W :=
  let frame := s.trial.activeFrame
  let sent := s.trial.prepared (frameSlot frame)
  (s.onTrial fun t => { t with
    feedback := t.feedback.noteTx frame sent.streamMask sent.txSequence }).log
      (.noteTx frame sent.streamMask sent.txSequence)

/-- One snapshot of a result with the given phase. -/
def hearSnapshot (P : Platform W) (phase : RadioTxPhase) (s : TrialSystem W)
    (rx : RadioRxSnapshot) : TrialSystem W :=
  if rx.copied < 7 then s
  else
    let s := { s with ccmKey := some (planKey s.trial.plan) }
    match acceptFrame P.ccm s.trial.feedback s.trial.plan rx s.trial.activeFrame with
    | .error _ => s.onTrial fun t => { t with receivedRejected := t.receivedRejected + 1 }
    | .ok (feedback, control, frames) =>
        let s := { s with world := P.microphoneFrames frames s.world }.onTrial fun t => { t with
          feedback, receivedValid := t.receivedValid + 1 }
        let sent := s.trial.prepared (frameSlot s.trial.activeFrame)
        let ours := !sent.receive && sent.index == s.trial.activeFrame
        let s := if control.present ≠ 0 ∧ ours ∧ phase = .ended then s.hearControl P control else s
        let elapsed := replyElapsed s.trial rx
        if ours ∧ 0 ≤ elapsed ∧ elapsed < 6000 then s.noteTx else s

/-- `audio_sent`: the completed event carried stereo audio. -/
def audioSent (s : TrialSystem W) (phase : RadioTxPhase) : Bool :=
  let completed := s.trial.prepared (frameSlot s.trial.activeFrame)
  completed.valid && completed.index == s.trial.activeFrame && completed.stereoAudio &&
    phase == .ended

/-- A cancelled reservation is made again while its instant is still usable. -/
def giveBack (P : Platform W) (minimum : UInt32) (s : TrialSystem W) : TrialSystem W :=
  let (ahead, s) := s.lead P s.trial.requestedHs
  if ahead ≥ minimum + 1 ∧ ahead ≤ 3200 then
    s.onTrial fun t => { t with nextFrame := t.activeFrame }
  else
    (s.onTrial fun t => { t with skipped := t.skipped + 1 }).onRetry P Retry.burstSkip

/-- The trial goes on after a collected result. -/
def settle (P : Platform W) (minimum : UInt32) (result : RadioTxResult) (s : TrialSystem W) :
    TrialSystem W :=
  let s := { s with retry := s.retry.autoOrdinaryCompleted (s.audioSent result.phase) }
  let s := (result.rx.toList.take result.rxSnapshots.toNat).foldl (hearSnapshot P result.phase) s
  if result.phase = .cancelled ∧ result.txCount = 0 then s.giveBack P minimum else s

/-- The trial ends with a collected result, and how. -/
def collectionEnds (t : ToneTrial) (result : RadioTxResult) : Option (TrialPhase × UInt8) :=
  if result.phase ≠ .ended ∧ result.phase ≠ .cancelled then some (.failed, 3)
  else if t.cancel then
    some (if t.preparationFailure ≠ 0 then .failed else .cancelled, t.preparationFailure)
  else if result.rxInvalid ≠ 0 then some (.failed, 13)
  else none

/-- The policies learn how the event ended. -/
def retryCollected (P : Platform W) (phase : RadioTxPhase) (s : TrialSystem W) : TrialSystem W :=
  s.onRetry P fun now r => (r.burstDone now (some phase) 0).probeDone (some phase) 0

/-- A result is there and its storage is reclaimed. -/
def collected (P : Platform W) (minimum : UInt32) (result : RadioTxResult) (s : TrialSystem W) :
    UInt8 × TrialSystem W :=
  let s := (s.retryCollected P result.phase).onTrial fun t => { t with
    reports := t.reports + 1, txCount := t.txCount + result.txCount }
  match collectionEnds s.trial result with
  | some (phase, reason) =>
      (0, (s.log (.collected result.phase result.txCount true)).finish P phase reason)
  | none =>
      (((s.log (.collected result.phase result.txCount false)).settle P minimum
        result).report).schedule P minimum

/-- The trial waits for the event in flight. -/
def waitEvent (P : Platform W) (s : TrialSystem W) : TrialSystem W :=
  if s.trial.cancel then s
  else
    match s.advanceSecondStream P with
    | (error, s) =>
        if error ≠ 0 then
          { s with world := P.cancel s.world }.onTrial fun t => { t with
            preparationFailure := error, cancel := true }
        else s

/-- `ull_tone_trial_step` while an event is in flight. -/
def stepTransmitting (P : Platform W) (minimum : UInt32) (s : TrialSystem W) :
    UInt8 × TrialSystem W :=
  let (result, world) := P.collect s.world
  let s := { s with world }
  match result with
  | .lost result => (3, (s.retryCollected P result.phase).finish P .fault 2)
  | .pending => (0, s.waitEvent P)
  | .reclaimed result => s.collected P minimum result

/-- `ull_tone_trial_step` between events. -/
def stepWaiting (P : Platform W) (minimum : UInt32) (s : TrialSystem W) : UInt8 × TrialSystem W :=
  if s.trial.cancel then (0, s.finish P .cancelled 0)
  else
    let (confirmed, world) := P.sessionConfirmed s.world
    let s := { s with world }
    if !s.trial.firstConfirmed ∧ !confirmed then
      let (ahead, s) := s.lead P s.trial.plan.startHs
      if ahead < minimum + 1 ∨ ahead > 3200 then (0, s.finish P .failed 1) else (0, s)
    else (s.onTrial fun t => { t with firstConfirmed := true }).schedule P minimum

/-- `ull_tone_trial_step`. -/
def step (P : Platform W) (s : TrialSystem W) : UInt8 × TrialSystem W :=
  let s := s.onRetry P Retry.burstTick
  let (minimum, world) := P.minLead s.world
  let s := { s with world }
  match s.trial.phase with
  | .idle => (0x0c, s.report)
  | .waitE2 => s.stepWaiting P minimum
  | .transmitting => s.stepTransmitting P minimum
  | .fault => (3, s.report)
  | _ => (0, s.report)

/-- `ull_tone_trial_cancel`. -/
def cancel (P : Platform W) (s : TrialSystem W) : UInt8 × TrialSystem W :=
  let s := { s with retry := s.retry.cancel }.onTrial fun t => { t with cancel := true }
  let s := if s.trial.phase = .transmitting then { s with world := P.cancel s.world } else s
  s.step P

/-! ## Start and rearm -/

/-- Random access addresses until one is valid. -/
def chooseAddress (P : Platform W) : Nat → W → Option UInt32 × W
  | 0, world => (none, world)
  | fuel + 1, world =>
      let (aa, world) := P.random world
      if aaValid aa then (some aa, world) else chooseAddress P fuel world

/-- The seed of a session over `map`. -/
def sessionSeed (P : Platform W) (aa : UInt32) (map : Vector UInt8 5) (world : W) :
    AirSessionSeed × W :=
  let (iv, world) := P.randomIv world
  let (key, world) := P.randomKey world
  ({ accessAddress := aa, eventCounter := 0, receiveEnabled := 1, channelMap := map, key
     iv := Vector.ofFn fun i =>
       if i.val < 4 then iv[i] ^^^ (aa >>> UInt32.ofNat (8 * i.val)).toUInt8 else iv[i] }, world)

/-- The plan is forgotten after a start that failed with `status`. -/
def abandon (status : UInt8) (s : TrialSystem W) : UInt8 × TrialSystem W :=
  (status, s.onTrial fun t => { t with plan := planZero })

/-- The rest of `ull_tone_trial_start` once the session is prepared. -/
def startPrepared (P : Platform W) (s : TrialSystem W) : UInt8 × TrialSystem W :=
  let (crc, world) := P.sessionCrcInit s.world
  let s := { s with world }
  match crc with
  | .error status => s.abandon status
  | .ok crc =>
      match (s.onTrial fun t => { t with crcInit := crc }).prepareFrame P 0 with
      | (false, s) => { s with ccmKey := none }.abandon 0x0c
      | (true, s) =>
          let (status, world) := P.commitSession s.trial.plan s.world
          let s := { s with world }
          if status ≠ 0 then
            ({ s with ccmKey := none }.onTrial fun t => { t with
              prepared := fun _ => .zero }).abandon status
          else
            let (now, world) := P.timerUs s.world
            (0, ({ s with world }.onTrial fun t => { t with
              setupStartedUs := now, cancel := false, phase := .waitE2 }).report)

/-- `ull_tone_trial_start`. -/
def start (P : Platform W) (s : TrialSystem W) : UInt8 × TrialSystem W :=
  if s.trial.phase ≠ .idle then (0x0c, s)
  else
    let s := { s with ccmKey := none }.onTrial fun t => { t with
      streamStarts := t.streamStarts.set 1 0xffffffff Nat.one_lt_two }
    let (aa, world) := chooseAddress P 128 s.world
    match aa with
    | none => (0x0c, { s with world })
    | some aa =>
        let (map, world) := P.sessionChannelMap world
        match map with
        | .error status => (status, { s with world })
        | .ok map =>
            let (seed, world) := sessionSeed P aa map world
            let (plan, world) := P.prepareSession seed 2500 world
            match plan with
            | .error status => (status, { s with world })
            | .ok plan => ({ s with world }.onTrial fun t => { t with plan }).startPrepared P

/-- `ull_tone_trial_rearm`. -/
def rearm (P : Platform W) (s : TrialSystem W) : Bool × TrialSystem W :=
  match s.trial.phase with
  | .finished | .cancelled | .failed =>
      let (result, world) := P.collect s.world
      match result with
      | .reclaimed _ => (true, { s with
          trial := .zero, retry := s.retry.rearm, audioSource := false, continuous := false, world
          history := { s.history with calls := [], finished := false } })
      | _ => (false, { s with world })
  | _ => (false, s)

end TrialSystem

end UllReceiver.Trial
