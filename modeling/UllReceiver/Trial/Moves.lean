import UllReceiver.Library.Runs
import UllReceiver.Trial.Cache
import UllReceiver.Trial.Step
import Mathlib

/-!
# Moves of the trial

The calls of the controller, the console and the codec worker, and the moves they are made of.  A
move is one of the small changes a step is put together from; what may follow what is kept in the
stage.
-/

namespace UllReceiver.Trial

open Air Audio Parent Radio

/-- Whole calls. -/
inductive TrialAction (W : Type)
  | start
  | step
  | cancel
  | status
  | rearm
  | setAudioSource (on : Bool)
  | continuous (on : Bool)
  | probeArm
  | burstArm
  | cooldownProbeArm
  | autoEnable (on : Bool)
  | push (frame : Stereo)
  /-- The source is only rearmed between sessions. -/
  | rearmSource (paused : Bool)
  | world (world : W)

variable {W : Type}

namespace TrialSystem

def act (P : Platform W) (s : TrialSystem W) : TrialAction W → TrialSystem W
  | .start => (s.start P).2
  | .step => (s.step P).2
  | .cancel => (s.cancel P).2
  | .status => s.report
  | .rearm => (s.rearm P).2
  | .setAudioSource on => if s.trial.phase = .idle then { s with audioSource := on } else s
  | .continuous on => if s.trial.phase = .idle then { s with continuous := on } else s
  | .probeArm =>
      let (armed, retry) := s.retry.probeArm
      { s with retry, history := { s.history with
        probesArmed := s.history.probesArmed + armed.toNat } }
  | .burstArm =>
      let (now, world) := P.timerMs s.world
      let (armed, retry) := s.retry.burstArm now
      { s with retry, world, history := { s.history with
        burstsArmed := s.history.burstsArmed + armed.toNat } }
  | .cooldownProbeArm => { s with retry := s.retry.cooldownProbeArm.2 }
  | .autoEnable on => { s with retry := s.retry.autoEnable on }
  | .push frame => { s with source := s.source.step (.push frame) }
  | .rearmSource paused =>
      if s.trial.phase = .idle then { s with source := s.source.step (.rearm paused) } else s
  | .world world => { s with world }

/-- Some call leads from `s` to `s'`. -/
def Step (P : Platform W) (s : TrialSystem W) (a : TrialAction W) (s' : TrialSystem W) : Prop :=
  s.act P a = s'

/-- The calls of `trace`, one after the other. -/
def run (P : Platform W) (s : TrialSystem W) (trace : List (TrialAction W)) : TrialSystem W :=
  trace.foldl (act P) s

theorem run_steps (P : Platform W) (s : TrialSystem W) (trace : List (TrialAction W)) :
    Library.Run (Step P) s trace (s.run P trace) := by
  induction trace using List.reverseRecOn with
  | nil => exact .nil
  | append_singleton trace action ih =>
      unfold run
      rw [List.foldl_append]
      exact ih.snoc rfl

end TrialSystem

/-- Stereo from frame 2 on, and a probe armed just before the poll of frame 8. -/
def wheelTrace : List (TrialAction Nat) :=
  [.setAudioSource true, .start, .step, .step, .step, .step, .push default, .step, .push default,
    .step, .push default, .step, .push default, .step, .push default, .status, .probeArm, .step]

def wheelRun : TrialSystem Nat :=
  (TrialSystem.init 0).run wheelPlatform wheelTrace

theorem wheel_steps :
    Library.Run (TrialSystem.Step wheelPlatform) (.init 0) wheelTrace wheelRun :=
  TrialSystem.run_steps wheelPlatform _ wheelTrace

/-- Where the trial stands between two moves. -/
inductive Stage
  /-- No event is with the radio. -/
  | rest
  /-- A session has a plan but is not committed. -/
  | starting
  /-- A prepared frame is about to be submitted. -/
  | claimed
  /-- The same, after a conflict of the automatic repeat. -/
  | fallback
  /-- The radio took it. -/
  | sent
  | flying
  /-- Its result has been collected and is being dealt with. -/
  | settling
  /-- Its result ends the trial. -/
  | ending
deriving DecidableEq

/-- A session is under way. -/
def Active (phase : TrialPhase) : Prop :=
  phase = .waitE2 ∨ phase = .transmitting

/-- The next frame stands prepared for the feedback and the parent as they are. -/
structure TrialSystem.Ready (s : TrialSystem W) : Prop where
  next : s.trial.nextFrame < s.frameLimit
  valid : (s.trial.prepared (frameSlot s.trial.nextFrame)).valid = true
  same : (s.trial.prepared (frameSlot s.trial.nextFrame)).key.Same
    (s.trial.frameKey s.trial.nextFrame s.history.parent)
  proper : (s.trial.frameKey s.trial.nextFrame s.history.parent).Proper

/-- The request carries the frame. -/
structure FrameRequest (p : PreparedFrame) (r : RadioTxRequest) : Prop where
  startHs : r.startHs = p.outerHs
  startHus : r.startHus = p.outerHus
  payload : r.payload = p.wire
  channel : r.channel = p.channel
  header : r.header = p.header

/-- Changes that concern the second stream alone. -/
structure Joined (t t' : ToneTrial) : Prop where
  same : t' = { t with
    secondRequested := t'.secondRequested, secondCommitted := t'.secondCommitted
    secondConfirmed := t'.secondConfirmed, streamStarts := t'.streamStarts }

/-- The submission of `request` in state `s`, answered with `status`. -/
def TrialSystem.submission (s : TrialSystem W) (request : RadioTxRequest) (status : UInt8) :
    Call :=
  .submit { trial := s.trial, parent := s.history.parent, request, status }

/-- The newest collected result. -/
def lastCollected : List Call → Option (RadioTxPhase × UInt16)
  | [] => none
  | .collected phase txCount _ :: _ => some (phase, txCount)
  | _ :: calls => lastCollected calls

/-- The newest submission the radio took. -/
def lastSubmitted : List Call → Option Submission
  | [] => none
  | .submit s :: calls => if s.status = 0 then some s else lastSubmitted calls
  | _ :: calls => lastSubmitted calls

theorem lastSubmitted_mem {calls : List Call} {s : Submission} (h : lastSubmitted calls = some s) :
    .submit s ∈ calls := by
  induction calls with
  | nil => exact (nomatch h)
  | cons c calls ih =>
      cases c with
      | submit s' =>
          unfold lastSubmitted at h
          split at h
          · rw [Option.some.inj h]
            exact List.mem_cons_self
          · exact List.mem_cons_of_mem _ (ih h)
      | _ => exact List.mem_cons_of_mem _ (ih h)

/-- Calls of others, possible at any time between steps. -/
inductive Aside (P : Platform W) (s : TrialSystem W) : TrialSystem W → Prop
  | tick (now : UInt32) : Aside P s { s with retry := s.retry.burstTick now }
  | probeArm : Aside P s (s.act P .probeArm)
  | burstArm : Aside P s (s.act P .burstArm)
  | cooldownProbeArm : Aside P s (s.act P .cooldownProbeArm)
  | autoEnable (on : Bool) : Aside P s (s.act P (.autoEnable on))
  | push (frame : Stereo) : Aside P s (s.act P (.push frame))
  | cancel : Aside P s ({ s with retry := s.retry.cancel }.onTrial fun t => { t with cancel := true })
  | joined (t : ToneTrial) (h : Joined s.trial t) : Aside P s { s with trial := t }

inductive Move (P : Platform W) : Stage × TrialSystem W → Stage × TrialSystem W → Prop
  | world {st s} (world : W) : Move P (st, s) (st, { s with world })
  | report {st s} : Move P (st, s) (st, s.report)
  | asideRest {s s'} (h : Aside P s s') : Move P (.rest, s) (.rest, s')
  | asideFlying {s s'} (h : Aside P s s') : Move P (.flying, s) (.flying, s')
  -- between sessions
  | setAudioSource {s} (on : Bool) (hidle : s.trial.phase = .idle) :
      Move P (.rest, s) (.rest, { s with audioSource := on })
  | continuous {s} (on : Bool) (hidle : s.trial.phase = .idle) :
      Move P (.rest, s) (.rest, { s with continuous := on })
  | rearmSource {s} (paused : Bool) (hidle : s.trial.phase = .idle) :
      Move P (.rest, s) (.rest, { s with source := s.source.step (.rearm paused) })
  | rearm {s} (hphase : s.trial.phase = .finished ∨ s.trial.phase = .cancelled ∨
        s.trial.phase = .failed) :
      Move P (.rest, s) (.rest, { s with
        trial := .zero, retry := s.retry.rearm, audioSource := false, continuous := false
        history := { s.history with calls := [], finished := false } })
  -- the start of a session
  | begin {s} (hidle : s.trial.phase = .idle) (starts : Vector UInt32 2) :
      Move P (.rest, s) (.rest, { s with
        ccmKey := none, trial := { s.trial with streamStarts := starts } })
  | plan {s} (hidle : s.trial.phase = .idle) (plan : AirSessionPlan) :
      Move P (.rest, s) (.starting, { s with trial := { s.trial with plan } })
  | crc {s} (crcInit : UInt32) :
      Move P (.starting, s) (.starting, { s with trial := { s.trial with crcInit } })
  | prepareFirst {s} : Move P (.starting, s) (.starting, (s.prepareFrame P 0).2)
  | abandon {s} (prepared : Fin 2 → PreparedFrame) (h : ∀ i, (prepared i).valid = false) :
      Move P (.starting, s) (.rest, { s with
        ccmKey := none, trial := { s.trial with plan := planZero, prepared } })
  | commit {s} (now : Int) :
      Move P (.starting, s) (.rest, s.onTrial fun t => { t with
        setupStartedUs := now, cancel := false, phase := .waitE2 })
  -- planning
  | confirm {s} : Move P (.rest, s) (.rest, s.onTrial fun t => { t with firstConfirmed := true })
  | takeLead {s} : Move P (.rest, s) (.rest, { s with retry := s.retry.takeLead.2 })
  | prepare {s} (hnext : s.trial.nextFrame < s.frameLimit) (hphase : Active s.trial.phase) :
      Move P (.rest, s) (.rest, (s.prepareFrame P s.trial.nextFrame).2)
  | skip {s} (hnext : s.trial.nextFrame < s.frameLimit) (hphase : Active s.trial.phase) :
      Move P (.rest, s) (.rest, s.skipFrame P)
  | wait {s} (hphase : Active s.trial.phase) :
      Move P (.rest, s) (.rest, s.onTrial fun t => { t with phase := .waitE2 })
  -- submission
  | claim {s} (h : s.Ready) (hphase : Active s.trial.phase) :
      Move P (.rest, s) (.claimed, (s.activate.claim P).2)
  | accepted {s} (request : RadioTxRequest) (h : FrameRequest s.nextPrepared request) :
      Move P (.claimed, s) (.sent, s.log (s.submission request 0))
  | refused {s} (request : RadioTxRequest) (h : FrameRequest s.nextPrepared request)
      (status : UInt8) (hstatus : status ≠ 0) :
      Move P (.claimed, s) (.claimed, s.log (s.submission request status))
  | fallback {s} (now : UInt32) (status : UInt8) (hstatus : status ≠ 0) :
      Move P (.claimed, s) (.fallback, { s with retry := s.retry.fallbackStart now status })
  | fallbackSent {s} (request : RadioTxRequest) (h : FrameRequest s.nextPrepared request) :
      Move P (.fallback, s) (.sent, { s.log (s.submission request 0) with
        retry := s.retry.fallbackEnd true })
  | fallbackRejected {s} (request : RadioTxRequest) (h : FrameRequest s.nextPrepared request)
      (status : UInt8) (hstatus : status ≠ 0) :
      Move P (.fallback, s) (.claimed, { s.log (s.submission request status) with
        retry := s.retry.fallbackEnd false })
  | submitted {s} (now : UInt32) (recorded repeated fallback : Bool) :
      Move P (.sent, s) (.sent, { s with
        retry := (s.retry.submitted now 0 recorded repeated fallback).probeFollowed
          s.trial.activeFrame })
  | unsubmitted {s} (now : UInt32) (status : UInt8) (hstatus : status ≠ 0)
      (recorded repeated fallback : Bool) (hrecorded : recorded = true → s.retry.burstActive = false) :
      Move P (.claimed, s) (.rest, { s with
        retry := s.retry.submitted now status recorded repeated fallback })
  | launch {s} :
      Move P (.sent, s) (.flying, s.onTrial fun t => { t with
        nextFrame := t.nextFrame + 1, submitted := t.submitted + 1, phase := .transmitting })
  -- in flight
  | prepareNext {s} (index : UInt32) (hindex : index = s.trial.activeFrame + 1) :
      Move P (.flying, s) (.flying, (s.prepareFrame P index).2)
  | alternate {s} (index : UInt32) (hindex : index = s.trial.activeFrame + 1) :
      Move P (.flying, s) (.flying, (s.prepareAlternate P index).2)
  | giveUp {s} (error : UInt8) :
      Move P (.flying, s) (.flying, s.onTrial fun t => { t with
        preparationFailure := error, cancel := true })
  | lost {s} (now : UInt32) (phase : RadioTxPhase) :
      Move P (.flying, s) (.flying, { s with
        retry := (s.retry.burstDone now (some phase) 0).probeDone (some phase) 0 })
  | collected {s} (now : UInt32) (result : RadioTxResult) (ended : Bool) :
      Move P (.flying, s) (if ended then .ending else .settling, ({ s with
        retry := (s.retry.burstDone now (some result.phase) 0).probeDone
          (some result.phase) 0 }.onTrial
          fun t => { t with reports := t.reports + 1, txCount := t.txCount + result.txCount }).log
            (.collected result.phase result.txCount ended))
  -- the result
  | ordinary {s} (stereo : Bool) :
      Move P (.settling, s) (.settling, { s with retry := s.retry.autoOrdinaryCompleted stereo })
  | heard {s} (feedback : AirFeedback) (valid rejected : UInt32) (key : Vector UInt8 16) :
      Move P (.settling, s) (.settling, { s with
        ccmKey := some key, trial := { s.trial with
          feedback, receivedValid := valid, receivedRejected := rejected } })
  | controlReceived {s} (now : UInt32) :
      Move P (.settling, s) (.settling, { s with retry := s.retry.controlReceived now })
  | control {s} (control : AirControlRx) :
      Move P (.settling, s) (.settling, s.log
        (.control control (s.trial.prepared (frameSlot s.trial.activeFrame)).parent))
  | noteTx {s} : Move P (.settling, s) (.settling, s.noteTx)
  | rewind {s} (h : lastCollected s.history.calls = some (.cancelled, 0)) :
      Move P (.settling, s) (.rest, s.onTrial fun t => { t with nextFrame := t.activeFrame })
  | drop {s} (now : UInt32) (h : lastCollected s.history.calls = some (.cancelled, 0)) :
      Move P (.settling, s) (.rest, { s with retry := s.retry.burstSkip now }.onTrial
        fun t => { t with skipped := t.skipped + 1 })
  | settled {s} (h : lastCollected s.history.calls ≠ some (.cancelled, 0)) :
      Move P (.settling, s) (.rest, s)
  -- the end
  | finish {st s} (phase : TrialPhase) (reason : UInt8)
      (hphase : phase = .finished ∨ phase = .cancelled ∨ phase = .failed)
      (hst : st = .rest ∨ st = .claimed ∨ st = .ending) (hactive : Active s.trial.phase) :
      Move P (st, s) (.rest, s.finish P phase reason)
  | fault {s} (reason : UInt8) : Move P (.flying, s) (.rest, s.finish P .fault reason)

abbrev Moves (P : Platform W) : Stage × TrialSystem W → Stage × TrialSystem W → Prop :=
  Relation.ReflTransGen (Move P)

end UllReceiver.Trial
