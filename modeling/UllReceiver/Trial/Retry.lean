import UllReceiver.Radio.Request

/-!
# Repeated transmissions

The ownership of repeated audio in `tone_trial.c`: the single probe and the burst armed from the
console, and the automatic repeat with its cooldown.  `now` is the millisecond clock a call reads.
Measurements that nothing reads back are left out.
-/

namespace UllReceiver.Trial

open Radio

inductive TrialPhase
  | idle
  | waitE2
  | transmitting
  | finished
  | cancelled
  | failed
  | fault
deriving DecidableEq

/-- `retry_owner`. -/
inductive RetryOwner
  | free
  | probe
  | burst
  | automatic
deriving DecidableEq

/-- `retry_burst[0]`. -/
inductive BurstState
  | unused
  | armed
  | running
  | ended
deriving DecidableEq

/-- `retry_probe_state`. -/
inductive ProbeState
  | idle
  | pending
  | active
  | collected
  | failed
deriving DecidableEq

/-- `auto_cooldown_probe`. -/
inductive CooldownProbe
  | unused
  | requested
  | closed
deriving DecidableEq

structure Retry where
  /-- `stream_state[0]`, the phase the console sees. -/
  streamPhase : TrialPhase
  owner : RetryOwner
  probeState : ProbeState
  /-- `retry_probe_values[0]`. -/
  probeFrame : UInt32
  probeActive : Bool
  probeNextPending : Bool
  probeLeadTicket : Bool
  burstState : BurstState
  burstReason : UInt32
  burstAttempted : UInt32
  burstCompleted : UInt32
  burstSubmitFailed : UInt32
  burstSkipped : UInt32
  burstStartedMs : UInt32
  burstActive : Bool
  burstWatch : Bool
  burstLead : Bool
  autoEnabled : Bool
  autoActive : Bool
  autoBlocked : Bool
  autoAttempted : UInt32
  autoCompleted : UInt32
  autoFailed : UInt32
  autoSkipped : UInt32
  autoWarmup : UInt32
  autoLastFrame : UInt32
  autoFailedSkipPending : Bool
  autoLastSubmittedRepeat : Bool
  autoCooldown : Bool
  autoStableFrames : UInt32
  autoRecoveries : UInt32
  autoCooldownSince : UInt32
  autoCooldownProbe : CooldownProbe
  /-- `live_retry_errors`. -/
  scheduleConflicts : UInt32
  timesExpired : UInt32
  /-- `live_retry_fallback`. -/
  fallbackAttempted : UInt32
  fallbackSent : UInt32
  fallbackRejected : UInt32
  controlLastDataMs : UInt32
  /-- `control_retry_policy`. -/
  controlRepeated : UInt32
  controlHeld : UInt32
  controlData : UInt32
deriving DecidableEq

def burstBudget : UInt32 := 24000

namespace Retry

/-- At boot. -/
def init : Retry where
  streamPhase := .idle
  owner := .free
  probeState := .idle
  probeFrame := 0
  probeActive := false
  probeNextPending := false
  probeLeadTicket := false
  burstState := .unused
  burstReason := 0
  burstAttempted := 0
  burstCompleted := 0
  burstSubmitFailed := 0
  burstSkipped := 0
  burstStartedMs := 0
  burstActive := false
  burstWatch := false
  burstLead := false
  autoEnabled := true
  autoActive := false
  autoBlocked := false
  autoAttempted := 0
  autoCompleted := 0
  autoFailed := 0
  autoSkipped := 0
  autoWarmup := 0
  autoLastFrame := 0xffffffff
  autoFailedSkipPending := false
  autoLastSubmittedRepeat := false
  autoCooldown := false
  autoStableFrames := 0
  autoRecoveries := 0
  autoCooldownSince := 0
  autoCooldownProbe := .unused
  scheduleConflicts := 0
  timesExpired := 0
  fallbackAttempted := 0
  fallbackSent := 0
  fallbackRejected := 0
  controlLastDataMs := 0
  controlRepeated := 0
  controlHeld := 0
  controlData := 0

/-! ## Console -/

/-- `ull_tone_trial_retry_probe_arm`. -/
def probeArm (r : Retry) : Bool × Retry :=
  if r.streamPhase ≠ .transmitting ∨ r.owner ≠ .free then (false, r)
  else if r.probeState = .idle then (true, { r with owner := .probe, probeState := .pending })
  else (false, { r with owner := .free })

/-- `ull_tone_trial_retry_burst_arm`; the start is noted before the state is looked at. -/
def burstArm (now : UInt32) (r : Retry) : Bool × Retry :=
  if r.streamPhase ≠ .transmitting ∨ r.owner ≠ .free then (false, r)
  else if r.burstState = .unused then
    (true, { r with owner := .burst, burstState := .armed, burstStartedMs := now })
  else (false, { r with owner := .free, burstStartedMs := now })

/-- `ull_tone_trial_retry_cooldown_probe_arm`. -/
def cooldownProbeArm (r : Retry) : Bool × Retry :=
  if !r.autoEnabled ∨ r.owner ≠ .automatic ∨ r.autoBlocked then (false, r)
  else if r.autoCooldownProbe = .unused then (true, { r with autoCooldownProbe := .requested })
  else (false, r)

/-- `ull_tone_trial_retry_auto_enable`. -/
def autoEnable (enabled : Bool) (r : Retry) : Retry :=
  { r with autoEnabled := enabled }

/-! ## Automatic repeat -/

def autoRelease (r : Retry) : Retry :=
  { r with autoActive := false, owner := if r.owner = .automatic then .free else r.owner }

def autoBlock (r : Retry) : Retry :=
  { r with
    autoCooldown := false, autoStableFrames := 0, autoBlocked := true, burstWatch := false
    burstLead := false }.autoRelease

def autoCooldownStart (now : UInt32) (r : Retry) : Retry :=
  { r with
    autoCooldownSince := now, autoStableFrames := 0, autoCooldown := true, burstWatch := false
    burstLead := false }.autoRelease

/-- `auto_ordinary_completed`. -/
def autoOrdinaryCompleted (stereo : Bool) (r : Retry) : Retry :=
  if !r.autoCooldown then r
  else if !stereo ∨ r.autoLastSubmittedRepeat then { r with autoStableFrames := 0 }
  else if r.autoStableFrames < 50 then { r with autoStableFrames := r.autoStableFrames + 1 }
  else r

/-- The warm-up count: one for each frame asked about. -/
def autoWarm (frame : UInt32) (r : Retry) : Retry :=
  if r.autoLastFrame = frame then r
  else { r with
    autoLastFrame := frame
    autoWarmup := if r.autoWarmup < 1000 then r.autoWarmup + 1 else r.autoWarmup }

/-- `auto_take`; `cancel` and `frame` are the trial's cancel flag and active frame. -/
def autoTake (now : UInt32) (eligible cancel : Bool) (frame : UInt32) (r : Retry) : Bool × Retry :=
  if !eligible ∨ cancel ∨ !r.autoEnabled ∨ r.autoBlocked then (false, r)
  else if r.owner ≠ .free ∧ r.owner ≠ .automatic then (false, r)
  else if r.owner = .automatic ∧ !r.burstActive ∧ r.autoCooldownProbe = .requested then
    (false, { r with autoCooldownProbe := .closed }.autoCooldownStart now)
  else if r.autoCooldown ∧ (r.autoStableFrames < 50 ∨ now - r.autoCooldownSince < 250) then
    (false, r)
  else
    let r := r.autoWarm frame
    if r.autoWarmup < 1000 ∨ frame < 1000 then (false, r)
    else (true, { r with
      owner := .automatic
      autoRecoveries := if r.autoCooldown then r.autoRecoveries + 1 else r.autoRecoveries
      autoCooldown := false, autoActive := true, autoAttempted := r.autoAttempted + 1
      burstActive := true })

/-! ## Burst -/

def burstEnd (reason : UInt32) (r : Retry) : Retry :=
  let r := if r.burstState = .armed ∨ r.burstState = .running then
      { r with burstReason := reason, burstState := .ended }
    else r
  if !r.burstActive ∧ !r.burstWatch ∧ r.owner = .burst then { r with owner := .free } else r

def burstTick (now : UInt32) (r : Retry) : Retry :=
  let r := if r.owner = .automatic ∧ !r.autoEnabled ∧ !r.burstActive ∧ !r.burstWatch then
      r.autoRelease
    else r
  if (r.burstState = .armed ∨ r.burstState = .running) ∧ now - r.burstStartedMs ≥ 125000 then
    r.burstEnd 2
  else r

def burstTake (now : UInt32) (eligible : Bool) (r : Retry) : Bool × Retry :=
  let r := r.burstTick now
  if !eligible ∨ (r.burstState ≠ .armed ∧ r.burstState ≠ .running) then (false, r)
  else if r.burstAttempted ≥ burstBudget then (false, r.burstEnd 1)
  else (true, { r with
    burstState := .running, burstAttempted := r.burstAttempted + 1, burstActive := true })

/-- The automatic repeat in flight has failed. -/
def autoFail (now : UInt32) (error : UInt8) (r : Retry) : Retry :=
  let r := if error ≠ 0 then
      { r with
        autoFailedSkipPending := true
        scheduleConflicts :=
          if error = scheduleConflict then r.scheduleConflicts + 1 else r.scheduleConflicts
        timesExpired := if error = timeExpired then r.timesExpired + 1 else r.timesExpired }
    else r
  let r := { r with autoFailed := r.autoFailed + 1 }
  if error = timeExpired ∨ error = scheduleConflict then r.autoCooldownStart now else r.autoBlock

/-- `burst_done`; `result` is the phase of the result, none for a null pointer. -/
def burstDone (now : UInt32) (result : Option RadioTxPhase) (error : UInt8) (r : Retry) : Retry :=
  if !r.burstActive then r
  else
    let r := { r with burstActive := false }
    if r.owner = .automatic then
      if error ≠ 0 ∨ result ≠ some .ended then r.autoFail now error
      else { r with autoCompleted := r.autoCompleted + 1, burstWatch := true, burstLead := true }
    else if error ≠ 0 then { r with burstSubmitFailed := r.burstSubmitFailed + 1 }.burstEnd 6
    else if result ≠ some .ended then r.burstEnd 4
    else
      let r := { r with
        burstCompleted := r.burstCompleted + 1, burstWatch := true, burstLead := true }
      if r.burstAttempted ≥ burstBudget then r.burstEnd 1 else r

def burstSkip (now : UInt32) (r : Retry) : Retry :=
  let r := if r.autoCooldown then { r with autoStableFrames := 0 } else r
  let r := if r.autoFailedSkipPending then
      { r with autoSkipped := r.autoSkipped + 1, autoFailedSkipPending := false }
    else r
  if !r.burstWatch then
    if !r.autoActive ∧ !r.autoCooldown then { r with autoWarmup := 0, autoLastFrame := 0xffffffff }
    else r
  else if r.owner = .automatic then
    { r with autoSkipped := r.autoSkipped + 1 }.autoCooldownStart now
  else
    { r with
      burstSkipped := r.burstSkipped + 1, burstWatch := false, burstLead := false }.burstEnd 5

def burstSubmitted (r : Retry) : Retry :=
  let r := { r with burstWatch := false }
  let r := if r.owner = .automatic ∧ !r.burstActive ∧ !r.autoEnabled then r.autoRelease else r
  if r.burstState = .ended then r.burstEnd r.burstReason else r

/-! ## Probe -/

/-- `retry_probe_take`. -/
def probeTake (eligible : Bool) (frame : UInt32) (r : Retry) : Bool × Retry :=
  if eligible ∧ r.probeState = .pending then
    (true, { r with probeState := .active, probeFrame := frame, probeActive := true })
  else (false, r)

/-- `retry_probe_done`; `result` is the phase of the result, none for a null pointer. -/
def probeDone (result : Option RadioTxPhase) (error : UInt8) (r : Retry) : Retry :=
  if !r.probeActive then r
  else
    let next := error == 0 && result == some .ended
    { r with
      probeNextPending := next, probeLeadTicket := next, probeActive := false
      owner := if next then r.owner else .free
      probeState := if error ≠ 0 ∨ result = some .fault then .failed else .collected }

/-- The first frame sent after the probe releases its ownership. -/
def probeFollowed (frame : UInt32) (r : Retry) : Retry :=
  if r.probeNextPending ∧ frame > r.probeFrame then
    { r with
      probeNextPending := false, owner := if r.owner = .probe then .free else r.owner }
  else r

/-! ## Trial -/

/-- The leads the next attempt may use are handed out once. -/
def takeLead (r : Retry) : Bool × Retry :=
  (r.probeLeadTicket || r.burstLead, { r with burstLead := false, probeLeadTicket := false })

/-- A conflict of the automatic repeat; the frame is tried once more as a single transmission. -/
def fallbackStart (now : UInt32) (status : UInt8) (r : Retry) : Retry :=
  let r := r.burstDone now none status
  { r with fallbackAttempted := r.fallbackAttempted + 1 }

def fallbackEnd (sent : Bool) (r : Retry) : Retry :=
  if sent then { r with autoFailedSkipPending := false, fallbackSent := r.fallbackSent + 1 }
  else { r with fallbackRejected := r.fallbackRejected + 1 }

/-- What follows a submission that returned `status`; a failure may be recorded already. -/
def submitted (now : UInt32) (status : UInt8) (recorded repeated fallback : Bool) (r : Retry) :
    Retry :=
  if status ≠ 0 then
    (if recorded then r else r.burstDone now none status).probeDone none status
  else { r with autoLastSubmittedRepeat := repeated && !fallback }.burstSubmitted

/-- The first lines of `finish`: the probe and what waits for its result. -/
def closeProbe (phase : TrialPhase) (r : Retry) : Retry :=
  let request : CooldownProbe :=
    if r.autoCooldownProbe = .requested then .closed else r.autoCooldownProbe
  let dropped : ProbeState := if r.probeState = .pending then .failed else r.probeState
  let r := { r with autoCooldownProbe := request, streamPhase := phase, probeState := dropped }
  let r := r.probeDone none 0xff
  { r with
    probeNextPending := false, probeLeadTicket := false, burstWatch := false, burstLead := false }

/-- The part of `finish`. -/
def finish (now : UInt32) (phase : TrialPhase) (r : Retry) : Retry :=
  let r := (r.closeProbe phase).burstDone now none 0
  let r := r.burstEnd (if phase = .cancelled then 3 else 4)
  { r with
    autoCooldown := false, autoStableFrames := 0, autoActive := false, autoBlocked := true
    owner := .free }

/-- The part of `ull_tone_trial_rearm`. -/
def rearm (r : Retry) : Retry :=
  { r with
    autoActive := false, autoBlocked := false, autoWarmup := 0, autoLastFrame := 0xffffffff
    autoFailedSkipPending := false, autoCooldown := false, autoStableFrames := 0
    autoLastSubmittedRepeat := false, streamPhase := .idle }

/-- The part of `ull_tone_trial_cancel`. -/
def cancel (r : Retry) : Retry :=
  { r.burstEnd 3 with burstLead := false }

/-- `control_retry_quiet`. -/
def controlQuiet (now : UInt32) (r : Retry) : Bool :=
  r.controlLastDataMs == 0 || decide (now - r.controlLastDataMs ≥ 5000)

/-- A non-empty control PDU was received. -/
def controlReceived (now : UInt32) (r : Retry) : Retry :=
  { r with
    controlLastDataMs := if now ≠ 0 then now else 1
    controlData := r.controlData + 1 }

end Retry

end UllReceiver.Trial
