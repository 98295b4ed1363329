import UllReceiver.Trial.Moves

/-!
# Deeds of the trial

What the trial does to its policies, deed by deed, with the millisecond in which each is done.
-/

namespace UllReceiver.Trial

open Air Audio Parent Radio

variable {W : Type}

/-! ## Time -/

/-- A call of the platform in `w` leaves the world it leads to. -/
inductive Platform.After (P : Platform W) (w : W) : W → Prop
  | clockHs : After P w (P.clockHs w).2
  | timerUs : After P w (P.timerUs w).2
  | timerMs : After P w (P.timerMs w).2
  | random : After P w (P.random w).2
  | randomIv : After P w (P.randomIv w).2
  | randomKey : After P w (P.randomKey w).2
  | arrivals : After P w (P.arrivals w).2
  | minLead : After P w (P.minLead w).2
  | submit (request : RadioTxRequest) : After P w (P.submit request w).2
  | cancel : After P w (P.cancel w)
  | collect : After P w (P.collect w).2
  | sessionConfirmed : After P w (P.sessionConfirmed w).2
  | sessionChannelMap : After P w (P.sessionChannelMap w).2
  | prepareSession (seed : AirSessionSeed) (offset : UInt32) :
      After P w (P.prepareSession seed offset w).2
  | sessionCrcInit : After P w (P.sessionCrcInit w).2
  | commitSession (plan : AirSessionPlan) : After P w (P.commitSession plan w).2
  | requestSecondStream (plan : AirSessionPlan) : After P w (P.requestSecondStream plan w).2
  | secondStreamReady : After P w (P.secondStreamReady w).2
  | prepareSecondStream (plan : AirSessionPlan) : After P w (P.prepareSecondStream plan w).2
  | parentAirPdu : After P w (P.parentAirPdu w).2
  | detachedParentAirPdu : After P w (P.detachedParentAirPdu w).2
  | receiveAirControl (rx : AirControlRx) (parent : ParentPdu) :
      After P w (P.receiveAirControl rx parent w)
  | microphoneFrames (frames : List MicrophoneFrame) : After P w (P.microphoneFrames frames w)

/-- `ms` are the milliseconds since boot, of which `esp_timer_get_time()/1000` keeps the low 32 bits.
Time does not go back. -/
structure Platform.Clock (P : Platform W) (ms : W → Nat) : Prop where
  reads : ∀ w, (P.timerMs w).1 = UInt32.ofNat (ms w)
  onward : ∀ w w', P.After w w' → ms w ≤ ms w'

/-- A call of others while time does not go back. -/
def TrialSystem.Timely (P : Platform W) (ms : W → Nat) (s : TrialSystem W) (a : TrialAction W)
    (s' : TrialSystem W) : Prop :=
  TrialSystem.Step P s a s' ∧ ms s.world ≤ ms s'.world

/-! ## Deeds -/

/-- The radio was asked to send the frame twice. -/
def Submission.repeated (sub : Submission) : Bool :=
  sub.request.repeatPayload != 0

inductive Deed
  | tick
  | cancel
  | probeArm
  | burstArm
  | cooldownProbeArm
  | autoEnable (on : Bool)
  | report (phase : TrialPhase)
  | takeLead
  /-- `retry_audio_eligible` was asked about the frame. -/
  | eligible (p : PreparedFrame) (yes : Bool)
  | probeTake (yes : Bool) (frame : UInt32)
  | burstTake (yes : Bool)
  /-- `auto_take` is asked unless the probe or the burst took the frame. -/
  | claim (c : Claim) (yes cancelled : Bool)
  | sent (sub : Submission)
  | refused (sub : Submission)
  /-- The automatic repeat met a conflict. -/
  | conflict (sub : Submission)
  | sentSingle (sub : Submission)
  /-- With the status of the repeat. -/
  | refusedSingle (sub : Submission) (status : UInt8)
  | collected (phase : RadioTxPhase) (txCount : UInt16) (ended : Bool)
  | lost (phase : RadioTxPhase)
  /-- An event is over that held the frame `index` and ended in `phase`. -/
  | completed (p : PreparedFrame) (index : UInt32) (phase : RadioTxPhase)
  | control (rx : AirControlRx) (parent : ParentPdu)
  | noteTx (frame : UInt32) (streamMask : UInt8) (txSequence : Vector UInt8 2)
  | skip
  | finish (phase : TrialPhase)
  | rearm

/-- `audio_sent`. -/
def stereoSent (p : PreparedFrame) (index : UInt32) (phase : RadioTxPhase) : Bool :=
  p.valid && p.index == index && p.stereoAudio && phase == .ended

namespace Deed

/-- What a deed makes of the policies when the clock reads `now`. -/
def retry (now : UInt32) (r : Retry) : Deed → Retry
  | .tick => r.burstTick now
  | .cancel => r.cancel
  | .probeArm => r.probeArm.2
  | .burstArm => (r.burstArm now).2
  | .cooldownProbeArm => r.cooldownProbeArm.2
  | .autoEnable on => r.autoEnable on
  | .report phase => { r with streamPhase := phase }
  | .takeLead => r.takeLead.2
  | .eligible p yes =>
      if p.stereoAudio ∧ p.header = 0x32 ∧ p.length = 205 then
        if yes then { r with controlRepeated := r.controlRepeated + 1 }
        else { r with controlHeld := r.controlHeld + 1 }
      else r
  | .probeTake yes frame => (r.probeTake yes frame).2
  | .burstTake yes => (r.burstTake now yes).2
  | .claim c yes cancelled =>
      if c.probe ∨ c.burst then r else (r.autoTake now yes cancelled c.frame).2
  | .sent sub =>
      (r.submitted now 0 false sub.repeated false).probeFollowed sub.trial.activeFrame
  | .refused sub => (r.burstDone now none sub.status).probeDone none sub.status
  | .conflict sub => r.fallbackStart now sub.status
  | .sentSingle sub =>
      ((r.fallbackEnd true).submitted now 0 true true true).probeFollowed sub.trial.activeFrame
  | .refusedSingle _ status => (r.fallbackEnd false).probeDone none status
  | .collected phase _ _ => (r.burstDone now (some phase) 0).probeDone (some phase) 0
  | .lost phase => (r.burstDone now (some phase) 0).probeDone (some phase) 0
  | .completed p index phase => r.autoOrdinaryCompleted (stereoSent p index phase)
  | .control rx _ => if rx.length ≠ 0 then r.controlReceived now else r
  | .noteTx _ _ _ => r
  | .skip => r.burstSkip now
  | .finish phase => r.finish now phase
  | .rearm => r.rearm

/-- What a deed adds to the record of calls. -/
def calls (older : List Call) : Deed → List Call
  | .claim c _ _ => .claim c :: older
  | .sent sub | .refused sub | .conflict sub | .sentSingle sub | .refusedSingle sub _ =>
      .submit sub :: older
  | .collected phase txCount ended => .collected phase txCount ended :: older
  | .control rx parent => .control rx parent :: older
  | .noteTx frame streamMask txSequence => .noteTx frame streamMask txSequence :: older
  | .rearm => []
  | _ => older

def submission : Deed → Option Submission
  | .sent sub | .refused sub | .conflict sub | .sentSingle sub | .refusedSingle sub _ => some sub
  | _ => none

/-- Neither a claim, nor a submission, nor a rearm. -/
def plain : Deed → Bool
  | .claim .. | .sent _ | .refused _ | .conflict _ | .sentSingle _ | .refusedSingle .. | .rearm => false
  | _ => true

/-- The record of a claim tells what `auto_take` said. -/
def Told (now : UInt32) (r : Retry) : Deed → Prop
  | .claim c yes cancelled => c.automatic =
      (!(c.probe || c.burst) && (r.autoTake now yes cancelled c.frame).1)
  | _ => True

theorem plain_submission {d : Deed} (h : d.plain = true) : d.submission = none := by
  cases d <;> first | rfl | cases h

theorem plain_session {d : Deed} (h : d.plain = true) : d ≠ .rearm := by
  rintro rfl
  cases h

theorem plain_told {d : Deed} (h : d.plain = true) (now : UInt32) (r : Retry) : d.Told now r := by
  cases d <;> trivial

theorem submission_told {d : Deed} {sub : Submission} (h : d.submission = some sub) (now : UInt32)
    (r : Retry) : d.Told now r := by
  cases d <;> trivial

/-- A control PDU with data came in. -/
def hears : Deed → Bool
  | .control rx _ => rx.length != 0
  | _ => false

end Deed

/-- What was done, newest first, each deed with its millisecond. -/
abbrev DeedLog := List (Nat × Deed)

namespace DeedLog

/-- The policies after the deeds of a log. -/
def retry (r : Retry) : DeedLog → Retry
  | [] => r
  | e :: log => e.2.retry (UInt32.ofNat e.1) (retry r log)

def calls (older : List Call) : DeedLog → List Call
  | [] => older
  | e :: log => e.2.calls (calls older log)

theorem retry_append (r : Retry) (newer older : DeedLog) :
    retry r (newer ++ older) = retry (retry r older) newer := by
  induction newer with
  | nil => rfl
  | cons e newer ih => exact congrArg (fun r => Deed.retry _ r e.2) ih

theorem calls_append (c : List Call) (newer older : DeedLog) :
    calls c (newer ++ older) = calls (calls c older) newer := by
  induction newer with
  | nil => rfl
  | cons e newer ih => exact congrArg (fun c => Deed.calls c e.2) ih

end DeedLog

/-! ## Repeats are granted -/

/-- The frame is a packet of a cache that was built for exactly what the frame needs, the parent's
header and the numbers of the streams among it. -/
def FromCache (t : ToneTrial) (parent : ParentPdu) : Prop :=
  ∃ before q, TrialSystem.cached { t with prepared := before } (t.frameKey t.nextFrame parent) =
      some q ∧
    t.prepared (frameSlot t.nextFrame) = q.reused t.feedback.generation

/-- What the policies ask of a frame that is repeated. -/
structure Submission.Eligible (sub : Submission) (now : UInt32) (r : Retry) : Prop where
  stereo : sub.frame.receive = false ∧ sub.frame.stereoAudio = true ∧ sub.frame.streamMask = 6
  kind : sub.frame.length = 203 ∧ sub.frame.header = 0x30 ∨
    sub.frame.length = 205 ∧ sub.frame.header = 0x32 ∧ sub.frame.cacheReused = true ∧
      r.controlQuiet now = true ∧ TrialSystem.controlSlot sub.trial sub.frame = true
  cached : sub.frame.cacheReused = true → FromCache sub.trial sub.parent

/-- The frame was found eligible, and nothing was heard since. -/
def GrantedBy (r : Retry) (older : DeedLog) (sub : Submission) : Prop :=
  ∃ mid decided before, older = mid ++ (decided, .eligible sub.frame true) :: before ∧
    (∀ e ∈ mid, e.2.hears = false) ∧
    sub.Eligible (UInt32.ofNat decided) (DeedLog.retry r before)

/-- Every repeat was granted, and every claim told. -/
def Granted (r : Retry) : DeedLog → Prop
  | [] => True
  | e :: older =>
      (∀ sub, e.2.submission = some sub → sub.repeated = true → GrantedBy r older sub) ∧
        e.2.Told (UInt32.ofNat e.1) (DeedLog.retry r older) ∧ Granted r older

theorem GrantedBy.append {r : Retry} {newer older : DeedLog} {sub : Submission}
    (h : GrantedBy (DeedLog.retry r older) newer sub) : GrantedBy r (newer ++ older) sub := by
  obtain ⟨mid, decided, before, heq, hquiet, heligible⟩ := h
  refine ⟨mid, decided, before ++ older, ?_, hquiet, ?_⟩
  · rw [heq, List.append_assoc]
    rfl
  · rw [DeedLog.retry_append]
    exact heligible

theorem Granted.append {r : Retry} {newer older : DeedLog}
    (h : Granted (DeedLog.retry r older) newer) (hr : Granted r older) :
    Granted r (newer ++ older) := by
  induction newer with
  | nil => exact hr
  | cons e newer ih =>
    have htold := h.2.1
    rw [← DeedLog.retry_append] at htold
    exact ⟨fun sub hsub hrepeated => (h.1 sub hsub hrepeated).append, htold, ih h.2.2⟩

theorem Granted.at {r : Retry} {newer older : DeedLog} {e : Nat × Deed}
    (h : Granted r (newer ++ e :: older)) {sub : Submission} (hsub : e.2.submission = some sub)
    (hrepeated : sub.repeated = true) : GrantedBy r older sub := by
  induction newer with
  | nil => exact h.1 sub hsub hrepeated
  | cons _ newer ih => exact ih h.2.2

/-- A deed that submits nothing. -/
theorem Granted.cons {r : Retry} {log : DeedLog} {e : Nat × Deed} (hnone : e.2.submission = none)
    (htold : e.2.Told (UInt32.ofNat e.1) (DeedLog.retry r log)) (h : Granted r log) :
    Granted r (e :: log) := by
  refine ⟨fun sub hsub => ?_, htold, h⟩
  rw [hnone] at hsub
  cases hsub

/-- Submissions made when nothing was heard since they were granted. -/
theorem Granted.submissions {r : Retry} {newer older : DeedLog} (h : Granted r older)
    (hquiet : ∀ e ∈ newer, e.2.hears = false)
    (hsubmits : ∀ e ∈ newer, ∃ sub, e.2.submission = some sub)
    (hgranted : ∀ e ∈ newer, ∀ sub, e.2.submission = some sub → sub.repeated = true →
      GrantedBy r older sub) : Granted r (newer ++ older) := by
  induction newer with
  | nil => exact h
  | cons e newer ih =>
    have hin : ∀ e' ∈ newer, e' ∈ e :: newer := fun _ => List.mem_cons_of_mem _
    refine ⟨fun sub hsub hrepeated => ?_, ?_, ih (fun e' he' => hquiet e' (hin e' he'))
      (fun e' he' => hsubmits e' (hin e' he')) fun e' he' => hgranted e' (hin e' he')⟩
    swap
    · obtain ⟨sub, hsub⟩ := hsubmits e List.mem_cons_self
      exact Deed.submission_told hsub _ _
    obtain ⟨mid, decided, before, heq, hmid, heligible⟩ :=
      hgranted e List.mem_cons_self sub hsub hrepeated
    refine ⟨newer ++ mid, decided, before, ?_, fun e' he' => ?_, heligible⟩
    · rw [List.append_assoc, ← heq]
      rfl
    · rcases List.mem_append.mp he' with hnew | hold
      · exact hquiet e' (hin e' hnew)
      · exact hmid e' hold

/-! ## What a system does -/

/-- The deeds of `log` lead from `s` to `s'`, as far as the policies and the record go. -/
structure Performs (ms : W → Nat) (s : TrialSystem W) (log : DeedLog) (s' : TrialSystem W) :
    Prop where
  retry : s'.retry = DeedLog.retry s.retry log
  calls : s'.history.calls = DeedLog.calls s.history.calls log
  onward : ms s.world ≤ ms s'.world
  within : ∀ e ∈ log, ms s.world ≤ e.1 ∧ e.1 ≤ ms s'.world
  sorted : log.Pairwise fun newer older => older.1 ≤ newer.1

theorem Performs.trans {ms : W → Nat} {s t u : TrialSystem W} {older newer : DeedLog}
    (h : Performs ms s older t) (k : Performs ms t newer u) :
    Performs ms s (newer ++ older) u where
  retry := by rw [DeedLog.retry_append, ← h.retry, k.retry]
  calls := by rw [DeedLog.calls_append, ← h.calls, k.calls]
  onward := h.onward.trans k.onward
  within := fun e he => by
    rcases List.mem_append.mp he with hnew | hold
    · have hwithin := k.within e hnew
      exact ⟨h.onward.trans hwithin.1, hwithin.2⟩
    · have hwithin := h.within e hold
      exact ⟨hwithin.1, hwithin.2.trans k.onward⟩
  sorted := by
    apply List.pairwise_append.mpr ⟨k.sorted, h.sorted, ?_⟩
    intro a ha b hb
    exact (h.within b hb).2.trans (k.within a ha).1

/-- Neither the policies nor the record change. -/
theorem Performs.still {ms : W → Nat} {s s' : TrialSystem W} (hretry : s'.retry = s.retry)
    (hcalls : s'.history.calls = s.history.calls) (honward : ms s.world ≤ ms s'.world) :
    Performs ms s [] s' :=
  ⟨hretry, hcalls, honward, fun _ he => (nomatch he), .nil⟩

/-- A deed done in the millisecond `t`. -/
theorem Performs.deed {ms : W → Nat} {s s' : TrialSystem W} (t : Nat) (d : Deed)
    (hretry : s'.retry = d.retry (UInt32.ofNat t) s.retry)
    (hcalls : s'.history.calls = d.calls s.history.calls) (hfrom : ms s.world ≤ t)
    (hto : t ≤ ms s'.world) : Performs ms s [(t, d)] s' where
  retry := hretry
  calls := hcalls
  onward := hfrom.trans hto
  within := fun e he => by
    rw [List.mem_singleton.mp he]
    exact ⟨hfrom, hto⟩
  sorted := List.pairwise_singleton _ _

/-- Deeds of one session, whose repeats are granted, lead from `s` to `s'`. -/
def Does (ms : W → Nat) (s s' : TrialSystem W) : Prop :=
  ∃ log, Performs ms s log s' ∧ Granted s.retry log ∧ ∀ e ∈ log, e.2 ≠ .rearm

theorem Does.trans {ms : W → Nat} {s t u : TrialSystem W} (h : Does ms s t) (k : Does ms t u) :
    Does ms s u := by
  obtain ⟨older, hold, hgranted, hsame⟩ := h
  obtain ⟨newer, hnew, hgranted', hsame'⟩ := k
  refine ⟨newer ++ older, hold.trans hnew, .append (hold.retry ▸ hgranted') hgranted,
    fun e he => ?_⟩
  rcases List.mem_append.mp he with hin | hin
  · exact hsame' e hin
  · exact hsame e hin

theorem Does.still {ms : W → Nat} {s s' : TrialSystem W} (hretry : s'.retry = s.retry)
    (hcalls : s'.history.calls = s.history.calls) (honward : ms s.world ≤ ms s'.world) :
    Does ms s s' :=
  ⟨[], .still hretry hcalls honward, trivial, fun _ he => (nomatch he)⟩

theorem Does.deed {ms : W → Nat} {s s' : TrialSystem W} (d : Deed)
    (hretry : s'.retry = d.retry (UInt32.ofNat (ms s.world)) s.retry)
    (hcalls : s'.history.calls = d.calls s.history.calls) (honward : ms s.world ≤ ms s'.world)
    (hplain : d.plain = true) : Does ms s s' := by
  refine ⟨_, .deed _ d hretry hcalls (Nat.le_refl _) honward,
    .cons (Deed.plain_submission hplain) (Deed.plain_told hplain _ _) trivial, fun e he => ?_⟩
  rw [List.mem_singleton.mp he]
  exact Deed.plain_session hplain

end UllReceiver.Trial
