import UllReceiver.Trial.Deeds

/-!
# What the policies remember

The cooldown, the warm-up and the guard of the controls are a small machine of their own: what each
deed makes of it, whoever owns the repeats.
-/

namespace UllReceiver.Trial

open Air Radio

structure RetryView where
  cooldown : Bool
  blocked : Bool
  stable : UInt32
  since : UInt32
  lastRepeat : Bool
  warmup : UInt32
  lastFrame : UInt32
  lastData : UInt32
deriving DecidableEq

def Retry.view (r : Retry) : RetryView where
  cooldown := r.autoCooldown
  blocked := r.autoBlocked
  stable := r.autoStableFrames
  since := r.autoCooldownSince
  lastRepeat := r.autoLastSubmittedRepeat
  warmup := r.autoWarmup
  lastFrame := r.autoLastFrame
  lastData := r.controlLastDataMs

namespace RetryView

def block (v : RetryView) : RetryView :=
  { v with cooldown := false, stable := 0, blocked := true }

def cool (now : UInt32) (v : RetryView) : RetryView :=
  { v with since := now, stable := 0, cooldown := true }

def complete (stereo : Bool) (v : RetryView) : RetryView :=
  if !v.cooldown then v
  else if !stereo ∨ v.lastRepeat then { v with stable := 0 }
  else if v.stable < 50 then { v with stable := v.stable + 1 }
  else v

def disturb (v : RetryView) : RetryView :=
  if v.cooldown then { v with stable := 0 } else v

def warm (frame : UInt32) (v : RetryView) : RetryView :=
  if v.lastFrame = frame then v
  else { v with
    lastFrame := frame, warmup := if v.warmup < 1000 then v.warmup + 1 else v.warmup }

def unwarm (v : RetryView) : RetryView :=
  { v with warmup := 0, lastFrame := 0xffffffff }

/-- The part of `ull_tone_trial_rearm`. -/
def rearm (v : RetryView) : RetryView :=
  { v with
    cooldown := false, blocked := false, stable := 0, lastRepeat := false, warmup := 0
    lastFrame := 0xffffffff }

def hear (now : UInt32) (v : RetryView) : RetryView :=
  { v with lastData := if now ≠ 0 then now else 1 }

theorem cool_disturb (now : UInt32) (v : RetryView) : v.disturb.cool now = v.cool now := by
  unfold disturb
  split <;> rfl

/-- The cooldown does not let a repeat through. -/
def Holds (now : UInt32) (v : RetryView) : Prop :=
  v.cooldown = true ∧ (v.stable < 50 ∨ now - v.since < 250)

instance (now : UInt32) (v : RetryView) : Decidable (v.Holds now) :=
  inferInstanceAs (Decidable (v.cooldown = true ∧ (v.stable < 50 ∨ now - v.since < 250)))

end RetryView

namespace Retry

variable (r : Retry)

theorem burstEnd_view (reason : UInt32) : (r.burstEnd reason).view = r.view := by
  unfold burstEnd
  simp only
  split
  · split <;> rfl
  · split <;> rfl

theorem burstTick_view (now : UInt32) : (r.burstTick now).view = r.view := by
  unfold burstTick
  simp only
  split
  · split
    · exact burstEnd_view _ _
    · rfl
  · split
    · exact burstEnd_view _ _
    · rfl

theorem burstTake_view (now : UInt32) (yes : Bool) : (r.burstTake now yes).2.view = r.view := by
  unfold burstTake
  simp only
  split
  · exact burstTick_view r now
  · split
    · exact (burstEnd_view _ _).trans (burstTick_view r now)
    · exact burstTick_view r now

theorem probeTake_view (yes : Bool) (frame : UInt32) : (r.probeTake yes frame).2.view = r.view := by
  unfold probeTake
  split <;> rfl

theorem probeDone_view (result : Option RadioTxPhase) (error : UInt8) :
    (r.probeDone result error).view = r.view := by
  unfold probeDone
  split <;> rfl

theorem probeFollowed_view (frame : UInt32) : (r.probeFollowed frame).view = r.view := by
  unfold probeFollowed
  split <;> rfl

theorem probeArm_view : r.probeArm.2.view = r.view := by
  unfold probeArm
  split
  · rfl
  · split <;> rfl

theorem burstArm_view (now : UInt32) : (r.burstArm now).2.view = r.view := by
  unfold burstArm
  split
  · rfl
  · split <;> rfl

theorem cooldownProbeArm_view : r.cooldownProbeArm.2.view = r.view := by
  unfold cooldownProbeArm
  split
  · rfl
  · split <;> rfl

/-- An automatic repeat fails for a reason that passes. -/
def autoFailsSoftly (error : UInt8) : Bool :=
  r.burstActive && r.owner == .automatic && (error == timeExpired || error == scheduleConflict)

/-- A failure that starts the cooldown does, any other leaves it alone or blocks for good. -/
theorem burstDone_view (now : UInt32) (result : Option RadioTxPhase) (error : UInt8) :
    (r.burstDone now result error).view =
      if r.autoFailsSoftly error then r.view.cool now
      else if r.burstActive ∧ r.owner = .automatic ∧ (error ≠ 0 ∨ result ≠ some .ended) then
        r.view.block
      else r.view := by
  unfold burstDone autoFailsSoftly
  cases hactive : r.burstActive with
  | false => rfl
  | true =>
    by_cases howner : r.owner = .automatic
    · simp only [howner, Bool.true_and, beq_self_eq_true, true_and, Bool.not_true,
        Bool.false_eq_true, if_false, if_true, Bool.or_eq_true, beq_iff_eq]
      by_cases hsoft : error = timeExpired ∨ error = scheduleConflict
      · have hne : error ≠ 0 := by
          rcases hsoft with h | h <;> rw [h] <;> decide
        rw [if_pos (.inl hne), if_pos hsoft]
        unfold autoFail
        simp only [if_pos hne, if_pos hsoft]
        rfl
      · rw [if_neg hsoft]
        split
        · unfold autoFail
          simp only [if_neg hsoft]
          split <;> rfl
        · rfl
    · have hfalse : (r.owner == RetryOwner.automatic) = false := by simpa using howner
      simp only [howner, hfalse, Bool.and_false, Bool.false_and, Bool.not_true, Bool.false_eq_true,
        if_false, false_and, and_false]
      split
      · exact burstEnd_view _ _
      · split
        · exact burstEnd_view _ _
        · split
          · exact burstEnd_view _ _
          · rfl

/-- A skip after an automatic repeat. -/
def skipAfterRepeat : Bool :=
  r.burstWatch && r.owner == .automatic

theorem burstSkip_view (now : UInt32) :
    (r.burstSkip now).view =
      if r.skipAfterRepeat then r.view.disturb.cool now
      else if !r.burstWatch ∧ !r.autoActive ∧ !r.autoCooldown then r.view.unwarm
      else r.view.disturb := by
  unfold burstSkip skipAfterRepeat
  simp only
  -- the reset and the count of failed skips come first, whatever is skipped
  generalize hr1 : (if r.autoCooldown = true then { r with autoStableFrames := 0 } else r) = r1
  have h1 : r1.view = r.view.disturb ∧ r1.burstWatch = r.burstWatch ∧ r1.owner = r.owner ∧
      r1.autoActive = r.autoActive ∧ r1.autoCooldown = r.autoCooldown := by
    rw [← hr1]
    unfold RetryView.disturb
    show _ = (if r.autoCooldown = true then _ else r.view) ∧ _
    split
    · exact ⟨rfl, rfl, rfl, rfl, rfl⟩
    · exact ⟨rfl, rfl, rfl, rfl, rfl⟩
  generalize hr2 : (if r1.autoFailedSkipPending = true then _ else r1) = r2
  have h2 : r2.view = r1.view ∧ r2.burstWatch = r1.burstWatch ∧ r2.owner = r1.owner ∧
      r2.autoActive = r1.autoActive ∧ r2.autoCooldown = r1.autoCooldown := by
    rw [← hr2]
    split
    · exact ⟨rfl, rfl, rfl, rfl, rfl⟩
    · exact ⟨rfl, rfl, rfl, rfl, rfl⟩
  obtain ⟨hview1, hwatch1, howner1, hactive1, hcooldown1⟩ := h1
  obtain ⟨hview2, hwatch2, howner2, hactive2, hcooldown2⟩ := h2
  have hview : r2.view = r.view.disturb := hview2.trans hview1
  rw [← hwatch1, ← hwatch2, ← howner1, ← howner2, ← hactive1, ← hactive2, ← hcooldown1,
    ← hcooldown2]
  have hcooldown : r2.autoCooldown = r.view.cooldown := hcooldown2.trans hcooldown1
  cases r2.burstWatch with
  | false =>
    simp only [Bool.not_false, if_true, Bool.false_and, Bool.false_eq_true, if_false, true_and]
    split
    next hcold =>
      -- out of the cooldown the reset did nothing
      have hoff : r.view.cooldown = false := by simpa [hcooldown] using hcold.2
      unfold RetryView.disturb at hview
      rw [hoff] at hview
      exact congrArg RetryView.unwarm hview
    next => exact hview
  | true =>
    simp only [Bool.not_true, Bool.false_eq_true, if_false, Bool.true_and, false_and, beq_iff_eq]
    split
    · exact congrArg (RetryView.cool now) hview
    · exact (burstEnd_view _ _).trans hview

theorem burstSubmitted_view : r.burstSubmitted.view = r.view := by
  unfold burstSubmitted
  simp only
  split
  · split
    · exact burstEnd_view _ _
    · rfl
  · split
    · exact burstEnd_view _ _
    · rfl

theorem fallbackEnd_view (sent : Bool) : (r.fallbackEnd sent).view = r.view := by
  cases sent <;> rfl

/-- The cooldown is probed. -/
def probesCooldown (yes cancel : Bool) : Bool :=
  yes && !cancel && r.autoEnabled && !r.autoBlocked && r.owner == .automatic && !r.burstActive &&
    r.autoCooldownProbe == .requested

/-- What `auto_take` does and what must hold for it. -/
inductive AutoTaken (r : Retry) (now : UInt32) (yes cancel : Bool) (frame : UInt32) :
    Bool → RetryView → Prop
  | probed (h : r.probesCooldown yes cancel = true) :
      AutoTaken r now yes cancel frame false (r.view.cool now)
  | refused (h : r.probesCooldown yes cancel = false) :
      AutoTaken r now yes cancel frame false r.view
  | warmed (h : r.probesCooldown yes cancel = false) (hyes : yes = true)
      (hopen : ¬r.view.Holds now) : AutoTaken r now yes cancel frame false (r.view.warm frame)
  | taken (h : r.probesCooldown yes cancel = false) (hyes : yes = true)
      (hopen : ¬r.view.Holds now) (hblocked : r.view.blocked = false)
      (hwarm : 1000 ≤ (r.view.warm frame).warmup) (hframe : 1000 ≤ frame) :
      AutoTaken r now yes cancel frame true { r.view.warm frame with cooldown := false }

theorem autoWarm_view (frame : UInt32) : (r.autoWarm frame).view = r.view.warm frame := by
  unfold autoWarm RetryView.warm
  show _ = if r.autoLastFrame = frame then r.view else _
  split
  · rfl
  · rfl

theorem autoTake_taken (now : UInt32) (yes cancel : Bool) (frame : UInt32) :
    AutoTaken r now yes cancel frame (r.autoTake now yes cancel frame).1
      (r.autoTake now yes cancel frame).2.view := by
  have hwarmed := autoWarm_view r frame
  have hprobes : r.probesCooldown yes cancel = true ↔ (yes = true ∧ cancel = false ∧
      r.autoEnabled = true ∧ r.autoBlocked = false) ∧
      r.owner = .automatic ∧ r.burstActive = false ∧ r.autoCooldownProbe = .requested := by
    unfold probesCooldown
    simp only [Bool.and_eq_true, Bool.not_eq_true', beq_iff_eq]
    tauto
  unfold autoTake
  split
  next hclosed =>
    apply AutoTaken.refused
    rw [Bool.eq_false_iff, Ne, hprobes]
    rintro ⟨⟨hyes, hcancel, henabled, hblocked⟩, _⟩
    simp [hyes, hcancel, henabled, hblocked] at hclosed
  next hasked =>
    have hopen : yes = true ∧ cancel = false ∧ r.autoEnabled = true ∧ r.autoBlocked = false := by
      simpa using hasked
    split
    next howner =>
      apply AutoTaken.refused
      rw [Bool.eq_false_iff, Ne, hprobes]
      exact fun h => howner.2 h.2.1
    next =>
      split
      next hprobe => exact .probed (hprobes.mpr ⟨hopen, by simpa using hprobe⟩)
      next hprobe =>
        have hnone : r.probesCooldown yes cancel = false := by
          rw [Bool.eq_false_iff, Ne, hprobes]
          exact fun h => hprobe ⟨h.2.1, by simpa using h.2.2.1, h.2.2.2⟩
        split
        next => exact .refused hnone
        next hheld =>
          have hnot : ¬r.view.Holds now := hheld
          simp only
          split
          next =>
            rw [hwarmed]
            exact .warmed hnone hopen.1 hnot
          next hwarm =>
            have hboth : 1000 ≤ (r.autoWarm frame).autoWarmup ∧ 1000 ≤ frame := by
              simpa using hwarm
            have hcount : (r.autoWarm frame).autoWarmup = (r.view.warm frame).warmup :=
              congrArg RetryView.warmup hwarmed
            have htaken := AutoTaken.taken hnone hopen.1 hnot hopen.2.2.2 (hcount ▸ hboth.1)
              hboth.2
            rw [← hwarmed] at htaken
            exact htaken

theorem closeProbe_view (phase : TrialPhase) : (r.closeProbe phase).view = r.view := by
  unfold closeProbe
  exact probeDone_view _ none 0xff

theorem finish_view (now : UInt32) (phase : TrialPhase) :
    (r.finish now phase).view = r.view.block := by
  have hdone := burstDone_view (r.closeProbe phase) now none 0
  rw [closeProbe_view] at hdone
  have hend := burstEnd_view ((r.closeProbe phase).burstDone now none 0)
    (if phase = .cancelled then 3 else 4)
  have hblock : ((r.closeProbe phase).burstDone now none 0).view.block = r.view.block := by
    rw [hdone]
    have hsoft : (r.closeProbe phase).autoFailsSoftly 0 = false := by
      unfold autoFailsSoftly
      rw [Bool.and_eq_false_iff]
      exact .inr rfl
    rw [hsoft]
    split
    next h => cases h
    next =>
      split
      · rfl
      · rfl
  rw [← hblock, ← hend]
  rfl

end Retry

/-! ## Events -/

/-- What the policies remember of a deed. -/
inductive PolicyEvent
  /-- `auto_cooldown_start`. -/
  | cooled
  /-- The radio took a frame, to send it twice or once. -/
  | sent (twice : Bool)
  /-- A stereo event that was sent once ended normally. -/
  | steady
  /-- A skip, or an event that was cancelled, not stereo or sent twice. -/
  | disturbed
  /-- An eligible frame was asked about, and perhaps claimed for an automatic repeat. -/
  | asked (frame : UInt32) (claimed : Bool)
  /-- Control data came in. -/
  | heard
  | rearmed
deriving DecidableEq

/-- Events newest first, each with its millisecond. -/
abbrev PolicyLog := List (Nat × PolicyEvent)

/-- The newest frame the radio took in the session was to be sent twice. -/
def sentTwice : PolicyLog → Bool
  | [] => false
  | (_, .sent twice) :: _ => twice
  | (_, .rearmed) :: _ => false
  | _ :: log => sentTwice log

/-- What the policies remember of a deed done after `log`. -/
def Deed.event (now : UInt32) (r : Retry) (log : PolicyLog) : Deed → Option PolicyEvent
  | .refused sub | .conflict sub => if r.autoFailsSoftly sub.status then some .cooled else none
  | .sent sub => some (.sent sub.repeated)
  | .sentSingle _ => some (.sent false)
  | .skip => some (if r.skipAfterRepeat then .cooled else .disturbed)
  | .completed p index phase =>
      some (if stereoSent p index phase && !sentTwice log then .steady else .disturbed)
  | .claim c yes cancelled =>
      if c.probe ∨ c.burst then none
      else if r.probesCooldown yes cancelled then some .cooled
      else if yes then some (.asked c.frame (r.autoTake now yes cancelled c.frame).1)
      else none
  | .control rx _ => if rx.length ≠ 0 then some .heard else none
  | .rearm => some .rearmed
  | _ => none

/-- The events of a log, from boot. -/
def DeedLog.events : DeedLog → PolicyLog
  | [] => []
  | e :: log =>
      match e.2.event (UInt32.ofNat e.1) (DeedLog.retry .init log) (events log) with
      | some event => (e.1, event) :: events log
      | none => events log

/-- What one event does to what is remembered. -/
inductive ViewStep (now : UInt32) : Option PolicyEvent → RetryView → RetryView → Prop
  | still {v} : ViewStep now none v v
  | block {v} : ViewStep now none v v.block
  | cooled {v} : ViewStep now (some .cooled) v (v.cool now)
  | sent {v} (twice : Bool) : ViewStep now (some (.sent twice)) v { v with lastRepeat := twice }
  | steady {v} (honce : v.lastRepeat = false) : ViewStep now (some .steady) v (v.complete true)
  | disturbed {v} : ViewStep now (some .disturbed) v v.disturb
  | unwarmed {v} (hcold : v.cooldown = false) : ViewStep now (some .disturbed) v v.unwarm
  | passed {v} (frame : UInt32) : ViewStep now (some (.asked frame false)) v v
  | warmed {v} (frame : UInt32) (hopen : ¬v.Holds now) :
      ViewStep now (some (.asked frame false)) v (v.warm frame)
  | claimed {v} (frame : UInt32) (hopen : ¬v.Holds now) (hblocked : v.blocked = false)
      (hwarm : 1000 ≤ (v.warm frame).warmup) (hframe : 1000 ≤ frame) :
      ViewStep now (some (.asked frame true)) v { v.warm frame with cooldown := false }
  | heard {v} : ViewStep now (some .heard) v (v.hear now)
  | rearmed {v} : ViewStep now (some .rearmed) v v.rearm

theorem ViewStep.still_of_eq {now : UInt32} {v v' : RetryView} (h : v' = v) :
    ViewStep now none v v' := by
  rw [h]
  exact .still

/-- A result that is not a failure of the automatic repeat to submit. -/
theorem ViewStep.burstDone (r : Retry) (now : UInt32) (result : Option RadioTxPhase)
    (error : UInt8) :
    ViewStep now (if r.autoFailsSoftly error then some .cooled else none) r.view
      (r.burstDone now result error).view := by
  rw [Retry.burstDone_view]
  split
  · exact .cooled
  · split
    · exact .block
    · exact .still

theorem Retry.autoFailsSoftly_zero (r : Retry) : r.autoFailsSoftly 0 = false := by
  unfold Retry.autoFailsSoftly
  rw [Bool.and_eq_false_iff]
  exact .inr rfl

/-- An event that is over counts as steady or disturbs. -/
theorem ViewStep.completed (now : UInt32) (v : RetryView) (stereo : Bool) :
    ViewStep now (some (if stereo && !v.lastRepeat then .steady else .disturbed)) v
      (v.complete stereo) := by
  by_cases hsteady : (stereo && !v.lastRepeat) = true
  · rw [if_pos hsteady]
    simp only [Bool.and_eq_true, Bool.not_eq_true'] at hsteady
    rw [hsteady.1]
    exact .steady hsteady.2
  · rw [if_neg hsteady]
    have heq : v.complete stereo = v.disturb := by
      unfold RetryView.complete RetryView.disturb
      cases v.cooldown with
      | false => rfl
      | true =>
        simp only [Bool.not_true, Bool.false_eq_true, if_false, if_true]
        apply if_pos
        cases stereo with
        | false => exact .inl rfl
        | true => exact .inr (by simpa using hsteady)
    rw [heq]
    exact .disturbed

theorem ViewStep.claim (r : Retry) (now : UInt32) (yes cancelled : Bool) (frame : UInt32) :
    ViewStep now
      (if r.probesCooldown yes cancelled then some .cooled
        else if yes then some (.asked frame (r.autoTake now yes cancelled frame).1)
        else none)
      r.view (r.autoTake now yes cancelled frame).2.view := by
  have htaken := Retry.autoTake_taken r now yes cancelled frame
  generalize r.autoTake now yes cancelled frame = result at htaken
  obtain ⟨claimed, r'⟩ := result
  simp only at htaken ⊢
  generalize r'.view = v at htaken
  cases htaken with
  | probed h =>
    rw [if_pos h]
    exact .cooled
  | refused h =>
    rw [h]
    cases yes with
    | true => exact .passed frame
    | false => exact .still
  | warmed h hyes hopen =>
    rw [h, hyes]
    exact .warmed frame hopen
  | taken h hyes hopen hblocked hwarm hframe =>
    rw [h, hyes]
    exact .claimed frame hopen hblocked hwarm hframe

/-- Every deed is one step of what is remembered. -/
theorem Deed.viewStep (now : UInt32) (r : Retry) (log : PolicyLog) (d : Deed)
    (hrepeat : r.view.lastRepeat = sentTwice log) :
    ViewStep now (d.event now r log) r.view (d.retry now r).view := by
  cases d with
  | tick => exact .still_of_eq (Retry.burstTick_view r now)
  | cancel => exact .still_of_eq (Retry.burstEnd_view r 3)
  | probeArm => exact .still_of_eq (Retry.probeArm_view r)
  | burstArm => exact .still_of_eq (Retry.burstArm_view r now)
  | cooldownProbeArm => exact .still_of_eq (Retry.cooldownProbeArm_view r)
  | autoEnable on => exact .still
  | report phase => exact .still
  | takeLead => exact .still
  | eligible p yes =>
    apply ViewStep.still_of_eq
    unfold Deed.retry
    simp only
    split
    · split
      · rfl
      · rfl
    · rfl
  | probeTake yes frame => exact .still_of_eq (Retry.probeTake_view r yes frame)
  | burstTake yes => exact .still_of_eq (Retry.burstTake_view r now yes)
  | claim c yes cancelled =>
    unfold Deed.event Deed.retry
    simp only
    by_cases htaken : c.probe = true ∨ c.burst = true
    · rw [if_pos htaken, if_pos htaken]
      exact .still
    · rw [if_neg htaken, if_neg htaken]
      exact .claim r now yes cancelled c.frame
  | sent sub =>
    have hview : (Deed.retry now r (.sent sub)).view =
        { r.view with lastRepeat := sub.repeated } := by
      unfold Deed.retry Retry.submitted
      simp only
      rw [Retry.probeFollowed_view, if_neg (fun h => h rfl), Retry.burstSubmitted_view]
      unfold Retry.view
      simp
    rw [hview]
    exact .sent _
  | refused sub =>
    unfold Deed.retry
    simp only
    rw [Retry.probeDone_view]
    exact .burstDone r now none sub.status
  | conflict sub => exact .burstDone r now none sub.status
  | sentSingle sub =>
    have hview : (Deed.retry now r (.sentSingle sub)).view = { r.view with lastRepeat := false } := by
      unfold Deed.retry Retry.submitted
      simp only
      rw [Retry.probeFollowed_view, if_neg (fun h => h rfl), Retry.burstSubmitted_view]
      rfl
    rw [hview]
    exact .sent _
  | refusedSingle sub status =>
    apply ViewStep.still_of_eq
    unfold Deed.retry
    simp only
    rw [Retry.probeDone_view, Retry.fallbackEnd_view]
  | collected phase txCount ended =>
    have hdone := ViewStep.burstDone r now (some phase) 0
    rw [Retry.autoFailsSoftly_zero] at hdone
    unfold Deed.retry
    simp only
    rw [Retry.probeDone_view]
    exact hdone
  | lost phase =>
    have hdone := ViewStep.burstDone r now (some phase) 0
    rw [Retry.autoFailsSoftly_zero] at hdone
    unfold Deed.retry
    simp only
    rw [Retry.probeDone_view]
    exact hdone
  | completed p index phase =>
    have hcompleted := ViewStep.completed now r.view (stereoSent p index phase)
    rw [hrepeat] at hcompleted
    have hview : (r.autoOrdinaryCompleted (stereoSent p index phase)).view =
        r.view.complete (stereoSent p index phase) := by
      unfold Retry.autoOrdinaryCompleted RetryView.complete
      show _ = if !r.autoCooldown then r.view else
        if !_ ∨ r.autoLastSubmittedRepeat then _ else if r.autoStableFrames < 50 then _ else r.view
      split
      · rfl
      · split
        · rfl
        · split
          · rfl
          · rfl
    unfold Deed.retry
    simp only
    rw [hview]
    exact hcompleted
  | control rx parent =>
    unfold Deed.event Deed.retry
    simp only
    split
    · exact .heard
    · exact .still
  | noteTx frame streamMask txSequence => exact .still
  | skip =>
    unfold Deed.event Deed.retry
    simp only
    rw [Retry.burstSkip_view]
    split
    · rw [RetryView.cool_disturb]
      exact .cooled
    · split
      next hcold =>
        have hoff : r.autoCooldown = false := by simpa using hcold.2.2
        exact .unwarmed hoff
      next => exact .disturbed
  | finish phase =>
    unfold Deed.retry
    simp only
    rw [Retry.finish_view]
    exact .block
  | rearm => exact .rearmed

end UllReceiver.Trial
