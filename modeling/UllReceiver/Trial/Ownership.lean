import UllReceiver.Trial.Retry

/-!
# Ownership of repeated transmissions

What every function of the policies keeps: who owns the repeat, and how the automatic repeats and
the fallbacks add up.
-/

namespace UllReceiver.Trial

open Radio

/-- The automatic repeat in flight. -/
def Retry.inFlight (r : Retry) : UInt32 :=
  if r.burstActive = true ∧ r.owner = .automatic then 1 else 0

/-- The owner word agrees with the state machines and the flags. -/
structure Owned (r : Retry) : Prop where
  probe : r.probeActive = true ∨ r.probeState = .pending ∨ r.probeState = .active →
    r.owner = .probe
  active : r.probeActive = true ↔ r.probeState = .active
  next : r.probeNextPending = true → r.owner = .probe ∧ r.probeState = .collected
  burst : r.burstActive = true ∨ r.burstWatch = true → r.owner = .burst ∨ r.owner = .automatic
  state : r.burstState = .armed ∨ r.burstState = .running → r.owner = .burst
  budget : r.burstAttempted ≤ burstBudget
  automatic : r.autoAttempted = r.autoCompleted + r.autoFailed + r.inFlight

/-- What no call takes back. -/
structure Later (r r' : Retry) : Prop where
  probeIdle : r'.probeState = .idle → r.probeState = .idle
  burstUnused : r'.burstState = .unused → r.burstState = .unused
  blocked : r.autoBlocked = true → r'.autoBlocked = true
  fallback : r'.fallbackAttempted = r.fallbackAttempted ∧ r'.fallbackSent = r.fallbackSent ∧
    r'.fallbackRejected = r.fallbackRejected

theorem Later.refl (r : Retry) : Later r r :=
  ⟨id, id, id, rfl, rfl, rfl⟩

theorem Later.trans {r r' r'' : Retry} (h : Later r r') (h' : Later r' r'') : Later r r'' :=
  ⟨fun hi => h.probeIdle (h'.probeIdle hi), fun hi => h.burstUnused (h'.burstUnused hi),
    fun hi => h'.blocked (h.blocked hi), h'.fallback.1.trans h.fallback.1,
    h'.fallback.2.1.trans h.fallback.2.1, h'.fallback.2.2.trans h.fallback.2.2⟩

theorem owned_init : Owned Retry.init := by
  constructor <;> simp [Retry.init, Retry.inFlight, burstBudget]

/-- No repeat is with the radio. -/
def Retry.Quiet (r : Retry) : Prop :=
  r.burstActive = false ∧ r.probeActive = false

/-- What a function that claims nothing keeps. -/
structure Kept (r r' : Retry) : Prop where
  owned : Owned r'
  later : Later r r'
  quiet : r.Quiet → r'.Quiet

theorem Kept.trans {r r' r'' : Retry} (h : Kept r r') (h' : Kept r' r'') : Kept r r'' :=
  ⟨h'.owned, h.later.trans h'.later, fun hq => h'.quiet (h.quiet hq)⟩

namespace Owned

variable {r : Retry}

theorem refl (h : Owned r) : Kept r r :=
  ⟨h, .refl r, id⟩

/-! ## Release -/

theorem burstEnd (h : Owned r) (reason : UInt32) : Kept r (r.burstEnd reason) := by
  obtain ⟨hprobe, hactive, hnext, hburst, hrun, hbudget, hauto⟩ := h
  unfold Retry.burstEnd
  simp only
  split <;> split <;> refine ⟨⟨?_, ?_, ?_, ?_, ?_, ?_, ?_⟩, ⟨?_, ?_, ?_, ?_⟩, ?_⟩ <;>
    simp_all [Retry.inFlight, Retry.Quiet]

/-- The burst is over, whatever it was. -/
theorem burstEnd_state (r : Retry) (reason : UInt32) :
    (r.burstEnd reason).burstState ≠ .armed ∧ (r.burstEnd reason).burstState ≠ .running := by
  unfold Retry.burstEnd
  simp only
  split <;> split <;> simp_all

theorem autoRelease (h : Owned r) (hactive : r.burstActive = false)
    (hwatch : r.burstWatch = false) : Kept r r.autoRelease := by
  obtain ⟨hprobe, hprobing, hnext, hburst, hrun, hbudget, hauto⟩ := h
  unfold Retry.autoRelease
  refine ⟨⟨?_, ?_, ?_, ?_, ?_, ?_, ?_⟩, ⟨?_, ?_, ?_, ?_⟩, ?_⟩ <;>
    simp_all [Retry.inFlight, Retry.Quiet]

/-- The watch of a burst is dropped, with what the policies measure. -/
theorem unwatched {r' : Retry} (h : Owned r) (howner : r'.owner = r.owner)
    (hprobe : r'.probeActive = r.probeActive ∧ r'.probeState = r.probeState ∧
      r'.probeNextPending = r.probeNextPending)
    (hburst : r'.burstActive = r.burstActive ∧ r'.burstState = r.burstState ∧
      r'.burstAttempted = r.burstAttempted)
    (hwatch : r'.burstWatch = true → r.burstWatch = true)
    (hauto : r'.autoAttempted = r.autoAttempted ∧ r'.autoCompleted = r.autoCompleted ∧
      r'.autoFailed = r.autoFailed)
    (hblocked : r.autoBlocked = true → r'.autoBlocked = true)
    (hfallback : r'.fallbackAttempted = r.fallbackAttempted ∧ r'.fallbackSent = r.fallbackSent ∧
      r'.fallbackRejected = r.fallbackRejected) : Kept r r' := by
  obtain ⟨hactive, hstate, hnext⟩ := hprobe
  obtain ⟨hrunning, hrun, hattempted⟩ := hburst
  refine ⟨⟨?_, ?_, ?_, ?_, ?_, ?_, ?_⟩, ⟨?_, ?_, hblocked, hfallback⟩, ?_⟩
  · rw [hactive, hstate, howner]
    exact h.probe
  · rw [hactive, hstate]
    exact h.active
  · rw [hnext, howner, hstate]
    exact h.next
  · rw [hrunning, howner]
    exact fun hor => h.burst (hor.imp_right hwatch)
  · rw [hrun, howner]
    exact h.state
  · rw [hattempted]
    exact h.budget
  · unfold Retry.inFlight
    rw [hrunning, howner, hauto.1, hauto.2.1, hauto.2.2]
    exact h.automatic
  · rw [hstate]
    exact id
  · rw [hrun]
    exact id
  · unfold Retry.Quiet
    rw [hrunning, hactive]
    exact id

/-- Fields that say nothing about ownership. -/
theorem beside {r' : Retry} (h : Owned r)
    (hsame : r' = { r with
      streamPhase := r'.streamPhase, probeFrame := r'.probeFrame
      probeLeadTicket := r'.probeLeadTicket, burstReason := r'.burstReason
      burstCompleted := r'.burstCompleted, burstSubmitFailed := r'.burstSubmitFailed
      burstSkipped := r'.burstSkipped, burstStartedMs := r'.burstStartedMs
      burstLead := r'.burstLead, autoEnabled := r'.autoEnabled, autoActive := r'.autoActive
      autoSkipped := r'.autoSkipped, autoWarmup := r'.autoWarmup
      autoLastFrame := r'.autoLastFrame, autoFailedSkipPending := r'.autoFailedSkipPending
      autoLastSubmittedRepeat := r'.autoLastSubmittedRepeat, autoCooldown := r'.autoCooldown
      autoStableFrames := r'.autoStableFrames, autoRecoveries := r'.autoRecoveries
      autoCooldownSince := r'.autoCooldownSince, autoCooldownProbe := r'.autoCooldownProbe
      scheduleConflicts := r'.scheduleConflicts, timesExpired := r'.timesExpired
      controlLastDataMs := r'.controlLastDataMs, controlRepeated := r'.controlRepeated
      controlHeld := r'.controlHeld, controlData := r'.controlData }) : Kept r r' := by
  rw [hsame]
  exact h.unwatched rfl ⟨rfl, rfl, rfl⟩ ⟨rfl, rfl, rfl⟩ id ⟨rfl, rfl, rfl⟩ id ⟨rfl, rfl, rfl⟩

theorem autoCooldownStart (h : Owned r) (hactive : r.burstActive = false) (now : UInt32) :
    Kept r (r.autoCooldownStart now) := by
  unfold Retry.autoCooldownStart
  generalize hr : Retry.mk .. = r1
  have h1 : Kept r r1 := by
    rw [← hr]
    exact h.unwatched rfl ⟨rfl, rfl, rfl⟩ ⟨rfl, rfl, rfl⟩ (fun hf => (nomatch hf)) ⟨rfl, rfl, rfl⟩
      id ⟨rfl, rfl, rfl⟩
  refine h1.trans (h1.owned.autoRelease ?_ ?_) <;> rw [← hr]
  exact hactive

/-! ## Console -/

theorem probeArm (h : Owned r) : Kept r r.probeArm.2 ∧
    (r.probeArm.1 = true → r.probeState = .idle ∧ r.probeArm.2.probeState ≠ .idle) := by
  obtain ⟨hprobe, hprobing, hnext, hburst, hrun, hbudget, hauto⟩ := h
  unfold Retry.probeArm
  refine ⟨⟨⟨?_, ?_, ?_, ?_, ?_, ?_, ?_⟩, ⟨?_, ?_, ?_, ?_⟩, ?_⟩, ?_⟩ <;>
    grind [Retry.inFlight, Retry.Quiet]

theorem burstArm (h : Owned r) (now : UInt32) : Kept r (r.burstArm now).2 ∧
    ((r.burstArm now).1 = true →
      r.burstState = .unused ∧ (r.burstArm now).2.burstState ≠ .unused) := by
  obtain ⟨hprobe, hprobing, hnext, hburst, hrun, hbudget, hauto⟩ := h
  unfold Retry.burstArm
  refine ⟨⟨⟨?_, ?_, ?_, ?_, ?_, ?_, ?_⟩, ⟨?_, ?_, ?_, ?_⟩, ?_⟩, ?_⟩ <;>
    grind [Retry.inFlight, Retry.Quiet]

theorem cooldownProbeArm (h : Owned r) : Kept r r.cooldownProbeArm.2 := by
  unfold Retry.cooldownProbeArm
  split
  · exact h.refl
  · split
    · exact h.beside rfl
    · exact h.refl

theorem autoEnable (h : Owned r) (enabled : Bool) : Kept r (r.autoEnable enabled) :=
  h.beside rfl

theorem cancel (h : Owned r) : Kept r r.cancel :=
  (h.burstEnd 3).trans ((h.burstEnd 3).owned.beside rfl)

/-! ## Between submissions -/

theorem burstTick (h : Owned r) (now : UInt32) : Kept r (r.burstTick now) := by
  unfold Retry.burstTick
  simp only
  generalize hr : (if r.owner = .automatic ∧ !r.autoEnabled ∧ !r.burstActive ∧ !r.burstWatch then
    r.autoRelease else r) = r1
  have h1 : Kept r r1 := by
    rw [← hr]
    split
    · rename_i hfree
      exact h.autoRelease (by simpa using hfree.2.2.1) (by simpa using hfree.2.2.2)
    · exact h.refl
  split
  · exact h1.trans (h1.owned.burstEnd 2)
  · exact h1

theorem autoOrdinaryCompleted (h : Owned r) (stereo : Bool) :
    Kept r (r.autoOrdinaryCompleted stereo) := by
  unfold Retry.autoOrdinaryCompleted
  split
  · exact h.refl
  · split
    · exact h.beside rfl
    · split
      · exact h.beside rfl
      · exact h.refl

theorem burstSkip (h : Owned r) (hactive : r.burstActive = false) (now : UInt32) :
    Kept r (r.burstSkip now) := by
  unfold Retry.burstSkip
  simp only
  generalize hr : (if (if r.autoCooldown = true then { r with autoStableFrames := 0 }
    else r).autoFailedSkipPending = true then _ else _) = r1
  have h1 : Kept r r1 ∧ r1.burstActive = false := by
    rw [← hr]
    split <;> split <;> exact ⟨h.beside rfl, hactive⟩
  obtain ⟨h1, hactive1⟩ := h1
  split
  · split
    · exact h1.trans (h1.owned.beside rfl)
    · exact h1
  · split
    · have hskipped : Kept r1 { r1 with autoSkipped := r1.autoSkipped + 1 } :=
        h1.owned.beside rfl
      exact (h1.trans hskipped).trans (hskipped.owned.autoCooldownStart hactive1 now)
    · have hunwatched : Kept r1 { r1 with
          burstSkipped := r1.burstSkipped + 1, burstWatch := false, burstLead := false } :=
        h1.owned.unwatched rfl ⟨rfl, rfl, rfl⟩ ⟨rfl, rfl, rfl⟩ (fun hf => (nomatch hf))
          ⟨rfl, rfl, rfl⟩ id ⟨rfl, rfl, rfl⟩
      exact (h1.trans hunwatched).trans (hunwatched.owned.burstEnd 5)

theorem takeLead (h : Owned r) : Kept r r.takeLead.2 :=
  h.beside rfl

theorem controlReceived (h : Owned r) (now : UInt32) : Kept r (r.controlReceived now) :=
  h.beside rfl

/-! ## Claims -/

theorem probeTake (h : Owned r) (eligible : Bool) (frame : UInt32) :
    Owned (r.probeTake eligible frame).2 ∧ Later r (r.probeTake eligible frame).2 ∧
      (r.probeTake eligible frame).2.burstActive = r.burstActive ∧
      ((r.probeTake eligible frame).1 = true →
        (r.probeTake eligible frame).2.owner = .probe) := by
  obtain ⟨hprobe, hprobing, hnext, hburst, hrun, hbudget, hauto⟩ := h
  unfold Retry.probeTake
  refine ⟨⟨?_, ?_, ?_, ?_, ?_, ?_, ?_⟩, ⟨?_, ?_, ?_, ?_⟩, ?_, ?_⟩ <;> grind [Retry.inFlight]

theorem budget_succ {n : UInt32} (h : ¬n ≥ burstBudget) : n + 1 ≤ burstBudget := by
  have hlt := UInt32.lt_iff_toNat_lt.mp (UInt32.not_le.mp h)
  change n.toNat < 24000 at hlt
  rw [UInt32.le_iff_toNat_le, UInt32.toNat_add]
  change (n.toNat + 1) % 4294967296 ≤ 24000
  omega

/-- Only the owner of the burst takes a frame for it. -/
theorem burstTake (h : Owned r) (hactive : r.burstActive = false) (now : UInt32)
    (eligible : Bool) :
    Owned (r.burstTake now eligible).2 ∧ Later r (r.burstTake now eligible).2 ∧
      ((r.burstTake now eligible).1 = true → r.owner = .burst) ∧
      ((r.burstTake now eligible).1 = false → (r.burstTake now eligible).2.burstActive = false) := by
  have htick := h.burstTick now
  have hinactive : (r.burstTick now).burstActive = false := by
    unfold Retry.burstTick Retry.burstEnd Retry.autoRelease
    grind
  have howner : (r.burstTick now).burstState = .armed ∨ (r.burstTick now).burstState = .running →
      r.owner = .burst := by
    unfold Retry.burstTick Retry.burstEnd Retry.autoRelease
    grind [h.state]
  unfold Retry.burstTake
  simp only
  generalize r.burstTick now = r1 at htick hinactive howner
  split
  · exact ⟨htick.owned, htick.later, fun hf => (nomatch hf), fun _ => hinactive⟩
  · rename_i htaken
    have hstate : r1.burstState = .armed ∨ r1.burstState = .running := by
      grind
    split
    · have hend := htick.owned.burstEnd 1
      refine ⟨hend.owned, htick.later.trans hend.later, fun hf => (nomatch hf), fun _ => ?_⟩
      unfold Retry.burstEnd
      grind
    · rename_i hbudget
      have hburst := htick.owned.state hstate
      refine ⟨⟨htick.owned.probe, htick.owned.active, htick.owned.next, fun _ => .inl hburst,
        fun _ => hburst, budget_succ hbudget, ?_⟩,
        ⟨htick.later.probeIdle, fun hf => (nomatch hf), htick.later.blocked,
          htick.later.fallback⟩, fun _ => howner hstate, fun hf => (nomatch hf)⟩
      -- the repeat of a burst is not an automatic one
      have hauto := htick.owned.automatic
      unfold Retry.inFlight at hauto ⊢
      simp only [hburst] at hauto ⊢
      simpa using hauto

theorem autoTake (h : Owned r) (hactive : r.burstActive = false) (now : UInt32)
    (eligible cancel : Bool) (frame : UInt32) :
    Owned (r.autoTake now eligible cancel frame).2 ∧
      Later r (r.autoTake now eligible cancel frame).2 ∧
      ((r.autoTake now eligible cancel frame).1 = true → r.autoBlocked = false) := by
  obtain ⟨hprobe, hprobing, hnext, hburst, hrun, hbudget, hauto⟩ := h
  unfold Retry.autoTake Retry.autoWarm Retry.autoCooldownStart Retry.autoRelease
  refine ⟨⟨?_, ?_, ?_, ?_, ?_, ?_, ?_⟩, ⟨?_, ?_, ?_, ?_⟩, ?_⟩ <;> grind [Retry.inFlight]

/-! ## Results -/

theorem burstDone_inactive (now : UInt32) (result : Option RadioTxPhase) (error : UInt8)
    (r : Retry) : (r.burstDone now result error).burstActive = false := by
  unfold Retry.burstDone Retry.autoFail Retry.autoBlock Retry.autoCooldownStart Retry.autoRelease
    Retry.burstEnd
  grind

theorem probeDone_inactive (result : Option RadioTxPhase) (error : UInt8) (r : Retry) :
    (r.probeDone result error).probeActive = false := by
  unfold Retry.probeDone
  grind

theorem burstDone (h : Owned r) (now : UInt32) (result : Option RadioTxPhase) (error : UInt8) :
    Kept r (r.burstDone now result error) := by
  obtain ⟨hprobe, hactive, hnext, hburst, hrun, hbudget, hauto⟩ := h
  unfold Retry.burstDone Retry.autoFail Retry.autoBlock Retry.autoCooldownStart Retry.autoRelease
    Retry.burstEnd
  refine ⟨⟨?_, ?_, ?_, ?_, ?_, ?_, ?_⟩, ⟨?_, ?_, ?_, ?_⟩, ?_⟩ <;>
    grind [Retry.inFlight, Retry.Quiet]

theorem probeDone (h : Owned r) (result : Option RadioTxPhase) (error : UInt8) :
    Kept r (r.probeDone result error) := by
  obtain ⟨hprobe, hactive, hnext, hburst, hrun, hbudget, hauto⟩ := h
  unfold Retry.probeDone
  refine ⟨⟨?_, ?_, ?_, ?_, ?_, ?_, ?_⟩, ⟨?_, ?_, ?_, ?_⟩, ?_⟩ <;>
    grind [Retry.inFlight, Retry.Quiet]

theorem probeFollowed (h : Owned r) (frame : UInt32) : Kept r (r.probeFollowed frame) := by
  obtain ⟨hprobe, hactive, hnext, hburst, hrun, hbudget, hauto⟩ := h
  unfold Retry.probeFollowed
  refine ⟨⟨?_, ?_, ?_, ?_, ?_, ?_, ?_⟩, ⟨?_, ?_, ?_, ?_⟩, ?_⟩ <;>
    grind [Retry.inFlight, Retry.Quiet]

theorem burstSubmitted (h : Owned r) : Kept r r.burstSubmitted := by
  obtain ⟨hprobe, hactive, hnext, hburst, hrun, hbudget, hauto⟩ := h
  unfold Retry.burstSubmitted Retry.burstEnd Retry.autoRelease
  refine ⟨⟨?_, ?_, ?_, ?_, ?_, ?_, ?_⟩, ⟨?_, ?_, ?_, ?_⟩, ?_⟩ <;>
    grind [Retry.inFlight, Retry.Quiet]

theorem submitted (h : Owned r) (now : UInt32) (status : UInt8)
    (recorded repeated fallback : Bool) :
    Kept r (r.submitted now status recorded repeated fallback) := by
  unfold Retry.submitted
  split
  · split
    · exact h.probeDone none status
    · exact (h.burstDone now none status).trans
        ((h.burstDone now none status).owned.probeDone none status)
  · have hlast : Kept r { r with autoLastSubmittedRepeat := repeated && !fallback } :=
      h.beside rfl
    exact hlast.trans hlast.owned.burstSubmitted

/-- The probe is closed and nobody watches the next frame. -/
structure Closed (r : Retry) : Prop where
  active : r.probeActive = false
  state : r.probeState ≠ .pending ∧ r.probeState ≠ .active
  next : r.probeNextPending = false
  watch : r.burstWatch = false

theorem closeProbe (h : Owned r) (phase : TrialPhase) :
    Kept r (r.closeProbe phase) ∧ Closed (r.closeProbe phase) := by
  obtain ⟨hprobe, hactive, hnext, hburst, hrun, hbudget, hauto⟩ := h
  unfold Retry.closeProbe Retry.probeDone
  refine ⟨⟨⟨?_, ?_, ?_, ?_, ?_, ?_, ?_⟩, ⟨?_, ?_, ?_, ?_⟩, ?_⟩, ⟨?_, ?_, ?_, ?_⟩⟩ <;>
    grind [Retry.inFlight, Retry.Quiet]

theorem Closed.burstDone (h : Closed r) (now : UInt32) : Closed (r.burstDone now none 0) := by
  obtain ⟨hactive, hstate, hnext, hwatch⟩ := h
  unfold Retry.burstDone Retry.autoFail Retry.autoBlock Retry.autoCooldownStart Retry.autoRelease
    Retry.burstEnd
  refine ⟨?_, ?_, ?_, ?_⟩ <;> grind

theorem Closed.burstEnd (h : Closed r) (reason : UInt32) : Closed (r.burstEnd reason) := by
  obtain ⟨hactive, hstate, hnext, hwatch⟩ := h
  unfold Retry.burstEnd
  refine ⟨?_, ?_, ?_, ?_⟩ <;> grind

theorem burstEnd_active (r : Retry) (reason : UInt32) :
    (r.burstEnd reason).burstActive = r.burstActive := by
  unfold Retry.burstEnd
  grind

/-- After the end of a session no policy owns anything. -/
theorem finish (h : Owned r) (now : UInt32) (phase : TrialPhase) :
    Kept r (r.finish now phase) ∧ (r.finish now phase).Quiet ∧
      (r.finish now phase).autoBlocked = true := by
  obtain ⟨hclosing, hclosed⟩ := h.closeProbe phase
  have hdone := hclosing.trans (hclosing.owned.burstDone now none 0)
  have hinactive := burstDone_inactive now none 0 (r.closeProbe phase)
  have hdoneClosed := hclosed.burstDone now
  unfold Retry.finish
  simp only
  generalize (r.closeProbe phase).burstDone now none 0 = r1 at hdone hinactive hdoneClosed
  generalize (if phase = .cancelled then 3 else 4 : UInt32) = reason
  have hend := hdone.trans (hdone.owned.burstEnd reason)
  have hstate := burstEnd_state r1 reason
  have hendClosed := hdoneClosed.burstEnd reason
  have hendInactive := (burstEnd_active r1 reason).trans hinactive
  generalize r1.burstEnd reason = r2 at hend hstate hendClosed hendInactive
  -- all flags are down, so the owner word may be freed
  obtain ⟨hactive, hprobe, hnext, hwatch⟩ := hendClosed
  refine ⟨⟨⟨?_, ?_, ?_, ?_, ?_, hend.owned.budget, ?_⟩, ⟨hend.later.probeIdle,
    hend.later.burstUnused, fun _ => rfl, hend.later.fallback⟩, fun _ => ⟨hendInactive, hactive⟩⟩,
    ⟨hendInactive, hactive⟩, trivial⟩
  · rintro (hf | hf | hf)
    · exact absurd (hactive.symm.trans hf) (by decide)
    · exact absurd hf hprobe.1
    · exact absurd hf hprobe.2
  · exact hend.owned.active
  · exact fun hf => absurd (hnext.symm.trans hf) (by decide)
  · rintro (hf | hf)
    · exact absurd (hendInactive.symm.trans hf) (by decide)
    · exact absurd (hwatch.symm.trans hf) (by decide)
  · rintro (hf | hf)
    · exact absurd hf hstate.1
    · exact absurd hf hstate.2
  · have hauto := hend.owned.automatic
    unfold Retry.inFlight at hauto ⊢
    simpa [hendInactive] using hauto

theorem rearm (h : Owned r) : Owned r.rearm :=
  ⟨h.probe, h.active, h.next, h.burst, h.state, h.budget, h.automatic⟩

end Owned

end UllReceiver.Trial
