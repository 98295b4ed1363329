import UllReceiver.Parent.OneShot
import UllReceiver.Trial.Step

/-!
# The second stream on the grid of the first

The plan prepared for the second stream starts `k` frames into the first, whatever the anchor and
wherever the 28-bit clock wraps, and the trial stores that `k`.
-/

namespace UllReceiver.Trial

open Air Parent

variable {W : Type}

/-- The plan lies on the 28-bit clock. -/
def OnClock (plan : AirSessionPlan) : Prop :=
  plan.startHs ≤ clockMask ∧ plan.startHus ≤ 624

theorem effect_onClock {m m' : RawModule} {ev : List RawEvent} (h : OnClock m.committedFirst)
    (he : Effect m m' ev) : OnClock m'.committedFirst := by
  have hnone : OnClock noPlan := ⟨by decide, by decide⟩
  cases he with
  | aside _ _ _ hfirst => exact hfirst ▸ h
  | cleared _ _ _ _ hfirst => exact hfirst ▸ hnone
  | offered _ _ _ _ _ hfirst => exact hfirst ▸ h
  | answered _ _ _ hfirst => exact hfirst ▸ h
  | prepared _ _ _ _ _ _ hfirst => exact hfirst ▸ h
  | queued k plan _ hcurrent _ _ _ _ hfirst =>
      rcases hfirst with hfirst | hfirst
      · obtain ⟨_, _, _, hplan⟩ := preparedPlanCurrent_true hcurrent
        obtain ⟨hbuilt, _⟩ := planBuild_ok (planForCurrentAnchor_some hplan).2.1
        have hclock := planFor_clock m.raw.sentE0 m.raw.originAnchor (RawLlcp.planSeed plan)
          plan.offsetUs
        rw [← hbuilt] at hclock
        exact hfirst ▸ hclock
      · exact hfirst ▸ hnone
  | aired _ _ _ _ _ _ _ hfirst => exact hfirst ▸ h

/-- The plan committed first is always one on the clock. -/
theorem committedFirst_onClock {rom : PoolRom} {trace : List RawAction} {s : RawSystem}
    (h : Library.Run (RawSystem.Step rom) .init trace s) : OnClock s.module.committedFirst := by
  refine h.invariant (fun s => OnClock s.module.committedFirst) ⟨by decide, by decide⟩
    fun t a u ht hs => ?_
  obtain ⟨_, rfl⟩ := hs
  exact effect_onClock ht (.act a t.module)

/-! ## Two plans a whole number of frames apart -/

/-- The second plan starts `frames` frames of 5 ms into the first. -/
structure Joins (first second : AirSessionPlan) (frames : Nat) : Prop where
  delta : RawModule.streamDelta first second = 10000 * frames
  positive : 0 < frames
  bound : frames ≤ 400
  eventCounter : second.eventCounter = first.eventCounter + UInt32.ofNat frames
  accessAddress : second.accessAddress = first.accessAddress
  map : planMap second = planMap first
  iv : planIv second = planIv first
  key : planKey second = planKey first
  clock : OnClock second

theorem prepareSecondStream_joins {m m' : RawModule} {k0 k1 k2 : Controller}
    {first second : AirSessionPlan}
    (h : m.prepareSecondStream k0 k1 k2 first = (some second, m')) :
    first = m.committedFirst ∧ ∃ frames, Joins first second frames := by
  unfold RawModule.prepareSecondStream at h
  split at h
  · exact (nomatch h)
  · split at h
    · exact (nomatch h)
    next hready =>
      simp only [Bool.not_eq_true, Bool.not_eq_false', Bool.and_eq_true, beq_iff_eq] at hready
      split at h
      · exact (nomatch h)
      next candidate hcandidate =>
        simp only at h
        split at h
        next hdelta =>
          split at h
          · exact (nomatch h)
          next plan hplan =>
            obtain rfl := Option.some.inj (Prod.mk.inj h).1
            obtain ⟨hc, _⟩ := planBuild_ok (planForCurrentAnchor_some hcandidate).2.1
            obtain ⟨hs, _⟩ := planBuild_ok (planForCurrentAnchor_some hplan).2.1
            -- both plans are built for the original anchor, so they start together
            have hsame : RawModule.streamDelta first plan = RawModule.streamDelta first candidate := by
              rw [hc, hs]
              rfl
            generalize RawModule.streamDelta first candidate = delta at hdelta hsame hs
            obtain ⟨hpositive, hbound, hwhole⟩ := hdelta
            refine ⟨hready.1.1.2, (delta / 10000).toNat, ?_, ?_, ?_, ?_, ?_, ?_, ?_, ?_, ?_⟩
            · rw [hsame]
              omega
            · omega
            · omega
            · rw [hs]
              rfl
            · rw [hs]
              rfl
            · rw [hs, planFor_map]
              rfl
            · rw [hs, planFor_iv]
              rfl
            · rw [hs, planFor_key]
              rfl
            · rw [hs]
              exact planFor_clock _ _ _ _
        · exact (nomatch h)

/-- Frame `frames + n` of the first plan starts with frame `n` of the second, subevent by
subevent. -/
theorem Joins.sessionTime {first second : AirSessionPlan} {frames : Nat}
    (h : Joins first second frames) (hfirst : OnClock first) (n : UInt32) (subevent : UInt8) :
    sessionTime first (UInt32.ofNat frames + n) subevent = sessionTime second n subevent := by
  rw [sessionTime_eq hfirst.1 hfirst.2, sessionTime_eq h.clock.1 h.clock.2]
  by_cases hsub : subevent ≥ airSubevents
  · rw [if_pos hsub, if_pos hsub]
  · rw [if_neg hsub, if_neg hsub]
    have hdelta := h.delta
    have hbound := h.bound
    unfold RawModule.streamDelta at hdelta
    rw [coarse_sub_toNat] at hdelta
    have h1 := UInt32.le_iff_toNat_le.mp hfirst.1
    have h2 := UInt32.le_iff_toNat_le.mp h.clock.1
    change first.startHs.toNat ≤ 2 ^ 28 - 1 at h1
    change second.startHs.toNat ≤ 2 ^ 28 - 1 at h2
    have hhus := UInt16.le_iff_toNat_le.mp h.clock.2
    change second.startHus.toNat ≤ 624 at hhus
    have hn := n.toNat_lt
    have hsum : (UInt32.ofNat frames + n).toNat = (frames + n.toNat) % 2 ^ 32 := by
      rw [UInt32.toNat_add, UInt32.toNat_ofNat']
      omega
    -- a wrap of the index is 2^32 frames, a whole number of turns of the 28-bit clock
    have hfine : ∃ wraps, fineOffset first (UInt32.ofNat frames + n) subevent +
        wraps * (2 ^ 36 * 625) = fineOffset second n subevent +
          (second.startHs.toNat + (2 ^ 28 - first.startHs.toNat)) % 2 ^ 28 * 625 := by
      refine ⟨(frames + n.toNat) / 2 ^ 32, ?_⟩
      unfold fineOffset
      rw [hsum]
      omega
    obtain ⟨wraps, hfine⟩ := hfine
    generalize fineOffset first (UInt32.ofNat frames + n) subevent = f1 at hfine ⊢
    generalize fineOffset second n subevent = f2 at hfine ⊢
    have hcoarse : (first.startHs.toNat + f1 / 625) % 2 ^ 28 =
        (second.startHs.toNat + f2 / 625) % 2 ^ 28 := by
      omega
    have hrest : f1 % 625 = f2 % 625 := by
      omega
    rw [hcoarse, hrest]

/-- Frame `k + n` of the first plan and frame `n` of the second go to the same place in time, on
the same channel and under the same nonce base and key. -/
structure SameGrid (first second : AirSessionPlan) (k : UInt32) : Prop where
  start : ∀ subevent, sessionTime first k subevent = sessionTime second 0 subevent
  time : ∀ n subevent, sessionTime first (k + n) subevent = sessionTime second n subevent
  -- both starts exist for the subevents there are
  defined : ∀ n subevent, subevent < airSubevents → (sessionTime second n subevent).isSome = true
  counter : ∀ n, first.eventCounter + (k + n) = second.eventCounter + n
  channel : ∀ n subevent,
    csa2Subevent first.accessAddress (first.eventCounter + (k + n)).toUInt16 (planMap first)
        subevent =
      csa2Subevent second.accessAddress (second.eventCounter + n).toUInt16 (planMap second) subevent
  iv : planIv first = planIv second
  key : planKey first = planKey second

theorem Joins.frames_eq {first second : AirSessionPlan} {frames : Nat}
    (h : Joins first second frames) :
    second.eventCounter - first.eventCounter = UInt32.ofNat frames := by
  rw [h.eventCounter, add_sub_cancel_left]

theorem Joins.sameGrid {first second : AirSessionPlan} {frames : Nat}
    (h : Joins first second frames) (hfirst : OnClock first) :
    SameGrid first second (second.eventCounter - first.eventCounter) := by
  have hcounter (n : UInt32) :
      first.eventCounter + (UInt32.ofNat frames + n) = second.eventCounter + n := by
    rw [h.eventCounter, add_assoc]
  rw [h.frames_eq]
  refine ⟨fun subevent => ?_, h.sessionTime hfirst, fun n subevent hsub => ?_, hcounter,
    fun n subevent => ?_, h.iv.symm, h.key.symm⟩
  · have h0 := h.sessionTime hfirst 0 subevent
    rw [add_zero] at h0
    exact h0
  · rw [sessionTime_eq h.clock.1 h.clock.2, if_neg (UInt8.not_le.mpr hsub)]
    rfl
  · rw [hcounter, h.accessAddress, h.map]

/-! ## The frame kept by the trial -/

/-- The platform's answer to a request for the second stream of `first` is `second`. -/
def Platform.Answers (P : Platform W) (first second : AirSessionPlan) : Prop :=
  ∀ world plan world', P.prepareSecondStream first world = (.ok plan, world') → plan = second

/-- A join that succeeds stores the distance of the two plans. -/
theorem joinSecondStream_stores {P : Platform W} {t : TrialSystem W} {second : AirSessionPlan}
    (hanswers : P.Answers t.trial.plan second) (hopen : t.trial.secondCommitted = false)
    (hcommitted : (t.joinSecondStream P).2.trial.secondCommitted = true) :
    getElem (t.joinSecondStream P).2.trial.streamStarts 1 Nat.one_lt_two =
      second.eventCounter - t.trial.plan.eventCounter := by
  have hclosed {s : TrialSystem W} (hs : s.trial = t.trial)
      (hc : s.trial.secondCommitted = true) {q : Prop} : q := by
    rw [hs, hopen] at hc
    exact (nomatch hc)
  generalize hresult : t.joinSecondStream P = result at hcommitted ⊢
  unfold TrialSystem.joinSecondStream at hresult
  simp only at hresult
  split at hresult
  next => exact hclosed (hresult ▸ rfl) hcommitted
  next plan hplan =>
    obtain rfl := hanswers _ _ _ (Prod.ext hplan rfl)
    split at hresult
    next => exact hclosed (hresult ▸ rfl) hcommitted
    next =>
      split at hresult
      next => exact hclosed (hresult ▸ rfl) hcommitted
      next =>
        split at hresult
        next => exact hclosed (hresult ▸ rfl) hcommitted
        next =>
          rw [← hresult]
          exact Vector.getElem_set_self _

theorem advanceSecondStream_stores {P : Platform W} {t : TrialSystem W} {second : AirSessionPlan}
    (hanswers : P.Answers t.trial.plan second) (hopen : t.trial.secondCommitted = false)
    (hcommitted : (t.advanceSecondStream P).2.trial.secondCommitted = true) :
    getElem (t.advanceSecondStream P).2.trial.streamStarts 1 Nat.one_lt_two =
      second.eventCounter - t.trial.plan.eventCounter := by
  have hclosed {s : TrialSystem W} (hs : s.trial.secondCommitted = t.trial.secondCommitted)
      (hc : s.trial.secondCommitted = true) {q : Prop} : q := by
    rw [hs, hopen] at hc
    exact (nomatch hc)
  generalize hresult : t.advanceSecondStream P = result at hcommitted ⊢
  unfold TrialSystem.advanceSecondStream at hresult
  rw [hopen] at hresult
  simp only [Bool.false_eq_true, if_false] at hresult
  -- no branch before the join touches the flag
  split at hresult
  next => exact hclosed (hresult ▸ rfl) hcommitted
  next =>
    split at hresult
    next =>
      split at hresult
      next => exact hclosed (hresult ▸ rfl) hcommitted
      next =>
        split at hresult
        next => exact hclosed (hresult ▸ rfl) hcommitted
        next => exact hclosed (hresult ▸ rfl) hcommitted
    next =>
      split at hresult
      next =>
        rw [← hresult] at hcommitted ⊢
        exact joinSecondStream_stores hanswers hopen hcommitted
      next => exact hclosed (hresult ▸ rfl) hcommitted

/-- A second plan that is prepared for a first starts `k` frames into it, with `k` from 1 to 400,
coincides with it from there on, and `k` is what the trial stores. -/
theorem second_stream_joins {rom : PoolRom} {trace : List RawAction} {s : RawSystem}
    (hrun : Library.Run (RawSystem.Step rom) .init trace s) {m' : RawModule}
    {k0 k1 k2 : Controller} {first second : AirSessionPlan}
    (h : s.module.prepareSecondStream k0 k1 k2 first = (some second, m')) :
    0 < second.eventCounter - first.eventCounter ∧
      second.eventCounter - first.eventCounter ≤ 400 ∧
      SameGrid first second (second.eventCounter - first.eventCounter) ∧
      ∀ (W : Type) (P : Platform W) (t : TrialSystem W), t.trial.plan = first →
        P.Answers first second → t.trial.secondCommitted = false →
        (t.advanceSecondStream P).2.trial.secondCommitted = true →
        getElem (t.advanceSecondStream P).2.trial.streamStarts 1 Nat.one_lt_two =
          second.eventCounter - first.eventCounter := by
  obtain ⟨hcommitted, frames, hjoins⟩ := prepareSecondStream_joins h
  have hclock : OnClock first := hcommitted ▸ committedFirst_onClock hrun
  have hnat : (UInt32.ofNat frames).toNat = frames := by
    have hbound := hjoins.bound
    rw [UInt32.toNat_ofNat']
    omega
  refine ⟨?_, ?_, hjoins.sameGrid hclock, fun W P t hplan hanswers hopen hdone => ?_⟩
  · rw [hjoins.frames_eq, UInt32.lt_iff_toNat_lt, hnat]
    exact hjoins.positive
  · rw [hjoins.frames_eq, UInt32.le_iff_toNat_le, hnat]
    exact hjoins.bound
  · subst hplan
    exact advanceSecondStream_stores hanswers hopen hdone

/-! ## A join -/

/-- A platform whose raw module has prepared the second stream. -/
def joinPlatform : Platform Unit :=
  { Platform.prompt .pending with
    secondStreamReady := fun w => (true, w)
    prepareSecondStream := fun _ w => (.ok streamTwoPlan, w) }

/-- The trial waits for the second E1. -/
def joinTrial : TrialSystem Unit :=
  (TrialSystem.init ()).onTrial fun t =>
    { t with plan := streamOnePlan, crcInit := 0x555555, secondRequested := true }

/-- The second stream of the recorded exchange joins 96 frames after the first. -/
theorem second_stream_joins_recorded :
    ∃ s, Library.Run (RawSystem.Step queueRom) .init (joinTrace.take 13) s ∧
      (∃ m', s.module.prepareSecondStream (linkAt 16) (linkAt 16) (linkAt 16) streamOnePlan =
        (some streamTwoPlan, m')) ∧
      SameGrid streamOnePlan streamTwoPlan 96 ∧
      getElem (joinTrial.advanceSecondStream joinPlatform).2.trial.streamStarts 1
        Nat.one_lt_two = 96 := by
  obtain ⟨s, hrun, m', hsecond⟩ := joined_second
  have hjoin := second_stream_joins hrun hsecond
  refine ⟨s, hrun, ⟨m', hsecond⟩, hjoin.2.2.1, ?_⟩
  apply hjoin.2.2.2 Unit joinPlatform joinTrial rfl
  · intro world plan world' hplan
    exact (Except.ok.inj (Prod.mk.inj hplan).1).symm
  · rfl
  · rfl

end UllReceiver.Trial
