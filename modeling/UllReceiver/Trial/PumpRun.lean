import UllReceiver.Trial.Pump

/-!
# Quiescence of the trial pump

What holds of the pump in every order of its steps.
-/

namespace UllReceiver.Trial

open Library

namespace Pump

/-! ## What a step leaves known -/

theorem Knows.keep {s s' : Pump} {pc : BusyPc} (h : s.Knows pc)
    (hactivations : s'.activations = s.activations)
    (hactive : s.active = false → s'.active = false)
    (hpast : s.active = false → s.tick.past = false → s'.tick.past = false)
    (hquiet : s.Quiet → s'.pending = false ∧ s'.outstanding = 0 ∧ s'.published = s.published) :
    s'.Knows pc := by
  cases pc with
  | idle => trivial
  | active => trivial
  | tickRunning since =>
    obtain ⟨hle, hknown⟩ := h
    exact ⟨hactivations ▸ hle, fun heq => hactive (hknown (hactivations ▸ heq))⟩
  | pending since =>
    obtain ⟨hle, hknown⟩ := h
    refine ⟨hactivations ▸ hle, fun heq => ?_⟩
    have hoff := hknown (hactivations ▸ heq)
    exact ⟨hactive hoff.1, hpast hoff.1 hoff.2⟩
  | free since published =>
    obtain ⟨hle, hknown⟩ := h
    refine ⟨hactivations ▸ hle, fun heq => ?_⟩
    have hq := (hknown (hactivations ▸ heq)).1
    have hpublished := (hknown (hactivations ▸ heq)).2
    have hnext := hquiet hq
    exact ⟨⟨hactive hq.active, hnext.1, hnext.2.1, hpast hq.active hq.tick⟩,
      hnext.2.2.trans hpublished⟩

/-- A tick past its test of `active` leaves nothing to lose. -/
theorem Knows.keep_past {s s' : Pump} {pc : BusyPc} (h : s.Knows pc) (hpast : s.tick.past = true)
    (hactivations : s'.activations = s.activations)
    (hactive : s.active = false → s'.active = false) : s'.Knows pc := by
  apply h.keep hactivations hactive
  · intro _ htick
    rw [hpast] at htick
    cases htick
  · intro hq
    have htick := hq.tick
    rw [hpast] at htick
    cases htick

/-- Once more activated, no call knows anything. -/
theorem Knows.activated {s s' : Pump} {pc : BusyPc} (h : s.Knows pc)
    (hactivations : s'.activations = s.activations + 1) : s'.Knows pc := by
  cases pc with
  | idle => trivial
  | active => trivial
  | tickRunning since =>
    have hle := h.1
    exact ⟨by omega, fun heq => by omega⟩
  | pending since =>
    have hle := h.1
    exact ⟨by omega, fun heq => by omega⟩
  | free since published =>
    have hle := h.1
    exact ⟨by omega, fun heq => by omega⟩

/-- Where calls of `ull_trial_pump_finish` and `ull_trial_pump_start` stand does not matter. -/
theorem Counts.beside {s s' : Pump} (h : s.Counts) (htickRunning : s'.tickRunning = s.tickRunning)
    (htick : s'.tick = s.tick) (houtstanding : s'.outstanding = s.outstanding)
    (hpending : s'.pending = s.pending) (hpublished : s'.published = s.published)
    (hactivations : s'.activations = s.activations)
    (hactive : s.active = false → s'.active = false) : Keeps s s' where
  counts := by
    refine ⟨?_, ?_, fun now hnow => ?_⟩
    · rw [htickRunning, htick]
      exact h.running
    · rw [houtstanding, htick, hpending]
      exact h.account
    · rw [hpending]
      exact h.publish now (htick ▸ hnow)
  knows := fun hknows => by
    apply hknows.keep hactivations hactive
    · intro _ hpast
      rw [htick]
      exact hpast
    · intro hq
      exact ⟨hpending.trans hq.pending, houtstanding.trans hq.outstanding, hpublished⟩

/-- The tick goes from one place to another of the same kind. -/
theorem Counts.goto {s s' : Pump} (h : s.Counts) (htickRunning : s'.tickRunning = s.tickRunning)
    (houtstanding : s'.outstanding = s.outstanding) (hpending : s'.pending = s.pending)
    (hrunning : s'.tick.running = s.tick.running)
    (hpublishing : s'.tick.publishing = s.tick.publishing)
    (hpublish : ∀ now, s'.tick = .publish now → s.pending = false) : s'.Counts where
  running := by
    rw [htickRunning, hrunning]
    exact h.running
  account := by
    rw [houtstanding, hpublishing, hpending]
    exact h.account
  publish := fun now hnow => by
    rw [hpending]
    exact hpublish now hnow

/-! ## Steps -/

theorem Counts.tickStep {limit : Int} {s s' : Pump} {now : Int} {sent : Bool} (h : s.Counts)
    (hs : s.tickStep limit now sent = some s') : Keeps s s' := by
  have hrunning := h.running
  have haccount := h.account
  have hpending := Bool.toNat_le s.pending
  -- on every place past the test of `active` no call knows anything the step could spoil
  have hpast : s.tick.past = true → s'.activations = s.activations →
      (s.active = false → s'.active = false) → s'.Counts → Keeps s s' :=
    fun htick hactivations hactive hcounts =>
      ⟨hcounts, fun hknows => hknows.keep_past htick hactivations hactive⟩
  unfold Pump.tickStep at hs
  split at hs
  next => cases hs
  next htick =>
    cases hs
    rw [htick] at hrunning haccount
    refine ⟨⟨?_, haccount, fun _ hnow => (nomatch hnow)⟩, fun hknows => ?_⟩
    · show s.tickRunning + 1 = 1
      rw [hrunning]
      rfl
    · exact hknows.keep rfl id (fun _ _ => rfl) fun hq => ⟨hq.pending, hq.outstanding, rfl⟩
  next htick =>
    cases hs
    by_cases hactive : s.active = true
    · rw [if_pos hactive]
      refine ⟨h.goto rfl rfl rfl (by rw [htick]; rfl) (by rw [htick]; rfl)
        fun _ hnow => (nomatch hnow), fun hknows => ?_⟩
      refine hknows.keep rfl id (fun hoff => ?_) fun hq => ⟨hq.pending, hq.outstanding, rfl⟩
      rw [hactive] at hoff
      cases hoff
    · rw [if_neg hactive]
      refine ⟨h.goto rfl rfl rfl (by rw [htick]; rfl) (by rw [htick]; rfl)
        fun _ hnow => (nomatch hnow), fun hknows => ?_⟩
      exact hknows.keep rfl id (fun _ _ => rfl) fun hq => ⟨hq.pending, hq.outstanding, rfl⟩
  next htick =>
    split at hs
    · cases hs
      apply hpast (by rw [htick]; rfl) rfl id
      exact h.goto rfl rfl rfl (by rw [htick]; rfl) (by rw [htick]; rfl)
        fun _ hnow => (nomatch hnow)
    · cases hs
      apply hpast (by rw [htick]; rfl) rfl id
      exact h.goto rfl rfl rfl (by rw [htick]; rfl) (by rw [htick]; rfl)
        fun _ hnow => (nomatch hnow)
  next when htick =>
    split at hs
    · split at hs
      · cases hs
        apply hpast (by rw [htick]; rfl) rfl id
        exact h.goto rfl rfl rfl (by rw [htick]; rfl) (by rw [htick]; rfl)
          fun _ hnow => (nomatch hnow)
      · cases hs
        apply hpast (by rw [htick]; rfl) rfl id
        exact h.goto rfl rfl rfl (by rw [htick]; rfl) (by rw [htick]; rfl)
          fun _ hnow => (nomatch hnow)
    next hfree =>
      cases hs
      apply hpast (by rw [htick]; rfl) rfl id
      exact h.goto rfl rfl rfl (by rw [htick]; rfl) (by rw [htick]; rfl)
        fun _ _ => Bool.eq_false_iff.mpr hfree
  next when htick =>
    have hfree := h.publish when htick
    cases hs
    apply hpast (by rw [htick]; rfl) rfl id
    rw [htick] at hrunning haccount
    rw [hfree] at haccount
    refine ⟨hrunning, ?_, fun _ hnow => (nomatch hnow)⟩
    change s.outstanding + 0 = 0 at haccount
    show s.outstanding + 1 = 1
    omega
  next htick =>
    split at hs
    · cases hs
      apply hpast (by rw [htick]; rfl) rfl id
      rw [htick] at hrunning haccount
      exact ⟨hrunning, haccount, fun _ hnow => (nomatch hnow)⟩
    · cases hs
      apply hpast (by rw [htick]; rfl) rfl id
      exact h.goto rfl rfl rfl (by rw [htick]; rfl) (by rw [htick]; rfl)
        fun _ hnow => (nomatch hnow)
  next htick =>
    cases hs
    apply hpast (by rw [htick]; rfl) rfl id
    rw [htick] at hrunning haccount
    refine ⟨hrunning, ?_, fun _ hnow => (nomatch hnow)⟩
    change s.outstanding + 1 = _ at haccount
    show s.outstanding + 0 = 0
    omega
  next htick =>
    split at hs
    · cases hs
      apply hpast (by rw [htick]; rfl) rfl id
      exact h.goto rfl rfl rfl (by rw [htick]; rfl) (by rw [htick]; rfl)
        fun _ hnow => (nomatch hnow)
    · cases hs
  next htick =>
    cases hs
    rw [htick] at hrunning haccount
    refine ⟨⟨?_, haccount, fun _ hnow => (nomatch hnow)⟩, fun hknows => ?_⟩
    · show s.tickRunning - 1 = 0
      rw [hrunning]
      rfl
    · exact hknows.keep rfl id (fun _ _ => rfl) fun hq => ⟨hq.pending, hq.outstanding, rfl⟩

theorem Counts.finishStep {s s' : Pump} {caller : Finisher} {used : Bool} (h : s.Counts)
    (hs : s.finishStep caller used = some s') : Keeps s s' := by
  unfold Pump.finishStep at hs
  split at hs
  · cases hs
  · split at hs
    · cases hs
      exact h.beside rfl rfl rfl rfl rfl rfl fun _ => rfl
    · cases hs
      exact h.beside rfl rfl rfl rfl rfl rfl id
  · cases hs
    exact h.beside rfl rfl rfl rfl rfl rfl id
  · cases hs
    exact h.beside rfl rfl rfl rfl rfl rfl id

theorem Counts.busyStep {s s' : Pump} {caller : BusyCaller} (h : s.Counts)
    (hs : s.busyStep caller = some s') : Keeps s s' := by
  unfold Pump.busyStep at hs
  split at hs
  · cases hs
  · cases hs
  · cases hs
    exact h.beside rfl rfl rfl rfl rfl rfl id
  · cases hs
    exact h.beside rfl rfl rfl rfl rfl rfl id
  · cases hs
    exact h.beside rfl rfl rfl rfl rfl rfl id

theorem Counts.startStep {s s' : Pump} {now : Int} {armed : Bool} (h : s.Counts)
    (hs : s.startStep now armed = some s') : Keeps s s' := by
  unfold Pump.startStep at hs
  split at hs
  · cases hs
  · split at hs
    · cases hs
      exact h.beside rfl rfl rfl rfl rfl rfl id
    · cases hs
      exact h.beside rfl rfl rfl rfl rfl rfl id
    · cases hs
  · cases hs
    exact h.beside rfl rfl rfl rfl rfl rfl id
  · cases hs
    exact h.beside rfl rfl rfl rfl rfl rfl id
  · cases hs
    exact ⟨⟨h.running, h.account, h.publish⟩, fun hknows => hknows.activated rfl⟩
  · split at hs
    · cases hs
      exact h.beside rfl rfl rfl rfl rfl rfl id
    · cases hs
      exact h.beside rfl rfl rfl rfl rfl rfl id
  · split at hs
    · cases hs
      exact h.beside rfl rfl rfl rfl rfl rfl id
    · cases hs

/-- The command that is completed is the one that `pending` stands for. -/
theorem Counts.complete {s : Pump} (h : s.Counts) (hsome : s.outstanding ≠ 0) :
    Keeps s { s with outstanding := s.outstanding - 1, pending := false } where
  counts := by
    have haccount := h.account
    have hpending := Bool.toNat_le s.pending
    refine ⟨h.running, ?_, fun _ _ => rfl⟩
    show s.outstanding - 1 + s.tick.publishing.toNat = 0
    omega
  knows := fun hknows =>
    hknows.keep rfl id (fun _ => id) fun hq => absurd hq.outstanding hsome

theorem Keeps.trans {s t u : Pump} (h : Keeps s t) (k : Keeps t u) : Keeps s u :=
  ⟨k.counts, fun hknows => k.knows (h.knows hknows)⟩

theorem Counts.step {limit : Int} {s s' : Pump} {a : PumpAction} (h : s.Counts)
    (hs : Pump.Step limit s a s') : Keeps s s' := by
  unfold Pump.Step at hs
  cases a with
  | dispatch =>
    simp only [Pump.act] at hs
    split at hs
    next hidle =>
      cases hs
      have hgoto : ({ s with tick := .entering } : Pump).Counts := h.goto rfl rfl rfl
        (by rw [hidle.2]; rfl) (by rw [hidle.2]; rfl) fun _ hnow => (nomatch hnow)
      exact ⟨hgoto, fun hknows =>
        hknows.keep rfl id (fun _ _ => rfl) fun hq => ⟨hq.pending, hq.outstanding, rfl⟩⟩
    · cases hs
  | tick now sent => exact h.tickStep hs
  | complete failed =>
    simp only [Pump.act] at hs
    split at hs
    next hsome =>
      cases hs
      have hcomplete := h.complete hsome.1
      split
      · exact hcomplete.trans (hcomplete.counts.beside rfl rfl rfl rfl rfl rfl id)
      · exact hcomplete
    · cases hs
  | finishCall n =>
    simp only [Pump.act] at hs
    split at hs
    · cases hs
      exact h.beside rfl rfl rfl rfl rfl rfl id
    · cases hs
  | finish caller used => exact h.finishStep hs
  | startCall =>
    simp only [Pump.act] at hs
    split at hs
    · cases hs
      exact h.beside rfl rfl rfl rfl rfl rfl id
    · cases hs
  | start now armed => exact h.startStep hs
  | busyCall n =>
    simp only [Pump.act] at hs
    split at hs
    · cases hs
      exact h.beside rfl rfl rfl rfl rfl rfl id
    · cases hs
      exact h.beside rfl rfl rfl rfl rfl rfl id
    · cases hs
  | busy caller => exact h.busyStep hs
  | setContinuous value =>
    cases hs
    exact h.beside rfl rfl rfl rfl rfl rfl id
  | drain =>
    cases hs
    exact h.beside rfl rfl rfl rfl rfl rfl id

/-! ## What a call of `ull_trial_pump_busy` finds -/

/-- While no callback has counted itself, none is past its test. -/
theorem Counts.not_past {s : Pump} (h : s.Counts) (hzero : s.tickRunning = 0) :
    s.tick.past = false := by
  have hrunning := h.running
  rw [hzero] at hrunning
  cases htick : s.tick with
  | idle => rfl
  | entering => rfl
  | check => rfl
  | leaving => rfl
  | passed | testPending | publish | send | retract | finishing =>
    rw [htick] at hrunning
    cases hrunning

theorem Counts.nothing_outstanding {s : Pump} (h : s.Counts) (hpending : s.pending = false) :
    s.outstanding = 0 := by
  have haccount := h.account
  rw [hpending] at haccount
  change s.outstanding + _ = 0 at haccount
  omega

theorem Good.setBusy_knows {s : Pump} {caller : BusyCaller} {pc : BusyPc} (h : s.Good)
    (hpc : s.Knows pc) (other : BusyCaller) : s.Knows ((s.setBusy caller pc).busy other) := by
  show s.Knows (Function.update s.busy caller pc other)
  by_cases heq : other = caller
  · rw [heq, Function.update_self]
    exact hpc
  · rw [Function.update_of_ne heq]
    exact h.knows other

/-- The loads stand in this order: whether active, whether running, whether pending. -/
theorem Good.busyStep_knows {s s' : Pump} {caller : BusyCaller} (h : s.Good)
    (hs : s.busyStep caller = some s') (other : BusyCaller) : s.Knows (s'.busy other) := by
  have hknows := h.knows caller
  unfold Pump.busyStep at hs
  split at hs
  · cases hs
  · cases hs
  next hpc =>
    cases hs
    apply h.setBusy_knows
    split
    · trivial
    next hoff => exact ⟨Nat.le_refl _, fun _ => Bool.eq_false_iff.mpr hoff⟩
  next since hpc =>
    rw [hpc] at hknows
    cases hs
    apply h.setBusy_knows
    split
    · trivial
    next hzero => exact ⟨hknows.1, fun heq => ⟨hknows.2 heq, h.counts.not_past (not_not.mp hzero)⟩⟩
  next since hpc =>
    rw [hpc] at hknows
    cases hs
    apply h.setBusy_knows
    split
    · trivial
    next hfree =>
      have hpending := Bool.eq_false_iff.mpr hfree
      refine ⟨hknows.1, fun heq => ⟨⟨(hknows.2 heq).1, hpending, ?_, (hknows.2 heq).2⟩, rfl⟩⟩
      exact h.counts.nothing_outstanding hpending

theorem tickStep_busy {limit : Int} {s s' : Pump} {now : Int} {sent : Bool}
    (hs : s.tickStep limit now sent = some s') : s'.busy = s.busy := by
  unfold Pump.tickStep at hs
  split at hs
  next => cases hs
  next => cases hs; rfl
  next => cases hs; rfl
  next => split at hs <;> cases hs <;> rfl
  next =>
    split at hs
    · split at hs <;> cases hs <;> rfl
    · cases hs; rfl
  next => cases hs; rfl
  next => split at hs <;> cases hs <;> rfl
  next => cases hs; rfl
  next =>
    split at hs
    · cases hs; rfl
    · cases hs
  next => cases hs; rfl

theorem finishStep_busy {s s' : Pump} {caller : Finisher} {used : Bool}
    (hs : s.finishStep caller used = some s') : s'.busy = s.busy := by
  unfold Pump.finishStep at hs
  split at hs
  next => cases hs
  next => split at hs <;> cases hs <;> rfl
  next => cases hs; rfl
  next => cases hs; rfl

theorem Good.startStep_knows {s s' : Pump} {now : Int} {armed : Bool} (h : s.Good)
    (hs : s.startStep now armed = some s') (other : BusyCaller) : s.Knows (s'.busy other) := by
  have hknows := h.knows other
  unfold Pump.startStep at hs
  split at hs
  · cases hs
  · split at hs
    · cases hs
      exact hknows
    · cases hs
      exact h.setBusy_knows (show s.Knows .idle from trivial) other
    · cases hs
  · cases hs
    exact hknows
  · cases hs
    exact hknows
  · cases hs
    exact hknows
  · split at hs
    · cases hs
      exact hknows
    · cases hs
      exact hknows
  · split at hs
    · cases hs
      exact hknows
    · cases hs

theorem Good.step_knows {limit : Int} {s s' : Pump} {a : PumpAction} (h : s.Good)
    (hs : Pump.Step limit s a s') (other : BusyCaller) : s.Knows (s'.busy other) := by
  have hknows := h.knows other
  unfold Pump.Step at hs
  cases a with
  | dispatch =>
    simp only [Pump.act] at hs
    split at hs
    · cases hs
      exact hknows
    · cases hs
  | tick now sent => rwa [tickStep_busy hs]
  | complete failed =>
    simp only [Pump.act] at hs
    split at hs
    · cases hs
      split
      · exact hknows
      · exact hknows
    · cases hs
  | finishCall n =>
    simp only [Pump.act] at hs
    split at hs
    · cases hs
      exact hknows
    · cases hs
  | finish caller used => rwa [finishStep_busy hs]
  | startCall =>
    simp only [Pump.act] at hs
    split at hs
    · cases hs
      exact h.setBusy_knows (show s.Knows .active from trivial) other
    · cases hs
  | start now armed => exact h.startStep_knows hs other
  | busyCall n =>
    simp only [Pump.act] at hs
    split at hs
    · cases hs
      exact h.setBusy_knows (show s.Knows .active from trivial) other
    · cases hs
      exact h.setBusy_knows (show s.Knows .active from trivial) other
    · cases hs
  | busy caller => exact h.busyStep_knows hs other
  | setContinuous value =>
    cases hs
    exact hknows
  | drain =>
    cases hs
    exact hknows

/-! ## Runs -/

theorem good_init : init.Good where
  counts := ⟨rfl, rfl, fun _ h => nomatch h⟩
  knows := fun _ => trivial

theorem Good.step {limit : Int} {s s' : Pump} {a : PumpAction} (h : s.Good)
    (hs : Pump.Step limit s a s') : s'.Good :=
  ⟨(h.counts.step hs).counts, fun caller => (h.counts.step hs).knows (h.step_knows hs caller)⟩

theorem Good.run {limit : Int} {s s' : Pump} {trace : List PumpAction} (h : s.Good)
    (hrun : Run (Pump.Step limit) s trace s') : s'.Good :=
  hrun.invariant Good h fun _ _ _ hgood hs => hgood.step hs

/-- What a call knew when it returned stays true however the run goes on. -/
theorem Good.run_knows {limit : Int} {s s' : Pump} {trace : List PumpAction} {pc : BusyPc}
    (h : s.Good) (hknows : s.Knows pc) (hrun : Run (Pump.Step limit) s trace s') :
    s'.Knows pc := by
  have hboth := hrun.invariant_of_invariant Good (fun t => t.Knows pc) h
    (fun _ _ _ hgood hs => hgood.step hs) hknows
    fun _ _ _ hgood hpc hs => (hgood.counts.step hs).knows hpc
  exact hboth.2

theorem busyStep_free {s s' : Pump} {caller : BusyCaller} {since published : Nat}
    (hs : s.busyStep caller = some s') (hfree : s'.busy caller = .free since published) :
    s'.published = published := by
  have hupdate : ∀ pc, s.setBusy caller pc = s' → pc = .free since published ∧
      s'.published = s.published := by
    intro pc heq
    rw [← heq] at hfree ⊢
    change Function.update s.busy caller pc caller = _ at hfree
    rw [Function.update_self] at hfree
    exact ⟨hfree, rfl⟩
  unfold Pump.busyStep at hs
  split at hs
  · cases hs
  · cases hs
  · have hpc := (hupdate _ (Option.some.inj hs)).1
    split at hpc <;> cases hpc
  · have hpc := (hupdate _ (Option.some.inj hs)).1
    split at hpc <;> cases hpc
  · have hpc := hupdate _ (Option.some.inj hs)
    have hreturned := hpc.1
    split at hreturned
    · cases hreturned
    · cases hreturned
      exact hpc.2

theorem Counts.pending_iff {s : Pump} (h : s.Counts) :
    s.pending = true ↔ s.outstanding = 1 ∨ s.tick.publishing = true := by
  have haccount := h.account
  cases hpending : s.pending <;> cases hpublishing : s.tick.publishing <;>
    rw [hpending, hpublishing] at haccount <;> simp at haccount ⊢ <;> omega

/-- At any time at most one command is outstanding, and `pending` stands for it. A call of
`ull_trial_pump_busy` that returns false, where the pump has not been activated since its first
load, leaves the pump quiet until the pump is activated again. -/
theorem pump_quiescent {limit : Int} {s : Pump} {trace : List PumpAction}
    (hrun : Run (Pump.Step limit) init trace s) :
    s.outstanding ≤ 1 ∧
    (s.pending = true ↔ s.outstanding = 1 ∨ s.tick.publishing = true) ∧
    ∀ caller s' since published, s.busyStep caller = some s' →
      s'.busy caller = .free since published →
      ∀ later t, Run (Pump.Step limit) s' later t → t.activations = since →
        t.Quiet ∧ t.published = s'.published := by
  have hgood := good_init.run hrun
  have haccount := hgood.counts.account
  have hle := Bool.toNat_le s.pending
  refine ⟨by omega, hgood.counts.pending_iff, ?_⟩
  intro caller s' since published hs hfree later t hlater hsame
  have hstep : Pump.Step limit s (.busy caller) s' := hs
  have hgood' := hgood.step hstep
  have hknows : s'.Knows (.free since published) := hfree ▸ hgood'.knows caller
  have hkept := hgood'.run_knows hknows hlater
  have hpublished := busyStep_free hs hfree
  exact ⟨(hkept.2 hsame).1, (hkept.2 hsame).2.trans hpublished.symm⟩

/-- Where the pump is after `actions`. -/
def after (limit : Int) (s : Pump) (actions : List PumpAction) : Pump :=
  (actions.foldlM (Pump.act limit) s).getD s

theorem run_after {limit : Int} {s : Pump} {actions : List PumpAction}
    (hsome : (actions.foldlM (Pump.act limit) s).isSome) :
    Run (Pump.Step limit) s actions (s.after limit actions) := by
  obtain ⟨t, ht⟩ := Option.isSome_iff_exists.mp hsome
  have hafter : s.after limit actions = t := by
    unfold after
    rw [ht]
    rfl
  rw [hafter]
  exact Run.of_foldlM ht

/-- `ull_trial_pump_start` with the loads of its call of `ull_trial_pump_busy`. -/
def starting : List PumpAction :=
  [.startCall, .busy .start, .busy .start, .busy .start, .start 0 true, .start 0 true,
    .start 0 true, .start 0 true, .start 0 true]

/-- A first trial: started, its command published, sent and completed, and finished. -/
def firstTrial : List PumpAction :=
  starting ++ [.dispatch, .tick 100 true, .tick 100 true, .tick 100 true, .tick 100 true,
    .tick 100 true, .tick 100 true, .tick 100 true, .complete false, .finishCall 0,
    .finish (.other 0) false, .finish (.other 0) false, .finish (.other 0) false,
    .busyCall 1, .busy (.other 1), .busy (.other 1)]

/-- After it a call finds the pump quiet, and quiet it is while the next start is under way. -/
theorem pump_quiescent_finished :
    ((init.after 3000000 (firstTrial ++ [.busy (.other 1)])).after 3000000
      (starting.take 7)).Quiet := by
  have hrun : Run (Pump.Step 3000000) init firstTrial _ := run_after rfl
  have hlater : Run (Pump.Step 3000000)
      (init.after 3000000 (firstTrial ++ [.busy (.other 1)])) (starting.take 7) _ := run_after rfl
  exact ((pump_quiescent hrun).2.2 (.other 1) _ 1 1 rfl rfl _ _ hlater rfl).1

/-- A start goes through between the first and the second load of a call, and a tick passes its
test of `active` between the second and the third. -/
def overtaking : List PumpAction :=
  [.busyCall 0, .busy (.other 0)] ++ starting ++
    [.busy (.other 0), .dispatch, .tick 100 true, .tick 100 true]

/-- The call then returns false, the tick runs past its test, and it goes on to publish its command
with no other start. -/
theorem quiet_overtaken :
    ∃ s s' t : Pump, ∃ since published later,
      Run (Pump.Step 3000000) init overtaking s ∧
      s.busyStep (.other 0) = some s' ∧ s'.busy (.other 0) = .free since published ∧
      s'.start = .idle ∧ s'.tick.past = true ∧
      Run (Pump.Step 3000000) s' later t ∧ t.start = .idle ∧
      t.activations = s'.activations ∧ s'.published < t.published ∧ t.outstanding = 1 := by
  refine ⟨_, init.after 3000000 (overtaking ++ [.busy (.other 0)]), _, 0, 0,
    [.tick 100 true, .tick 100 true, .tick 100 true, .tick 100 true], run_after rfl, rfl, rfl, rfl,
    rfl, run_after rfl, rfl, rfl, ?_, rfl⟩
  exact Nat.zero_lt_one

end Pump

end UllReceiver.Trial
