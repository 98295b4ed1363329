import UllReceiver.Trial.Ownership
import UllReceiver.Trial.Walk

/-!
# Ownership over whole runs

The owner of the repeats in every reachable state of the trial.
-/

namespace UllReceiver.Trial

open Air Audio Parent Radio

variable {W : Type} {P : Platform W}

/-- A frame may be with the radio as a repeat. -/
def Stage.radio : Stage → Bool
  | .claimed | .fallback | .sent | .flying => true
  | _ => false

/-- At most one policy claims the frame. -/
structure Claim.Exclusive (c : Claim) : Prop where
  probeBurst : c.probe = true → c.burst = false
  automatic : c.automatic = true → c.probe = false ∧ c.burst = false

structure RetryInv (a : Stage × TrialSystem W) : Prop where
  owned : Owned a.2.retry
  quiet : a.1.radio = false → a.2.retry.Quiet
  fallback : a.2.retry.fallbackAttempted = a.2.retry.fallbackSent + a.2.retry.fallbackRejected +
    if a.1 = .fallback then 1 else 0
  probes : a.2.history.probesArmed ≤ 1 ∧
    (a.2.retry.probeState = .idle → a.2.history.probesArmed = 0)
  bursts : a.2.history.burstsArmed ≤ 1 ∧
    (a.2.retry.burstState = .unused → a.2.history.burstsArmed = 0)
  blocked : a.2.history.finished = true → a.2.retry.autoBlocked = true
  claims : ∀ c, .claim c ∈ a.2.history.calls →
    c.Exclusive ∧ (c.automatic = true → c.finished = false)

/-- The claims and the arming counts are those of before. -/
structure SameClaims (s s' : TrialSystem W) : Prop where
  claims : ∀ c, .claim c ∈ s'.history.calls → .claim c ∈ s.history.calls
  probes : s'.history.probesArmed = s.history.probesArmed
  bursts : s'.history.burstsArmed = s.history.burstsArmed
  finished : s'.history.finished = s.history.finished

theorem SameClaims.of_history {s s' : TrialSystem W} (h : s'.history = s.history) :
    SameClaims s s' := by
  refine ⟨?_, ?_, ?_, ?_⟩ <;> rw [h]
  exact fun _ hc => hc

theorem SameClaims.log {s s' : TrialSystem W} {c : Call}
    (h : s'.history = { s.history with calls := c :: s.history.calls })
    (hc : ∀ c', c ≠ .claim c') : SameClaims s s' := by
  refine ⟨fun c' hc' => ?_, ?_, ?_, ?_⟩
  · rw [h] at hc'
    rcases List.mem_cons.mp hc' with heq | hmem
    · exact absurd heq.symm (hc c')
    · exact hmem
  all_goals rw [h]

/-- A change of policy that claims nothing. -/
theorem RetryInv.kept {st st' : Stage} {s s' : TrialSystem W} (hi : RetryInv (st, s))
    (h : Kept s.retry s'.retry) (hclaims : SameClaims s s')
    (hquiet : st'.radio = false → st.radio = true → s'.retry.Quiet)
    (hst : st ≠ .fallback) (hst' : st' ≠ .fallback) : RetryInv (st', s') := by
  refine ⟨h.owned, fun hst => ?_, ?_, ?_, ?_, ?_, ?_⟩
  · cases hradio : st.radio with
    | true => exact hquiet hst hradio
    | false => exact h.quiet (hi.quiet hradio)
  · have hfallback := hi.fallback
    simp only [if_neg hst] at hfallback
    simp only [if_neg hst', h.later.fallback]
    exact hfallback
  · rw [hclaims.probes]
    exact ⟨hi.probes.1, fun hidle => hi.probes.2 (h.later.probeIdle hidle)⟩
  · rw [hclaims.bursts]
    exact ⟨hi.bursts.1, fun hunused => hi.bursts.2 (h.later.burstUnused hunused)⟩
  · rw [hclaims.finished]
    exact fun hover => h.later.blocked (hi.blocked hover)
  · exact fun c hc => hi.claims c (hclaims.claims c hc)

/-- The policies are left alone. -/
theorem RetryInv.same {st st' : Stage} {s s' : TrialSystem W} (hi : RetryInv (st, s))
    (hretry : s'.retry = s.retry) (hclaims : SameClaims s s')
    (hradio : st'.radio = false → st.radio = false) (hst : st = .fallback ↔ st' = .fallback) :
    RetryInv (st', s') := by
  refine ⟨?_, fun hquiet => ?_, ?_, ?_, ?_, ?_, ?_⟩
  · exact hretry ▸ hi.owned
  · exact hretry ▸ hi.quiet (hradio hquiet)
  · have hfallback := hi.fallback
    simp only [hst] at hfallback
    simp only [hretry]
    exact hfallback
  · rw [hclaims.probes, hretry]
    exact hi.probes
  · rw [hclaims.bursts, hretry]
    exact hi.bursts
  · rw [hclaims.finished, hretry]
    exact hi.blocked
  · exact fun c hc => hi.claims c (hclaims.claims c hc)

theorem Aside.retryInv {st : Stage} (hst : st = .rest ∨ st = .flying) {s s' : TrialSystem W}
    (h : Aside P s s') (hi : RetryInv (st, s)) : RetryInv (st, s') := by
  have hne : st ≠ .fallback := by
    rcases hst with rfl | rfl <;> decide
  have hkept {s' : TrialSystem W} (h : Kept s.retry s'.retry) (hh : s'.history = s.history) :
      RetryInv (st, s') :=
    hi.kept h (.of_history hh) (fun hf ht => absurd (hf.symm.trans ht) (by decide)) hne hne
  cases h with
  | tick now => exact hkept (hi.owned.burstTick now) rfl
  | probeArm =>
      obtain ⟨harm, harmed⟩ := hi.owned.probeArm
      have h1 : RetryInv (st, { s with retry := s.retry.probeArm.2 }) := hkept harm rfl
      refine ⟨h1.owned, h1.quiet, h1.fallback, ?_, h1.bursts, h1.blocked, h1.claims⟩
      change s.history.probesArmed + s.retry.probeArm.1.toNat ≤ 1 ∧
        (s.retry.probeArm.2.probeState = .idle → s.history.probesArmed +
          s.retry.probeArm.1.toNat = 0)
      cases ha : s.retry.probeArm.1 with
      | false => exact h1.probes
      | true =>
          -- it was idle, so none has been armed before, and it is not idle again
          have hidle := harmed ha
          have hzero := hi.probes.2 hidle.1
          refine ⟨?_, fun hf => absurd hf hidle.2⟩
          change s.history.probesArmed = 0 at hzero
          rw [hzero]
          decide
  | burstArm =>
      obtain ⟨harm, harmed⟩ := hi.owned.burstArm (P.timerMs s.world).1
      have h1 : RetryInv (st, { s with retry := (s.retry.burstArm (P.timerMs s.world).1).2 }) :=
        hkept harm rfl
      refine ⟨h1.owned, h1.quiet, h1.fallback, h1.probes, ?_, h1.blocked, h1.claims⟩
      change s.history.burstsArmed + (s.retry.burstArm (P.timerMs s.world).1).1.toNat ≤ 1 ∧
        ((s.retry.burstArm (P.timerMs s.world).1).2.burstState = .unused →
          s.history.burstsArmed + (s.retry.burstArm (P.timerMs s.world).1).1.toNat = 0)
      cases ha : (s.retry.burstArm (P.timerMs s.world).1).1 with
      | false => exact h1.bursts
      | true =>
          have hunused := harmed ha
          have hzero := hi.bursts.2 hunused.1
          refine ⟨?_, fun hf => absurd hf hunused.2⟩
          change s.history.burstsArmed = 0 at hzero
          rw [hzero]
          decide
  | cooldownProbeArm => exact hkept hi.owned.cooldownProbeArm rfl
  | autoEnable on => exact hkept (hi.owned.autoEnable on) rfl
  | push frame => exact hkept hi.owned.refl rfl
  | cancel => exact hkept hi.owned.cancel rfl
  | joined t ht => exact hkept hi.owned.refl rfl

/-! ## Claims -/

/-- What the policies have after they were asked for a frame. -/
structure Claimed (before : Retry) (c : Claim) (after : Retry) : Prop where
  owned : Owned after
  later : Later before after
  exclusive : c.Exclusive
  automatic : c.automatic = true → before.autoBlocked = false

theorem claim_claimed (s : TrialSystem W) (h : Owned s.retry) (hquiet : s.retry.Quiet) :
    ∃ c, Claimed s.retry c (s.claim P).2.retry ∧ c.finished = s.history.finished ∧
      (s.claim P).2.history = { s.history with calls := .claim c :: s.history.calls } := by
  refine ⟨(s.claim P).1, ?_, rfl, rfl⟩
  unfold TrialSystem.claim
  simp only
  generalize TrialSystem.audioEligible _ s s.nextPrepared = eligible
  -- the counters of the control slots
  generalize hr0 : (if s.nextPrepared.stereoAudio = true ∧ s.nextPrepared.header = 0x32 ∧
    s.nextPrepared.length = 205 then _ else s.retry) = r0
  have h0 : Kept s.retry r0 := by
    rw [← hr0]
    split
    · split <;> exact h.beside rfl
    · exact h.refl
  obtain ⟨hprobe, hlater1, hactive1, howner1⟩ := h0.owned.probeTake eligible s.trial.activeFrame
  generalize r0.probeTake eligible s.trial.activeFrame = r at hprobe hlater1 hactive1 howner1
  obtain ⟨probe, r1⟩ := r
  simp only at hprobe hlater1 hactive1 howner1
  have hinactive1 : r1.burstActive = false := hactive1.trans (h0.quiet hquiet).1
  generalize (P.timerMs (P.timerMs s.world).2).1 = now
  obtain ⟨hburst, hlater2, howner2, hactive2⟩ := hprobe.burstTake hinactive1 now eligible
  generalize r1.burstTake now eligible = r at hburst hlater2 howner2 hactive2
  obtain ⟨burst, r2⟩ := r
  simp only at hburst hlater2 howner2 hactive2 ⊢
  have hlater := (h0.later.trans hlater1).trans hlater2
  have hexclusive : probe = true → burst = false := by
    intro hp
    by_contra hb
    have hb' : burst = true := by simpa using hb
    exact absurd ((howner1 hp).symm.trans (howner2 hb')) (by decide)
  generalize (P.timerMs (P.timerMs (P.timerMs s.world).2).2).1 = now'
  by_cases htaken : probe = true ∨ burst = true
  · simp only [if_pos htaken]
    exact ⟨hburst, hlater, ⟨hexclusive, fun hf => (nomatch hf)⟩, fun hf => (nomatch hf)⟩
  · simp only [if_neg htaken]
    have hneither : probe = false ∧ burst = false := by simpa using htaken
    obtain ⟨hauto, hlater3, hunblocked⟩ := hburst.autoTake (hactive2 hneither.2) now' eligible
      s.trial.cancel s.trial.activeFrame
    refine ⟨hauto, hlater.trans hlater3, ⟨hexclusive, fun _ => hneither⟩, fun ha => ?_⟩
    by_contra hblocked
    have hbefore : s.retry.autoBlocked = true := by simpa using hblocked
    exact absurd ((hunblocked ha).symm.trans (hlater.blocked hbefore)) (by decide)

theorem RetryInv.claim {s : TrialSystem W} (hi : RetryInv (.rest, s)) :
    RetryInv (.claimed, (s.activate.claim P).2) := by
  obtain ⟨c, hclaimed, hover, hhistory⟩ :=
    claim_claimed (P := P) s.activate hi.owned (hi.quiet rfl)
  refine ⟨hclaimed.owned, fun hf => (nomatch hf), ?_, ?_, ?_, ?_, ?_⟩
  · simp only [hclaimed.later.fallback]
    exact hi.fallback
  · simp only [hhistory]
    exact ⟨hi.probes.1, fun hidle => hi.probes.2 (hclaimed.later.probeIdle hidle)⟩
  · simp only [hhistory]
    exact ⟨hi.bursts.1, fun hunused => hi.bursts.2 (hclaimed.later.burstUnused hunused)⟩
  · simp only [hhistory]
    exact fun hover => hclaimed.later.blocked (hi.blocked hover)
  · simp only [hhistory]
    intro c' hc'
    rcases List.mem_cons.mp hc' with heq | hmem
    · obtain rfl : c' = c := by simpa using heq
      refine ⟨hclaimed.exclusive, fun ha => ?_⟩
      by_contra hne
      have hblocked := hi.blocked (hover.symm.trans (by simpa using hne))
      exact absurd ((hclaimed.automatic ha).symm.trans hblocked) (by decide)
    · exact hi.claims c' hmem

/-! ## Fallback -/

theorem RetryInv.fallbackStart {s : TrialSystem W} (hi : RetryInv (.claimed, s)) (now : UInt32)
    (status : UInt8) :
    RetryInv (.fallback, { s with retry := s.retry.fallbackStart now status }) := by
  have hdone := hi.owned.burstDone now none status
  have h1 : RetryInv (.claimed, { s with retry := s.retry.burstDone now none status }) :=
    hi.kept hdone (.of_history rfl) (fun hf => (nomatch hf)) (by decide) (by decide)
  refine ⟨⟨h1.owned.probe, h1.owned.active, h1.owned.next, h1.owned.burst, h1.owned.state,
    h1.owned.budget, h1.owned.automatic⟩, fun hf => (nomatch hf), ?_, h1.probes, h1.bursts,
    h1.blocked, h1.claims⟩
  have hfallback := h1.fallback
  change (s.retry.burstDone now none status).fallbackAttempted + 1 = _ + _ + 1
  rw [show (s.retry.burstDone now none status).fallbackAttempted = _ from hfallback]
  simp [Retry.fallbackStart]

theorem RetryInv.fallbackEnd {s : TrialSystem W} (hi : RetryInv (.fallback, s)) (sent : Bool)
    {st : Stage} (hst : st.radio = true) (hne : st ≠ .fallback) (c : Call)
    (hc : ∀ c', c ≠ .claim c') :
    RetryInv (st, { s.log c with retry := s.retry.fallbackEnd sent }) := by
  have hclaims : SameClaims s (s.log c) := .log rfl hc
  have hfields : Owned (s.retry.fallbackEnd sent) := by
    have h := hi.owned
    cases sent <;>
      exact ⟨h.probe, h.active, h.next, h.burst, h.state, h.budget, h.automatic⟩
  refine ⟨hfields, fun hf => absurd (hf.symm.trans hst) (by decide), ?_, ?_, ?_, ?_, ?_⟩
  · have hfallback := hi.fallback
    simp only [if_neg hne] at hfallback ⊢
    cases sent with
    | true =>
        change s.retry.fallbackAttempted = s.retry.fallbackSent + 1 + s.retry.fallbackRejected + 0
        rw [hfallback]
        simp [UInt32.add_assoc, UInt32.add_comm 1]
    | false =>
        change s.retry.fallbackAttempted = s.retry.fallbackSent + (s.retry.fallbackRejected + 1) + 0
        rw [hfallback]
        simp [UInt32.add_assoc]
  · cases sent <;> exact hi.probes
  · cases sent <;> exact hi.bursts
  · cases sent <;> exact hi.blocked
  · exact fun c' hc' => hi.claims c' (hclaims.claims c' hc')

/-! ## The end -/

theorem RetryInv.finish {st : Stage} {s : TrialSystem W} (hi : RetryInv (st, s))
    (hst : st ≠ .fallback) (phase : TrialPhase) (reason : UInt8) :
    RetryInv (.rest, s.finish P phase reason) := by
  obtain ⟨hkept, hquiet, hblocked⟩ := hi.owned.finish (P.timerMs s.world).1 phase
  have h1 : RetryInv (.rest, { s with retry := s.retry.finish (P.timerMs s.world).1 phase }) :=
    hi.kept hkept (.of_history rfl) (fun _ _ => hquiet) hst (by decide)
  have hreport : Kept (s.retry.finish (P.timerMs s.world).1 phase)
      { s.retry.finish (P.timerMs s.world).1 phase with streamPhase := phase } :=
    h1.owned.beside rfl
  exact ⟨hreport.owned, fun _ => hquiet, h1.fallback, h1.probes, h1.bursts, fun _ => hblocked,
    h1.claims⟩

theorem RetryInv.rearm {s : TrialSystem W} (hi : RetryInv (.rest, s)) :
    RetryInv (.rest, { s with
      trial := .zero, retry := s.retry.rearm, audioSource := false, continuous := false
      history := { s.history with calls := [], finished := false } }) := by
  refine ⟨hi.owned.rearm, hi.quiet, hi.fallback, hi.probes, hi.bursts, fun hf => (nomatch hf), ?_⟩
  intro c hc
  exact absurd hc (by simp)

theorem prepareFrame_claims (index : UInt32) (s : TrialSystem W) :
    (s.prepareFrame P index).2.retry = s.retry ∧ SameClaims s (s.prepareFrame P index).2 := by
  obtain ⟨p, source, world, ccmKey, parent, h⟩ := prepareFrame_same P index s
  rw [h]
  exact ⟨rfl, fun _ hc => hc, rfl, rfl, rfl⟩

theorem prepareAlternate_claims (index : UInt32) (s : TrialSystem W) :
    (s.prepareAlternate P index).2.retry = s.retry ∧
      SameClaims s (s.prepareAlternate P index).2 := by
  obtain ⟨alternate, gap, source, world, ccmKey, h⟩ := prepareAlternate_ahead P index s
  rw [h]
  exact ⟨rfl, fun _ hc => hc, rfl, rfl, rfl⟩

theorem probeDone_burst (result : Option RadioTxPhase) (error : UInt8) (r : Retry) :
    (r.probeDone result error).burstActive = r.burstActive := by
  unfold Retry.probeDone
  split <;> rfl

/-- A failed submission leaves no repeat with the radio. -/
theorem submitted_quiet {now : UInt32} {status : UInt8} {recorded repeated fallback : Bool}
    {r : Retry} (hstatus : status ≠ 0) (hrecorded : recorded = true → r.burstActive = false) :
    (r.submitted now status recorded repeated fallback).Quiet := by
  unfold Retry.submitted
  rw [if_pos hstatus]
  refine ⟨(probeDone_burst _ _ _).trans ?_, Owned.probeDone_inactive _ _ _⟩
  split
  · rename_i hr
    exact hrecorded hr
  · exact Owned.burstDone_inactive _ _ _ _

theorem Move.retryInv {a b : Stage × TrialSystem W} (h : Move P a b) (hi : RetryInv a) :
    RetryInv b := by
  cases h with
  | world => exact hi.same rfl (.of_history rfl) id .rfl
  | report =>
      exact ⟨(hi.owned.beside rfl).owned, hi.quiet, hi.fallback, hi.probes, hi.bursts, hi.blocked,
        hi.claims⟩
  | asideRest h => exact h.retryInv (.inl rfl) hi
  | asideFlying h => exact h.retryInv (.inr rfl) hi
  | setAudioSource | continuous | rearmSource => exact hi.same rfl (.of_history rfl) id .rfl
  | rearm hphase => exact hi.rearm
  | «begin» | plan | crc | abandon | commit =>
      exact hi.same rfl (.of_history rfl) (fun _ => rfl) (by simp)
  | prepareFirst =>
      obtain ⟨hretry, hclaims⟩ := prepareFrame_claims (P := P) 0 _
      exact hi.same hretry hclaims id .rfl
  | confirm => exact hi.same rfl (.of_history rfl) id .rfl
  | takeLead =>
      exact hi.kept hi.owned.takeLead (.of_history rfl) (fun _ hf => (nomatch hf)) (by decide)
        (by decide)
  | prepare hnext hphase =>
      obtain ⟨hretry, hclaims⟩ := prepareFrame_claims (P := P) _ _
      exact hi.same hretry hclaims id .rfl
  | skip hnext hphase =>
      exact hi.kept (hi.owned.burstSkip (hi.quiet rfl).1 _) (.of_history rfl)
        (fun _ hf => (nomatch hf)) (by decide) (by decide)
  | wait hphase => exact hi.same rfl (.of_history rfl) id .rfl
  | claim h hphase => exact hi.claim
  | accepted request h =>
      exact hi.same rfl (.log rfl fun _ hf => (nomatch hf)) (fun hf => (nomatch hf)) (by decide)
  | refused request h status hstatus =>
      exact hi.same rfl (.log rfl fun _ hf => (nomatch hf)) id .rfl
  | fallback now status hstatus => exact hi.fallbackStart now status
  | fallbackSent request h =>
      exact hi.fallbackEnd true rfl (by decide) _ (fun _ hf => (nomatch hf))
  | fallbackRejected request h status hstatus =>
      exact hi.fallbackEnd false rfl (by decide) _ (fun _ hf => (nomatch hf))
  | submitted now recorded repeated fallback =>
      have hsubmitted := hi.owned.submitted now 0 recorded repeated fallback
      exact hi.kept (hsubmitted.trans (hsubmitted.owned.probeFollowed _)) (.of_history rfl)
        (fun hf => (nomatch hf)) (by decide) (by decide)
  | unsubmitted now status hstatus recorded repeated fallback hrecorded =>
      refine hi.kept (hi.owned.submitted now status recorded repeated fallback) (.of_history rfl)
        (fun _ _ => submitted_quiet hstatus hrecorded) (by decide) (by decide)
  | launch => exact hi.same rfl (.of_history rfl) (fun hf => (nomatch hf)) (by decide)
  | prepareNext index hindex =>
      obtain ⟨hretry, hclaims⟩ := prepareFrame_claims (P := P) index _
      exact hi.same hretry hclaims id .rfl
  | alternate index hindex =>
      obtain ⟨hretry, hclaims⟩ := prepareAlternate_claims (P := P) index _
      exact hi.same hretry hclaims id .rfl
  | giveUp error => exact hi.same rfl (.of_history rfl) id .rfl
  -- at the end of an event, whatever it was, neither owner has a repeat in flight
  | lost now phase =>
      have hdone := hi.owned.burstDone now (some phase) 0
      exact hi.kept (hdone.trans (hdone.owned.probeDone (some phase) 0)) (.of_history rfl)
        (fun hf => (nomatch hf)) (by decide) (by decide)
  | collected now result ended =>
      have hdone := hi.owned.burstDone now (some result.phase) 0
      refine hi.kept (hdone.trans (hdone.owned.probeDone (some result.phase) 0))
        (.log rfl fun _ hf => (nomatch hf))
        (fun _ _ => ⟨?_, Owned.probeDone_inactive _ _ _⟩) (by decide) (by cases ended <;> decide)
      exact (probeDone_burst _ _ _).trans (Owned.burstDone_inactive _ _ _ _)
  | ordinary stereo =>
      exact hi.kept (hi.owned.autoOrdinaryCompleted stereo) (.of_history rfl)
        (fun _ hf => (nomatch hf)) (by decide) (by decide)
  | heard => exact hi.same rfl (.of_history rfl) id .rfl
  | controlReceived now =>
      exact hi.kept (hi.owned.controlReceived now) (.of_history rfl)
        (fun _ hf => (nomatch hf)) (by decide) (by decide)
  | control rx => exact hi.same rfl (.log rfl fun _ hf => (nomatch hf)) id .rfl
  | noteTx => exact hi.same rfl (.log rfl fun _ hf => (nomatch hf)) id .rfl
  | rewind h => exact hi.same rfl (.of_history rfl) (fun _ => rfl) (by decide)
  | drop now h =>
      exact hi.kept (hi.owned.burstSkip (hi.quiet rfl).1 now) (.of_history rfl)
        (fun _ hf => (nomatch hf)) (by decide) (by decide)
  | settled h => exact hi.same rfl (.of_history rfl) (fun _ => rfl) (by decide)
  | finish phase reason hphase hst hactive =>
      exact hi.finish (by rcases hst with rfl | rfl | rfl <;> decide) phase reason
  | fault reason => exact hi.finish (by decide) .fault reason

/-! ## Runs -/

theorem retryInv_init (world : W) : RetryInv (Stage.rest, TrialSystem.init world) :=
  ⟨owned_init, fun _ => ⟨rfl, rfl⟩, rfl, ⟨Nat.zero_le _, fun _ => rfl⟩, ⟨Nat.zero_le _, fun _ => rfl⟩,
    fun hf => (nomatch hf), fun _ hc => absurd hc (by simp [TrialSystem.init])⟩

theorem Moves.retryInv {a b : Stage × TrialSystem W} (h : Moves P a b) (hi : RetryInv a) :
    RetryInv b := by
  induction h with
  | refl => exact hi
  | tail _ hmove ih => exact hmove.retryInv ih

/-- The exclusive ownership of repeats and its accounts. -/
structure RetryPolicy (s : TrialSystem W) : Prop where
  /-- No submission is claimed twice. -/
  claims : ∀ c, .claim c ∈ s.history.calls → c.Exclusive
  probe : s.retry.probeActive = true ∨ s.retry.probeState = .pending ∨
    s.retry.probeState = .active → s.retry.owner = .probe
  burst : s.retry.burstActive = true → s.retry.owner = .burst ∨ s.retry.owner = .automatic
  running : s.retry.burstState = .armed ∨ s.retry.burstState = .running → s.retry.owner = .burst
  armed : s.history.probesArmed ≤ 1 ∧ s.history.burstsArmed ≤ 1
  budget : s.retry.burstAttempted ≤ 24000
  automatic : s.retry.autoAttempted =
    s.retry.autoCompleted + s.retry.autoFailed + s.retry.inFlight
  fallback : s.retry.fallbackAttempted = s.retry.fallbackSent + s.retry.fallbackRejected
  /-- Nothing is claimed for an automatic repeat between the end of a session and a rearm. -/
  finished : ∀ c, .claim c ∈ s.history.calls → c.automatic = true → c.finished = false

/-- In every reachable state one policy at most owns the repeat, and its attempts add up. -/
theorem retry_exclusive {world : W} {trace : List (TrialAction W)} {s : TrialSystem W}
    (h : Library.Run (TrialSystem.Step P) (.init world) trace s) : RetryPolicy s := by
  have hi := Moves.retryInv (run_moves h) (retryInv_init world)
  have hne : restStage s ≠ .fallback := by
    rcases restStage_cases s with hr | hr <;> rw [hr] <;> decide
  refine ⟨fun c hc => (hi.claims c hc).1, hi.owned.probe, fun hb => hi.owned.burst (.inl hb),
    hi.owned.state, ⟨hi.probes.1, hi.bursts.1⟩, hi.owned.budget, hi.owned.automatic, ?_,
    fun c hc => (hi.claims c hc).2⟩
  have hfallback := hi.fallback
  simp only [if_neg hne] at hfallback
  rw [hfallback]
  exact UInt32.add_zero _

/-- The newest claim is the probe's. -/
def probeClaimed : List Call → Bool
  | [] => false
  | .claim c :: _ => c.probe
  | _ :: calls => probeClaimed calls

/-- The probe owns the repeat in flight. -/
theorem retry_exclusive_probe :
    probeClaimed wheelRun.history.calls = true ∧ wheelRun.retry.owner = .probe ∧
      wheelRun.retry.probeState = .active ∧ wheelRun.trial.phase = .transmitting ∧
      RetryPolicy wheelRun :=
  ⟨by decide +kernel, by decide +kernel, by decide +kernel, by decide +kernel,
    retry_exclusive wheel_steps⟩

end UllReceiver.Trial
