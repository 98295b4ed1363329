import UllReceiver.Trial.Deeds
import UllReceiver.Trial.Walk

/-!
# Calls as deeds

Every call of the trial is a sequence of deeds, while time does not go back.
-/

namespace UllReceiver.Trial

open Air Audio Parent Radio

variable {W : Type} {P : Platform W} {ms : W → Nat}

/-- Time passes, and neither the policies nor the record change. -/
structure Passes (ms : W → Nat) (s s' : TrialSystem W) : Prop where
  retry : s'.retry = s.retry
  calls : s'.history.calls = s.history.calls
  onward : ms s.world ≤ ms s'.world

theorem Passes.refl (s : TrialSystem W) : Passes ms s s :=
  ⟨rfl, rfl, Nat.le_refl _⟩

theorem Passes.trans {s t u : TrialSystem W} (h : Passes ms s t) (k : Passes ms t u) :
    Passes ms s u :=
  ⟨k.retry.trans h.retry, k.calls.trans h.calls, h.onward.trans k.onward⟩

theorem Passes.does {s s' : TrialSystem W} (h : Passes ms s s') : Does ms s s' :=
  .still h.retry h.calls h.onward

theorem Does.refl (s : TrialSystem W) : Does ms s s :=
  (Passes.refl s).does

section
variable (hc : P.Clock ms)
include hc

/-! ## Preparation -/

theorem parentPdu_passes (index : UInt32) (s : TrialSystem W) :
    Passes ms s (s.parentPdu P index).2 := by
  unfold TrialSystem.parentPdu
  split
  · exact ⟨rfl, rfl, hc.onward _ _ .parentAirPdu⟩
  · split
    · exact ⟨rfl, rfl, hc.onward _ _ .detachedParentAirPdu⟩
    · exact .refl s

theorem selectAudio_passes (k : FrameKey) (s : TrialSystem W) :
    Passes ms s (s.selectAudio P k).2 := by
  unfold TrialSystem.selectAudio
  split
  · exact .refl s
  · split
    · exact .refl s
    · simp only
      split
      · exact ⟨rfl, rfl, hc.onward _ _ .arrivals⟩
      · split
        · exact ⟨rfl, rfl, hc.onward _ _ .arrivals⟩
        · exact ⟨rfl, rfl, hc.onward _ _ .arrivals⟩

theorem buildPreparedFrame_passes (k : FrameKey) (s : TrialSystem W) :
    Passes ms s (s.buildPreparedFrame P k).2 := by
  have hselect := selectAudio_passes hc k s
  unfold TrialSystem.buildPreparedFrame
  split
  · exact .refl s
  · generalize s.selectAudio P k = r at hselect
    obtain ⟨audio, s1⟩ := r
    cases audio with
    | none => exact hselect
    | some audio => exact ⟨hselect.retry, hselect.calls, hselect.onward⟩

theorem prepareKey_passes (k : FrameKey) (s : TrialSystem W) :
    Passes ms s (s.prepareKey P k).2 := by
  have hbuild := buildPreparedFrame_passes hc k s
  unfold TrialSystem.prepareKey
  split
  · exact ⟨rfl, rfl, Nat.le_refl _⟩
  · exact ⟨hbuild.retry, hbuild.calls, hbuild.onward⟩

theorem prepareFrame_passes (index : UInt32) (s : TrialSystem W) :
    Passes ms s (s.prepareFrame P index).2 := by
  have hparent := parentPdu_passes hc index s
  unfold TrialSystem.prepareFrame
  split
  · exact .refl s
  · generalize s.parentPdu P index = r at hparent
    obtain ⟨parent, s1⟩ := r
    cases parent with
    | none => exact hparent
    | some parent =>
      have hnoted : Passes ms s { s1 with history := { s1.history with parent } } :=
        ⟨hparent.retry, hparent.calls, hparent.onward⟩
      exact hnoted.trans (prepareKey_passes hc _ _)

theorem prepareGuess_passes (k : FrameKey) (s : TrialSystem W) :
    Passes ms s (s.prepareGuess P k).2 := by
  have hbuild := buildPreparedFrame_passes hc k s
  exact ⟨hbuild.retry, hbuild.calls, hbuild.onward⟩

theorem prepareGap_passes (k : FrameKey) (s : TrialSystem W) :
    Passes ms s (s.prepareGap P k).2 := by
  have hbuild := buildPreparedFrame_passes hc k s
  exact ⟨hbuild.retry, hbuild.calls, hbuild.onward⟩

theorem prepareAlternate_passes (index : UInt32) (s : TrialSystem W) :
    Passes ms s (s.prepareAlternate P index).2 := by
  unfold TrialSystem.prepareAlternate
  split
  · exact .refl s
  · simp only
    generalize hs1 : TrialSystem.onTrial _ s = s1
    have h1 : Passes ms s s1 := by
      rw [← hs1]
      exact ⟨rfl, rfl, Nat.le_refl _⟩
    split
    · exact h1
    · split
      · exact h1
      · generalize hk : ({ (s1.trial.prepared (frameSlot index)).key with
          ackSequence := _ } : FrameKey) = k
        have hguess := prepareGuess_passes hc k s1
        generalize s1.prepareGuess P k = r at hguess
        obtain ⟨ok, s2⟩ := r
        cases ok with
        | false => exact h1.trans hguess
        | true =>
          simp only
          split
          · exact h1.trans hguess
          · exact (h1.trans hguess).trans (prepareGap_passes hc _ _)

theorem lead_passes (hs : UInt32) (s : TrialSystem W) : Passes ms s (s.lead P hs).2 :=
  ⟨rfl, rfl, hc.onward _ _ .clockHs⟩

/-! ## Second stream -/

theorem joinSecondStream_passes (s : TrialSystem W) : Passes ms s (s.joinSecondStream P).2 := by
  have hprepare := hc.onward _ _ (.prepareSecondStream (w := s.world) s.trial.plan)
  unfold TrialSystem.joinSecondStream
  simp only
  split
  · exact ⟨rfl, rfl, hprepare⟩
  next second _ =>
    have hcrc := hprepare.trans (hc.onward _ _ .sessionCrcInit)
    split
    · exact ⟨rfl, rfl, hcrc⟩
    · split
      · exact ⟨rfl, rfl, hcrc⟩
      · have hcommit := hcrc.trans (hc.onward _ _ (.commitSession second))
        split
        · exact ⟨rfl, rfl, hcommit⟩
        · exact ⟨rfl, rfl, hcommit⟩

theorem advanceSecondStream_passes (s : TrialSystem W) :
    Passes ms s (s.advanceSecondStream P).2 := by
  unfold TrialSystem.advanceSecondStream
  split
  · exact ⟨rfl, rfl, hc.onward _ _ .sessionConfirmed⟩
  · have htimer := hc.onward _ _ (.timerUs (w := s.world))
    simp only
    split
    · exact ⟨rfl, rfl, htimer⟩
    · split
      · have hrequest := htimer.trans (hc.onward _ _ (.requestSecondStream s.trial.plan))
        split
        · exact ⟨rfl, rfl, hrequest⟩
        · split
          · exact ⟨rfl, rfl, hrequest⟩
          · exact ⟨rfl, rfl, hrequest⟩
      · have hready := htimer.trans (hc.onward _ _ .secondStreamReady)
        split
        · have hasked : Passes ms s
              { s with world := (P.secondStreamReady (P.timerUs s.world).2).2 } :=
            ⟨rfl, rfl, hready⟩
          exact hasked.trans (joinSecondStream_passes hc _)
        · exact ⟨rfl, rfl, hready⟩

/-! ## Planning -/

/-- The frame that is next stands prepared, from a cache if it says so. -/
def Reuses (s : TrialSystem W) : Prop :=
  s.nextPrepared.cacheReused = true → FromCache s.trial s.history.parent

omit hc in
theorem buildPreparedFrame_built {k : FrameKey} {s s' : TrialSystem W} {p : PreparedFrame}
    (h : s.buildPreparedFrame P k = (some p, s')) : p.cacheReused = false := by
  obtain ⟨audio, _, _, hbuilt⟩ := buildPreparedFrame_some P h
  unfold buildFrame at hbuilt
  split at hbuilt
  · exact (nomatch hbuilt)
  · split at hbuilt
    · exact (nomatch hbuilt)
    · split at hbuilt
      · exact (nomatch hbuilt)
      · obtain ⟨_, _, heq⟩ := Option.map_eq_some_iff.mp hbuilt
        rw [← heq]

omit hc in
theorem prepareKey_reuses {s s' : TrialSystem W} {parent : ParentPdu}
    (h : { s with history := { s.history with parent } }.prepareKey P
      (s.trial.frameKey s.trial.nextFrame parent) = (true, s')) : Reuses s' := by
  intro hreused
  unfold TrialSystem.prepareKey at h
  cases hcached : TrialSystem.cached s.trial (s.trial.frameKey s.trial.nextFrame parent) with
  | some q =>
    simp only [hcached] at h
    rw [← (Prod.mk.inj h).2]
    refine ⟨s.trial.prepared, q, hcached, ?_⟩
    exact Function.update_self ..
  | none =>
    simp only [hcached] at h
    obtain ⟨source, world, ccmKey, hsame⟩ := buildPreparedFrame_same P
      (s.trial.frameKey s.trial.nextFrame parent) { s with history := { s.history with parent } }
    generalize hr : TrialSystem.buildPreparedFrame P _ _ = r at h hsame
    obtain ⟨built, s1⟩ := r
    change s1 = _ at hsame
    subst hsame
    have hs' := (Prod.mk.inj h).2
    cases built with
    | none => exact (nomatch (Prod.mk.inj h).1)
    | some p =>
      have hstored : s'.nextPrepared = p := by
        rw [← hs']
        exact Function.update_self ..
      rw [hstored, buildPreparedFrame_built hr] at hreused
      cases hreused

omit hc in
theorem prepareFrame_reuses {s s' : TrialSystem W} (hlt : s.trial.nextFrame < s.frameLimit)
    (h : s.prepareFrame P s.trial.nextFrame = (true, s')) : Reuses s' := by
  unfold TrialSystem.prepareFrame at h
  rw [if_neg (UInt32.not_le.mpr hlt)] at h
  obtain ⟨world, hsame⟩ := parentPdu_same P s.trial.nextFrame s
  generalize s.parentPdu P s.trial.nextFrame = r at h hsame
  obtain ⟨parent, s1⟩ := r
  change s1 = _ at hsame
  subst hsame
  cases parent with
  | none => exact (nomatch (Prod.mk.inj h).1)
  | some parent => exact prepareKey_reuses (s := { s with world }) h

/-- An attempt to prepare the frame that is next. -/
structure Attempted (ms : W → Nat) (s : TrialSystem W) (result : TrialSystem.Attempt × TrialSystem W) :
    Prop where
  passes : Passes ms s result.2
  next : result.2.trial.nextFrame = s.trial.nextFrame
  limit : result.2.frameLimit = s.frameLimit
  reuses : result.1 = .ready → Reuses result.2

theorem prepareInTime_attempted (minimum : UInt32) {s : TrialSystem W}
    (hlt : s.trial.nextFrame < s.frameLimit) : Attempted ms s (s.prepareInTime P minimum) := by
  have hprepare := prepareFrame_passes hc s.trial.nextFrame s
  have hbounds := prepareFrame_bounds P s.trial.nextFrame s
  unfold TrialSystem.prepareInTime
  generalize hr : s.prepareFrame P s.trial.nextFrame = r at hprepare hbounds
  obtain ⟨ok, s1⟩ := r
  cases ok with
  | false => exact ⟨hprepare, hbounds.next, hbounds.limit, fun h => (nomatch h)⟩
  | true =>
    have hreuses := prepareFrame_reuses hlt hr
    exact ⟨hprepare.trans (lead_passes hc s1.nextPrepared.outerHs s1), hbounds.next, hbounds.limit, fun _ => hreuses⟩

theorem attemptFrame_attempted (minimum : UInt32) (ticket : Bool) {s : TrialSystem W}
    (hlt : s.trial.nextFrame < s.frameLimit) :
    Attempted ms s (s.attemptFrame P minimum ticket) := by
  unfold TrialSystem.attemptFrame
  cases sessionTime s.trial.plan s.trial.nextFrame 0 with
  | none => exact ⟨.refl s, rfl, rfl, fun h => (nomatch h)⟩
  | some start =>
    simp only
    have hlead := lead_passes hc (receiveTimeShift s.trial.nextFrame start.1 start.2).1 s
    generalize hr : s.lead P (receiveTimeShift s.trial.nextFrame start.1 start.2).1 = r at hlead
    obtain ⟨ahead, s1⟩ := r
    have hs1 : s1 = { s with world := s1.world } := by
      rw [show s1 = (s.lead P _).2 from (congrArg Prod.snd hr).symm]
      rfl
    have htrial : s1.trial = s.trial := by rw [hs1]
    have hlimit : s1.frameLimit = s.frameLimit := by
      rw [hs1]
      rfl
    simp only
    generalize minimum + (if ticket then 0 else 1) = preparationMin
    split
    · have hprepare := prepareInTime_attempted hc minimum (s := s1)
        (by rw [htrial, hlimit]; exact hlt)
      exact ⟨hlead.trans hprepare.passes, hprepare.next.trans (by rw [htrial]),
        hprepare.limit.trans hlimit, hprepare.reuses⟩
    · exact ⟨hlead, by rw [htrial], hlimit, fun h => (nomatch h)⟩

theorem skipFrame_does (s : TrialSystem W) : Does ms s (s.skipFrame P) := by
  apply Does.deed .skip
  · show (s.retry.burstSkip _) = _
    rw [← hc.reads]
    rfl
  · rfl
  · exact hc.onward _ _ .timerMs
  · rfl

theorem planFrames_does (minimum : UInt32) (fuel : Nat) (ticket : Bool) {s : TrialSystem W}
    (hnext : s.trial.nextFrame ≤ s.frameLimit)
    (hfuel : (s.frameLimit - s.trial.nextFrame).toNat = fuel) :
    Does ms s (s.planFrames P minimum fuel ticket).2 ∧
      ((s.planFrames P minimum fuel ticket).1 = none →
        (s.planFrames P minimum fuel ticket).2.trial.nextFrame =
            (s.planFrames P minimum fuel ticket).2.frameLimit ∨
          Reuses (s.planFrames P minimum fuel ticket).2) := by
  induction fuel generalizing s ticket with
  | zero =>
    refine ⟨.refl s, fun _ => .inl ?_⟩
    rw [UInt32.toNat_sub_of_le _ _ hnext] at hfuel
    apply UInt32.le_antisymm hnext
    rw [UInt32.le_iff_toNat_le]
    omega
  | succ fuel ih =>
    unfold TrialSystem.planFrames
    split
    next hge => exact ⟨.refl s, fun _ => .inl (UInt32.le_antisymm hnext hge)⟩
    next hlt =>
      have hlt' : s.trial.nextFrame < s.frameLimit := UInt32.not_le.mp hlt
      have hattempt := attemptFrame_attempted hc minimum ticket hlt'
      generalize s.attemptFrame P minimum ticket = r at hattempt
      obtain ⟨attempt, s1⟩ := r
      cases attempt with
      | ready => exact ⟨hattempt.passes.does, fun _ => .inr (hattempt.reuses rfl)⟩
      | failed reason => exact ⟨hattempt.passes.does, fun h => (by cases h)⟩
      | late =>
        have hleft := fuel_succ hlt' hfuel
        have hnext1 : (s1.skipFrame P).trial.nextFrame = s.trial.nextFrame + 1 := by
          rw [← hattempt.next]
          rfl
        have hlimit1 : (s1.skipFrame P).frameLimit = s.frameLimit := hattempt.limit
        have hrest := ih false (s := s1.skipFrame P) (by rw [hnext1, hlimit1]; exact hleft.1)
          (by rw [hnext1, hlimit1]; exact hleft.2)
        exact ⟨(hattempt.passes.does.trans (skipFrame_does hc s1)).trans hrest.1, hrest.2⟩

/-! ## Submission -/

omit hc in
theorem Retry.probeTake_eligible {r : Retry} {yes : Bool} {frame : UInt32}
    (h : (r.probeTake yes frame).1 = true) : yes = true := by
  unfold Retry.probeTake at h
  split at h
  next hyes => exact hyes.1
  next => cases h

omit hc in
theorem Retry.burstTake_eligible {now : UInt32} {r : Retry} {yes : Bool}
    (h : (r.burstTake now yes).1 = true) : yes = true := by
  cases yes with
  | true => rfl
  | false =>
    unfold Retry.burstTake at h
    rw [if_pos (.inl rfl)] at h
    cases h

omit hc in
theorem Retry.autoTake_eligible {now : UInt32} {r : Retry} {yes cancel : Bool} {frame : UInt32}
    (h : (r.autoTake now yes cancel frame).1 = true) : yes = true := by
  cases yes with
  | true => rfl
  | false =>
    unfold Retry.autoTake at h
    rw [if_pos (.inl rfl)] at h
    cases h

omit hc in
theorem taken_of_ite {p : Prop} [Decidable p] {r : Retry} {x : Bool × Retry}
    (h : (if p then (false, r) else x).1 = true) : x.1 = true := by
  split at h
  · cases h
  · exact h

omit hc in
theorem fst_ite_taken (a b : Bool) (r : Retry) (x : Bool × Retry) :
    (if a ∨ b then (false, r) else x).1 = (!(a || b) && x.1) := by
  cases a <;> cases b <;> rfl

/-- Whether some policy takes the frame. -/
def Claim.again (c : Claim) : Bool :=
  c.probe || c.burst || c.automatic

/-- The deeds of a claim, newest first. -/
def claimLog (s : TrialSystem W) (c : Claim) (yes : Bool) (t t' t'' : Nat) : DeedLog :=
  [(t'', .claim c yes s.trial.cancel), (t', .burstTake yes), (t', .probeTake yes s.trial.activeFrame),
    (t, .eligible s.nextPrepared yes)]

theorem claim_performs (s : TrialSystem W) : ∃ yes t' t'',
    Performs ms s (claimLog s (s.claim P).1 yes (ms s.world) t' t'') (s.claim P).2 ∧
    Granted s.retry (claimLog s (s.claim P).1 yes (ms s.world) t' t'') ∧
    yes = TrialSystem.audioEligible (UInt32.ofNat (ms s.world)) s s.nextPrepared ∧
    ((s.claim P).1.again = true → yes = true) := by
  have h1 := hc.onward _ _ (.timerMs (w := s.world))
  have h2 := hc.onward _ _ (.timerMs (w := (P.timerMs s.world).2))
  have h3 := hc.onward _ _ (.timerMs (w := (P.timerMs (P.timerMs s.world).2).2))
  refine ⟨_, ms (P.timerMs s.world).2, ms (P.timerMs (P.timerMs s.world).2).2,
    ⟨?_, rfl, h1.trans (h2.trans h3), ?_, ?_⟩, ?_, rfl, ?_⟩
  · unfold claimLog
    simp only [DeedLog.retry, ← hc.reads]
    exact apply_ite Prod.snd _ _ _
  · unfold claimLog
    simp only [List.mem_cons, List.not_mem_nil, or_false, forall_eq_or_imp, forall_eq]
    exact ⟨⟨h1.trans h2, h3⟩, ⟨h1, h2.trans h3⟩, ⟨h1, h2.trans h3⟩, Nat.le_refl _,
      h1.trans (h2.trans h3)⟩
  · unfold claimLog
    simp only [List.pairwise_cons, List.mem_cons, List.not_mem_nil, or_false, forall_eq_or_imp,
      forall_eq, IsEmpty.forall_iff, implies_true, List.Pairwise.nil, and_true]
    exact ⟨⟨h2, h2, h1.trans h2⟩, ⟨Nat.le_refl _, h1⟩, h1⟩
  · unfold claimLog
    refine .cons rfl ?_ (.cons rfl trivial (.cons rfl trivial (.cons rfl trivial trivial)))
    simp only [Deed.Told, DeedLog.retry, ← hc.reads]
    exact fst_ite_taken _ _ _ _
  · intro hagain
    rw [← hc.reads]
    unfold Claim.again at hagain
    rcases Bool.or_eq_true_iff.mp hagain with heither | hautomatic
    · rcases Bool.or_eq_true_iff.mp heither with hprobe | hburst
      · change (Retry.probeTake _ s.trial.activeFrame _).1 = true at hprobe
        exact Retry.probeTake_eligible hprobe
      · change (Retry.burstTake _ _ _).1 = true at hburst
        exact Retry.burstTake_eligible hburst
    · exact Retry.autoTake_eligible (taken_of_ite hautomatic)

omit hc in
/-- The claim grants whatever is submitted after it. -/
theorem claim_grants {s : TrialSystem W} (hreuses : Reuses s) {c : Claim} {t t' t'' : Nat}
    (hyes : true = TrialSystem.audioEligible (UInt32.ofNat t) s s.nextPrepared)
    {sub : Submission} (htrial : sub.trial = s.trial) (hparent : sub.parent = s.history.parent) :
    GrantedBy s.retry (claimLog s c true t t' t'') sub := by
  have hframe : sub.frame = s.nextPrepared := by
    unfold Submission.frame
    rw [htrial]
    rfl
  refine ⟨[(t'', .claim c true s.trial.cancel), (t', .burstTake true),
    (t', .probeTake true s.trial.activeFrame)], t, [], ?_, ?_, ?_⟩
  · rw [hframe]
    rfl
  · simp [Deed.hears]
  · unfold TrialSystem.audioEligible at hyes
    simp only [Bool.true_eq, Bool.and_eq_true, Bool.or_eq_true, Bool.not_eq_true', beq_iff_eq]
      at hyes
    refine ⟨?_, ?_, fun hcached => ?_⟩
    · rw [hframe]
      exact ⟨hyes.1.1.1.2, hyes.1.1.2, hyes.1.2⟩
    · rw [hframe, htrial]
      rcases hyes.2 with haudio | hcontrol
      · exact .inl haudio
      · exact .inr ⟨hcontrol.1.1.1.1, hcontrol.1.1.1.2, hcontrol.1.1.2, hcontrol.1.2, hcontrol.2⟩
    · rw [htrial, hparent]
      rw [hframe] at hcached
      exact hreuses hcached

/-- The submissions of one frame. -/
structure Submits (ms : W → Nat) (s : TrialSystem W) (again : Bool) (log : DeedLog)
    (s' : TrialSystem W) : Prop where
  performs : Performs ms s log s'
  quiet : ∀ e ∈ log, e.2.hears = false
  session : ∀ e ∈ log, e.2 ≠ .rearm
  submits : ∀ e ∈ log, ∃ sub, e.2.submission = some sub
  subs : ∀ e ∈ log, ∀ sub, e.2.submission = some sub →
    sub.trial = s.trial ∧ sub.parent = s.history.parent ∧ (sub.repeated = true → again = true)

omit hc in
theorem submitRequest_eq (request : RadioTxRequest) (s : TrialSystem W) :
    s.submitRequest P request = ((P.submit request s.world).1,
      { s with world := (P.submit request s.world).2 }.log (.submit
        { trial := s.trial, parent := s.history.parent, request
          status := (P.submit request s.world).1 })) :=
  rfl

theorem submission_submits (request : RadioTxRequest) (automatic again : Bool)
    (hrepeat : (request.repeatPayload != 0) = again) (hauto : automatic = true → again = true)
    (s : TrialSystem W) : ∃ log, Submits ms s again log
      ((s.submitWithRetryFallback P request automatic).2.retrySubmitted P again
        (s.submitWithRetryFallback P request automatic).1) := by
  have hsubmit := hc.onward _ _ (.submit (w := s.world) request)
  have hfirst := submitRequest_eq (P := P) request s
  generalize P.submit request s.world = r at hsubmit hfirst
  obtain ⟨status, world⟩ := r
  have hread := hc.onward _ _ (.timerMs (w := world))
  unfold TrialSystem.submitWithRetryFallback
  rw [hfirst]
  simp only at hsubmit ⊢
  generalize hsub : ({ trial := s.trial, parent := s.history.parent, request, status } :
    Submission) = sub
  have htrial : sub.trial = s.trial ∧ sub.parent = s.history.parent ∧ sub.repeated = again := by
    rw [← hsub]
    exact ⟨rfl, rfl, hrepeat⟩
  have hstatus : sub.status = status := by rw [← hsub]
  split
  · by_cases hok : status = 0
    · refine ⟨[(ms world, .sent sub)], .deed _ _ ?_ rfl hsubmit hread, ?_, ?_, ?_, ?_⟩
      · simp only [Deed.retry, htrial.1, htrial.2.2, ← hc.reads, hok]
        rfl
      · simp [Deed.hears]
      · simp
      · simp [Deed.submission]
      · simp [Deed.submission, htrial]
    · refine ⟨[(ms world, .refused sub)], .deed _ _ ?_ rfl hsubmit hread, ?_, ?_, ?_, ?_⟩
      · simp only [Deed.retry, ← hc.reads, hstatus]
        show (if status = 0 then _ else Retry.submitted ..) = _
        rw [if_neg hok]
        unfold Retry.submitted
        rw [if_pos hok]
        rfl
      · simp [Deed.hears]
      · simp
      · simp [Deed.submission]
      · simp [Deed.submission, htrial]
  next hfallback =>
    have hautomatic : automatic = true ∧ status = scheduleConflict := by
      simpa using hfallback
    have hagain := hauto hautomatic.1
    -- the repeat met a conflict; the frame is tried once more as a single transmission
    generalize hs2 : TrialSystem.onRetry P _ _ = s2
    have hconflict : Performs ms s [(ms world, .conflict sub)] s2 := by
      rw [← hs2]
      apply Performs.deed
      · simp only [Deed.retry, ← hc.reads, hstatus]
        rfl
      · rfl
      · exact hsubmit
      · exact hread
    have hs2trial : s2.trial = s.trial ∧ s2.history.parent = s.history.parent := by
      rw [← hs2]
      exact ⟨rfl, rfl⟩
    generalize hsingle : ({ request with
      repeatPayload := 0, prequeuedReply := 0, followupDelayUs := 2350 } : RadioTxRequest) = single
    have hsecond := hc.onward _ _ (.submit (w := s2.world) single)
    rw [submitRequest_eq]
    generalize P.submit single s2.world = r at hsecond
    obtain ⟨second, world2⟩ := r
    have hread2 := hc.onward _ _ (.timerMs (w := world2))
    simp only at hsecond ⊢
    generalize hsub2 : ({ trial := s2.trial, parent := s2.history.parent, request := single
                          status := second } : Submission) = sub2
    have hsub2' : sub2.trial = s.trial ∧ sub2.parent = s.history.parent ∧
        sub2.repeated = false := by
      rw [← hsub2, ← hsingle]
      exact ⟨hs2trial.1, hs2trial.2, rfl⟩
    split
    next hsent =>
      refine ⟨_, hconflict.trans (.deed (ms world2) (.sentSingle sub2) ?_ rfl hsecond hread2), ?_,
        ?_, ?_, ?_⟩
      · simp only [Deed.retry, hsub2'.1, ← hs2trial.1, ← hc.reads, hsent, hagain]
        rfl
      · simp [Deed.hears]
      · simp
      · simp [Deed.submission]
      · simp [Deed.submission, htrial, hsub2']
    next hrefused =>
      refine ⟨_, hconflict.trans (.deed (ms world2) (.refusedSingle sub2 status) ?_ rfl hsecond
        hread2), ?_, ?_, ?_, ?_⟩
      · have hne : ¬status = 0 := by
          rw [hautomatic.2]
          decide
        have hfalse : (second == 0) = false := by simpa using hrefused
        simp only [Deed.retry]
        show (if status = 0 then _ else Retry.submitted ..) = _
        rw [if_neg hne, hfalse]
        unfold Retry.submitted
        rw [if_pos hne]
        rfl
      · simp [Deed.hears]
      · simp
      · simp [Deed.submission]
      · simp [Deed.submission, htrial, hsub2']

omit hc in
theorem report_does (s : TrialSystem W) : Does ms s s.report :=
  .deed (.report s.trial.phase) rfl rfl (Nat.le_refl _) rfl

theorem finish_does (phase : TrialPhase) (reason : UInt8) (s : TrialSystem W) :
    Does ms s (s.finish P phase reason) := by
  unfold TrialSystem.finish
  simp only
  refine Does.trans ?_ (report_does _)
  apply Does.deed (.finish phase)
  · show s.retry.finish _ phase = _
    rw [hc.reads]
    rfl
  · rfl
  · exact hc.onward _ _ .timerMs
  · rfl

theorem prepareNext_passes (s : TrialSystem W) : Passes ms s (s.prepareNext P) := by
  have hprepare := prepareFrame_passes hc s.trial.nextFrame s
  have hfailed : ∀ t : TrialSystem W, Passes ms t ({ t with world := P.cancel t.world }.onTrial
      fun trial => { trial with preparationFailure := 5, cancel := true }) :=
    fun t => ⟨rfl, rfl, hc.onward _ _ .cancel⟩
  unfold TrialSystem.prepareNext
  generalize s.prepareFrame P s.trial.nextFrame = r at hprepare
  obtain ⟨ok, s1⟩ := r
  cases ok with
  | false => exact hprepare.trans (hfailed s1)
  | true =>
    have halternate := prepareAlternate_passes hc s1.trial.nextFrame s1
    simp only
    generalize s1.prepareAlternate P s1.trial.nextFrame = r at halternate
    obtain ⟨ok, s2⟩ := r
    cases ok with
    | false => exact (hprepare.trans halternate).trans (hfailed s2)
    | true => exact hprepare.trans halternate

theorem submitOutcome_does (status : UInt8) (s : TrialSystem W) :
    Does ms s (s.submitOutcome P status).2 := by
  unfold TrialSystem.submitOutcome
  split
  · have hwait : Passes ms (s.skipFrame P)
        ((s.skipFrame P).onTrial fun t => { t with phase := .waitE2 }) :=
      ⟨rfl, rfl, Nat.le_refl _⟩
    exact ((skipFrame_does hc s).trans hwait.does).trans (report_does _)
  · split
    · exact finish_does hc .failed 6 s
    · have hlaunch : Passes ms s (s.onTrial fun t => { t with
          nextFrame := t.nextFrame + 1, submitted := t.submitted + 1, phase := .transmitting }) :=
        ⟨rfl, rfl, Nat.le_refl _⟩
      exact (hlaunch.trans (prepareNext_passes hc _)).does

omit hc in
theorem frameRequest_repeat (t : ToneTrial) (p : PreparedFrame) (again : Bool) (channel : UInt8) :
    ((TrialSystem.frameRequest t p again channel).repeatPayload != 0) = again := by
  cases again <;> rfl

omit hc in
theorem claimLog_session (s : TrialSystem W) (c : Claim) (yes : Bool) (t t' t'' : Nat) :
    ∀ e ∈ claimLog s c yes t t' t'', e.2 ≠ .rearm := by
  unfold claimLog
  simp

theorem submitFrame_does {s : TrialSystem W} (hreuses : Reuses s) :
    Does ms s (s.submitFrame P).2 := by
  have hactivate : Passes ms s s.activate := ⟨rfl, rfl, Nat.le_refl _⟩
  apply hactivate.does.trans
  have hreuses' : Reuses s.activate := hreuses
  unfold TrialSystem.submitFrame
  generalize s.activate = s0 at hreuses'
  obtain ⟨yes, t', t'', hclaim, hgranted, hyes, hagain⟩ := claim_performs hc s0
  have htrial : (s0.claim P).2.trial = s0.trial := rfl
  have hparent : (s0.claim P).2.history.parent = s0.history.parent := rfl
  generalize s0.claim P = r at hclaim hgranted hagain htrial hparent
  obtain ⟨c, s1⟩ := r
  simp only at hclaim hgranted hagain htrial hparent ⊢
  have hsession := claimLog_session s0 c yes (ms s0.world) t' t''
  unfold TrialSystem.submitClaimed
  simp only
  split
  · have hclaimed : Does ms s0 s1 := ⟨_, hclaim, hgranted, hsession⟩
    exact hclaimed.trans (finish_does hc .failed 4 s1)
  next channel _ =>
    obtain ⟨log, hsubmits⟩ := submission_submits hc
      (TrialSystem.frameRequest s1.trial s1.nextPrepared (c.probe || c.burst || c.automatic) channel)
      c.automatic (c.probe || c.burst || c.automatic) (frameRequest_repeat ..)
      (fun h => by rw [h, Bool.or_true]) s1
    refine Does.trans ⟨_, hclaim.trans hsubmits.performs, ?_, ?_⟩ (submitOutcome_does hc _ _)
    · apply hgranted.submissions hsubmits.quiet hsubmits.submits
      intro e he sub hsub hrepeated
      have hsame := hsubmits.subs e he sub hsub
      have htrue : yes = true := hagain (hsame.2.2 hrepeated)
      rw [htrue] at hyes ⊢
      exact claim_grants hreuses' hyes (hsame.1.trans htrial) (hsame.2.1.trans hparent)
    · intro e he
      rcases List.mem_append.mp he with hnew | hold
      · exact hsubmits.session e hnew
      · exact hsession e hold

/-! ## Scheduling -/

theorem finishStream_does (s : TrialSystem W) : Does ms s (s.finishStream P) := by
  have hconfirm : Passes ms s { s with world := (P.sessionConfirmed s.world).2 } :=
    ⟨rfl, rfl, hc.onward _ _ .sessionConfirmed⟩
  unfold TrialSystem.finishStream
  simp only
  split
  · exact hconfirm.does.trans (finish_does hc ..)
  · exact hconfirm.does.trans (finish_does hc ..)

theorem planNext_does (minimum : UInt32) (ticket : Bool) {s : TrialSystem W}
    (hnext : s.trial.nextFrame ≤ s.frameLimit) : Does ms s (s.planNext P minimum ticket).2 := by
  have hplan := planFrames_does hc minimum _ ticket hnext rfl
  unfold TrialSystem.planNext
  generalize s.planFrames P minimum _ ticket = r at hplan
  obtain ⟨failed, s1⟩ := r
  cases failed with
  | some reason => exact hplan.1.trans (finish_does hc ..)
  | none =>
    simp only
    split
    · exact hplan.1.trans (finishStream_does hc s1)
    next hne =>
      rcases hplan.2 rfl with heq | hreuses
      · exact absurd heq hne
      · exact hplan.1.trans (submitFrame_does hc hreuses)

theorem schedule_does (minimum : UInt32) {s : TrialSystem W}
    (hnext : s.trial.nextFrame ≤ s.frameLimit) : Does ms s (s.schedule P minimum).2 := by
  obtain ⟨world, t, ht, hsame⟩ := advance_joined (P := P) s
  have hadvance := advanceSecondStream_passes hc s
  unfold TrialSystem.schedule
  generalize s.advanceSecondStream P = r at hsame hadvance
  obtain ⟨error, s1⟩ := r
  change s1 = _ at hsame
  simp only at hadvance ⊢
  split
  · exact hadvance.does.trans (finish_does hc ..)
  · have hnext1 : s1.trial.nextFrame ≤ s1.frameLimit := by
      rw [hsame]
      exact ht.nextFrame ▸ hnext
    have hlead : Does ms s1 { s1 with retry := s1.retry.takeLead.2 } :=
      .deed .takeLead rfl rfl (Nat.le_refl _) rfl
    exact (hadvance.does.trans hlead).trans
      (planNext_does hc minimum _ (s := { s1 with retry := s1.retry.takeLead.2 }) hnext1)

/-! ## Collection -/

theorem hearControl_does (rx : AirControlRx) (s : TrialSystem W) :
    Does ms s (s.hearControl P rx) := by
  have hread := hc.onward _ _ (.timerMs (w := s.world))
  unfold TrialSystem.hearControl
  simp only
  by_cases hlength : rx.length ≠ 0
  · rw [if_pos hlength]
    apply Does.deed (.control rx (s.trial.prepared (frameSlot s.trial.activeFrame)).parent)
    · simp only [Deed.retry, if_pos hlength, ← hc.reads]
      rfl
    · rfl
    · exact hread.trans (hc.onward _ _ (.receiveAirControl _ _))
    · rfl
  · rw [if_neg hlength]
    apply Does.deed (.control rx (s.trial.prepared (frameSlot s.trial.activeFrame)).parent)
    · simp only [Deed.retry, if_neg hlength]
      rfl
    · rfl
    · exact hc.onward _ _ (.receiveAirControl _ _)
    · rfl

omit hc in
theorem noteTx_does (s : TrialSystem W) : Does ms s s.noteTx :=
  .deed (.noteTx ..) rfl rfl (Nat.le_refl _) rfl

theorem hearSnapshot_does (phase : RadioTxPhase) (rx : RadioRxSnapshot) (s : TrialSystem W) :
    Does ms s (s.hearSnapshot P phase rx) := by
  unfold TrialSystem.hearSnapshot
  split
  · exact .refl s
  · simp only
    split
    · exact .still rfl rfl (Nat.le_refl _)
    next feedback control frames _ =>
      generalize hs1 : TrialSystem.onTrial _ _ = s1
      have h1 : Does ms s s1 := by
        rw [← hs1]
        exact .still rfl rfl (hc.onward _ _ (.microphoneFrames frames))
      split
      · have h2 := h1.trans (hearControl_does hc control s1)
        split
        · exact h2.trans (noteTx_does _)
        · exact h2
      · split
        · exact h1.trans (noteTx_does s1)
        · exact h1

theorem hear_does (phase : RadioTxPhase) (rxs : List RadioRxSnapshot) (s : TrialSystem W) :
    Does ms s (rxs.foldl (TrialSystem.hearSnapshot P phase) s) := by
  induction rxs generalizing s with
  | nil => exact .refl s
  | cons rx rxs ih => exact (hearSnapshot_does hc phase rx s).trans (ih _)

theorem giveBack_does (minimum : UInt32) (s : TrialSystem W) :
    Does ms s (s.giveBack P minimum) := by
  have hlead := lead_passes hc s.trial.requestedHs s
  unfold TrialSystem.giveBack
  generalize s.lead P s.trial.requestedHs = r at hlead
  obtain ⟨ahead, s1⟩ := r
  simp only at hlead ⊢
  split
  · exact hlead.does.trans (.still rfl rfl (Nat.le_refl _))
  · apply hlead.does.trans
    apply Does.deed .skip
    · show s1.retry.burstSkip _ = _
      rw [hc.reads]
      rfl
    · rfl
    · exact hc.onward _ _ .timerMs
    · rfl

theorem settle_does (minimum : UInt32) (result : RadioTxResult) (s : TrialSystem W) :
    Does ms s (s.settle P minimum result) := by
  have hordinary : Does ms s { s with
      retry := s.retry.autoOrdinaryCompleted (s.audioSent result.phase) } :=
    .deed (.completed (s.trial.prepared (frameSlot s.trial.activeFrame)) s.trial.activeFrame
      result.phase) rfl rfl (Nat.le_refl _) rfl
  have hheard := hear_does hc result.phase (result.rx.toList.take result.rxSnapshots.toNat)
    { s with retry := s.retry.autoOrdinaryCompleted (s.audioSent result.phase) }
  unfold TrialSystem.settle
  simp only
  split
  · exact (hordinary.trans hheard).trans (giveBack_does hc minimum _)
  · exact hordinary.trans hheard

theorem collected_does (minimum : UInt32) (result : RadioTxResult) {s : TrialSystem W}
    (hb : Bounded (.flying, s)) : Does ms s (s.collected P minimum result).2 := by
  have hphase : s.trial.phase = .transmitting := hb.1
  have hdeed (ended : Bool) : Does ms s (((s.retryCollected P result.phase).onTrial fun t => { t with
      reports := t.reports + 1, txCount := t.txCount + result.txCount }).log
        (.collected result.phase result.txCount ended)) := by
    apply Does.deed (.collected result.phase result.txCount ended)
    · show (s.retry.burstDone _ _ _).probeDone _ _ = _
      rw [hc.reads]
      rfl
    · rfl
    · exact hc.onward _ _ .timerMs
    · rfl
  have hmove := (moves_world (P := P) .flying s (P.timerMs s.world).2).tail
    (.collected (P.timerMs s.world).1 result false)
  unfold TrialSystem.collected
  simp only
  cases TrialSystem.collectionEnds _ result with
  | some ends => exact (hdeed true).trans (finish_does hc ..)
  | none =>
    simp only
    have hd := hdeed false
    generalize hs1 : TrialSystem.log _ _ = s1 at hd
    have h1 : Moves P (.flying, s) (.settling, s1) := by
      rw [← hs1]
      exact hmove
    have hlast : lastCollected s1.history.calls = some (result.phase, result.txCount) := by
      rw [← hs1]
      rfl
    have hphase1 : s1.trial.phase = .transmitting := by
      rw [← hs1]
      exact hphase
    have hsettle := settle_moves (P := P) minimum result s1 hlast
    have h2 := (h1.trans hsettle.1).trans (moves_report _ _)
    have hactive : Active (s1.settle P minimum result).report.trial.phase :=
      .inr (hsettle.2.trans hphase1)
    have hnext := (Moves.bounded h2 hb).2 hactive
    exact ((hd.trans (settle_does hc minimum result s1)).trans (report_does _)).trans
      (schedule_does hc minimum hnext)

/-! ## Steps -/

theorem waitEvent_does (s : TrialSystem W) : Does ms s (s.waitEvent P) := by
  unfold TrialSystem.waitEvent
  split
  · exact .refl s
  · have hadvance := advanceSecondStream_passes hc s
    generalize s.advanceSecondStream P = r at hadvance
    obtain ⟨error, s1⟩ := r
    simp only at hadvance ⊢
    split
    · exact hadvance.does.trans (.still rfl rfl (hc.onward _ _ .cancel))
    · exact hadvance.does

theorem stepTransmitting_does (minimum : UInt32) {s : TrialSystem W} (hb : Bounded (.flying, s)) :
    Does ms s (s.stepTransmitting P minimum).2 := by
  have hcollect : Does ms s { s with world := (P.collect s.world).2 } :=
    .still rfl rfl (hc.onward _ _ .collect)
  unfold TrialSystem.stepTransmitting
  simp only
  split
  next result _ =>
    have hlost : Does ms { s with world := (P.collect s.world).2 }
        (TrialSystem.retryCollected P result.phase { s with world := (P.collect s.world).2 }) := by
      apply Does.deed (.lost result.phase)
      · show (s.retry.burstDone _ _ _).probeDone _ _ = _
        rw [hc.reads]
        rfl
      · rfl
      · exact hc.onward _ _ .timerMs
      · rfl
    exact (hcollect.trans hlost).trans (finish_does hc ..)
  next => exact hcollect.trans (waitEvent_does hc _)
  next result _ =>
    apply hcollect.trans
    exact collected_does hc minimum result (s := { s with world := (P.collect s.world).2 }) hb

theorem stepWaiting_does (minimum : UInt32) {s : TrialSystem W}
    (hnext : s.trial.nextFrame ≤ s.frameLimit) : Does ms s (s.stepWaiting P minimum).2 := by
  unfold TrialSystem.stepWaiting
  split
  · exact finish_does hc ..
  · have hconfirm : Does ms s { s with world := (P.sessionConfirmed s.world).2 } :=
      .still rfl rfl (hc.onward _ _ .sessionConfirmed)
    simp only
    split
    · have hlead := hconfirm.trans (lead_passes hc s.trial.plan.startHs _).does
      split
      · exact hlead.trans (finish_does hc ..)
      · exact hlead
    · generalize hs1 : TrialSystem.onTrial _ _ = s1
      have h1 : Does ms s s1 := by
        rw [← hs1]
        exact hconfirm.trans (.still rfl rfl (Nat.le_refl _))
      have hnext1 : s1.trial.nextFrame ≤ s1.frameLimit := by
        rw [← hs1]
        exact hnext
      exact h1.trans (schedule_does hc minimum hnext1)

theorem tick_does (s : TrialSystem W) : Does ms s (s.onRetry P Retry.burstTick) := by
  apply Does.deed .tick
  · show s.retry.burstTick _ = _
    rw [hc.reads]
    rfl
  · rfl
  · exact hc.onward _ _ .timerMs
  · rfl

theorem step_does {s : TrialSystem W} (hb : Bounded (restStage s, s)) :
    Does ms s (s.step P).2 := by
  unfold TrialSystem.step
  simp only
  generalize hs1 : ({ s.onRetry P Retry.burstTick with
    world := (P.minLead (s.onRetry P Retry.burstTick).world).2 } : TrialSystem W) = s1
  have htrial : s1.trial = s.trial := by
    rw [← hs1]
    rfl
  have hlimit : s1.frameLimit = s.frameLimit := by
    rw [← hs1]
    rfl
  have h1 : Does ms s s1 := by
    rw [← hs1]
    exact (tick_does hc s).trans (.still rfl rfl (hc.onward _ _ .minLead))
  rw [show (s.onRetry P Retry.burstTick).trial.phase = s1.trial.phase from by rw [htrial]; rfl]
  unfold restStage at hb
  cases hphase : s1.trial.phase with
  | waitE2 =>
    rw [htrial] at hphase
    rw [if_neg (by rw [hphase]; decide)] at hb
    have hnext := hb.2 (.inl hphase)
    exact h1.trans (stepWaiting_does hc _ (by rw [htrial, hlimit]; exact hnext))
  | transmitting =>
    rw [htrial] at hphase
    rw [if_pos hphase] at hb
    refine h1.trans (stepTransmitting_does hc _ (hb.flying ⟨?_, ?_, ?_, hlimit⟩))
    · rw [htrial]
    · rw [htrial]
    · rw [htrial]
  | _ => exact h1.trans (report_does s1)

theorem cancel_does {s : TrialSystem W} (hb : Bounded (restStage s, s)) :
    Does ms s (s.cancel P).2 := by
  have hcancel : Does ms s
      ({ s with retry := s.retry.cancel }.onTrial fun t => { t with cancel := true }) :=
    .deed .cancel rfl rfl (Nat.le_refl _) rfl
  unfold TrialSystem.cancel
  generalize hs1 : TrialSystem.onTrial _ _ = s1 at hcancel
  have hb1 (world : W) : Bounded (restStage { s1 with world }, { s1 with world }) := by
    rw [← hs1]
    exact hb
  simp only
  split
  · have hworld : Does ms s1 { s1 with world := P.cancel s1.world } :=
      .still rfl rfl (hc.onward _ _ .cancel)
    exact (hcancel.trans hworld).trans (step_does hc (hb1 _))
  · exact hcancel.trans (step_does hc (hb1 s1.world))

/-! ## Start -/

theorem chooseAddress_onward (fuel : Nat) (world : W) :
    ms world ≤ ms (TrialSystem.chooseAddress P fuel world).2 := by
  induction fuel generalizing world with
  | zero => exact Nat.le_refl _
  | succ fuel ih =>
    have hrandom := hc.onward _ _ (.random (w := world))
    unfold TrialSystem.chooseAddress
    simp only
    split
    · exact hrandom
    · exact hrandom.trans (ih _)

omit hc in
/-- The address that is kept obeys the rules of the link layer. -/
theorem chooseAddress_obeys {fuel : Nat} {world : W} {aa : UInt32}
    (h : (TrialSystem.chooseAddress P fuel world).1 = some aa) : ObeysRules aa := by
  induction fuel generalizing world with
  | zero => cases h
  | succ fuel ih =>
    unfold TrialSystem.chooseAddress at h
    simp only at h
    split at h
    next hvalid =>
      cases h
      exact aaValid_obeys hvalid
    next => exact ih h

theorem startPrepared_does (s : TrialSystem W) : Does ms s (s.startPrepared P).2 := by
  have hcrc := hc.onward _ _ (.sessionCrcInit (w := s.world))
  unfold TrialSystem.startPrepared
  generalize P.sessionCrcInit s.world = r at hcrc
  obtain ⟨crc, world⟩ := r
  cases crc with
  | error status => exact .still rfl rfl hcrc
  | ok crc =>
    simp only
    generalize hs1 : TrialSystem.onTrial _ _ = s1
    have h1 : Does ms s s1 := by
      rw [← hs1]
      exact .still rfl rfl hcrc
    have hprepare := h1.trans (prepareFrame_passes hc 0 s1).does
    generalize s1.prepareFrame P 0 = r at hprepare
    obtain ⟨ok, s2⟩ := r
    cases ok with
    | false => exact hprepare.trans (.still rfl rfl (Nat.le_refl _))
    | true =>
      have hcommit := hc.onward _ _ (.commitSession (w := s2.world) s2.trial.plan)
      simp only
      split
      · exact hprepare.trans (.still rfl rfl hcommit)
      · have hstarted := hcommit.trans (hc.onward _ _ .timerUs)
        generalize hs3 : TrialSystem.onTrial _ _ = s3
        have h3 : Does ms s2 s3 := by
          rw [← hs3]
          exact .still rfl rfl hstarted
        exact (hprepare.trans h3).trans (report_does s3)

theorem start_does (s : TrialSystem W) : Does ms s (s.start P).2 := by
  unfold TrialSystem.start
  split
  · exact .refl s
  · have haddress := chooseAddress_onward hc 128 s.world
    simp only
    split
    · exact .still rfl rfl haddress
    next aa _ =>
      have hmap := haddress.trans (hc.onward _ _ .sessionChannelMap)
      split
      · exact .still rfl rfl hmap
      next map _ =>
        have hseed := (hmap.trans (hc.onward _ _ .randomIv)).trans (hc.onward _ _ .randomKey)
        have hprepare := hseed.trans (hc.onward _ _ (.prepareSession
          (TrialSystem.sessionSeed P aa map (P.sessionChannelMap
            (TrialSystem.chooseAddress P 128 s.world).2).2).1 2500))
        split
        · exact .still rfl rfl hprepare
        · generalize hs1 : TrialSystem.onTrial _ _ = s1
          have h1 : Does ms s s1 := by
            rw [← hs1]
            exact .still rfl rfl hprepare
          exact h1.trans (startPrepared_does hc s1)

/-! ## Calls -/

/-- Every call but a rearm is a sequence of deeds of one session. -/
theorem act_does {s : TrialSystem W} {action : TrialAction W} (hb : Bounded (restStage s, s))
    (hrearm : action ≠ .rearm) (honward : ∀ world, action = .world world → ms s.world ≤ ms world) :
    Does ms s (s.act P action) := by
  cases action with
  | start => exact start_does hc s
  | step => exact step_does hc hb
  | cancel => exact cancel_does hc hb
  | status => exact report_does s
  | rearm => exact absurd rfl hrearm
  | setAudioSource on =>
    unfold TrialSystem.act
    simp only
    split
    · exact .still rfl rfl (Nat.le_refl _)
    · exact .refl s
  | continuous on =>
    unfold TrialSystem.act
    simp only
    split
    · exact .still rfl rfl (Nat.le_refl _)
    · exact .refl s
  | probeArm => exact .deed .probeArm rfl rfl (Nat.le_refl _) rfl
  | burstArm =>
    apply Does.deed .burstArm
    · show (s.retry.burstArm _).2 = _
      rw [hc.reads]
      rfl
    · rfl
    · exact hc.onward _ _ .timerMs
    · rfl
  | cooldownProbeArm => exact .deed .cooldownProbeArm rfl rfl (Nat.le_refl _) rfl
  | autoEnable on => exact .deed (.autoEnable on) rfl rfl (Nat.le_refl _) rfl
  | push frame => exact .still rfl rfl (Nat.le_refl _)
  | rearmSource paused =>
    unfold TrialSystem.act
    simp only
    split
    · exact .still rfl rfl (Nat.le_refl _)
    · exact .refl s
  | world world => exact .still rfl rfl (honward world rfl)

/-- A rearm that goes through is one deed. -/
theorem rearm_performs (s : TrialSystem W) : ∃ log, Performs ms s log (s.rearm P).2 ∧
    Granted s.retry log ∧ ∀ e ∈ log, e.2 = .rearm := by
  have hcollect := hc.onward _ _ (.collect (w := s.world))
  have hstill : ∃ log, Performs ms s log { s with world := (P.collect s.world).2 } ∧
      Granted s.retry log ∧ ∀ e ∈ log, e.2 = .rearm :=
    ⟨[], .still rfl rfl hcollect, trivial, fun _ he => (nomatch he)⟩
  have hrearm : ∃ log, Performs ms s log { s with
      trial := .zero, retry := s.retry.rearm, audioSource := false, continuous := false
      world := (P.collect s.world).2
      history := { s.history with calls := [], finished := false } } ∧
      Granted s.retry log ∧ ∀ e ∈ log, e.2 = .rearm := by
    refine ⟨_, .deed (ms s.world) .rearm rfl rfl (Nat.le_refl _) hcollect, ?_, ?_⟩
    · exact .cons rfl trivial trivial
    · intro e he
      rw [List.mem_singleton.mp he]
  have hself : ∃ log, Performs ms s log s ∧ Granted s.retry log ∧ ∀ e ∈ log, e.2 = .rearm :=
    ⟨[], .still rfl rfl (Nat.le_refl _), trivial, fun _ he => (nomatch he)⟩
  unfold TrialSystem.rearm
  cases s.trial.phase with
  | finished | cancelled | failed =>
    simp only
    split
    · exact hrearm
    · exact hstill
  | _ => exact hself

end

end UllReceiver.Trial
