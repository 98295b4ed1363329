import UllReceiver.Trial.Bounds

/-!
# Calls as moves

Every call of the trial is a sequence of moves, from the stage its phase stands for to the stage
of the phase it leaves.
-/

namespace UllReceiver.Trial

open Air Audio Parent Radio

variable {W : Type} (P : Platform W)

/-- The stage between two calls. -/
def restStage (s : TrialSystem W) : Stage :=
  if s.trial.phase = .transmitting then .flying else .rest

variable {P}

theorem moves_one {a b : Stage × TrialSystem W} (h : Move P a b) : Moves P a b :=
  Relation.ReflTransGen.single h

theorem moves_world (st : Stage) (s : TrialSystem W) (world : W) :
    Moves P (st, s) (st, { s with world }) :=
  moves_one (.world world)

theorem moves_report (st : Stage) (s : TrialSystem W) : Moves P (st, s) (st, s.report) :=
  moves_one .report

theorem moves_lead (st : Stage) (hs : UInt32) (s : TrialSystem W) :
    Moves P (st, s) (st, (s.lead P hs).2) :=
  moves_world st s _

theorem moves_aside {st : Stage} {s s' : TrialSystem W} (hst : st = .rest ∨ st = .flying)
    (h : Aside P s s') : Moves P (st, s) (st, s') := by
  rcases hst with rfl | rfl
  · exact moves_one (.asideRest h)
  · exact moves_one (.asideFlying h)

/-! ## Second stream -/

theorem joinSecondStream_joined (s : TrialSystem W) : ∃ world t, Joined s.trial t ∧
    (s.joinSecondStream P).2 = { s with world, trial := t } := by
  have hself (world : W) : ∃ world' t, Joined s.trial t ∧
      { s with world } = { s with world := world', trial := t } :=
    ⟨world, s.trial, ⟨rfl⟩, rfl⟩
  unfold TrialSystem.joinSecondStream
  simp only
  split
  · exact hself _
  · split
    · exact hself _
    · split
      · exact hself _
      · split
        · exact hself _
        · exact ⟨_, _, ⟨rfl⟩, rfl⟩

theorem advance_joined (s : TrialSystem W) : ∃ world t, Joined s.trial t ∧
    (s.advanceSecondStream P).2 = { s with world, trial := t } := by
  unfold TrialSystem.advanceSecondStream
  split
  · exact ⟨_, _, ⟨rfl⟩, rfl⟩
  · simp only
    split
    · exact ⟨_, s.trial, ⟨rfl⟩, rfl⟩
    · split
      · split
        · exact ⟨_, s.trial, ⟨rfl⟩, rfl⟩
        · split
          · exact ⟨_, s.trial, ⟨rfl⟩, rfl⟩
          · exact ⟨_, _, ⟨rfl⟩, rfl⟩
      · split
        · obtain ⟨world, t, ht, h⟩ := joinSecondStream_joined (P := P)
            { s with world := (P.secondStreamReady (P.timerUs s.world).2).2 }
          exact ⟨world, t, ht, h⟩
        · exact ⟨_, s.trial, ⟨rfl⟩, rfl⟩

theorem moves_advance {st : Stage} (hst : st = .rest ∨ st = .flying) (s : TrialSystem W) :
    Moves P (st, s) (st, (s.advanceSecondStream P).2) := by
  obtain ⟨world, t, ht, h⟩ := advance_joined (P := P) s
  rw [h]
  exact (moves_world st s world).trans
    (moves_aside hst (.joined (s := { s with world }) t ht))

theorem Joined.phase {t t' : ToneTrial} (h : Joined t t') : t'.phase = t.phase := by
  rw [h.same]

theorem Joined.nextFrame {t t' : ToneTrial} (h : Joined t t') : t'.nextFrame = t.nextFrame := by
  rw [h.same]

/-! ## Submission -/

theorem burstDone_inactive (now : UInt32) (result : Option RadioTxPhase) (error : UInt8)
    (r : Retry) : (r.burstDone now result error).burstActive = false := by
  unfold Retry.burstDone
  split
  · rename_i h
    simpa using h
  · simp only
    have hend (reason : UInt32) (r : Retry) (h : r.burstActive = false) :
        (r.burstEnd reason).burstActive = false := by
      unfold Retry.burstEnd
      simp only
      split <;> split <;> exact h
    split
    · split
      · unfold Retry.autoFail
        simp only
        split <;> split <;> rfl
      · rfl
    · split
      · exact hend _ _ rfl
      · split
        · exact hend _ _ rfl
        · split
          · exact hend _ _ rfl
          · rfl

/-- What a submission does, by the status it returns. -/
structure SubmittedMoves (P : Platform W) (s : TrialSystem W)
    (result : TrialSystem.Submitted × TrialSystem W) : Prop where
  trial : result.2.trial = s.trial
  limit : result.2.frameLimit = s.frameLimit
  accepted : result.1.status = 0 → Moves P (.claimed, s) (.sent, result.2)
  refused : result.1.status ≠ 0 → Moves P (.claimed, s) (.claimed, result.2)
  recorded : result.1.autoFailureRecorded = true → result.2.retry.burstActive = false

theorem submitRequest_moves {s : TrialSystem W} {request : RadioTxRequest}
    (hrequest : FrameRequest s.nextPrepared request) :
    ((s.submitRequest P request).1 = 0 →
        Moves P (.claimed, s) (.sent, (s.submitRequest P request).2)) ∧
      ((s.submitRequest P request).1 ≠ 0 →
        Moves P (.claimed, s) (.claimed, (s.submitRequest P request).2)) := by
  unfold TrialSystem.submitRequest
  generalize P.submit request s.world = r
  obtain ⟨status, world⟩ := r
  have hworld := moves_world (P := P) .claimed s world
  refine ⟨fun h => ?_, fun h => ?_⟩
  · change status = 0 at h
    subst h
    exact hworld.tail (.accepted (s := { s with world }) request hrequest)
  · exact hworld.tail (.refused (s := { s with world }) request hrequest status h)

theorem submit_moves {s : TrialSystem W} {request : RadioTxRequest}
    (hrequest : FrameRequest s.nextPrepared request) (automatic : Bool) :
    SubmittedMoves P s (s.submitWithRetryFallback P request automatic) := by
  have hfirst := submitRequest_moves (P := P) hrequest
  have htrial : (s.submitRequest P request).2.trial = s.trial := rfl
  have hlimit : (s.submitRequest P request).2.frameLimit = s.frameLimit := rfl
  unfold TrialSystem.submitWithRetryFallback
  generalize s.submitRequest P request = r at hfirst htrial hlimit
  obtain ⟨status, s1⟩ := r
  simp only at hfirst htrial hlimit ⊢
  split
  · exact ⟨htrial, hlimit, hfirst.1, hfirst.2, fun h => (nomatch h)⟩
  · rename_i hconflict
    have hstatus : status = scheduleConflict := by
      by_contra hne
      exact hconflict (.inr hne)
    have hne : status ≠ 0 := by
      rw [hstatus]
      decide
    -- the world after the clock is read, then the policy change of the fallback
    generalize hs2 : s1.onRetry P _ = s2
    have hmoves : Moves P (.claimed, s) (.fallback, s2) := by
      rw [← hs2]
      exact ((hfirst.2 hne).trans (moves_world .claimed s1 (P.timerMs s1.world).2)).tail
        (.fallback (P.timerMs s1.world).1 status hne)
    have htrial2 : s2.trial = s.trial := by
      rw [← hs2]
      exact htrial
    have hlimit2 : s2.frameLimit = s.frameLimit := by
      rw [← hs2]
      exact hlimit
    have hinactive : s2.retry.burstActive = false := by
      rw [← hs2]
      exact burstDone_inactive _ _ _ s1.retry
    generalize hsingle : ({ request with
      repeatPayload := 0, prequeuedReply := 0, followupDelayUs := 2350 } : RadioTxRequest) = single
    have hsingle' : FrameRequest s2.nextPrepared single := by
      rw [← hsingle]
      unfold TrialSystem.nextPrepared
      rw [htrial2]
      exact ⟨hrequest.startHs, hrequest.startHus, hrequest.payload, hrequest.channel,
        hrequest.header⟩
    unfold TrialSystem.submitRequest
    generalize P.submit single s2.world = r
    obtain ⟨second, world⟩ := r
    have hworld := hmoves.trans (moves_world .fallback s2 world)
    simp only
    split
    · rename_i hok
      subst hok
      refine ⟨htrial2, hlimit2, fun _ => ?_, fun h => absurd rfl h, fun _ => hinactive⟩
      exact hworld.tail (.fallbackSent (s := { s2 with world }) single hsingle')
    · rename_i hrejected
      have hfalse : (second == 0) = false := by simpa using hrejected
      refine ⟨htrial2, hlimit2, fun h => absurd h hne, fun _ => ?_, fun _ => ?_⟩
      · rw [hfalse]
        exact hworld.tail
          (.fallbackRejected (s := { s2 with world }) single hsingle' second hrejected)
      · rw [hfalse]
        exact hinactive

theorem moves_giveUp (s : TrialSystem W) (error : UInt8) :
    Moves P (.flying, s) (.flying, { s with world := P.cancel s.world }.onTrial fun t => { t with
      preparationFailure := error, cancel := true }) :=
  (moves_world .flying s _).tail (.giveUp (s := { s with world := P.cancel s.world }) error)

/-- The next frame is built while this one is in flight. -/
theorem prepareNext_moves (s : TrialSystem W) (hnext : s.trial.nextFrame = s.trial.activeFrame + 1)
    (hphase : s.trial.phase = .transmitting) :
    Moves P (.flying, s) (.flying, s.prepareNext P) ∧
      (s.prepareNext P).trial.phase = .transmitting := by
  have hprepare : Moves P (.flying, s) (.flying, (s.prepareFrame P s.trial.nextFrame).2) :=
    moves_one (.prepareNext _ hnext)
  obtain ⟨p, source, world, ccmKey, parent, hsame⟩ :=
    prepareFrame_same P s.trial.nextFrame s
  unfold TrialSystem.prepareNext
  generalize s.prepareFrame P s.trial.nextFrame = r at hprepare hsame
  obtain ⟨ok, s1⟩ := r
  change s1 = _ at hsame
  change Moves P _ (.flying, s1) at hprepare
  have hnext1 : s1.trial.nextFrame = s1.trial.activeFrame + 1 := by
    rw [hsame]
    exact hnext
  have hphase1 : s1.trial.phase = .transmitting := by
    rw [hsame]
    exact hphase
  cases ok with
  | false => exact ⟨hprepare.trans (moves_giveUp s1 5), hphase1⟩
  | true =>
      have halternate : Moves P (.flying, s1)
          (.flying, (s1.prepareAlternate P s1.trial.nextFrame).2) :=
        moves_one (.alternate _ hnext1)
      obtain ⟨alternate, gap, source', world', ccmKey', hahead⟩ :=
        prepareAlternate_ahead P s1.trial.nextFrame s1
      simp only
      generalize s1.prepareAlternate P s1.trial.nextFrame = r at halternate hahead
      obtain ⟨ok, s2⟩ := r
      change s2 = _ at hahead
      have hphase2 : s2.trial.phase = .transmitting := by
        rw [hahead]
        exact hphase1
      cases ok with
      | false => exact ⟨(hprepare.trans halternate).trans (moves_giveUp s2 5), hphase2⟩
      | true => exact ⟨hprepare.trans halternate, hphase2⟩

/-- The result of a call: the moves lead to the stage of the phase that is left. -/
def Returns (P : Platform W) (a : Stage × TrialSystem W) (s : TrialSystem W) : Prop :=
  Moves P a (restStage s, s)

theorem Returns.of_rest {a : Stage × TrialSystem W} {s : TrialSystem W}
    (h : Moves P a (.rest, s)) (hphase : s.trial.phase ≠ .transmitting) : Returns P a s := by
  unfold Returns restStage
  rw [if_neg hphase]
  exact h

theorem Returns.of_flying {a : Stage × TrialSystem W} {s : TrialSystem W}
    (h : Moves P a (.flying, s)) (hphase : s.trial.phase = .transmitting) : Returns P a s := by
  unfold Returns restStage
  rw [if_pos hphase]
  exact h

theorem returns_finish {a : Stage × TrialSystem W} {st : Stage} {s : TrialSystem W}
    (h : Moves P a (st, s)) (hst : st = .rest ∨ st = .claimed ∨ st = .ending) {phase : TrialPhase}
    (hphase : phase = .finished ∨ phase = .cancelled ∨ phase = .failed) (reason : UInt8)
    (hactive : Active s.trial.phase) : Returns P a (s.finish P phase reason) := by
  apply Returns.of_rest (h.tail (.finish phase reason hphase hst hactive))
  change phase ≠ _
  rcases hphase with rfl | rfl | rfl <;> decide

theorem submitOutcome_returns {a : Stage × TrialSystem W} {s : TrialSystem W} {status : UInt8}
    (haccepted : status = 0 → Moves P a (.sent, s)) (hrefused : status ≠ 0 → Moves P a (.rest, s))
    (hactive : s.trial.activeFrame = s.trial.nextFrame) (hphase : Active s.trial.phase)
    (hlimit : s.trial.nextFrame < s.frameLimit) : Returns P a (s.submitOutcome P status).2 := by
  unfold TrialSystem.submitOutcome
  split
  · rename_i hskip
    have hne : status ≠ 0 := by
      rcases hskip with rfl | rfl <;> decide
    have hskipped := (hrefused hne).tail (.skip hlimit hphase)
    have hphase' : Active (s.skipFrame P).trial.phase := hphase
    exact .of_rest ((hskipped.tail (.wait hphase')).tail .report) (fun h => (nomatch h))
  · split
    · rename_i hne
      exact returns_finish (hrefused hne) (.inl rfl) (.inr (.inr rfl)) 6 hphase
    · rename_i hok
      have hok' : status = 0 := by
        by_contra hne
        exact hok hne
      have hlaunched := (haccepted hok').tail .launch
      generalize hs1 : s.onTrial _ = s1 at hlaunched
      have hnext1 : s1.trial.nextFrame = s1.trial.activeFrame + 1 := by
        rw [← hs1]
        change s.trial.nextFrame + 1 = s.trial.activeFrame + 1
        rw [hactive]
      have hphase1 : s1.trial.phase = .transmitting := by
        rw [← hs1]
        rfl
      obtain ⟨hmoves, hphase2⟩ := prepareNext_moves (P := P) s1 hnext1 hphase1
      exact .of_flying (hlaunched.trans hmoves) hphase2

theorem frameRequest_carries (t : ToneTrial) (p : PreparedFrame) (again : Bool) (channel : UInt8) :
    FrameRequest p (TrialSystem.frameRequest t p again channel) :=
  ⟨rfl, rfl, rfl, rfl, rfl⟩

theorem retrySubmitted_moves {a : Stage × TrialSystem W} {s : TrialSystem W} (again : Bool)
    {o : TrialSystem.Submitted} (haccepted : o.status = 0 → Moves P a (.sent, s))
    (hrefused : o.status ≠ 0 → Moves P a (.claimed, s))
    (hrecorded : o.autoFailureRecorded = true → s.retry.burstActive = false) :
    (o.status = 0 → Moves P a (.sent, s.retrySubmitted P again o)) ∧
      (o.status ≠ 0 → Moves P a (.rest, s.retrySubmitted P again o)) := by
  let s1 := { s with world := (P.timerMs s.world).2 }
  refine ⟨fun h => ?_, fun h => ?_⟩
  · have hmoves := ((haccepted h).trans (moves_world .sent s _)).tail
      (.submitted (s := s1) (P.timerMs s.world).1 o.autoFailureRecorded again o.fallbackSuccess)
    unfold TrialSystem.retrySubmitted TrialSystem.onRetry
    simp only [h, if_true]
    exact hmoves
  · have hmoves := ((hrefused h).trans (moves_world .claimed s _)).tail
      (.unsubmitted (s := s1) (P.timerMs s.world).1 o.status h o.autoFailureRecorded again
        o.fallbackSuccess hrecorded)
    unfold TrialSystem.retrySubmitted TrialSystem.onRetry
    simp only [if_neg h]
    exact hmoves

theorem submitClaimed_returns {a : Stage × TrialSystem W} {s : TrialSystem W} (c : Claim)
    (h : Moves P a (.claimed, s)) (hphase : Active s.trial.phase)
    (hactive : s.trial.activeFrame = s.trial.nextFrame)
    (hlimit : s.trial.nextFrame < s.frameLimit) : Returns P a (s.submitClaimed P c).2 := by
  unfold TrialSystem.submitClaimed
  simp only
  split
  · exact returns_finish h (.inr (.inl rfl)) (.inr (.inr rfl)) 4 hphase
  · rename_i channel _
    have hsubmit := submit_moves (P := P)
      (frameRequest_carries s.trial s.nextPrepared (c.probe || c.burst || c.automatic) channel)
      c.automatic
    generalize s.submitWithRetryFallback P _ c.automatic = r at hsubmit
    obtain ⟨o, s1⟩ := r
    obtain ⟨htrial, hlimit1, haccepted, hrefused, hrecorded⟩ := hsubmit
    obtain ⟨hsent, hrest⟩ := retrySubmitted_moves (P := P) (c.probe || c.burst || c.automatic)
      (fun hs => h.trans (haccepted hs)) (fun hs => h.trans (hrefused hs)) hrecorded
    have htrial1 : (s1.retrySubmitted P (c.probe || c.burst || c.automatic) o).trial = s.trial :=
      htrial
    apply submitOutcome_returns hsent hrest
    · rw [htrial1]
      exact hactive
    · rw [htrial1]
      exact hphase
    · rw [htrial1]
      exact lt_of_lt_of_eq hlimit hlimit1.symm

theorem submitFrame_returns {a : Stage × TrialSystem W} {s : TrialSystem W}
    (h : Moves P a (.rest, s)) (hphase : Active s.trial.phase) (hready : s.Ready) :
    Returns P a (s.submitFrame P).2 :=
  submitClaimed_returns _ (h.tail (.claim hready hphase)) hphase rfl hready.next

/-! ## Planning -/

/-- The trial goes on with the same frame. -/
structure Continues (P : Platform W) (a : Stage × TrialSystem W) (s s' : TrialSystem W) :
    Prop where
  moves : Moves P a (.rest, s')
  phase : s'.trial.phase = s.trial.phase
  next : s'.trial.nextFrame = s.trial.nextFrame
  limit : s'.frameLimit = s.frameLimit

theorem Continues.lead {a : Stage × TrialSystem W} {s s' : TrialSystem W}
    (h : Continues P a s s') (hs : UInt32) : Continues P a s (s'.lead P hs).2 :=
  ⟨h.moves.trans (moves_lead _ _ _), h.phase, h.next, h.limit⟩

theorem Continues.prepare {a : Stage × TrialSystem W} {s s' : TrialSystem W}
    (h : Continues P a s s') (hphase : Active s.trial.phase)
    (hlt : s.trial.nextFrame < s.frameLimit) :
    Continues P a s (s'.prepareFrame P s'.trial.nextFrame).2 := by
  have hmoves := h.moves.tail (.prepare (P := P) (by rw [h.next, h.limit]; exact hlt)
    (by rw [h.phase]; exact hphase))
  obtain ⟨p, source, world, ccmKey, parent, hsame⟩ := prepareFrame_same P s'.trial.nextFrame s'
  rw [hsame] at hmoves ⊢
  exact ⟨hmoves, h.phase, h.next, h.limit⟩

/-- A world that has moved on takes nothing from a prepared frame. -/
theorem ready_of_prepared {s s' : TrialSystem W} (hlt : s.trial.nextFrame < s.frameLimit)
    (h : s.prepareFrame P s.trial.nextFrame = (true, s')) (hs : UInt32) :
    (s'.lead P hs).2.Ready := by
  obtain ⟨hvalid, hkey, hproper⟩ := prepareFrame_ready P hlt h
  obtain ⟨p, source, world, ccmKey, parent, hsame⟩ := prepareFrame_same P s.trial.nextFrame s
  rw [h] at hsame
  change s' = _ at hsame
  have hnext : s'.trial.nextFrame = s.trial.nextFrame := by rw [hsame]
  have hlimit : s'.frameLimit = s.frameLimit := by
    rw [hsame]
    rfl
  rw [← hnext] at hvalid hkey hproper
  exact ⟨lt_of_eq_of_lt hnext (lt_of_lt_of_eq hlt hlimit.symm), hvalid, hkey, hproper⟩

theorem prepareInTime_continues {a : Stage × TrialSystem W} (minimum : UInt32)
    {s s' : TrialSystem W} (h : Continues P a s s') (hphase : Active s.trial.phase)
    (hlt : s.trial.nextFrame < s.frameLimit) :
    Continues P a s (s'.prepareInTime P minimum).2 ∧
      ((s'.prepareInTime P minimum).1 = .ready → (s'.prepareInTime P minimum).2.Ready) := by
  have hprepare := h.prepare hphase hlt
  have hlt' : s'.trial.nextFrame < s'.frameLimit := by
    rw [h.next, h.limit]
    exact hlt
  unfold TrialSystem.prepareInTime
  generalize hr : s'.prepareFrame P s'.trial.nextFrame = r at hprepare
  obtain ⟨ok, s1⟩ := r
  cases ok with
  | false => exact ⟨hprepare, fun hr => (nomatch hr)⟩
  | true =>
      exact ⟨hprepare.lead s1.nextPrepared.outerHs,
        fun _ => ready_of_prepared hlt' hr s1.nextPrepared.outerHs⟩

theorem attemptFrame_continues {a : Stage × TrialSystem W} (minimum : UInt32) (ticket : Bool)
    {s : TrialSystem W} (h : Moves P a (.rest, s)) (hphase : Active s.trial.phase)
    (hlt : s.trial.nextFrame < s.frameLimit) :
    Continues P a s (s.attemptFrame P minimum ticket).2 ∧
      ((s.attemptFrame P minimum ticket).1 = .ready →
        (s.attemptFrame P minimum ticket).2.Ready) := by
  have hself : Continues P a s s := ⟨h, rfl, rfl, rfl⟩
  unfold TrialSystem.attemptFrame
  cases sessionTime s.trial.plan s.trial.nextFrame 0 with
  | none => exact ⟨hself, fun hr => (nomatch hr)⟩
  | some start =>
      have hlead := hself.lead (receiveTimeShift s.trial.nextFrame start.1 start.2).1
      simp only
      generalize s.lead P (receiveTimeShift s.trial.nextFrame start.1 start.2).1 = r at hlead
      obtain ⟨ahead, s1⟩ := r
      simp only at hlead ⊢
      generalize minimum + (if ticket then 0 else 1) = preparationMin
      split
      · exact prepareInTime_continues minimum hlead hphase hlt
      · exact ⟨hlead, fun hr => (nomatch hr)⟩

/-- How the loop over the frames ends: with a failure, at the limit or with a frame prepared. -/
structure Planned (P : Platform W) (a : Stage × TrialSystem W)
    (result : Option UInt8 × TrialSystem W) : Prop where
  moves : Moves P a (.rest, result.2)
  phase : Active result.2.trial.phase
  planned : result.1 = none →
    result.2.trial.nextFrame = result.2.frameLimit ∨ result.2.Ready

theorem fuel_succ {next limit : UInt32} {fuel : Nat} (h : next < limit)
    (hfuel : (limit - next).toNat = fuel + 1) :
    next + 1 ≤ limit ∧ (limit - (next + 1)).toNat = fuel := by
  have hlt := UInt32.lt_iff_toNat_lt.mp h
  have hbound := limit.toNat_lt
  have hsucc : (next + 1).toNat = next.toNat + 1 := by
    rw [UInt32.toNat_add]
    change (next.toNat + 1) % 4294967296 = _
    omega
  have hle : next + 1 ≤ limit := by
    rw [UInt32.le_iff_toNat_le, hsucc]
    omega
  refine ⟨hle, ?_⟩
  rw [UInt32.toNat_sub_of_le _ _ (UInt32.le_of_lt h)] at hfuel
  rw [UInt32.toNat_sub_of_le _ _ hle, hsucc]
  omega

theorem planFrames_planned {a : Stage × TrialSystem W} (minimum : UInt32) (fuel : Nat)
    (ticket : Bool) {s : TrialSystem W} (h : Moves P a (.rest, s)) (hphase : Active s.trial.phase)
    (hnext : s.trial.nextFrame ≤ s.frameLimit)
    (hfuel : (s.frameLimit - s.trial.nextFrame).toNat = fuel) :
    Planned P a (s.planFrames P minimum fuel ticket) := by
  induction fuel generalizing s ticket with
  | zero =>
      refine ⟨h, hphase, fun _ => .inl ?_⟩
      rw [UInt32.toNat_sub_of_le _ _ hnext] at hfuel
      apply UInt32.le_antisymm hnext
      rw [UInt32.le_iff_toNat_le]
      omega
  | succ fuel ih =>
      unfold TrialSystem.planFrames
      split
      · rename_i hge
        exact ⟨h, hphase, fun _ => .inl (UInt32.le_antisymm hnext hge)⟩
      · rename_i hlt
        have hlt' : s.trial.nextFrame < s.frameLimit := UInt32.not_le.mp hlt
        obtain ⟨hcont, hready⟩ := attemptFrame_continues (P := P) minimum ticket h hphase hlt'
        generalize s.attemptFrame P minimum ticket = r at hcont hready
        obtain ⟨attempt, s1⟩ := r
        simp only at hcont hready
        have hphase1 : Active s1.trial.phase := by
          rw [hcont.phase]
          exact hphase
        cases attempt with
        | ready => exact ⟨hcont.moves, hphase1, fun _ => .inr (hready rfl)⟩
        | failed reason => exact ⟨hcont.moves, hphase1, fun hn => (nomatch hn)⟩
        | late =>
            obtain ⟨hle, hleft⟩ := fuel_succ hlt' hfuel
            have hmoves := hcont.moves.tail
              (.skip (by rw [hcont.next, hcont.limit]; exact hlt') hphase1)
            have hnext1 : (s1.skipFrame P).trial.nextFrame = s.trial.nextFrame + 1 := by
              rw [← hcont.next]
              rfl
            have hlimit1 : (s1.skipFrame P).frameLimit = s.frameLimit := hcont.limit
            exact ih false hmoves hphase1 (by rw [hnext1, hlimit1]; exact hle)
              (by rw [hnext1, hlimit1]; exact hleft)

theorem finishStream_returns {a : Stage × TrialSystem W} {s : TrialSystem W}
    (h : Moves P a (.rest, s)) (hphase : Active s.trial.phase) :
    Returns P a (s.finishStream P) := by
  have hworld := h.trans (moves_world .rest s (P.sessionConfirmed s.world).2)
  unfold TrialSystem.finishStream
  simp only
  split
  · exact returns_finish hworld (.inl rfl) (.inl rfl) 0 hphase
  · exact returns_finish hworld (.inl rfl) (.inr (.inr rfl)) 12 hphase

theorem planNext_returns {a : Stage × TrialSystem W} (minimum : UInt32) (ticket : Bool)
    {s : TrialSystem W} (h : Moves P a (.rest, s)) (hphase : Active s.trial.phase)
    (hnext : s.trial.nextFrame ≤ s.frameLimit) : Returns P a (s.planNext P minimum ticket).2 := by
  have hplan := planFrames_planned (P := P) minimum _ ticket h hphase hnext rfl
  unfold TrialSystem.planNext
  generalize s.planFrames P minimum _ ticket = r at hplan
  obtain ⟨failed, s1⟩ := r
  cases failed with
  | some reason => exact returns_finish hplan.moves (.inl rfl) (.inr (.inr rfl)) reason hplan.phase
  | none =>
      simp only
      split
      · exact finishStream_returns hplan.moves hplan.phase
      · rename_i hne
        rcases hplan.planned rfl with heq | hready
        · exact absurd heq hne
        · exact submitFrame_returns hplan.moves hplan.phase hready

theorem schedule_returns {a : Stage × TrialSystem W} (minimum : UInt32) {s : TrialSystem W}
    (h : Moves P a (.rest, s)) (hphase : Active s.trial.phase)
    (hnext : s.trial.nextFrame ≤ s.frameLimit) : Returns P a (s.schedule P minimum).2 := by
  obtain ⟨world, t, ht, hsame⟩ := advance_joined (P := P) s
  have hadvance := h.trans (moves_advance (P := P) (.inl rfl) s)
  unfold TrialSystem.schedule
  generalize s.advanceSecondStream P = r at hsame hadvance
  obtain ⟨error, s1⟩ := r
  change s1 = _ at hsame
  simp only at hadvance ⊢
  have hphase1 : Active s1.trial.phase := by
    rw [hsame]
    exact ht.phase ▸ hphase
  split
  · exact returns_finish hadvance (.inl rfl) (.inr (.inr rfl)) error hphase1
  · have hnext1 : s1.trial.nextFrame ≤ s1.frameLimit := by
      rw [hsame]
      exact ht.nextFrame ▸ hnext
    exact planNext_returns minimum _ (hadvance.tail .takeLead) hphase1 hnext1

/-! ## Collection -/

/-- Replies are dealt with. -/
structure Heard (P : Platform W) (s s' : TrialSystem W) : Prop where
  moves : Moves P (.settling, s) (.settling, s')
  phase : s'.trial.phase = s.trial.phase
  last : lastCollected s'.history.calls = lastCollected s.history.calls

theorem Heard.refl (s : TrialSystem W) : Heard P s s :=
  ⟨.refl, rfl, rfl⟩

theorem Heard.trans {s s' s'' : TrialSystem W} (h : Heard P s s') (h' : Heard P s' s'') :
    Heard P s s'' :=
  ⟨h.moves.trans h'.moves, h'.phase.trans h.phase, h'.last.trans h.last⟩

theorem heard_control (control : AirControlRx) (s : TrialSystem W) :
    Heard P s (s.hearControl P control) := by
  unfold TrialSystem.hearControl
  simp only
  split
  · exact ⟨(((moves_world _ s _).tail (.controlReceived _)).trans (moves_world _ _ _)).tail
      (.control control), rfl, rfl⟩
  · exact ⟨(moves_world _ s _).tail (.control control), rfl, rfl⟩

theorem heard_noteTx (s : TrialSystem W) : Heard P s s.noteTx :=
  ⟨moves_one .noteTx, rfl, rfl⟩

theorem hearSnapshot_heard (phase : RadioTxPhase) (rx : RadioRxSnapshot) (s : TrialSystem W) :
    Heard P s (s.hearSnapshot P phase rx) := by
  unfold TrialSystem.hearSnapshot
  split
  · exact .refl s
  · simp only
    split
    · exact ⟨moves_one (.heard _ _ _ _), rfl, rfl⟩
    · rename_i feedback control frames _
      generalize hs1 : TrialSystem.onTrial _ _ = s1
      have h1 : Heard P s s1 := by
        rw [← hs1]
        exact ⟨(moves_world _ s _).tail (.heard _ _ _ _), rfl, rfl⟩
      split
      · have h2 := h1.trans (heard_control control s1)
        split
        · exact h2.trans (heard_noteTx _)
        · exact h2
      · split
        · exact h1.trans (heard_noteTx s1)
        · exact h1

theorem hear_heard (phase : RadioTxPhase) (rxs : List RadioRxSnapshot) (s : TrialSystem W) :
    Heard P s (rxs.foldl (TrialSystem.hearSnapshot P phase) s) := by
  induction rxs generalizing s with
  | nil => exact .refl s
  | cons rx rxs ih => exact (hearSnapshot_heard phase rx s).trans (ih _)

theorem giveBack_moves (minimum : UInt32) (s : TrialSystem W)
    (h : lastCollected s.history.calls = some (.cancelled, 0)) :
    Moves P (.settling, s) (.rest, s.giveBack P minimum) ∧
      (s.giveBack P minimum).trial.phase = s.trial.phase := by
  have hlead := moves_lead (P := P) .settling s.trial.requestedHs s
  unfold TrialSystem.giveBack
  simp only
  split
  · exact ⟨hlead.tail (.rewind h), rfl⟩
  · let s1 := (s.lead P s.trial.requestedHs).2
    have hworld := hlead.trans (moves_world .settling s1 (P.timerMs s1.world).2)
    exact ⟨hworld.tail (.drop (s := { s1 with world := (P.timerMs s1.world).2 })
      (P.timerMs s1.world).1 h), rfl⟩

theorem settle_moves (minimum : UInt32) (result : RadioTxResult) (s : TrialSystem W)
    (h : lastCollected s.history.calls = some (result.phase, result.txCount)) :
    Moves P (.settling, s) (.rest, s.settle P minimum result) ∧
      (s.settle P minimum result).trial.phase = s.trial.phase := by
  have hordinary : Moves P (.settling, s) (.settling, { s with
      retry := s.retry.autoOrdinaryCompleted (s.audioSent result.phase) }) :=
    moves_one (.ordinary _)
  unfold TrialSystem.settle
  simp only
  have hheard := hear_heard (P := P) result.phase
    (result.rx.toList.take result.rxSnapshots.toNat)
    { s with retry := s.retry.autoOrdinaryCompleted (s.audioSent result.phase) }
  generalize List.foldl _ _ _ = s1 at hheard
  have hlast : lastCollected s1.history.calls = some (result.phase, result.txCount) :=
    hheard.last.trans h
  split
  · rename_i hcancelled
    rw [hcancelled.1, hcancelled.2] at hlast
    obtain ⟨hmoves, hphase⟩ := giveBack_moves (P := P) minimum s1 hlast
    exact ⟨(hordinary.trans hheard.moves).trans hmoves, hphase.trans hheard.phase⟩
  · rename_i hnot
    refine ⟨(hordinary.trans hheard.moves).tail (.settled fun hsome => hnot ?_), hheard.phase⟩
    rw [hlast, Option.some.injEq, Prod.mk.injEq] at hsome
    exact hsome

theorem collectionEnds_phase {t : ToneTrial} {result : RadioTxResult} {phase : TrialPhase}
    {reason : UInt8} (h : TrialSystem.collectionEnds t result = some (phase, reason)) :
    phase = .finished ∨ phase = .cancelled ∨ phase = .failed := by
  unfold TrialSystem.collectionEnds at h
  split at h
  · simp_all
  · split at h
    · split at h <;> simp_all
    · split at h <;> simp_all

theorem collected_returns {a : Stage × TrialSystem W} (minimum : UInt32) (result : RadioTxResult)
    {s : TrialSystem W} (h : Moves P a (.flying, s)) (hb : Bounded a) :
    Returns P a (s.collected P minimum result).2 := by
  have hphase : s.trial.phase = .transmitting := (h.bounded hb).1
  have hmove (ended : Bool) := (h.trans (moves_world _ s (P.timerMs s.world).2)).tail
    (.collected (P.timerMs s.world).1 result ended)
  unfold TrialSystem.collected
  simp only
  cases hends : TrialSystem.collectionEnds _ result with
  | some ends =>
      exact returns_finish (hmove true) (.inr (.inr rfl)) (collectionEnds_phase hends) ends.2
        (.inr hphase)
  | none =>
      simp only
      generalize hs1 : TrialSystem.log _ _ = s1
      have h1 : Moves P a (.settling, s1) := by
        rw [← hs1]
        exact hmove false
      have hlast : lastCollected s1.history.calls = some (result.phase, result.txCount) := by
        rw [← hs1]
        rfl
      have hphase1 : s1.trial.phase = .transmitting := by
        rw [← hs1]
        exact hphase
      obtain ⟨hsettle, hphase2⟩ := settle_moves (P := P) minimum result s1 hlast
      have h2 := (h1.trans hsettle).trans (moves_report _ _)
      have hactive : Active (s1.settle P minimum result).report.trial.phase :=
        .inr (hphase2.trans hphase1)
      exact schedule_returns minimum h2 hactive ((Moves.bounded h2 hb).2 hactive)

/-! ## Steps -/

theorem waitEvent_returns {a : Stage × TrialSystem W} {s : TrialSystem W}
    (h : Moves P a (.flying, s)) (hphase : s.trial.phase = .transmitting) :
    Returns P a (s.waitEvent P) := by
  unfold TrialSystem.waitEvent
  split
  · exact .of_flying h hphase
  · obtain ⟨world, t, ht, hsame⟩ := advance_joined (P := P) s
    have hadvance := h.trans (moves_advance (P := P) (.inr rfl) s)
    generalize s.advanceSecondStream P = r at hsame hadvance
    obtain ⟨error, s1⟩ := r
    change s1 = _ at hsame
    have hphase1 : s1.trial.phase = .transmitting := by
      rw [hsame]
      exact ht.phase.trans hphase
    simp only
    split
    · exact .of_flying (hadvance.trans (moves_giveUp s1 error)) hphase1
    · exact .of_flying hadvance hphase1

theorem stepTransmitting_returns {a : Stage × TrialSystem W} (minimum : UInt32)
    {s : TrialSystem W} (h : Moves P a (.flying, s)) (hb : Bounded a) :
    Returns P a (s.stepTransmitting P minimum).2 := by
  have hphase : s.trial.phase = .transmitting := (h.bounded hb).1
  have hworld := h.trans (moves_world .flying s (P.collect s.world).2)
  unfold TrialSystem.stepTransmitting
  simp only
  split
  · rename_i result _
    let s1 : TrialSystem W := { s with world := (P.collect s.world).2 }
    have hclock := hworld.trans (moves_world .flying s1 (P.timerMs s1.world).2)
    have hlost := hclock.tail (.lost (s := { s1 with world := (P.timerMs s1.world).2 })
      (P.timerMs s1.world).1 result.phase)
    exact .of_rest (hlost.tail (.fault 2)) (fun hf => (nomatch hf))
  · exact waitEvent_returns hworld hphase
  · exact collected_returns minimum _ hworld hb

theorem stepWaiting_returns {a : Stage × TrialSystem W} (minimum : UInt32) {s : TrialSystem W}
    (h : Moves P a (.rest, s)) (hb : Bounded a) (hphase : s.trial.phase = .waitE2) :
    Returns P a (s.stepWaiting P minimum).2 := by
  unfold TrialSystem.stepWaiting
  split
  · exact returns_finish h (.inl rfl) (.inr (.inl rfl)) 0 (.inl hphase)
  · have hconfirm := h.trans (moves_world .rest s (P.sessionConfirmed s.world).2)
    simp only
    split
    · have hlead := hconfirm.trans (moves_lead .rest s.trial.plan.startHs _)
      split
      · exact returns_finish hlead (.inl rfl) (.inr (.inr rfl)) 1 (.inl hphase)
      · refine .of_rest hlead fun htransmitting => ?_
        exact absurd (hphase.symm.trans htransmitting) (by decide)
    · exact schedule_returns minimum (hconfirm.tail .confirm) (.inl hphase)
        ((h.bounded hb).2 (.inl hphase))

theorem restStage_cases (s : TrialSystem W) : restStage s = .rest ∨ restStage s = .flying := by
  unfold restStage
  split
  · exact .inr rfl
  · exact .inl rfl

theorem step_returns {a : Stage × TrialSystem W} {s : TrialSystem W}
    (h : Moves P a (restStage s, s)) (hb : Bounded a) : Returns P a (s.step P).2 := by
  unfold TrialSystem.step
  simp only
  generalize hs1 : ({ s.onRetry P Retry.burstTick with
    world := (P.minLead (s.onRetry P Retry.burstTick).world).2 } : TrialSystem W) = s1
  have htrial : s1.trial = s.trial := by
    rw [← hs1]
    rfl
  have hphase1 : (s.onRetry P Retry.burstTick).trial.phase = s1.trial.phase := by
    rw [← hs1]
  rw [hphase1]
  have h1 : Moves P a (restStage s1, s1) := by
    have hstage : restStage s1 = restStage s := by
      unfold restStage
      rw [htrial]
    rw [hstage, ← hs1]
    exact (((h.trans (moves_world _ s _)).trans
      (moves_aside (restStage_cases s) (.tick _))).trans (moves_world _ _ _))
  have hidle (hne : s1.trial.phase ≠ .transmitting) : Returns P a s1.report := by
    unfold restStage at h1
    rw [if_neg hne] at h1
    exact .of_rest (h1.trans (moves_report _ _)) hne
  cases hphase : s1.trial.phase with
  | waitE2 =>
      unfold restStage at h1
      rw [if_neg (by rw [hphase]; decide)] at h1
      exact stepWaiting_returns _ h1 hb hphase
  | transmitting =>
      unfold restStage at h1
      rw [if_pos hphase] at h1
      exact stepTransmitting_returns _ h1 hb
  | _ => exact hidle (by rw [hphase]; decide)

theorem cancel_returns {a : Stage × TrialSystem W} {s : TrialSystem W}
    (h : Moves P a (restStage s, s)) (hb : Bounded a) : Returns P a (s.cancel P).2 := by
  have hcancel := h.trans (moves_aside (restStage_cases s) (.cancel (P := P)))
  unfold TrialSystem.cancel
  simp only
  split
  · exact step_returns (hcancel.trans (moves_world _ _ _)) hb
  · exact step_returns hcancel hb

/-! ## Start -/

theorem startPrepared_returns {a : Stage × TrialSystem W} {s : TrialSystem W}
    (h : Moves P a (.starting, s)) (hidle : s.trial.phase = .idle) (hkey : s.ccmKey = none)
    (hinvalid : ∀ i, (s.trial.prepared i).valid = false) :
    Returns P a (s.startPrepared P).2 := by
  have hrest {s' : TrialSystem W} (hmoves : Moves P a (.rest, s'))
      (hphase : s'.trial.phase = .idle) : Returns P a s' :=
    .of_rest hmoves (by rw [hphase]; decide)
  have hcrc := h.trans (moves_world .starting s (P.sessionCrcInit s.world).2)
  unfold TrialSystem.startPrepared
  generalize P.sessionCrcInit s.world = r at hcrc
  obtain ⟨crc, world⟩ := r
  cases crc with
  | error status =>
      have habandon := hcrc.tail (.abandon s.trial.prepared hinvalid)
      rw [← hkey] at habandon
      exact hrest habandon hidle
  | ok crc =>
      simp only
      generalize hs1 : TrialSystem.onTrial _ _ = s1
      have h1 : Moves P a (.starting, s1) := by
        rw [← hs1]
        exact hcrc.tail (.crc crc)
      have hidle1 : s1.trial.phase = .idle := by
        rw [← hs1]
        exact hidle
      have hinvalid1 (i : Fin 2) : (s1.trial.prepared i).valid = false := by
        rw [← hs1]
        exact hinvalid i
      have hprepare := h1.tail .prepareFirst
      have hsame := prepareFrame_bounds P 0 s1
      generalize hr : s1.prepareFrame P 0 = r at hprepare hsame
      obtain ⟨ok, s2⟩ := r
      have hidle2 : s2.trial.phase = .idle := hsame.phase.trans hidle1
      cases ok with
      | false =>
          have hinvalid2 (i : Fin 2) : (s2.trial.prepared i).valid = false := by
            by_contra hvalid
            have hbefore := prepareFrame_failed P hr i (by simpa using hvalid)
            rw [hinvalid1 i] at hbefore
            exact (nomatch hbefore)
          exact hrest (hprepare.tail (.abandon s2.trial.prepared hinvalid2)) hidle2
      | true =>
          have hcommit := hprepare.trans
            (moves_world .starting s2 (P.commitSession s2.trial.plan s2.world).2)
          simp only
          split
          · exact hrest (hcommit.tail (.abandon (fun _ => .zero) fun _ => rfl)) hidle2
          · refine .of_rest (((hcommit.trans (moves_world _ _ _)).tail (.commit _)).tail
              .report) (fun hf => (nomatch hf))

theorem start_returns {s : TrialSystem W} (hb : Bounded (restStage s, s)) :
    Returns P (restStage s, s) (s.start P).2 := by
  unfold TrialSystem.start
  split
  · exact .refl
  · rename_i hne
    have hidle : s.trial.phase = .idle := by
      by_contra hnot
      exact hne hnot
    have hstage : restStage s = .rest := if_neg (by rw [hidle]; decide)
    rw [hstage] at hb ⊢
    have hinvalid := (hb.1 hidle).2
    have hrest {s' : TrialSystem W} (hmoves : Moves P (.rest, s) (.rest, s'))
        (hphase : s'.trial.phase = .idle) : Returns P (.rest, s) s' :=
      .of_rest hmoves (by rw [hphase]; decide)
    simp only
    generalize hs1 : TrialSystem.onTrial _ _ = s1
    have h1 : Moves P (.rest, s) (.rest, s1) := by
      rw [← hs1]
      exact moves_one (.begin hidle _)
    have hidle1 : s1.trial.phase = .idle := by
      rw [← hs1]
      exact hidle
    have hkey1 : s1.ccmKey = none := by
      rw [← hs1]
      rfl
    have hinvalid1 (i : Fin 2) : (s1.trial.prepared i).valid = false := by
      rw [← hs1]
      exact hinvalid i
    have hworld (world : W) : Moves P (.rest, s) (.rest, { s1 with world }) :=
      h1.trans (moves_world .rest s1 world)
    have hplan (world : W) (plan : AirSessionPlan) : Moves P (.rest, s)
        (.starting, { s1 with world, trial := { s1.trial with plan } }) :=
      (hworld world).tail (.plan (s := { s1 with world }) hidle1 plan)
    split
    · exact hrest (hworld _) hidle1
    · split
      · exact hrest (hworld _) hidle1
      · split
        · exact hrest (hworld _) hidle1
        · rename_i plan _
          exact startPrepared_returns (hplan _ plan) hidle1 hkey1 hinvalid1

theorem rearm_returns (s : TrialSystem W) : Returns P (restStage s, s) (s.rearm P).2 := by
  have hterminal (hphase : s.trial.phase = .finished ∨ s.trial.phase = .cancelled ∨
      s.trial.phase = .failed) : Returns P (restStage s, s) (s.rearm P).2 := by
    have hne : s.trial.phase ≠ .transmitting := by
      rcases hphase with h | h | h <;> rw [h] <;> decide
    have hstage : restStage s = .rest := if_neg hne
    rw [hstage]
    have hworld := moves_world (P := P) .rest s (P.collect s.world).2
    have hrearm := hworld.tail (.rearm hphase)
    have hcases : (s.rearm P).2 = { s with world := (P.collect s.world).2 } ∨
        (s.rearm P).2 = { s with
          trial := .zero, retry := s.retry.rearm, audioSource := false, continuous := false
          world := (P.collect s.world).2
          history := { s.history with calls := [], finished := false } } := by
      unfold TrialSystem.rearm
      rcases hphase with h | h | h <;> rw [h] <;> simp only <;> split <;> simp
    rcases hcases with h | h <;> rw [h]
    · exact .of_rest hworld hne
    · exact .of_rest hrearm (fun hf => (nomatch hf))
  cases hphase : s.trial.phase with
  | finished => exact hterminal (.inl hphase)
  | cancelled => exact hterminal (.inr (.inl hphase))
  | failed => exact hterminal (.inr (.inr hphase))
  | _ =>
      unfold TrialSystem.rearm
      rw [hphase]
      exact .refl

/-! ## Calls -/

theorem restStage_same {s s' : TrialSystem W} (h : s'.trial.phase = s.trial.phase) :
    restStage s' = restStage s := by
  unfold restStage
  rw [h]

theorem aside_returns {s s' : TrialSystem W} (h : Aside P s s') :
    Returns P (restStage s, s) s' := by
  unfold Returns
  rw [restStage_same h.same.1.phase]
  exact moves_aside (restStage_cases s) h

theorem idle_returns {s s' : TrialSystem W} (hphase : s.trial.phase = .idle)
    (hphase' : s'.trial.phase = .idle) (h : Move P (.rest, s) (.rest, s')) :
    Returns P (restStage s, s) s' := by
  rw [show restStage s = .rest from if_neg (by rw [hphase]; decide)]
  exact .of_rest (moves_one h) (by rw [hphase']; decide)

/-- Every call is a sequence of moves. -/
theorem act_returns (s : TrialSystem W) (action : TrialAction W)
    (hb : Bounded (restStage s, s)) : Returns P (restStage s, s) (s.act P action) := by
  cases action with
  | start => exact start_returns hb
  | step => exact step_returns .refl hb
  | cancel => exact cancel_returns .refl hb
  | status => exact moves_report _ s
  | rearm => exact rearm_returns s
  | setAudioSource on =>
      unfold TrialSystem.act
      simp only
      split
      · rename_i hidle
        exact idle_returns hidle hidle (.setAudioSource on hidle)
      · exact .refl
  | continuous on =>
      unfold TrialSystem.act
      simp only
      split
      · rename_i hidle
        exact idle_returns hidle hidle (.continuous on hidle)
      · exact .refl
  | probeArm => exact aside_returns .probeArm
  | burstArm => exact aside_returns .burstArm
  | cooldownProbeArm => exact aside_returns .cooldownProbeArm
  | autoEnable on => exact aside_returns (.autoEnable on)
  | push frame => exact aside_returns (.push frame)
  | rearmSource paused =>
      unfold TrialSystem.act
      simp only
      split
      · rename_i hidle
        exact idle_returns hidle hidle (.rearmSource paused hidle)
      · exact .refl
  | world world => exact moves_world _ s world

/-- A run of calls from boot is a sequence of moves. -/
theorem run_moves {world : W} {trace : List (TrialAction W)} {s : TrialSystem W}
    (h : Library.Run (TrialSystem.Step P) (.init world) trace s) :
    Moves P (.rest, .init world) (restStage s, s) := by
  refine h.invariant (fun t => Moves P (.rest, .init world) (restStage t, t)) .refl ?_
  intro t action u ht hstep
  rw [← hstep]
  exact ht.trans (act_returns t action (Moves.bounded ht (bounded_init world)))

end UllReceiver.Trial
