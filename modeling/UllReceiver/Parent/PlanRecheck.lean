import UllReceiver.Air.PlanBinding
import UllReceiver.Parent.OneShot

/-!
# Rechecking a prepared plan

`plan_for_current_anchor` and `prepared_plan_current`: what they accept on the connection a plan was
made for, and the seed they read back from its E2.
-/

namespace UllReceiver.Parent

open Air

/-- The instant of the E0 that was sent. -/
def RawLlcp.instant (s : RawLlcp) : UInt16 :=
  proposalInstant s.sentE0

/-! ## A plan that stands prepared -/

/-- The anchor of `linkAt n`. -/
def anchorAt (n : UInt16) : AirAnchor where
  hs := 96 * n.toUInt32
  intervalHs := 96
  hus := 0
  eventCounter := n

theorem anchorAt_events : (anchorAt 10).Events 3 (anchorAt 13) :=
  ⟨by decide, rfl, rfl, by decide⟩

/-- The link of `linkAt n` with its events one coarse tick later. -/
def slippedAt (n : UInt16) : Controller :=
  { linkAt n with lld := fun lld => { (linkAt n).lld lld with
      arbitrationHs := 96 * n.toUInt32 + 1, anchorHs := 96 * n.toUInt32 + 1 } }

/-- The plan of the first stream has been built for the E0 of event 10 and stands prepared. -/
structure JoinPrepared (s : RawLlcp) : Prop where
  built : planBuild s.sentE0 s.receivedE1 s.originAnchor streamSeed 2500 = .ok streamOnePlan
  sentE0 : s.sentE0 = e0Bytes false 22
  originAnchor : s.originAnchor = anchorAt 10
  valid : s.sessionConnectionValid (linkAt 13) = true
  slipped : s.sessionConnectionValid (slippedAt 13) = true
  prepared : s.sessionPrepared = true

/-- The instant is twelve events after that of the E0. -/
theorem JoinPrepared.ahead {s : RawLlcp} (h : JoinPrepared s) :
    s.originAnchor.ahead s.instant = 12 := by
  unfold RawLlcp.instant
  rw [h.originAnchor, h.sentE0]
  decide

theorem JoinPrepared.events {s : RawLlcp} (h : JoinPrepared s) :
    s.originAnchor.Events 3 (anchorAt 13) :=
  h.originAnchor ▸ anchorAt_events

theorem joined_prepared :
    ∃ s, Library.Run (RawSystem.Step queueRom) .init (joinTrace.take 7) s ∧
      JoinPrepared s.module.raw := by
  have hsome : ((RawSystem.init.tryRun (fun m a => decide (a.Allowed m)) (joinTrace.take 7)).any
      fun s => let r := s.module.raw
        (planBuild r.sentE0 r.receivedE1 r.originAnchor streamSeed 2500).toOption ==
            some streamOnePlan && r.sentE0 == e0Bytes false 22 &&
          decide (r.originAnchor = anchorAt 10) && r.sessionConnectionValid (linkAt 13) &&
          r.sessionConnectionValid (slippedAt 13) && r.sessionPrepared) = true := by
    decide +kernel
  obtain ⟨s, hs, hfacts⟩ := (Option.any_eq_true _ _).mp hsome
  simp only [Bool.and_eq_true, beq_iff_eq, decide_eq_true_eq] at hfacts
  obtain ⟨⟨⟨⟨⟨hbuilt, hsent⟩, horigin⟩, hvalid⟩, hslipped⟩, hprepared⟩ := hfacts
  refine ⟨s, RawSystem.tryRun_run (fun t a ha => ⟨of_decide_eq_true ha, rfl⟩) hs, ?_, hsent,
    horigin, hvalid, hslipped, hprepared⟩
  cases hresult : planBuild s.module.raw.sentE0 s.module.raw.receivedE1 s.module.raw.originAnchor
      streamSeed 2500 with
  | ok plan =>
    rw [hresult] at hbuilt
    rw [Option.some.inj hbuilt]
  | error =>
    rw [hresult] at hbuilt
    cases hbuilt

/-! ## The current anchor -/

/-- The instant is 2 to 32 events ahead of the anchor. -/
def RawLlcp.Near (s : RawLlcp) (current : AirAnchor) : Prop :=
  2 ≤ current.ahead s.instant ∧ current.ahead s.instant ≤ 32

theorem captureAnchor_scheduled {k : Controller} {anchor : AirAnchor}
    (h : RawLlcp.captureAnchor k = some anchor) : anchor.Scheduled := by
  unfold RawLlcp.captureAnchor at h
  simp only at h
  split at h
  · exact (nomatch h)
  next hfields =>
    split at h
    · exact (nomatch h)
    next hclock =>
      simp only [not_or, not_not, ne_eq, gt_iff_lt, UInt32.not_lt] at hfields hclock
      obtain rfl := Option.some.inj h
      refine ⟨hclock.1, ?_, hclock.2⟩
      have hhus := UInt32.le_iff_toNat_le.mp hfields.2.2.2.1
      change _ ≤ 624 at hhus
      rw [UInt16.le_iff_toNat_le, UInt32.toNat_toUInt16]
      change _ % 2 ^ 16 ≤ 624
      omega

section Current

variable {s : RawLlcp} {k : Controller} {seed : AirSessionSeed} {offset : UInt32}
  {plan : AirSessionPlan} {current : AirAnchor}

/-- On the connection of an E0 whose plan can be built, the plan for the current anchor is that plan
or none. -/
theorem planForCurrentAnchor_eq (hvalid : s.sessionConnectionValid k = true)
    (hcurrent : RawLlcp.captureAnchor k = some current)
    (hbuilt : planBuild s.sentE0 s.receivedE1 s.originAnchor seed offset = .ok plan)
    (other : AirSessionPlan) :
    s.planForCurrentAnchor k seed offset = some other ↔
      other = plan ∧ s.Near current ∧ OnTimeline s.instant s.originAnchor current := by
  have hscheduled := captureAnchor_scheduled hcurrent
  obtain ⟨hplannable, horigin, _, hplan⟩ := (planBuild_eq_ok _ _ _ _ _ _).mp hbuilt
  have hsame : planFor s.sentE0 s.originAnchor seed offset = planFor s.sentE0 current seed offset ↔
      OnTimeline s.instant s.originAnchor current :=
    planFor_same horigin hscheduled hplannable.offset.2
  constructor
  · intro h
    obtain ⟨_, hfirst, anchor, hanchor, hagain⟩ := planForCurrentAnchor_some h
    obtain rfl := Option.some.inj (hanchor.symm.trans hcurrent)
    have hother : other = plan := Except.ok.inj (hfirst.symm.trans hbuilt)
    obtain ⟨_, _, hnear, hnow⟩ := (planBuild_eq_ok _ _ _ _ _ _).mp hagain
    refine ⟨hother, hnear, hsame.mp ?_⟩
    rw [← hplan, ← hnow, hother]
  · rintro ⟨rfl, hnear, htimeline⟩
    have hagain : planBuild s.sentE0 s.receivedE1 current seed offset = .ok other := by
      rw [planBuild_eq_ok]
      exact ⟨hplannable, hscheduled, hnear, hplan.trans (hsame.mpr htimeline)⟩
    unfold RawLlcp.planForCurrentAnchor
    rw [if_pos hvalid, hcurrent]
    simp only [hbuilt, hagain, if_true]

end Current

/-- Two anchors give the same plan exactly when the second lies where the first puts its event; the
current anchor is held to that of the E0. -/
theorem plan_bound_to_timeline :
    (∀ (proposal : Vector UInt8 39) (reply : Vector UInt8 9) (seed : AirSessionSeed)
      (offset : UInt32) (a b : AirAnchor) (p q : AirSessionPlan),
      planBuild proposal reply a seed offset = .ok p →
      planBuild proposal reply b seed offset = .ok q →
      (samePlan p q = true ↔ b.hus = a.hus ∧
        (b.hs.toNat : Int) = (a.hs.toNat + 96 * ((a.ahead (proposalInstant proposal) : Int) -
          b.ahead (proposalInstant proposal))) % 2 ^ 28)) ∧
    ∀ (s : RawLlcp) (k : Controller) (seed : AirSessionSeed) (offset : UInt32)
      (plan : AirSessionPlan) (current : AirAnchor),
      planBuild s.sentE0 s.receivedE1 s.originAnchor seed offset = .ok plan →
      s.sessionConnectionValid k = true → RawLlcp.captureAnchor k = some current →
      (∀ n : Int, s.originAnchor.Events n current →
        2 ≤ (s.originAnchor.ahead s.instant : Int) - n →
        (s.originAnchor.ahead s.instant : Int) - n ≤ 32 →
        s.planForCurrentAnchor k seed offset = some plan) ∧
      (current.hus ≠ s.originAnchor.hus ∨
        (current.hs.toNat : Int) ≠ (s.originAnchor.hs.toNat +
          96 * ((s.originAnchor.ahead s.instant : Int) - current.ahead s.instant)) % 2 ^ 28 →
        s.planForCurrentAnchor k seed offset = none) := by
  constructor
  · intro proposal reply seed offset a b p q hp hq
    obtain ⟨hplannable, ha, _, rfl⟩ := (planBuild_eq_ok _ _ _ _ _ _).mp hp
    obtain ⟨_, hb, _, rfl⟩ := (planBuild_eq_ok _ _ _ _ _ _).mp hq
    rw [samePlan_iff]
    exact planFor_same ha hb hplannable.offset.2
  · intro s k seed offset plan current hbuilt hvalid hcurrent
    have heq := planForCurrentAnchor_eq hvalid hcurrent hbuilt
    constructor
    · -- `n` events later the instant is that much nearer, on the same grid
      intro n hevents hlow hhigh
      have hahead := hevents.ahead s.instant (by omega) (by omega)
      refine (heq plan).mpr ⟨rfl, ?_, hevents.onTimeline _ (by omega) (by omega)⟩
      unfold RawLlcp.Near
      omega
    · -- any plan that passed would have its anchor on the grid
      intro hshifted
      rw [Option.eq_none_iff_forall_ne_some]
      intro other hother
      obtain ⟨_, _, hphase, hcoarse⟩ := (heq other).mp hother
      rcases hshifted with h | h
      · exact h hphase
      · exact h hcoarse

/-- The plan made at event 10 holds at event 13, unless the link has slipped by a tick. -/
theorem plan_bound_to_timeline_joined :
    ∃ s, Library.Run (RawSystem.Step queueRom) .init (joinTrace.take 7) s ∧
      s.module.raw.planForCurrentAnchor (linkAt 13) streamSeed 2500 = some streamOnePlan ∧
      s.module.raw.planForCurrentAnchor (slippedAt 13) streamSeed 2500 = none := by
  obtain ⟨s, hrun, hs⟩ := joined_prepared
  have hahead := hs.ahead
  have hbound := plan_bound_to_timeline.2 s.module.raw
  have hsame := (hbound (linkAt 13) streamSeed 2500 streamOnePlan (anchorAt 13) hs.built hs.valid
    (by decide)).1
  -- a coarse tick late is off the grid of the E0's anchor
  have hslipped := (hbound (slippedAt 13) streamSeed 2500 streamOnePlan
    { anchorAt 13 with hs := 96 * 13 + 1 } hs.built hs.slipped (by decide)).2
  refine ⟨s, hrun, hsame 3 hs.events (by omega) (by omega), hslipped (.inr ?_)⟩
  unfold RawLlcp.instant
  rw [hs.originAnchor, hs.sentE0]
  decide

/-! ## The seed of a plan -/

theorem planSeed_planFor (proposal : Vector UInt8 39) (anchor : AirAnchor) (seed : AirSessionSeed)
    (offset : UInt32) : RawLlcp.planSeed (planFor proposal anchor seed offset) = seed := by
  have hreceive : (planFor proposal anchor seed offset).e2[18] = seed.receiveEnabled :=
    planE2_receive proposal seed offset _
  have hmap := planFor_map proposal anchor seed offset
  have hiv := planFor_iv proposal anchor seed offset
  have hkey := planFor_key proposal anchor seed offset
  unfold planMap at hmap
  unfold planIv at hiv
  unfold planKey at hkey
  unfold RawLlcp.planSeed
  rw [hreceive, hmap, hiv, hkey]
  rfl

theorem planBuild_planSeed {proposal : Vector UInt8 39} {reply : Vector UInt8 9}
    {anchor : AirAnchor} {seed : AirSessionSeed} {offset : UInt32} {plan : AirSessionPlan}
    (h : planBuild proposal reply anchor seed offset = .ok plan) :
    RawLlcp.planSeed plan = seed ∧ plan.offsetUs = offset := by
  obtain ⟨rfl, _⟩ := planBuild_ok h
  exact ⟨planSeed_planFor proposal anchor seed offset, rfl⟩

/-! ## Prepared plans -/

/-- A plan that stands prepared is one of the exchange held, for the anchor of its E0. -/
def SessionState.PlanHeld (x : SessionState) : Prop :=
  x.sessionPrepared = true → ∃ seed offset,
    planBuild x.sentE0 x.receivedE1 x.originAnchor seed offset = .ok x.preparedPlan

theorem planHeld_effect {m m' : RawModule} {ev : List RawEvent} (h : m.raw.session.PlanHeld)
    (he : Effect m m' ev) : m'.raw.session.PlanHeld := by
  cases he with
  | aside hsession => exact hsession ▸ h
  | cleared _ _ hprepared => exact fun hp => absurd (hprepared.symm.trans hp) (by decide)
  | offered _ _ hprepared => exact fun hp => absurd (hprepared.symm.trans hp) (by decide)
  | answered _ hsession => exact hsession ▸ fun hp => nomatch hp
  | prepared k seed offset plan hplan hraw =>
      rw [hraw]
      exact fun _ => ⟨seed, offset, (planForCurrentAnchor_some hplan).2.1⟩
  | queued _ _ _ _ _ _ hprepared => exact fun hp => absurd (hprepared.symm.trans hp) (by decide)
  | aired _ _ _ _ _ hsession => exact hsession ▸ fun hp => nomatch hp

theorem planHeld_run {rom : PoolRom} {trace : List RawAction} {s : RawSystem}
    (h : Library.Run (RawSystem.Step rom) .init trace s) : s.module.raw.session.PlanHeld := by
  refine h.invariant (fun s => s.module.raw.session.PlanHeld) (fun hp => nomatch hp)
    fun t a u ht hs => ?_
  obtain ⟨_, rfl⟩ := hs
  exact planHeld_effect ht (.act a t.module)

/-- The recheck of a plan that stands prepared. -/
theorem preparedPlanCurrent_iff {s : RawLlcp} (hheld : s.session.PlanHeld)
    (hprepared : s.sessionPrepared = true) {k : Controller} {current : AirAnchor}
    (hvalid : s.sessionConnectionValid k = true)
    (hcurrent : RawLlcp.captureAnchor k = some current) :
    s.preparedPlanCurrent k s.preparedPlan = true ↔
      s.Near current ∧ OnTimeline s.instant s.originAnchor current := by
  obtain ⟨seed, offset, hbuilt⟩ := hheld hprepared
  obtain ⟨hseed, hoffset⟩ := planBuild_planSeed hbuilt
  change RawLlcp.planSeed s.preparedPlan = seed at hseed
  change s.preparedPlan.offsetUs = offset at hoffset
  unfold RawLlcp.preparedPlanCurrent
  rw [hseed, hoffset, hprepared]
  simp only [Bool.true_and, BEq.rfl, beq_iff_eq]
  rw [planForCurrentAnchor_eq hvalid hcurrent hbuilt]
  exact and_iff_right rfl

theorem prepareSession_prepared {s s' : RawLlcp} {k : Controller} {seed : AirSessionSeed}
    {offset : UInt32} {plan : AirSessionPlan}
    (h : s.prepareSession k seed offset = (some plan, s')) :
    s'.sessionPrepared = true ∧ s'.preparedPlan = plan ∧ RawLlcp.planSeed plan = seed ∧
      plan.offsetUs = offset := by
  unfold RawLlcp.prepareSession at h
  split at h
  next candidate hcandidate =>
    obtain ⟨hplan, rfl⟩ := Prod.mk.inj h
    obtain rfl := Option.some.inj hplan
    exact ⟨rfl, rfl, planBuild_planSeed (planForCurrentAnchor_some hcandidate).2.1⟩
  · exact (nomatch h)

/-- The second stream has the first one's address, channel map, IV and key, and no microphone. -/
theorem prepareSecondStream_prepared {m m' : RawModule} {k0 k1 k2 : Controller}
    {first second : AirSessionPlan}
    (h : m.prepareSecondStream k0 k1 k2 first = (some second, m')) :
    m'.raw.sessionPrepared = true ∧ m'.raw.preparedPlan = second ∧
      RawLlcp.planSeed second = { RawLlcp.planSeed first with
        eventCounter := second.eventCounter, receiveEnabled := 0 } ∧
      second.offsetUs = first.offsetUs := by
  unfold RawModule.prepareSecondStream at h
  split at h
  · exact (nomatch h)
  · split at h
    · exact (nomatch h)
    · split at h
      · exact (nomatch h)
      next candidate hcandidate =>
        simp only at h
        split at h
        · split at h
          · exact (nomatch h)
          next plan hplan =>
            obtain ⟨hsecond, rfl⟩ := Prod.mk.inj h
            obtain rfl := Option.some.inj hsecond
            obtain ⟨hseed, hoffset⟩ := planBuild_planSeed (planForCurrentAnchor_some hplan).2.1
            have hcounter : plan.eventCounter = (RawLlcp.planSeed plan).eventCounter := rfl
            refine ⟨rfl, rfl, ?_, hoffset⟩
            rw [hcounter, hseed]
            rfl
        · exact (nomatch h)

/-- The seed read back from a plan is the one it was built from, and gives the plan again at every
anchor of the connection that is early enough; so a plan prepared in any run passes the recheck of
its commit as long as its instant is two events away. -/
theorem e2_gives_back_seed (rom : PoolRom) :
    (∀ (proposal : Vector UInt8 39) (reply : Vector UInt8 9) (anchor : AirAnchor)
      (seed : AirSessionSeed) (offset : UInt32) (plan : AirSessionPlan),
      planBuild proposal reply anchor seed offset = .ok plan →
      RawLlcp.planSeed plan = seed ∧ plan.offsetUs = offset ∧
        ∀ (n : Int) (current : AirAnchor), anchor.Events n current →
          2 ≤ (anchor.ahead (proposalInstant proposal) : Int) - n →
          (anchor.ahead (proposalInstant proposal) : Int) - n ≤ 32 →
          planBuild proposal reply current (RawLlcp.planSeed plan) plan.offsetUs = .ok plan) ∧
    (∀ (s s' : RawLlcp) (k : Controller) (seed : AirSessionSeed) (offset : UInt32)
      (plan : AirSessionPlan), s.prepareSession k seed offset = (some plan, s') →
      s'.sessionPrepared = true ∧ s'.preparedPlan = plan ∧ RawLlcp.planSeed plan = seed ∧
        plan.offsetUs = offset) ∧
    (∀ (m m' : RawModule) (k0 k1 k2 : Controller) (first second : AirSessionPlan),
      m.prepareSecondStream k0 k1 k2 first = (some second, m') →
      m'.raw.sessionPrepared = true ∧ m'.raw.preparedPlan = second ∧
        RawLlcp.planSeed second = { RawLlcp.planSeed first with
          eventCounter := second.eventCounter, receiveEnabled := 0 } ∧
        second.offsetUs = first.offsetUs) ∧
    ∀ (trace : List RawAction) (s : RawSystem), Library.Run (RawSystem.Step rom) .init trace s →
      s.module.raw.sessionPrepared = true →
      ∀ (k : Controller) (current : AirAnchor), s.module.raw.sessionConnectionValid k = true →
        RawLlcp.captureAnchor k = some current →
        (s.module.raw.preparedPlanCurrent k s.module.raw.preparedPlan = true ↔
          s.module.raw.Near current ∧
            OnTimeline s.module.raw.instant s.module.raw.originAnchor current) ∧
        ∀ n : Int, s.module.raw.originAnchor.Events n current →
          2 ≤ (s.module.raw.originAnchor.ahead s.module.raw.instant : Int) - n →
          (s.module.raw.originAnchor.ahead s.module.raw.instant : Int) - n ≤ 32 →
          s.module.raw.preparedPlanCurrent k s.module.raw.preparedPlan = true := by
  refine ⟨fun proposal reply anchor seed offset plan h => ?_,
    fun _ _ _ _ _ _ h => prepareSession_prepared h,
    fun _ _ _ _ _ _ _ h => prepareSecondStream_prepared h,
    fun trace s hrun hprepared k current hvalid hcurrent => ?_⟩
  · obtain ⟨hseed, hoffset⟩ := planBuild_planSeed h
    refine ⟨hseed, hoffset, fun n current hevents hlow hhigh => ?_⟩
    obtain ⟨hplannable, hanchor, _, hplan⟩ := (planBuild_eq_ok _ _ _ _ _ _).mp h
    have hahead := hevents.ahead (proposalInstant proposal) (by omega) (by omega)
    have hscheduled := hevents.scheduled hanchor
    -- built again from its own seed at the later anchor
    rw [hseed, hoffset, planBuild_eq_ok]
    refine ⟨hplannable, hscheduled, by omega, ?_⟩
    rw [hplan, planFor_same hanchor hscheduled hplannable.offset.2]
    exact hevents.onTimeline _ (by omega) (by omega)
  · have hiff := preparedPlanCurrent_iff (planHeld_run hrun) hprepared hvalid hcurrent
    refine ⟨hiff, fun n hevents hlow hhigh => ?_⟩
    have hahead := hevents.ahead s.module.raw.instant (by omega) (by omega)
    refine hiff.mpr ⟨?_, hevents.onTimeline _ (by omega) (by omega)⟩
    unfold RawLlcp.Near
    omega

/-- The first stream's plan, prepared at event 12, passes its recheck at event 13; the second one's
differs from it in the counter and the microphone alone. -/
theorem e2_gives_back_seed_joined :
    (∃ s, Library.Run (RawSystem.Step queueRom) .init (joinTrace.take 7) s ∧
      s.module.raw.preparedPlanCurrent (linkAt 13) s.module.raw.preparedPlan = true) ∧
    RawLlcp.planSeed streamOnePlan = streamSeed ∧
    RawLlcp.planSeed streamTwoPlan =
      { streamSeed with eventCounter := 96, receiveEnabled := 0 } := by
  obtain ⟨hback, -, hsecond, hrecheck⟩ := e2_gives_back_seed queueRom
  obtain ⟨s, hrun, hs⟩ := joined_prepared
  obtain ⟨t, -, m', hprepared⟩ := joined_second
  have hahead := hs.ahead
  have hseed := (hback _ _ _ _ _ _ hs.built).1
  have hcurrent := (hrecheck _ s hrun hs.prepared (linkAt 13) (anchorAt 13) hs.valid (by decide)).2
  refine ⟨⟨s, hrun, hcurrent 3 hs.events (by omega) (by omega)⟩, hseed, ?_⟩
  rw [(hsecond _ _ _ _ _ _ _ hprepared).2.2.1, hseed]
  rfl

end UllReceiver.Parent
