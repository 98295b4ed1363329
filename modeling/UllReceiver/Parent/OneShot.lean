import UllReceiver.Air.SessionGrid
import UllReceiver.Parent.RawRun

/-!
# One E2 for an exchange

Every E2 committed belongs to the E0 and E1 of its own exchange.  The commit over Air leaves the E1
usable, so a second plan may be prepared and committed with it once the first E2 is confirmed.
-/

namespace UllReceiver.Parent

open Air

/-- The exchange under way at the end of a record. -/
structure Exchange where
  offer : Option Offer
  answer : Option (Vector UInt8 9)
  plan : Option AirSessionPlan

/-- Newest first: an E0 starts an exchange, an E1 answers it, the last plan prepared since counts. -/
def exchange : List RawEvent → Exchange
  | [] => { offer := none, answer := none, plan := none }
  | .cleared :: _ => { offer := none, answer := none, plan := none }
  | .offered o :: _ => { offer := some o, answer := none, plan := none }
  | .answered e1 :: rest => { exchange rest with answer := some e1, plan := none }
  | .prepared plan :: rest => { exchange rest with plan := some plan }
  | .committed _ _ :: rest => exchange rest

/-- An E2 was committed since the last E1. -/
def served : List RawEvent → Bool
  | [] => false
  | .answered _ :: _ => false
  | .committed _ _ :: _ => true
  | _ :: rest => served rest

/-- What a commit of `plan` on the controller `k` may rely on. -/
structure Authorised (older : List RawEvent) (plan : AirSessionPlan) (k : Controller) (o : Offer)
    (e1 : Vector UInt8 9) (anchor : AirAnchor) : Prop where
  offer : (exchange older).offer = some o
  answer : (exchange older).answer = some e1
  /-- The plan is the one prepared last, after that E1. -/
  last : (exchange older).plan = some plan
  /-- The connection of the E0 is still there. -/
  live : k.llcEnv = o.llc ∧ k.lldEnv = o.lld ∧ k.llcEnv ≠ 0 ∧ k.lldEnv ≠ 0
  recent : 0 ≤ k.timeUs - o.sentUs ∧ k.timeUs - o.sentUs < 1000000
  /-- The E1 repeats the parameters and the instant of the E0. -/
  matching : e1[0] = 0xe1 ∧ e1.toList.drop 1 = o.e0.toList.drop 31
  /-- The plan is that of the E0's own anchor, and of the present one. -/
  built : planBuild o.e0 e1 o.anchor (RawLlcp.planSeed plan) plan.offsetUs = .ok plan
  current : RawLlcp.captureAnchor k = some anchor ∧
    planBuild o.e0 e1 anchor (RawLlcp.planSeed plan) plan.offsetUs = .ok plan

/-- A session belongs to the exchange of the record. -/
structure Follows (x : SessionState) (h : List RawEvent) : Prop where
  offered : x.e1Expected = true ∨ x.e1Received = true → ∃ o, (exchange h).offer = some o ∧
    x.sentE0 = o.e0 ∧ x.originAnchor = o.anchor ∧ x.sessionLlc = o.llc ∧ x.sessionLld = o.lld ∧
    x.e0SentUs = o.sentUs
  exclusive : x.e1Received = true → x.e1Expected = false
  answered : x.e1Received = true → (exchange h).answer = some x.receivedE1
  prepared : x.sessionPrepared = true →
    x.e1Received = true ∧ (exchange h).plan = some x.preparedPlan

/-! ## Plans -/

/-- A plan for the current anchor is the plan of both anchors, on the connection of the session. -/
theorem planForCurrentAnchor_some {s : RawLlcp} {k : Controller} {seed : AirSessionSeed}
    {offset : UInt32} {plan : AirSessionPlan}
    (h : s.planForCurrentAnchor k seed offset = some plan) :
    s.sessionConnectionValid k = true ∧
      planBuild s.sentE0 s.receivedE1 s.originAnchor seed offset = .ok plan ∧
      ∃ anchor, RawLlcp.captureAnchor k = some anchor ∧
        planBuild s.sentE0 s.receivedE1 anchor seed offset = .ok plan := by
  unfold RawLlcp.planForCurrentAnchor at h
  split at h
  next hvalid =>
    split at h
    · exact (nomatch h)
    next anchor hanchor =>
      split at h
      next original built horiginal hbuilt =>
        split at h
        next hsame =>
          obtain rfl := Option.some.inj h
          exact ⟨hvalid, hsame ▸ horiginal, anchor, hanchor, hbuilt⟩
        · exact (nomatch h)
      · exact (nomatch h)
  · exact (nomatch h)

theorem sessionConnectionValid_true {s : RawLlcp} {k : Controller}
    (h : s.sessionConnectionValid k = true) : s.e1Received = true ∧
      (k.llcEnv = s.sessionLlc ∧ k.lldEnv = s.sessionLld ∧ k.llcEnv ≠ 0 ∧ k.lldEnv ≠ 0) ∧
      0 ≤ k.timeUs - s.e0SentUs ∧ k.timeUs - s.e0SentUs < 1000000 := by
  unfold RawLlcp.sessionConnectionValid at h
  simp only [Bool.and_eq_true, decide_eq_true_eq, bne_iff_ne, beq_iff_eq] at h
  obtain ⟨⟨⟨⟨⟨⟨⟨hreceived, hllc⟩, hlld⟩, hllcEnv⟩, hlldEnv⟩, hlow⟩, hhigh⟩, _⟩ := h
  exact ⟨hreceived, ⟨hllcEnv, hlldEnv, hllcEnv ▸ hllc, hlldEnv ▸ hlld⟩, hlow, hhigh⟩

/-- A plan that is still current was prepared with an E1 that is still held. -/
theorem preparedPlanCurrent_true {s : RawLlcp} {k : Controller} {plan : AirSessionPlan}
    (h : s.preparedPlanCurrent k plan = true) :
    s.sessionPrepared = true ∧ plan = s.preparedPlan ∧ s.e1Received = true ∧
      s.planForCurrentAnchor k (RawLlcp.planSeed plan) plan.offsetUs = some plan := by
  unfold RawLlcp.preparedPlanCurrent at h
  simp only [Bool.and_eq_true, beq_iff_eq] at h
  obtain ⟨⟨hprepared, hplan⟩, hbuilt⟩ := h
  exact ⟨hprepared, hplan,
    (sessionConnectionValid_true (planForCurrentAnchor_some hbuilt).1).1, hbuilt⟩

/-- A plan that is still current is authorised by the exchange the session follows. -/
theorem Follows.authorised {s : RawLlcp} {h : List RawEvent} (hf : Follows s.session h)
    {k : Controller} {plan : AirSessionPlan} (hcurrent : s.preparedPlanCurrent k plan = true) :
    ∃ o e1 anchor, Authorised h plan k o e1 anchor := by
  obtain ⟨hprepared, hplan, hreceived, hbuilt⟩ := preparedPlanCurrent_true hcurrent
  obtain ⟨hvalid, horigin, anchor, hanchor, hpresent⟩ := planForCurrentAnchor_some hbuilt
  obtain ⟨_, hlive, hlow, hhigh⟩ := sessionConnectionValid_true hvalid
  obtain ⟨o, ho, he0, horiginAnchor, hllc, hlld, hus⟩ := hf.offered (.inr hreceived)
  have hmatching := (planBuild_ok horigin).2
  change s.sentE0 = o.e0 at he0
  change s.originAnchor = o.anchor at horiginAnchor
  change s.sessionLlc = o.llc at hllc
  change s.sessionLld = o.lld at hlld
  change s.e0SentUs = o.sentUs at hus
  rw [he0, horiginAnchor] at horigin
  rw [he0] at hmatching hpresent
  rw [hllc, hlld] at hlive
  rw [hus] at hlow hhigh
  refine ⟨o, s.receivedE1, anchor, ho, hf.answered hreceived, ?_, hlive, ⟨hlow, hhigh⟩, hmatching,
    horigin, hanchor, hpresent⟩
  rw [hplan]
  exact (hf.prepared hprepared).2

theorem Follows.effect {m m' : RawModule} {h ev : List RawEvent} (hf : Follows m.raw.session h)
    (he : Effect m m' ev) : Follows m'.raw.session (ev ++ h) := by
  cases he with
  | aside hsession =>
      rw [hsession]
      exact hf
  | cleared hexpected hreceived hprepared =>
      refine ⟨fun hor => ?_, fun hr => ?_, fun hr => ?_, fun hp => ?_⟩
      · rcases hor with hx | hr
        · exact absurd (hexpected.symm.trans hx) (by decide)
        · exact absurd (hreceived.symm.trans hr) (by decide)
      · exact absurd (hreceived.symm.trans hr) (by decide)
      · exact absurd (hreceived.symm.trans hr) (by decide)
      · exact absurd (hprepared.symm.trans hp) (by decide)
  | offered o hreceived hprepared ho =>
      refine ⟨fun _ => ⟨o, rfl, ho⟩, fun hr => ?_, fun hr => ?_, fun hp => ?_⟩
      · exact absurd (hreceived.symm.trans hr) (by decide)
      · exact absurd (hreceived.symm.trans hr) (by decide)
      · exact absurd (hprepared.symm.trans hp) (by decide)
  | answered hexpected hsession =>
      rw [hsession]
      exact ⟨fun _ => hf.offered (.inl hexpected), fun _ => rfl, fun _ => rfl,
        fun hp => (nomatch hp)⟩
  | prepared k seed offset plan hplan hraw =>
      have hreceived : m.raw.e1Received = true :=
        (sessionConnectionValid_true (planForCurrentAnchor_some hplan).1).1
      have hsession : m'.raw.session = { m.raw.session with
          preparedPlan := plan, sessionPrepared := true } := by
        rw [hraw]
        rfl
      rw [hsession]
      exact ⟨hf.offered, hf.exclusive, hf.answered, fun _ => ⟨hreceived, rfl⟩⟩
  | queued k plan hidle hcurrent hexpected hreceived hprepared =>
      -- E1 was received, so no other is expected
      have hnone : m'.raw.e1Expected = false :=
        hexpected.trans (hf.exclusive (preparedPlanCurrent_true hcurrent).2.2.1)
      refine ⟨fun hor => ?_, fun hr => ?_, fun hr => ?_, fun hp => ?_⟩
      · rcases hor with hx | hr
        · exact absurd (hnone.symm.trans hx) (by decide)
        · exact absurd (hreceived.symm.trans hr) (by decide)
      · exact absurd (hreceived.symm.trans hr) (by decide)
      · exact absurd (hreceived.symm.trans hr) (by decide)
      · exact absurd (hprepared.symm.trans hp) (by decide)
  | aired k plan hactive hfree hcurrent hsession =>
      rw [hsession]
      exact ⟨hf.offered, hf.exclusive, hf.answered, fun hp => (nomatch hp)⟩

theorem follows_init : Follows RawModule.init.raw.session [] :=
  ⟨fun hor => by rcases hor with hf | hf <;> exact (nomatch hf), fun hf => (nomatch hf),
    fun hf => (nomatch hf), fun hf => (nomatch hf)⟩

/-! ## Every commit -/

/-- Every commit of a record was authorised by what came before it. -/
def AllAuthorised (h : List RawEvent) : Prop :=
  ∀ newer older plan k, h = newer ++ .committed plan k :: older →
    ∃ o e1 anchor, Authorised older plan k o e1 anchor

/-- Between any two commits of a record an E1 was received. -/
def Distinct (h : List RawEvent) : Prop :=
  ∀ newer mid older plan2 k2 plan1 k1,
    h = newer ++ .committed plan2 k2 :: (mid ++ .committed plan1 k1 :: older) →
      ∃ e1, .answered e1 ∈ mid

theorem AllAuthorised.cons {e : RawEvent} {h : List RawEvent} (ha : AllAuthorised h)
    (he : ∀ plan k, e = .committed plan k → ∃ o e1 anchor, Authorised h plan k o e1 anchor) :
    AllAuthorised (e :: h) := by
  intro newer older plan k heq
  cases newer with
  | nil =>
      obtain ⟨rfl, rfl⟩ := List.cons.inj heq
      exact he plan k rfl
  | cons _ newer => exact ha newer older plan k (List.cons.inj heq).2

/-- An E1 came after the last commit. -/
theorem answered_of_not_served {mid older : List RawEvent} {plan : AirSessionPlan} {k : Controller}
    (h : served (mid ++ .committed plan k :: older) = false) : ∃ e1, .answered e1 ∈ mid := by
  induction mid with
  | nil => exact (nomatch h)
  | cons e mid ih =>
      cases e with
      | answered e1 => exact ⟨e1, List.mem_cons_self⟩
      | committed plan k => exact (nomatch h)
      | offered o => exact (ih h).imp fun _ hm => List.mem_cons_of_mem _ hm
      | prepared plan => exact (ih h).imp fun _ hm => List.mem_cons_of_mem _ hm
      | cleared => exact (ih h).imp fun _ hm => List.mem_cons_of_mem _ hm

theorem Distinct.cons {e : RawEvent} {h : List RawEvent} (hd : Distinct h)
    (he : ∀ plan k, e = .committed plan k → served h = false) : Distinct (e :: h) := by
  intro newer mid older plan2 k2 plan1 k1 heq
  cases newer with
  | nil =>
      obtain ⟨rfl, rfl⟩ := List.cons.inj heq
      exact answered_of_not_served (he plan2 k2 rfl)
  | cons _ newer => exact hd newer mid older plan2 k2 plan1 k1 (List.cons.inj heq).2

/-- The authorisation of every commit, as it is carried along a run. -/
structure ExchangeInv (s : RawSystem) : Prop where
  follows : Follows s.module.raw.session s.history
  authorised : AllAuthorised s.history

theorem exchangeInv_init : ExchangeInv .init :=
  ⟨follows_init, fun newer older plan k heq => by cases newer <;> exact (nomatch heq)⟩

theorem ExchangeInv.step {rom : PoolRom} {s s' : RawSystem} {a : RawAction} (hi : ExchangeInv s)
    (hs : s.Step rom a s') : ExchangeInv s' := by
  obtain ⟨_, rfl⟩ := hs
  have heffect := @Effect.act rom a s.module
  unfold RawSystem.act
  generalize (s.module.act rom a).1 = m', (s.module.act rom a).2 = ev at heffect ⊢
  refine ⟨hi.follows.effect heffect, ?_⟩
  cases heffect with
  | aside => exact hi.authorised
  | cleared => exact hi.authorised.cons fun _ _ hf => (nomatch hf)
  | offered => exact hi.authorised.cons fun _ _ hf => (nomatch hf)
  | answered => exact hi.authorised.cons fun _ _ hf => (nomatch hf)
  | prepared => exact hi.authorised.cons fun _ _ hf => (nomatch hf)
  | queued k plan hidle hcurrent =>
      apply hi.authorised.cons
      rintro _ _ ⟨⟩
      exact hi.follows.authorised hcurrent
  | aired k plan hactive hfree hcurrent =>
      apply hi.authorised.cons
      rintro _ _ ⟨⟩
      exact hi.follows.authorised hcurrent

/-! ## One commit for an E1 -/

/-- No plan that is still current is committed while an E2 stands confirmed. -/
def RawAction.Guarded (m : RawModule) : RawAction → Prop
  | .commit c plan => m.raw.preparedPlanCurrent c.k plan = true → m.raw.e2Confirmed = false
  | _ => True

instance (m : RawModule) (a : RawAction) : Decidable (a.Guarded m) :=
  match a with
  | .commit c plan => inferInstanceAs
      (Decidable (m.raw.preparedPlanCurrent c.k plan = true → m.raw.e2Confirmed = false))
  | .reset | .send .. | .requestSecond .. | .acknowledged .. | .receiveE1 .. | .receiveAir ..
  | .prepare .. | .prepareSecond .. | .driverFree .. | .parentRetired | .detachedPdu ..
  | .controllerAlloc => inferInstanceAs (Decidable True)

def RawSystem.GuardedStep (rom : PoolRom) (s : RawSystem) (a : RawAction) (s' : RawSystem) : Prop :=
  s.Step rom a s' ∧ a.Guarded s.module

/-- An E1 that served a commit and is still held has its E2 under way or confirmed. -/
structure ServedInv (s : RawSystem) : Prop where
  under : s.module.raw.e1Received = true → served s.history = true → s.module.raw.e2Under = true
  pending : s.module.raw.airParent.pending = true → s.module.raw.airParent.active = true
  distinct : Distinct s.history

theorem act_committed {rom : PoolRom} {a : RawAction} {m : RawModule} {plan : AirSessionPlan}
    {k : Controller} (h : RawEvent.committed plan k ∈ (m.act rom a).2) :
    ∃ c, a = .commit c plan ∧ k = c.k := by
  cases a with
  | commit c plan' =>
      change _ ∈ (if (m.commitSession rom c plan').1 = 0 then [RawEvent.committed plan' c.k]
        else []) at h
      split at h
      · obtain ⟨rfl, rfl⟩ := RawEvent.committed.inj (List.mem_singleton.mp h)
        exact ⟨c, rfl, rfl⟩
      · exact (nomatch h)
  | send c opcode =>
      change _ ∈ (if (m.send rom c opcode).1 = 0 then if opcode = 0xe4 then [RawEvent.cleared]
        else if opcode = 0xe0 then [.offered (.of c false)] else [] else []) at h
      split at h
      · split at h
        · exact absurd (List.mem_singleton.mp h) (by simp)
        · split at h
          · exact absurd (List.mem_singleton.mp h) (by simp)
          · exact (nomatch h)
      · exact (nomatch h)
  | requestSecond c first =>
      change _ ∈ (if (m.requestSecondStream rom c first).1 = 0 then [RawEvent.offered (.of c true)]
        else []) at h
      split at h
      · exact absurd (List.mem_singleton.mp h) (by simp)
      · exact (nomatch h)
  | receiveE1 k' ind =>
      change _ ∈ (if (m.receiveE1 k' ind).1 then
        [RawEvent.answered (m.receiveE1 k' ind).2.raw.receivedE1] else []) at h
      split at h
      · exact absurd (List.mem_singleton.mp h) (by simp)
      · exact (nomatch h)
  | receiveAir k' received sent =>
      change _ ∈ (if m.raw.e1Expected &&
          !(m.raw.receiveAirControl k' received sent).2.1.e1Expected then
        [RawEvent.answered (m.raw.receiveAirControl k' received sent).2.1.receivedE1] else []) at h
      split at h
      · exact absurd (List.mem_singleton.mp h) (by simp)
      · exact (nomatch h)
  | prepare k' seed offset =>
      obtain ⟨plan', _, hplan⟩ := Option.map_eq_some_iff.mp (Option.mem_toList.mp h)
      exact (nomatch hplan)
  | prepareSecond k0 k1 k2 first =>
      obtain ⟨plan', _, hplan⟩ := Option.map_eq_some_iff.mp (Option.mem_toList.mp h)
      exact (nomatch hplan)
  | reset => exact absurd (List.mem_singleton.mp h) (by simp)
  | acknowledged | parentRetired | detachedPdu | driverFree | controllerAlloc => exact (nomatch h)

theorem servedInv_init : ServedInv .init :=
  ⟨fun hf => (nomatch hf), fun hf => (nomatch hf), fun newer mid older _ _ _ _ heq => by
    cases newer <;> exact (nomatch heq)⟩

/-- A commit that goes through has an E1 that did not serve one before. -/
theorem ServedInv.fresh {s : RawSystem} (hi : ServedInv s) {k : Controller} {plan : AirSessionPlan}
    (hcurrent : s.module.raw.preparedPlanCurrent k plan = true)
    (hfree : s.module.raw.airParent.pending = false)
    (hguard : s.module.raw.preparedPlanCurrent k plan = true → s.module.raw.e2Confirmed = false) :
    served s.history = false := by
  cases hserved : served s.history with
  | false => rfl
  | true =>
      have hunder := hi.under (preparedPlanCurrent_true hcurrent).2.2.1 hserved
      rw [RawLlcp.e2Under, hfree, hguard hcurrent] at hunder
      cases hunder

theorem ServedInv.step {rom : PoolRom} {s s' : RawSystem} {a : RawAction} (hi : ServedInv s)
    (hs : s.GuardedStep rom a s') : ServedInv s' := by
  obtain ⟨⟨_, rfl⟩, hguarded⟩ := hs
  have heffect := @Effect.act rom a s.module
  -- the condition of the run, for whatever action has committed a plan
  have hguard {plan : AirSessionPlan} {k : Controller}
      (hmem : RawEvent.committed plan k ∈ (s.module.act rom a).2) :
      s.module.raw.preparedPlanCurrent k plan = true → s.module.raw.e2Confirmed = false := by
    obtain ⟨c, rfl, rfl⟩ := act_committed hmem
    exact hguarded
  unfold RawSystem.act
  generalize (s.module.act rom a).1 = m', (s.module.act rom a).2 = ev at heffect hguard ⊢
  cases heffect with
  | aside hsession hunder hpending =>
      refine ⟨fun hr hserved => hunder (hi.under ?_ hserved), fun hp => ?_, hi.distinct⟩
      · have heq : m'.raw.e1Received = s.module.raw.e1Received :=
          congrArg SessionState.e1Received hsession
        exact heq.symm.trans hr
      · obtain ⟨hwas, hactive⟩ := hpending hp
        exact hactive.trans (hi.pending hwas)
  | cleared hexpected hreceived hprepared hpending =>
      refine ⟨fun hr => absurd (hreceived.symm.trans hr) (by decide), fun hp => ?_,
        hi.distinct.cons fun _ _ hf => (nomatch hf)⟩
      have hair := hpending hp
      change m'.raw.airParent.active = true
      rw [hair] at hp ⊢
      exact hi.pending hp
  | offered o hreceived hprepared ho hair =>
      refine ⟨fun hr => absurd (hreceived.symm.trans hr) (by decide), fun hp => ?_,
        hi.distinct.cons fun _ _ hf => (nomatch hf)⟩
      change m'.raw.airParent.pending = true at hp
      change m'.raw.airParent.active = true
      rw [hair] at hp ⊢
      exact hi.pending hp
  | answered hexpected hsession hpending =>
      refine ⟨fun _ hserved => (nomatch hserved), fun hp => ?_,
        hi.distinct.cons fun _ _ hf => (nomatch hf)⟩
      have hair := hpending hp
      change m'.raw.airParent.active = true
      rw [hair] at hp ⊢
      exact hi.pending hp
  | prepared k seed offset plan hplan hraw =>
      refine ⟨fun hr hserved => ?_, fun hp => ?_, hi.distinct.cons fun _ _ hf => (nomatch hf)⟩
      · change m'.raw.e1Received = true at hr
        change m'.raw.e2Under = true
        rw [hraw] at hr ⊢
        exact hi.under hr hserved
      · change m'.raw.airParent.pending = true at hp
        change m'.raw.airParent.active = true
        rw [hraw] at hp ⊢
        exact hi.pending hp
  | queued k plan hidle hcurrent hexpected hreceived hprepared hair =>
      -- the native path: nothing is pending on the air, and the E1 is consumed
      have hfree : s.module.raw.airParent.pending = false := by
        cases hp : s.module.raw.airParent.pending with
        | false => rfl
        | true => exact absurd (hidle.symm.trans (hi.pending hp)) (by decide)
      refine ⟨fun hr => absurd (hreceived.symm.trans hr) (by decide), fun hp => ?_, ?_⟩
      · change m'.raw.airParent.pending = true at hp
        rw [hair, hfree] at hp
        exact (nomatch hp)
      · apply hi.distinct.cons
        intro _ _ _
        exact hi.fresh hcurrent hfree (hguard List.mem_cons_self)
  | aired k plan hactive hfree hcurrent hsession hpending =>
      -- the air path: the E1 stays, and from now on an E2 is under way for it
      refine ⟨fun _ _ => ?_, fun _ => hpending.2, ?_⟩
      · change m'.raw.e2Under = true
        rw [RawLlcp.e2Under, hpending.1]
        rfl
      · apply hi.distinct.cons
        intro _ _ _
        exact hi.fresh hcurrent hfree (hguard List.mem_cons_self)

/-- Every commit is authorised by its own exchange.  In a run that commits no plan while an E2
stands confirmed, no E1 serves two commits. -/
theorem commits_one_shot (rom : PoolRom) :
    (∀ trace s, Library.Run (RawSystem.Step rom) .init trace s → AllAuthorised s.history) ∧
    ∀ trace s, Library.Run (RawSystem.GuardedStep rom) .init trace s →
      AllAuthorised s.history ∧ Distinct s.history := by
  constructor
  · intro trace s h
    exact (h.invariant ExchangeInv exchangeInv_init fun _ _ _ hi hs => hi.step hs).authorised
  · intro trace s h
    obtain ⟨hx, hserved⟩ := h.invariant_of_invariant ExchangeInv ServedInv exchangeInv_init
      (fun _ _ _ hi hs => hi.step hs.1) servedInv_init fun _ _ _ _ hi hs => hi.step hs
    exact ⟨hx.authorised, hserved.distinct⟩

/-! ## Two streams over one link -/

def streamSeed : AirSessionSeed where
  accessAddress := 0x71764129
  eventCounter := 0
  channelMap := Vector.replicate 5 0x1f
  receiveEnabled := 1
  iv := Vector.replicate 8 0
  key := Vector.replicate 16 0

/-- The plan of the first stream, at event 22. -/
def streamOnePlan : AirSessionPlan where
  startHs := 2120
  startHus := 0
  aclInstant := 22
  eventCounter := 0
  accessAddress := 0x71764129
  offsetUs := 2500
  e2 := planE2 (e0Bytes false 22) streamSeed 2500 22

/-- That of the second, at event 38. -/
def streamTwoPlan : AirSessionPlan where
  startHs := 3656
  startHus := 0
  aclInstant := 38
  eventCounter := 96
  accessAddress := 0x71764129
  offsetUs := 2500
  e2 := planE2 (e0Bytes true 38) { streamSeed with eventCounter := 96, receiveEnabled := 0 } 2500 38

def e1Payload (instant : UInt8) : List UInt8 :=
  [0xe1] ++ e0Parameters.drop 31 ++ [instant, 0]

/-- Both streams are joined, the second one over Air. -/
def joinTrace : List RawAction :=
  [.send (sendAt 0) 0xe4, .driverFree 0 true, .acknowledged 0 0xe4 0,
    .send (sendAt 10) 0xe0, .driverFree 0 true,
    .receiveE1 (linkAt 12) { destination := 0, payload := e1Payload 22, hookReady := true },
    .prepare (linkAt 12) streamSeed 2500, .commit (sendAt 13) streamOnePlan, .driverFree 0 true,
    .acknowledged 0 0xe2 390000, .requestSecond (sendAt 14) streamOnePlan, .driverFree 0 true,
    .receiveAir (linkAt 16)
      { present := 1, header := 7, length := 9
        payload := ⟨(e1Payload 38 ++ List.replicate 51 0).toArray, rfl⟩ }
      { ParentPdu.zero with header := 1 },
    .prepareSecond (linkAt 16) (linkAt 16) (linkAt 16) streamOnePlan, .commit (sendAt 17) streamTwoPlan]

/-- The E2 of the second stream is acknowledged, and its plan prepared and committed again. -/
def againTrace : List RawAction :=
  [.receiveAir (linkAt 18)
      { present := 1, header := 1, length := 0, payload := Vector.replicate 60 0 }
      { header := 15, length := 68, payload := streamTwoPlan.e2 },
    .prepareSecond (linkAt 18) (linkAt 18) (linkAt 18) streamOnePlan, .commit (sendAt 18) streamTwoPlan]

/-- The newest event is a commit whose E1 had served one. -/
def servedTwice : List RawEvent → Bool
  | .committed _ _ :: older => served older
  | _ => false

theorem served_split {h : List RawEvent} (hs : served h = true) :
    ∃ mid plan k older, h = mid ++ .committed plan k :: older ∧ ∀ e1, .answered e1 ∉ mid := by
  induction h with
  | nil => exact (nomatch hs)
  | cons e h ih =>
      have hskip (he : ∀ e1, e ≠ .answered e1) (hs : served h = true) :
          ∃ mid plan k older, e :: h = mid ++ .committed plan k :: older ∧
            ∀ e1, .answered e1 ∉ mid := by
        obtain ⟨mid, plan, k, older, rfl, hmid⟩ := ih hs
        refine ⟨e :: mid, plan, k, older, rfl, fun e1 hmem => ?_⟩
        rcases List.mem_cons.mp hmem with heq | hmem
        · exact he e1 heq.symm
        · exact hmid e1 hmem
      cases e with
      | committed plan k => exact ⟨[], plan, k, h, rfl, fun _ hmem => (nomatch hmem)⟩
      | answered e1 => exact (nomatch hs)
      | offered o => exact hskip (fun _ hf => (nomatch hf)) hs
      | prepared plan => exact hskip (fun _ hf => (nomatch hf)) hs
      | cleared => exact hskip (fun _ hf => (nomatch hf)) hs

theorem not_distinct_of_servedTwice {h : List RawEvent} (hs : servedTwice h = true) :
    ¬Distinct h := by
  intro hd
  cases h with
  | nil => exact (nomatch hs)
  | cons e older =>
      cases e with
      | committed plan2 k2 =>
          obtain ⟨mid, plan1, k1, rest, rfl, hmid⟩ := served_split hs
          obtain ⟨e1, hmem⟩ := hd [] mid rest plan2 k2 plan1 k1 rfl
          exact hmid e1 hmem
      | offered | answered | prepared | cleared => exact (nomatch hs)

theorem guarded_of_decide {s : RawSystem} {a : RawAction}
    (h : (decide (a.Allowed s.module) && decide (a.Guarded s.module)) = true) :
    s.GuardedStep queueRom a (s.act queueRom a) := by
  obtain ⟨hallowed, hguarded⟩ := (Bool.and_eq_true _ _).mp h
  exact ⟨⟨of_decide_eq_true hallowed, rfl⟩, of_decide_eq_true hguarded⟩

theorem joined_run :
    ∃ s, Library.Run (RawSystem.GuardedStep queueRom) .init joinTrace s ∧
      (s.history.countP fun e => e matches .committed ..) = 2 ∧
      ∃ s', Library.Run (RawSystem.Step queueRom) s againTrace s' ∧
        servedTwice s'.history = true := by
  have hsome : ((RawSystem.init.tryRun (fun m a => decide (a.Allowed m) && decide (a.Guarded m))
      joinTrace).any fun s => (s.history.countP fun e => e matches .committed ..) == 2 &&
        (s.tryRun (fun m a => decide (a.Allowed m)) againTrace).any
          fun s' => servedTwice s'.history) = true := by
    decide +kernel
  obtain ⟨s, hs, hfacts⟩ := (Option.any_eq_true _ _).mp hsome
  obtain ⟨hcount, hagain⟩ := (Bool.and_eq_true _ _).mp hfacts
  obtain ⟨s', hs', htwice⟩ := (Option.any_eq_true _ _).mp hagain
  refine ⟨s, RawSystem.tryRun_run (fun t a ha => guarded_of_decide ha) hs, beq_iff_eq.mp hcount, s',
    RawSystem.tryRun_run (fun t a ha => ⟨of_decide_eq_true ha, rfl⟩) hs', htwice⟩

/-- Its first 13 actions end with the second E1; the plan that follows joins 96 frames after the
first one. -/
theorem joined_second :
    ∃ s, Library.Run (RawSystem.Step queueRom) .init (joinTrace.take 13) s ∧
      ∃ m', s.module.prepareSecondStream (linkAt 16) (linkAt 16) (linkAt 16) streamOnePlan =
        (some streamTwoPlan, m') := by
  have hsome : ((RawSystem.init.tryRun (fun m a => decide (a.Allowed m)) (joinTrace.take 13)).any
      fun s => (s.module.prepareSecondStream (linkAt 16) (linkAt 16) (linkAt 16)
        streamOnePlan).1 == some streamTwoPlan) = true := by
    decide +kernel
  obtain ⟨s, hs, hprepared⟩ := (Option.any_eq_true _ _).mp hsome
  exact ⟨s, RawSystem.tryRun_run (fun t a ha => ⟨of_decide_eq_true ha, rfl⟩) hs, _,
    Prod.ext (beq_iff_eq.mp hprepared) rfl⟩

/-- Two streams are committed, each with an E1 of its own. -/
theorem commits_one_shot_joined :
    ∃ s, Library.Run (RawSystem.GuardedStep queueRom) .init joinTrace s ∧
      (s.history.countP fun e => e matches .committed ..) = 2 ∧
      AllAuthorised s.history ∧ Distinct s.history := by
  obtain ⟨s, hrun, hcount, _⟩ := joined_run
  exact ⟨s, hrun, hcount, (commits_one_shot queueRom).2 joinTrace s hrun⟩

/-- The E1 of the second stream serves two commits. -/
theorem air_e1_served_twice :
    ∃ s, Library.Run (RawSystem.Step queueRom) .init (joinTrace ++ againTrace) s ∧
      ¬Distinct s.history := by
  obtain ⟨s, hrun, _, s', hagain, htwice⟩ := joined_run
  have hjoined : Library.Run (RawSystem.Step queueRom) .init joinTrace s :=
    hrun.mono fun _ _ _ hs => hs.1
  exact ⟨s', hjoined.append hagain, not_distinct_of_servedTwice htwice⟩

end UllReceiver.Parent
