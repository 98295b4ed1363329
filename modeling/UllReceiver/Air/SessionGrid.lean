import UllReceiver.Air.TonePacket

/-!
# The grid of a session plan

What `ull_air_session_plan_build` leaves in a plan, and the start of a subevent as numbers.
-/

namespace UllReceiver.Air

/-! ## Plans -/

/-- Half-microseconds from the anchor's tick to the start of the plan. -/
def planFine (anchor : AirAnchor) (offsetUs : UInt32) : UInt32 :=
  anchor.hus.toUInt32 + offsetUs * 2

/-- The plan for a proposal that passes all checks. -/
def planFor (proposal : Vector UInt8 39) (anchor : AirAnchor) (seed : AirSessionSeed)
    (offsetUs : UInt32) : AirSessionPlan where
  startHs := (anchor.hs + (get16 (getElem proposal 37 proposal_instant_low)
    (getElem proposal 38 proposal_instant_high) - anchor.eventCounter).toUInt32 *
    anchor.intervalHs + planFine anchor offsetUs / 625) &&& clockMask
  startHus := (planFine anchor offsetUs % 625).toUInt16
  aclInstant :=
    get16 (getElem proposal 37 proposal_instant_low) (getElem proposal 38 proposal_instant_high)
  eventCounter := seed.eventCounter
  accessAddress := seed.accessAddress
  offsetUs
  e2 := planE2 proposal seed offsetUs
    (get16 (getElem proposal 37 proposal_instant_low) (getElem proposal 38 proposal_instant_high))

/-- The checks of `ull_air_session_plan_build` that no anchor takes part in. -/
structure Plannable (proposal : Vector UInt8 39) (reply : Vector UInt8 9) (seed : AirSessionSeed)
    (offsetUs : UInt32) : Prop where
  parameters : proposal.toList.take 37 =
    if getElem proposal 2 proposal_kind == 2 then e0SecondStream else e0Parameters
  reply : getElem reply 0 reply_kind = 0xe1 ∧ reply.toList.drop 1 = proposal.toList.drop 31
  receive : seed.receiveEnabled ≤ 1
  address : seed.accessAddress ≠ 0
  map : getElem seed.channelMap 4 map_top &&& 0xe0 = 0 ∧ 2 ≤ usedChannels seed.channelMap
  offset : 2000 ≤ offsetUs ∧ offsetUs ≤ 4000
  second : getElem proposal 2 proposal_kind = 2 → seed.receiveEnabled = 0

/-- The checks on an anchor alone. -/
structure AirAnchor.Scheduled (anchor : AirAnchor) : Prop where
  hs : anchor.hs ≤ clockMask
  hus : anchor.hus ≤ 624
  interval : anchor.intervalHs = 96

/-- The instant of a proposal. -/
def proposalInstant (proposal : Vector UInt8 39) : UInt16 :=
  get16 (getElem proposal 37 proposal_instant_low) (getElem proposal 38 proposal_instant_high)

/-- Connection events from an anchor to an instant, by the 16-bit counter. -/
def AirAnchor.ahead (anchor : AirAnchor) (instant : UInt16) : Nat :=
  (instant - anchor.eventCounter).toNat

theorem planBuild_eq_ok (proposal : Vector UInt8 39) (reply : Vector UInt8 9) (anchor : AirAnchor)
    (seed : AirSessionSeed) (offset : UInt32) (plan : AirSessionPlan) :
    planBuild proposal reply anchor seed offset = .ok plan ↔
      Plannable proposal reply seed offset ∧ anchor.Scheduled ∧
        (2 ≤ anchor.ahead (proposalInstant proposal) ∧
          anchor.ahead (proposalInstant proposal) ≤ 32) ∧
        plan = planFor proposal anchor seed offset := by
  unfold planBuild AirAnchor.ahead proposalInstant
  simp only
  generalize hexpected : (if proposal[2] == 2 then e0SecondStream else e0Parameters) = expected
  split
  next hbad =>
    constructor
    · intro h
      cases h
    · rintro ⟨hp, ha, _, _⟩
      rcases hbad with h | h | h | h | h | h | h | h | h | h | h | h
      · exact absurd (hp.parameters.trans hexpected) h
      · exact absurd hp.reply.1 h
      · exact absurd hp.reply.2 h
      · exact absurd ha.hs (UInt32.not_le.mpr h)
      · exact absurd ha.hus (UInt16.not_le.mpr h)
      · exact absurd ha.interval h
      · exact absurd hp.receive (UInt8.not_le.mpr h)
      · exact absurd h hp.address
      · exact absurd hp.map.1 h
      · exact absurd hp.offset.1 (UInt32.not_le.mpr h)
      · exact absurd hp.offset.2 (UInt32.not_le.mpr h)
      · exact absurd (hp.second h.1) h.2
  next hgood =>
    simp only [not_or, not_and, ne_eq, not_not, UInt32.not_lt, UInt16.not_lt, UInt8.not_lt,
      gt_iff_lt] at hgood
    obtain ⟨hparams, he1, hrest, hhs, hhus, hinterval, hreceive, haddress, hmap, hlow, hhigh,
      hsecond⟩ := hgood
    have hscheduled : anchor.Scheduled := ⟨hhs, hhus, hinterval⟩
    by_cases hused : usedChannels seed.channelMap < 2
    · rw [if_pos hused]
      constructor
      · intro h
        cases h
      · rintro ⟨hp, _⟩
        exact absurd hp.map.2 (Nat.not_le.mpr hused)
    · rw [if_neg hused]
      have hplannable : Plannable proposal reply seed offset :=
        ⟨hparams.trans hexpected.symm, ⟨he1, hrest⟩, hreceive, haddress, ⟨hmap, Nat.not_lt.mp hused⟩, ⟨hlow, hhigh⟩,
          hsecond⟩
      split
      next hfar =>
        constructor
        · intro h
          cases h
        · rintro ⟨_, _, hahead, _⟩
          rw [gt_iff_lt, UInt16.lt_iff_toNat_lt, UInt16.lt_iff_toNat_lt] at hfar
          change _ < 2 ∨ 32 < _ at hfar
          omega
      next hnear =>
        rw [gt_iff_lt, not_or, UInt16.not_lt, UInt16.not_lt, UInt16.le_iff_toNat_le,
          UInt16.le_iff_toNat_le] at hnear
        constructor
        · intro h
          exact ⟨hplannable, hscheduled, hnear, (Except.ok.inj h).symm⟩
        · rintro ⟨_, _, _, rfl⟩
          rfl

theorem planBuild_ok {proposal : Vector UInt8 39} {reply : Vector UInt8 9} {anchor : AirAnchor}
    {seed : AirSessionSeed} {offset : UInt32} {plan : AirSessionPlan}
    (h : planBuild proposal reply anchor seed offset = .ok plan) :
    plan = planFor proposal anchor seed offset ∧ getElem reply 0 reply_kind = 0xe1 ∧
      reply.toList.drop 1 = proposal.toList.drop 31 := by
  obtain ⟨hplannable, _, _, hplan⟩ := (planBuild_eq_ok _ _ _ _ _ _).mp h
  exact ⟨hplan, hplannable.reply⟩

theorem planFor_clock (proposal : Vector UInt8 39) (anchor : AirAnchor) (seed : AirSessionSeed)
    (offset : UInt32) : (planFor proposal anchor seed offset).startHs ≤ clockMask ∧
      (planFor proposal anchor seed offset).startHus ≤ 624 := by
  constructor
  · exact UInt32.and_le_right
  · change (planFine anchor offset % 625).toUInt16 ≤ 624
    rw [UInt16.le_iff_toNat_le, UInt32.toNat_toUInt16, UInt32.toNat_mod]
    change _ % 625 % 2 ^ 16 ≤ 624
    omega

section ReadBack

variable (proposal : Vector UInt8 39) (seed : AirSessionSeed) (offset : UInt32) (instant : UInt16)

theorem planE2_key (i : Nat) (hi : i < 16) :
    (planE2 proposal seed offset instant)[52 + i] = seed.key[i] := by
  unfold planE2
  simp only [Vector.getElem_mk, List.getElem_toArray]
  rw [List.getElem_append_right (by simp [le16, le24, le32])]
  simp [le16, le24, le32]

theorem planE2_iv (i : Nat) (hi : i < 8) :
    (planE2 proposal seed offset instant)[44 + i] = seed.iv[i] := by
  unfold planE2
  simp only [Vector.getElem_mk, List.getElem_toArray]
  rw [List.getElem_append_left (by simp [le16, le24, le32]; omega),
    List.getElem_append_right (by simp [le16, le24, le32])]
  simp [le16, le24, le32]

theorem planE2_map (i : Nat) (hi : i < 5) :
    (planE2 proposal seed offset instant)[19 + i] = seed.channelMap[i] := by
  unfold planE2
  simp only [Vector.getElem_mk, List.getElem_toArray]
  -- past the key, the IV and five words
  iterate 7 rw [List.getElem_append_left (by simp [le16, le24, le32]; omega)]
  rw [List.getElem_append_right (by simp [le16, le24, le32])]
  simp [le16, le24, le32]

theorem planE2_receive : (planE2 proposal seed offset instant)[18] = seed.receiveEnabled := by
  unfold planE2
  simp only [Vector.getElem_mk, List.getElem_toArray]
  -- past the key, the IV, five words and the channel map
  iterate 8 rw [List.getElem_append_left (by simp [le16, le24, le32])]
  rw [List.getElem_append_right (by simp [le16, le24, le32])]
  simp [le16, le24, le32]

end ReadBack

theorem planFor_iv (proposal : Vector UInt8 39) (anchor : AirAnchor) (seed : AirSessionSeed)
    (offset : UInt32) : planIv (planFor proposal anchor seed offset) = seed.iv := by
  have he2 : (planFor proposal anchor seed offset).e2 =
      planE2 proposal seed offset (get16 proposal[37] proposal[38]) := rfl
  unfold planIv
  rw [he2]
  ext i hi
  rw [Vector.getElem_ofFn, planE2_iv]

theorem planFor_key (proposal : Vector UInt8 39) (anchor : AirAnchor) (seed : AirSessionSeed)
    (offset : UInt32) : planKey (planFor proposal anchor seed offset) = seed.key := by
  have he2 : (planFor proposal anchor seed offset).e2 =
      planE2 proposal seed offset (get16 proposal[37] proposal[38]) := rfl
  unfold planKey
  rw [he2]
  ext i hi
  rw [Vector.getElem_ofFn, planE2_key]

theorem planFor_map (proposal : Vector UInt8 39) (anchor : AirAnchor) (seed : AirSessionSeed)
    (offset : UInt32) : planMap (planFor proposal anchor seed offset) = seed.channelMap := by
  have he2 : (planFor proposal anchor seed offset).e2 =
      planE2 proposal seed offset (get16 proposal[37] proposal[38]) := rfl
  unfold planMap
  rw [he2]
  ext i hi
  rw [Vector.getElem_ofFn, planE2_map]

/-! ## Times -/

/-- The coarse distance of two times on the 28-bit clock. -/
theorem coarse_sub_toNat (a b : UInt32) :
    ((a - b) &&& clockMask).toNat = (a.toNat + (2 ^ 32 - b.toNat)) % 2 ^ 28 := by
  rw [UInt32.toNat_and, UInt32.toNat_sub]
  change _ &&& (2 ^ 28 - 1) = _
  rw [Nat.and_two_pow_sub_one_eq_mod]
  omega

/-- Half-microseconds from the plan's start tick to a subevent. -/
def fineOffset (plan : AirSessionPlan) (eventIndex : UInt32) (subevent : UInt8) : Nat :=
  plan.startHus.toNat + eventIndex.toNat * 10000 + subevent.toNat * 2840

theorem sessionTime_eq {plan : AirSessionPlan} (hclock : plan.startHs ≤ clockMask)
    (hfine : plan.startHus ≤ 624) (eventIndex : UInt32) (subevent : UInt8) :
    sessionTime plan eventIndex subevent =
      if subevent ≥ airSubevents then none
      else some
        (UInt32.ofNat ((plan.startHs.toNat + fineOffset plan eventIndex subevent / 625) % 2 ^ 28),
          UInt16.ofNat (fineOffset plan eventIndex subevent % 625)) := by
  unfold sessionTime
  have hchecks : (subevent ≥ airSubevents ∨ plan.startHs > clockMask ∨ plan.startHus > 624) ↔
      subevent ≥ airSubevents := by
    constructor
    · rintro (h | h | h)
      · exact h
      · exact absurd hclock (UInt32.not_le.mpr h)
      · exact absurd hfine (UInt16.not_le.mpr h)
    · exact Or.inl
  simp only [hchecks]
  by_cases hsub : subevent ≥ airSubevents
  · rw [if_pos hsub, if_pos hsub]
  · rw [if_neg hsub, if_neg hsub]
    have hevent := eventIndex.toNat_lt
    have hsubevent := subevent.toNat_lt
    have hhs := plan.startHs.toNat_lt
    have hhus := UInt16.le_iff_toNat_le.mp hfine
    change plan.startHus.toNat ≤ 624 at hhus
    have hfineNat : (plan.startHus.toUInt64 + eventIndex.toUInt64 * (airIntervalUs * 2).toUInt64 +
        subevent.toUInt64 * (airSubintervalUs * 2).toUInt64).toNat =
        fineOffset plan eventIndex subevent := by
      simp only [UInt64.toNat_add, UInt64.toNat_mul, UInt16.toNat_toUInt64, UInt32.toNat_toUInt64,
        UInt8.toNat_toUInt64]
      change (((plan.startHus.toNat + eventIndex.toNat * 10000 % 2 ^ 64) % 2 ^ 64 +
        subevent.toNat * 2840 % 2 ^ 64) % 2 ^ 64) = _
      unfold fineOffset
      omega
    have hbound : fineOffset plan eventIndex subevent < 2 ^ 46 := by
      unfold fineOffset
      omega
    congr 2
    · apply UInt32.toNat_inj.mp
      rw [UInt64.toNat_toUInt32, UInt64.toNat_and, UInt64.toNat_add, UInt64.toNat_div, hfineNat,
        UInt32.toNat_toUInt64, UInt32.toNat_ofNat']
      change ((plan.startHs.toNat + fineOffset plan eventIndex subevent / 625) % 2 ^ 64 &&&
        (2 ^ 28 - 1)) % 2 ^ 32 = _
      rw [Nat.and_two_pow_sub_one_eq_mod]
      omega
    · apply UInt16.toNat_inj.mp
      rw [UInt64.toNat_toUInt16, UInt64.toNat_mod, hfineNat, UInt16.toNat_ofNat']
      rfl

/-- The start of a subevent lies on the 28-bit clock. -/
theorem sessionTime_valid {plan : AirSessionPlan} {index : UInt32} {subevent : UInt8} {hs : UInt32}
    {hus : UInt16} (h : sessionTime plan index subevent = some (hs, hus)) :
    hs ≤ clockMask ∧ hus ≤ 624 := by
  unfold sessionTime at h
  split at h
  · exact (nomatch h)
  · simp only [Option.some.injEq, Prod.mk.injEq] at h
    rw [← h.1, ← h.2]
    constructor
    · rw [UInt32.le_iff_toNat_le, UInt64.toNat_toUInt32]
      have hmask := UInt64.le_iff_toNat_le.mp
        (UInt64.and_le_right (a := plan.startHs.toUInt64 + (plan.startHus.toUInt64 +
          index.toUInt64 * (airIntervalUs * 2).toUInt64 +
          subevent.toUInt64 * (airSubintervalUs * 2).toUInt64) / 625) (b := clockMask.toUInt64))
      exact (Nat.mod_le _ _).trans hmask
    · rw [UInt16.le_iff_toNat_le, UInt64.toNat_toUInt16, UInt64.toNat_mod]
      change _ % 625 % 2 ^ 16 ≤ 624
      omega

end UllReceiver.Air
