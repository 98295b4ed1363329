import Mathlib
import UllReceiver.Air.SessionGrid

/-!
# Plans of one connection

Which anchors give the plan of a proposal, and when two of them give the same one: the start of a
plan depends on its anchor only through the fine phase and the coarse time the instant falls on.
-/

namespace UllReceiver.Air

/-! ## The start of a plan -/

section Start

variable {proposal : Vector UInt8 39} {anchor : AirAnchor} {seed : AirSessionSeed} {offset : UInt32}

/-- Coarse time of the instant by an anchor, off the clock. -/
def AirAnchor.instantHs (anchor : AirAnchor) (instant : UInt16) : Nat :=
  anchor.hs.toNat + 96 * anchor.ahead instant

theorem planFine_toNat (hanchor : anchor.Scheduled) (hoffset : offset ≤ 4000) :
    (planFine anchor offset).toNat = anchor.hus.toNat + 2 * offset.toNat := by
  have hhus := UInt16.le_iff_toNat_le.mp hanchor.hus
  have hle := UInt32.le_iff_toNat_le.mp hoffset
  change anchor.hus.toNat ≤ 624 at hhus
  change offset.toNat ≤ 4000 at hle
  unfold planFine
  rw [UInt32.toNat_add, UInt32.toNat_mul, UInt16.toNat_toUInt32]
  change (_ + offset.toNat * 2 % 2 ^ 32) % 2 ^ 32 = _
  omega

theorem planFor_startHs (hanchor : anchor.Scheduled) (hoffset : offset ≤ 4000) :
    (planFor proposal anchor seed offset).startHs.toNat =
      (anchor.instantHs (proposalInstant proposal) +
        (anchor.hus.toNat + 2 * offset.toNat) / 625) % 2 ^ 28 := by
  have hhs := UInt32.le_iff_toNat_le.mp hanchor.hs
  change anchor.hs.toNat ≤ 2 ^ 28 - 1 at hhs
  have hfine := planFine_toNat hanchor hoffset
  have hhus := UInt16.le_iff_toNat_le.mp hanchor.hus
  change anchor.hus.toNat ≤ 624 at hhus
  have hle := UInt32.le_iff_toNat_le.mp hoffset
  change offset.toNat ≤ 4000 at hle
  have hahead : anchor.ahead (proposalInstant proposal) < 2 ^ 16 := UInt16.toNat_lt _
  unfold AirAnchor.instantHs
  change ((anchor.hs + (proposalInstant proposal - anchor.eventCounter).toUInt32 *
    anchor.intervalHs + planFine anchor offset / 625) &&& clockMask).toNat = _
  rw [hanchor.interval, UInt32.toNat_and, UInt32.toNat_add, UInt32.toNat_add, UInt32.toNat_mul,
    UInt32.toNat_div, hfine, UInt16.toNat_toUInt32]
  change ((anchor.hs.toNat + anchor.ahead (proposalInstant proposal) * 96 % 2 ^ 32) % 2 ^ 32 +
    (anchor.hus.toNat + 2 * offset.toNat) / 625) % 2 ^ 32 &&& (2 ^ 28 - 1) = _
  rw [Nat.and_two_pow_sub_one_eq_mod]
  omega

theorem planFor_startHus (hanchor : anchor.Scheduled) (hoffset : offset ≤ 4000) :
    (planFor proposal anchor seed offset).startHus.toNat =
      (anchor.hus.toNat + 2 * offset.toNat) % 625 := by
  change (planFine anchor offset % 625).toUInt16.toNat = _
  rw [UInt32.toNat_toUInt16, UInt32.toNat_mod, planFine_toNat hanchor hoffset]
  change _ % 625 % 2 ^ 16 = _
  omega

end Start

/-! ## Two anchors -/

/-- `same_plan`. -/
def samePlan (a b : AirSessionPlan) : Bool :=
  a.startHs == b.startHs && a.startHus == b.startHus && a.aclInstant == b.aclInstant &&
    a.eventCounter == b.eventCounter && a.accessAddress == b.accessAddress &&
    a.offsetUs == b.offsetUs && a.e2 == b.e2

theorem samePlan_iff (a b : AirSessionPlan) : samePlan a b = true ↔ a = b := by
  unfold samePlan
  simp only [Bool.and_eq_true, beq_iff_eq]
  constructor
  · rintro ⟨⟨⟨⟨⟨⟨hhs, hhus⟩, hinstant⟩, hcounter⟩, haddress⟩, hoffset⟩, he2⟩
    cases a
    cases b
    simp only [AirSessionPlan.mk.injEq]
    exact ⟨hhs, hhus, hinstant, hcounter, haddress, hoffset, he2⟩
  · rintro rfl
    exact ⟨⟨⟨⟨⟨⟨rfl, rfl⟩, rfl⟩, rfl⟩, rfl⟩, rfl⟩, rfl⟩

/-- Anchor `b` lies where anchor `a` puts its own event: in phase, and 96 coarse ticks for each
event between them, counted through the instant. -/
def OnTimeline (instant : UInt16) (a b : AirAnchor) : Prop :=
  b.hus = a.hus ∧
    (b.hs.toNat : Int) = (a.hs.toNat + 96 * ((a.ahead instant : Int) - b.ahead instant)) % 2 ^ 28

instance (instant : UInt16) (a b : AirAnchor) : Decidable (OnTimeline instant a b) :=
  inferInstanceAs (Decidable (_ ∧ _))

theorem onTimeline_iff_instantHs {instant : UInt16} {a b : AirAnchor} (hb : b.hs ≤ clockMask) :
    (b.hs.toNat : Int) = (a.hs.toNat + 96 * ((a.ahead instant : Int) - b.ahead instant)) % 2 ^ 28 ↔
      a.instantHs instant % 2 ^ 28 = b.instantHs instant % 2 ^ 28 := by
  have hle := UInt32.le_iff_toNat_le.mp hb
  change b.hs.toNat ≤ 2 ^ 28 - 1 at hle
  unfold AirAnchor.instantHs
  omega

/-- Two anchors give the same plan exactly when they lie on one timeline. -/
theorem planFor_same {proposal : Vector UInt8 39} {a b : AirAnchor} {seed : AirSessionSeed}
    {offset : UInt32} (ha : a.Scheduled) (hb : b.Scheduled) (hoffset : offset ≤ 4000) :
    planFor proposal a seed offset = planFor proposal b seed offset ↔
      OnTimeline (proposalInstant proposal) a b := by
  have hahus := UInt16.le_iff_toNat_le.mp ha.hus
  have hbhus := UInt16.le_iff_toNat_le.mp hb.hus
  change a.hus.toNat ≤ 624 at hahus
  change b.hus.toNat ≤ 624 at hbhus
  have hstart : planFor proposal a seed offset = planFor proposal b seed offset ↔
      (planFor proposal a seed offset).startHs = (planFor proposal b seed offset).startHs ∧
      (planFor proposal a seed offset).startHus = (planFor proposal b seed offset).startHus := by
    constructor
    · intro h
      rw [h]
      exact ⟨rfl, rfl⟩
    · rintro ⟨hhs, hhus⟩
      -- no other field depends on the anchor
      exact AirSessionPlan.mk.injEq .. |>.mpr ⟨hhs, hhus, rfl, rfl, rfl, rfl, rfl⟩
  rw [hstart, OnTimeline, onTimeline_iff_instantHs hb.hs, ← UInt32.toNat_inj, ← UInt16.toNat_inj,
    planFor_startHs ha hoffset, planFor_startHs hb hoffset, planFor_startHus ha hoffset,
    planFor_startHus hb hoffset, ← UInt16.toNat_inj]
  constructor
  · rintro ⟨hhs, hhus⟩
    have hphase : b.hus.toNat = a.hus.toNat := by omega
    rw [hphase] at hhs
    exact ⟨hphase, by omega⟩
  · rintro ⟨hphase, hinstant⟩
    rw [hphase]
    exact ⟨by omega, rfl⟩

/-! ## Later anchors -/

/-- Anchor `b` is that of the connection `n` events after `a`; `n` may be negative. -/
structure AirAnchor.Events (a : AirAnchor) (n : Int) (b : AirAnchor) : Prop where
  hs : (b.hs.toNat : Int) = (a.hs.toNat + 96 * n) % 2 ^ 28
  hus : b.hus = a.hus
  interval : b.intervalHs = a.intervalHs
  eventCounter : (b.eventCounter.toNat : Int) = (a.eventCounter.toNat + n) % 2 ^ 16

variable {a b : AirAnchor} {n : Int}

theorem AirAnchor.Events.scheduled (h : a.Events n b) (ha : a.Scheduled) : b.Scheduled := by
  refine ⟨?_, ?_, ?_⟩
  · rw [UInt32.le_iff_toNat_le]
    change b.hs.toNat ≤ 2 ^ 28 - 1
    have := h.hs
    omega
  · rw [h.hus]
    exact ha.hus
  · rw [h.interval, ha.interval]

theorem AirAnchor.ahead_int (a : AirAnchor) (instant : UInt16) :
    (a.ahead instant : Int) = ((instant.toNat : Int) - a.eventCounter.toNat) % 2 ^ 16 := by
  unfold AirAnchor.ahead
  rw [UInt16.toNat_sub]
  have hinstant := instant.toNat_lt
  have hcounter := a.eventCounter.toNat_lt
  omega

/-- While the instant has not passed, `n` events later it is `n` events nearer. -/
theorem AirAnchor.Events.ahead (h : a.Events n b) (instant : UInt16)
    (hlow : 0 ≤ (a.ahead instant : Int) - n) (hhigh : (a.ahead instant : Int) - n < 2 ^ 16) :
    (b.ahead instant : Int) = a.ahead instant - n := by
  have hb := b.ahead_int instant
  have ha := a.ahead_int instant
  have hcounter := h.eventCounter
  omega

theorem AirAnchor.Events.onTimeline (h : a.Events n b) (instant : UInt16)
    (hlow : 0 ≤ (a.ahead instant : Int) - n) (hhigh : (a.ahead instant : Int) - n < 2 ^ 16) :
    OnTimeline instant a b := by
  refine ⟨h.hus, ?_⟩
  rw [h.ahead instant hlow hhigh, h.hs]
  congr 2
  omega

end UllReceiver.Air
