import Mathlib

/-!
# Slots on a circle

Slots of length `L` laid end to end from a start tile a circle of `m` slots: any point lies in
exactly one of `m` slots in a row, however often the numbering has gone round.
-/

namespace UllReceiver.Library

/-- Point `x` of the circle of length `L * m` lies in slot `k`, counted from `start`. -/
def InSlot (L m : Nat) (start x k : Int) : Prop :=
  (x - (start + L * k)) % (L * m : Int) < L

instance (L m : Nat) (start x k : Int) : Decidable (InSlot L m start x k) :=
  inferInstanceAs (Decidable (_ < _))

variable {L m : Nat} {start x : Int}

/-- The place within a slot is the low digit, the slot the high one. -/
theorem emod_mul_slot (hL : 0 < L) (hm : 0 < m) {r : Int} (hlow : 0 ≤ r) (hhigh : r < L) (q : Int) :
    (r + L * q) % (L * m : Int) = r + L * (q % m) := by
  have hmpos : (0 : Int) < m := Int.natCast_pos.mpr hm
  have hq := Int.emod_add_mul_ediv q m
  have hsplit : r + L * q = r + L * (q % m) + (L * m : Int) * (q / m) := by
    conv_lhs => rw [← hq]
    ring
  have hslot := Int.emod_nonneg q hmpos.ne'
  have hlast := Int.emod_lt_of_pos q hmpos
  have hLpos : (0 : Int) < L := Int.natCast_pos.mpr hL
  have hbelow : (L : Int) * (q % m) + L ≤ L * m := by
    calc (L : Int) * (q % m) + L = L * (q % m + 1) := by ring
      _ ≤ L * m := Int.mul_le_mul_of_nonneg_left (by omega) hLpos.le
  rw [hsplit, Int.add_mul_emod_self_left]
  apply Int.emod_eq_of_lt
  · exact Int.add_nonneg hlow (Int.mul_nonneg hLpos.le hslot)
  · omega

theorem inSlot_iff_dvd (hL : 0 < L) (hm : 0 < m) (k : Int) :
    InSlot L m start x k ↔ (m : Int) ∣ (x - start) / L - k := by
  have hLpos : (0 : Int) < L := Int.natCast_pos.mpr hL
  have hmpos : (0 : Int) < m := Int.natCast_pos.mpr hm
  have hsplit : x - (start + L * k) = (x - start) % L + L * ((x - start) / L - k) := by
    have hdiv := Int.emod_add_mul_ediv (x - start) L
    rw [Int.mul_sub]
    omega
  have hlow := Int.emod_nonneg (x - start) hLpos.ne'
  have hhigh := Int.emod_lt_of_pos (x - start) hLpos
  have hslot := Int.emod_nonneg ((x - start) / L - k) hmpos.ne'
  rw [InSlot, hsplit, emod_mul_slot hL hm hlow hhigh, Int.dvd_iff_emod_eq_zero]
  constructor
  · intro h
    by_contra hne
    have hle : (L : Int) * 1 ≤ L * (((x - start) / L - k) % m) :=
      Int.mul_le_mul_of_nonneg_left (by omega) hLpos.le
    omega
  · intro h
    rw [h, Int.mul_zero, Int.add_zero]
    exact hhigh

/-- The numbering goes round with the circle. -/
theorem inSlot_congr (hL : 0 < L) (hm : 0 < m) {k j : Int} (h : (m : Int) ∣ k - j) :
    InSlot L m start x k ↔ InSlot L m start x j := by
  rw [inSlot_iff_dvd hL hm, inSlot_iff_dvd hL hm]
  have hdiff : (x - start) / L - j = (x - start) / L - k + (k - j) := by omega
  rw [hdiff]
  exact (Int.dvd_add_left h).symm

/-- Of `m` slots in a row exactly one holds the point. -/
theorem existsUnique_inSlot (hL : 0 < L) (hm : 0 < m) (first : Int) :
    ∃! n : Nat, n < m ∧ InSlot L m start x (first + n) := by
  have hmpos : (0 : Int) < m := Int.natCast_pos.mpr hm
  have hlow := Int.emod_nonneg ((x - start) / L - first) hmpos.ne'
  have hhigh := Int.emod_lt_of_pos ((x - start) / L - first) hmpos
  have hequiv (n : Nat) : InSlot L m start x (first + n) ↔
      (m : Int) ∣ (x - start) / L - first - n := by
    rw [inSlot_iff_dvd hL hm, Int.sub_sub]
  refine ⟨(((x - start) / L - first) % m).toNat, ⟨by omega, ?_⟩, ?_⟩
  · rw [hequiv, Int.toNat_of_nonneg hlow]
    exact Int.dvd_self_sub_emod
  · rintro n ⟨hn, hin⟩
    rw [hequiv] at hin
    have hmod := Int.emod_eq_emod_iff_emod_sub_eq_zero.mpr (Int.emod_eq_zero_of_dvd hin)
    rw [Int.emod_eq_of_lt (a := (n : Int)) (by omega) (by omega)] at hmod
    omega

end UllReceiver.Library
