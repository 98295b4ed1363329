import Mathlib

/-!
# Runs in a sequence of bits

A scan of a sequence that counts its changes and gives up at a run that is too long.
-/

namespace UllReceiver.Library

section Runs

variable (b : Nat → Bool)

/-- The changes between neighbours of the bits from `lo` to `hi`. -/
def changes (lo hi : Nat) : Nat :=
  ((Finset.Ico lo hi).filter fun i => b i ≠ b (i + 1)).card

/-- More than `k` equal bits in a row among the first `n`. -/
def HasRun (k n : Nat) : Prop :=
  ∃ i, i + k < n ∧ ∀ j ≤ k, b (i + j) = b i

/-- `run` is the length of the run that ends with bit `n`. -/
structure EndsRun (n run : Nat) : Prop where
  positive : 1 ≤ run
  inside : run ≤ n + 1
  equal : ∀ j < run, b (n - j) = b n
  begins : run ≤ n → b (n - run) ≠ b n

variable {b}

theorem changes_succ {lo n : Nat} (h : lo ≤ n) :
    changes b lo (n + 1) = changes b lo n + if b n ≠ b (n + 1) then 1 else 0 := by
  have hnew : n ∉ (Finset.Ico lo n).filter fun i => b i ≠ b (i + 1) := by
    intro hmem
    have hbound := Finset.mem_Ico.mp (Finset.mem_filter.mp hmem).1
    omega
  unfold changes
  rw [Nat.Ico_succ_right_eq_insert_Ico h, Finset.filter_insert]
  split
  · exact Finset.card_insert_of_notMem hnew
  · rfl

theorem changes_of_le {lo n : Nat} (h : n ≤ lo) : changes b lo n = 0 := by
  unfold changes
  rw [Finset.Ico_eq_empty (by omega), Finset.filter_empty, Finset.card_empty]

theorem HasRun.mono {k n m : Nat} (h : HasRun b k n) (hle : n ≤ m) : HasRun b k m := by
  obtain ⟨i, hi, hequal⟩ := h
  exact ⟨i, by omega, hequal⟩

theorem endsRun_zero : EndsRun b 0 1 := by
  refine ⟨Nat.le_refl 1, Nat.le_refl 1, ?_, ?_⟩
  · intro j hj
    rw [show j = 0 by omega]
  · intro h
    omega

/-- A change begins a new run. -/
theorem endsRun_change {n : Nat} (h : b n ≠ b (n + 1)) : EndsRun b (n + 1) 1 := by
  refine ⟨Nat.le_refl 1, by omega, ?_, fun _ => h⟩
  intro j hj
  rw [show j = 0 by omega]
  rfl

theorem EndsRun.grow {n run : Nat} (hrun : EndsRun b n run) (h : b n = b (n + 1)) :
    EndsRun b (n + 1) (run + 1) := by
  refine ⟨by omega, by have := hrun.inside; omega, ?_, ?_⟩
  · intro j hj
    cases j with
    | zero => rfl
    | succ j =>
        rw [Nat.add_sub_add_right, ← h]
        exact hrun.equal j (by omega)
  · intro hle
    rw [Nat.add_sub_add_right, ← h]
    exact hrun.begins (by omega)

/-- The first `n` bits hold no run of more than `k`; one more makes one just if the run that ends
with them is `k` long. -/
theorem EndsRun.hasRun_iff {n k run : Nat} (hrun : EndsRun b n run)
    (hshort : ¬ HasRun b k n) : HasRun b k (n + 1) ↔ k < run := by
  constructor
  · rintro ⟨i, hi, hequal⟩
    have hlast : i + k = n := by
      by_contra hne
      exact hshort ⟨i, by omega, hequal⟩
    by_contra hle
    -- the bit before the run that ends here lies in the long one
    have hbefore := hrun.begins (by omega)
    have hin := hequal (k - run) (by omega)
    have hend := hequal k (Nat.le_refl k)
    rw [show i + (k - run) = n - run by omega] at hin
    rw [hlast] at hend
    exact hbefore (hin.trans hend.symm)
  · intro hlt
    have hinside := hrun.inside
    refine ⟨n - k, by omega, ?_⟩
    intro j hj
    rw [show n - k + j = n - (k - j) by omega]
    exact (hrun.equal (k - j) (by omega)).trans (hrun.equal k (by omega)).symm

end Runs

/-! ## Single bits -/

/-- A word with at most one bit set. -/
theorem isPowerOfTwo_iff {x n : Nat} (hx : x ≠ 0) (hbound : x < 2 ^ n) :
    x.isPowerOfTwo ↔ ((Finset.range n).filter fun i => x.testBit i = true).card ≤ 1 := by
  rw [Finset.card_le_one]
  constructor
  · rintro ⟨k, rfl⟩ i hi j hj
    have hki := Nat.testBit_two_pow ▸ (Finset.mem_filter.mp hi).2
    have hkj := Nat.testBit_two_pow ▸ (Finset.mem_filter.mp hj).2
    exact (of_decide_eq_true hki).symm.trans (of_decide_eq_true hkj)
  · intro hsame
    obtain ⟨k, hk⟩ := Nat.exists_testBit_of_ne_zero hx
    have hin : ∀ i, x.testBit i = true →
        i ∈ (Finset.range n).filter fun i => x.testBit i = true := by
      intro i hi
      refine Finset.mem_filter.mpr ⟨Finset.mem_range.mpr ?_, hi⟩
      by_contra hle
      rw [Nat.testBit_lt_two_pow (Nat.lt_of_lt_of_le hbound
        (Nat.pow_le_pow_right (by decide) (by omega)))] at hi
      cases hi
    refine ⟨k, Nat.eq_of_testBit_eq fun i => ?_⟩
    rw [Nat.testBit_two_pow]
    by_cases hi : x.testBit i = true
    · rw [hi, hsame k (hin k hk) i (hin i hi)]
      exact (decide_eq_true rfl).symm
    · have hne : k ≠ i := by
        rintro rfl
        exact hi hk
      rw [Bool.eq_false_of_not_eq_true hi, decide_eq_false hne]

end UllReceiver.Library
