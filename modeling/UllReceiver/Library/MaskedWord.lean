import Mathlib

/-! Fields of a 32-bit word under masks. -/

namespace UllReceiver.Library

theorem uint32_ext {a b : UInt32}
    (h : ∀ i, i < 32 → a.toBitVec.getLsbD i = b.toBitVec.getLsbD i) : a = b := by
  apply UInt32.toBitVec_inj.mp
  apply BitVec.eq_of_getLsbD_eq
  exact h

/-- A field written back holds what was written, if that fits the mask. -/
theorem masked_write (word : UInt32) {field mask : UInt32} (h : field &&& mask = field) :
    ((word &&& ~~~mask) ||| field) &&& mask = field := by
  apply uint32_ext
  intro i hi
  have hbit := congrArg (fun w : UInt32 => w.toBitVec.getLsbD i) h
  simp only [UInt32.toBitVec_and, BitVec.getLsbD_and] at hbit
  simp only [UInt32.toBitVec_and, UInt32.toBitVec_or, UInt32.toBitVec_not, BitVec.getLsbD_and,
    BitVec.getLsbD_or, BitVec.getLsbD_not, hi, decide_true, Bool.true_and]
  -- bit by bit: the field is zero where the mask is
  cases hmask : mask.toBitVec.getLsbD i with
  | false =>
      rw [hmask, Bool.and_false] at hbit
      rw [← hbit, Bool.and_false]
  | true => simp

/-- Bits under another mask are left alone. -/
theorem masked_other (word : UInt32) {clear set other : UInt32} (hclear : clear &&& other = 0)
    (hset : set &&& other = 0) : ((word &&& ~~~clear) ||| set) &&& other = word &&& other := by
  apply uint32_ext
  intro i hi
  have hclearBit := congrArg (fun w : UInt32 => w.toBitVec.getLsbD i) hclear
  have hsetBit := congrArg (fun w : UInt32 => w.toBitVec.getLsbD i) hset
  simp only [UInt32.toBitVec_and, BitVec.getLsbD_and] at hclearBit hsetBit
  simp only [UInt32.toBitVec_and, UInt32.toBitVec_or, UInt32.toBitVec_not, BitVec.getLsbD_and,
    BitVec.getLsbD_or, BitVec.getLsbD_not, hi, decide_true, Bool.true_and]
  cases hother : other.toBitVec.getLsbD i with
  | false => rw [Bool.and_false, Bool.and_false]
  | true =>
      -- where the other mask is set, nothing is cleared and nothing is set
      rw [hother, Bool.and_true] at hclearBit hsetBit
      rw [hclearBit, hsetBit]
      simp

/-- A field that fits a mask has no bits under one apart from it. -/
theorem masked_apart {field mask other : UInt32} (h : field &&& mask = field)
    (hdisjoint : mask &&& other = 0) : field &&& other = 0 := by
  rw [← h, UInt32.and_assoc, hdisjoint, UInt32.and_zero]

theorem masked_self (word mask : UInt32) : word &&& mask &&& mask = word &&& mask := by
  rw [UInt32.and_assoc, UInt32.and_self]

/-- Two words that agree under two masks agree under both together. -/
theorem masked_union {a b mask other : UInt32} (h : a &&& mask = b &&& mask)
    (hother : a &&& other = b &&& other) :
    a &&& (mask ||| other) = b &&& (mask ||| other) := by
  apply uint32_ext
  intro i hi
  have hbit := congrArg (fun w : UInt32 => w.toBitVec.getLsbD i) h
  have hbit' := congrArg (fun w : UInt32 => w.toBitVec.getLsbD i) hother
  simp only [UInt32.toBitVec_and, BitVec.getLsbD_and] at hbit hbit'
  simp only [UInt32.toBitVec_and, UInt32.toBitVec_or, BitVec.getLsbD_and, BitVec.getLsbD_or]
  cases hmask : mask.toBitVec.getLsbD i with
  | false =>
      rw [Bool.false_or]
      exact hbit'
  | true =>
      rw [hmask, Bool.and_true, Bool.and_true] at hbit
      rw [hbit]

end UllReceiver.Library
