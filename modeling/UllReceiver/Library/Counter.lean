import Mathlib

/-! Free-running 32-bit counters: the distance between two of them across the wrap. -/

namespace UllReceiver.Library

theorem counter_sub_toNat (w r : UInt32) :
    (w - r).toNat = (w.toNat + (2 ^ 32 - r.toNat)) % 2 ^ 32 := by
  rw [UInt32.toNat_sub, Nat.add_comm]

theorem counter_succ_toNat (w : UInt32) : (w + 1).toNat = (w.toNat + 1) % 2 ^ 32 :=
  UInt32.toNat_add w 1

/-- The producer advances by one: the distance grows by one. -/
theorem counter_sub_succ (w r : UInt32) (h : (w - r).toNat < 2 ^ 32 - 1) :
    (w + 1 - r).toNat = (w - r).toNat + 1 := by
  rw [counter_sub_toNat] at h ⊢
  rw [counter_sub_toNat, counter_succ_toNat]
  have hr := r.toNat_lt
  have hw := w.toNat_lt
  omega

/-- The consumer advances by `d`: the distance shrinks by `d`. -/
theorem counter_sub_advance (w r d : UInt32) (h : d.toNat ≤ (w - r).toNat) :
    (w - (r + d)).toNat = (w - r).toNat - d.toNat := by
  rw [counter_sub_toNat] at h ⊢
  rw [counter_sub_toNat, UInt32.toNat_add]
  have hr := r.toNat_lt
  have hw := w.toNat_lt
  have hd := d.toNat_lt
  omega

/-- The distance added to the consumer leads to the producer, up to the wrap. -/
theorem counter_add_sub (w r : UInt32) : (r.toNat + (w - r).toNat) % 2 ^ 32 = w.toNat := by
  rw [counter_sub_toNat]
  have hr := r.toNat_lt
  have hw := w.toNat_lt
  omega

@[simp] theorem counter_sub_self (w : UInt32) : (w - w).toNat = 0 := by
  rw [UInt32.sub_self]
  rfl

/-- Masking with one less than a power of two keeps the counter's low bits. -/
theorem counter_mask_toNat (k : Nat) (x m : UInt32) (hm : m.toNat = 2 ^ k - 1) :
    (x &&& m).toNat = x.toNat % 2 ^ k := by
  have hand : (x &&& m).toNat = x.toNat &&& m.toNat := UInt32.toNat_and x m
  rw [hand, hm]
  exact Nat.and_two_pow_sub_one_eq_mod x.toNat k

end UllReceiver.Library
