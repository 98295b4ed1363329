import Mathlib

/-!
Buffers with checked access: `none` is a read or a write outside the buffer, or an unsigned
subtraction below zero, or a value too large for its type.
-/

namespace UllReceiver.Library

variable {α : Type*}

/-- Cell `i`. -/
def load (b : List α) (i : Nat) : Option α :=
  b[i]?

/-- The buffer with `x` in cell `i`. -/
def store (b : List α) (i : Nat) (x : α) : Option (List α) :=
  if i < b.length then some (b.set i x) else none

/-- The `n` cells from `i` on. -/
def loadSpan (b : List α) (i n : Nat) : Option (List α) :=
  if i + n ≤ b.length then some ((b.drop i).take n) else none

/-- The buffer with `xs` copied to the cells from `i` on. -/
def storeSpan (b : List α) (i : Nat) (xs : List α) : Option (List α) :=
  if i + xs.length ≤ b.length then some (b.take i ++ xs ++ b.drop (i + xs.length)) else none

/-- One more element in an array of `capacity` cells. -/
def pushWithin (capacity : Nat) (xs : List α) (x : α) : Option (List α) :=
  if xs.length < capacity then some (xs ++ [x]) else none

/-- `a - b` of two sizes. -/
def sizeSub (a b : Nat) : Option Nat :=
  if b ≤ a then some (a - b) else none

/-- A value an unsigned type of `width` bits can hold. -/
def fits (width n : Nat) : Option Nat :=
  if n < 2 ^ width then some n else none

theorem sizeSub_of_le {a b : Nat} (h : b ≤ a) : sizeSub a b = some (a - b) :=
  if_pos h

theorem fits_bind {β : Type} {width n : Nat} (h : n < 2 ^ width) (f : Nat → Option β) :
    (fits width n >>= f) = f n := by
  rw [fits, if_pos h]
  rfl

/-- What is left of a buffer from its cell `i` on. -/
theorem load_drop (b : List α) (i k : Nat) : load b (i + k) = (b.drop i)[k]? := by
  rw [List.getElem?_drop]
  rfl

theorem loadSpan_of_le {b : List α} {i n : Nat} (h : i + n ≤ b.length) :
    loadSpan b i n = some ((b.drop i).take n) :=
  if_pos h

theorem storeSpan_length {b c : List α} {i : Nat} {xs : List α} (h : storeSpan b i xs = some c) :
    c.length = b.length := by
  unfold storeSpan at h
  split at h
  · next hfit =>
    cases h
    simp only [List.length_append, List.length_take, List.length_drop]
    omega
  · cases h

/-- Writing behind what is written already. -/
theorem storeSpan_append {front rest xs : List α} (h : xs.length ≤ rest.length) :
    storeSpan (front ++ rest) front.length xs = some (front ++ xs ++ rest.drop xs.length) := by
  unfold storeSpan
  rw [if_pos (by rw [List.length_append]; omega), List.take_left, List.drop_append,
    List.drop_of_length_le (by omega), List.nil_append, Nat.add_sub_cancel_left]

theorem storeSpan_front {b xs : List α} (h : xs.length ≤ b.length) :
    storeSpan b 0 xs = some (xs ++ b.drop xs.length) := by
  unfold storeSpan
  rw [if_pos (by omega), List.take_zero, List.nil_append, Nat.zero_add]

/-- A span inside a buffer, after what is in front of it. -/
theorem loadSpan_middle {front xs back : List α} {i n : Nat} (hi : front.length = i)
    (hn : xs.length = n) : loadSpan (front ++ (xs ++ back)) i n = some xs := by
  rw [loadSpan_of_le (by rw [List.length_append, List.length_append]; omega), List.drop_left' hi,
    List.take_left' hn]

theorem load_middle {front back : List α} {x : α} {i : Nat} (hi : front.length = i) :
    load (front ++ x :: back) i = some x := by
  unfold load
  rw [List.getElem?_append_right (by omega), hi, Nat.sub_self]
  rfl

theorem storeSpan_middle {front old back xs : List α} {i : Nat} (hi : front.length = i)
    (ho : old.length = xs.length) :
    storeSpan (front ++ (old ++ back)) i xs = some (front ++ (xs ++ back)) := by
  subst hi
  rw [storeSpan_append (by rw [List.length_append]; omega), List.drop_left' ho, List.append_assoc]

/-- The two bytes of a word, joined again. -/
theorem word_join (x : UInt16) : x.toUInt8.toUInt16 ||| (x >>> 8).toUInt8.toUInt16 <<< 8 = x := by
  apply UInt16.eq_of_toBitVec_eq
  simp only [UInt16.toBitVec_or, UInt16.toBitVec_shiftLeft, UInt16.toBitVec_shiftRight,
    UInt8.toBitVec_toUInt16, UInt16.toBitVec_toUInt8]
  generalize x.toBitVec = v
  change BitVec.setWidth 16 (BitVec.setWidth 8 v) |||
    BitVec.setWidth 16 (BitVec.setWidth 8 (v >>> 8)) <<< 8 = v
  apply BitVec.eq_of_getLsbD_eq
  intro i hi
  simp only [BitVec.getLsbD_or, BitVec.getLsbD_setWidth, BitVec.getLsbD_shiftLeft,
    BitVec.getLsbD_ushiftRight]
  have h8 : 8 ≤ i → 8 + (i - 8) = i := by omega
  grind

/-- The four bytes of a word, joined again. -/
theorem word32_join (x : UInt32) :
    x.toUInt8.toUInt32 ||| (x >>> 8).toUInt8.toUInt32 <<< 8 |||
      (x >>> 16).toUInt8.toUInt32 <<< 16 ||| (x >>> 24).toUInt8.toUInt32 <<< 24 = x := by
  apply UInt32.eq_of_toBitVec_eq
  simp only [UInt32.toBitVec_or, UInt32.toBitVec_shiftLeft, UInt32.toBitVec_shiftRight,
    UInt8.toBitVec_toUInt32, UInt32.toBitVec_toUInt8]
  generalize x.toBitVec = v
  change BitVec.setWidth 32 (BitVec.setWidth 8 v) |||
    BitVec.setWidth 32 (BitVec.setWidth 8 (v >>> 8)) <<< 8 |||
    BitVec.setWidth 32 (BitVec.setWidth 8 (v >>> 16)) <<< 16 |||
    BitVec.setWidth 32 (BitVec.setWidth 8 (v >>> 24)) <<< 24 = v
  apply BitVec.eq_of_getLsbD_eq
  intro i hi
  simp only [BitVec.getLsbD_or, BitVec.getLsbD_setWidth, BitVec.getLsbD_shiftLeft,
    BitVec.getLsbD_ushiftRight]
  -- bit i comes from the one byte that holds it
  have h8 : 8 ≤ i → 8 + (i - 8) = i := by omega
  have h16 : 16 ≤ i → 16 + (i - 16) = i := by omega
  have h24 : 24 ≤ i → 24 + (i - 24) = i := by omega
  grind

end UllReceiver.Library
