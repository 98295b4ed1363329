import Mathlib
import UllReceiver.Library.ShiftRegister

/-!
# Bursts of errors

A division register of `n + 1` positions tells apart any two sequences of bits that differ in no
more than `n + 1` consecutive places: the bits of the window could as well have been added to the
register before it is clocked, and a clock loses nothing.
-/

namespace UllReceiver.Library

/-- What is heard differs from what was sent in no more than `k` consecutive places. -/
structure Burst {α : Type} (k : Nat) (sent heard : List α) : Prop where
  length : heard.length = sent.length
  window : ∃ start, ∀ i, i < start ∨ start + k ≤ i → heard[i]? = sent[i]?

/-- Bit `i` is in byte `i / 8`. -/
theorem airBits_getElem? (bytes : List UInt8) (i : Nat) :
    (airBits bytes)[i]? = bytes[i / 8]?.map fun b => b.toNat.testBit (i % 8) := by
  induction bytes generalizing i with
  | nil => rfl
  | cons b bytes ih =>
    rw [airBits_cons]
    by_cases hi : i < 8
    · rw [List.getElem?_append_left (by rw [byteBits_length]; exact hi), Nat.div_eq_of_lt hi,
        Nat.mod_eq_of_lt hi, byteBits, List.getElem?_map, List.getElem?_range hi]
      rfl
    · rw [List.getElem?_append_right (by rw [byteBits_length]; omega), byteBits_length, ih,
        show i / 8 = (i - 8) / 8 + 1 by omega, show i % 8 = (i - 8) % 8 by omega,
        List.getElem?_cons_succ]

/-- Bytes with the highest bit of each first. -/
def highBits (bytes : List UInt8) : List Bool :=
  bytes.flatMap fun b => (byteBits b).reverse

theorem highBits_cons (b : UInt8) (bytes : List UInt8) :
    highBits (b :: bytes) = (byteBits b).reverse ++ highBits bytes :=
  List.flatMap_cons

@[simp] theorem highBits_length (bytes : List UInt8) :
    (highBits bytes).length = 8 * bytes.length := by
  induction bytes with
  | nil => rfl
  | cons b bytes ih =>
    rw [highBits_cons, List.length_append, List.length_reverse, byteBits_length, ih,
      List.length_cons]
    omega

theorem highBits_getElem? (bytes : List UInt8) (i : Nat) :
    (highBits bytes)[i]? = bytes[i / 8]?.map fun b => b.toNat.testBit (7 - i % 8) := by
  induction bytes generalizing i with
  | nil => rfl
  | cons b bytes ih =>
    rw [highBits_cons]
    by_cases hi : i < 8
    · have hplace : i < (byteBits b).length := by
        rw [byteBits_length]
        exact hi
      rw [List.getElem?_append_left (by rw [List.length_reverse]; exact hplace),
        List.getElem?_reverse hplace, byteBits_length, Nat.div_eq_of_lt hi, Nat.mod_eq_of_lt hi,
        byteBits, List.getElem?_map, List.getElem?_range (by omega)]
      rfl
    · have hlength : (byteBits b).reverse.length = 8 := by
        rw [List.length_reverse, byteBits_length]
      rw [List.getElem?_append_right (by omega), hlength, ih,
        show i / 8 = (i - 8) / 8 + 1 by omega, show i % 8 = (i - 8) % 8 by omega,
        List.getElem?_cons_succ]

namespace Burst

section Any

variable {α : Type} {k : Nat} {sent heard : List α}

/-- Nothing was changed. -/
theorem refl (k : Nat) (sent : List α) : Burst k sent sent :=
  ⟨rfl, 0, fun _ _ => rfl⟩

/-- What is left of a burst behind the first `d` bits. -/
theorem drop (h : Burst k sent heard) (d : Nat) : Burst k (sent.drop d) (heard.drop d) where
  length := by rw [List.length_drop, List.length_drop, h.length]
  window := by
    obtain ⟨start, hstart⟩ := h.window
    refine ⟨start - d, fun i hi => ?_⟩
    rw [List.getElem?_drop, List.getElem?_drop]
    apply hstart
    omega

/-- The bits before the window, those in it, and those behind it. -/
theorem parts (h : Burst k sent heard) : ∃ front u v back, sent = front ++ (u ++ back) ∧
    heard = front ++ (v ++ back) ∧ v.length = u.length ∧ u.length ≤ k := by
  obtain ⟨start, hstart⟩ := h.window
  have hfront : heard.take start = sent.take start := by
    apply List.ext_getElem?
    intro i
    rw [List.getElem?_take, List.getElem?_take]
    split
    · next hi => exact hstart i (.inl hi)
    · rfl
  have hback : (heard.drop start).drop k = (sent.drop start).drop k := by
    apply List.ext_getElem?
    intro i
    rw [List.drop_drop, List.drop_drop, List.getElem?_drop, List.getElem?_drop]
    exact hstart _ (.inr (by omega))
  refine ⟨sent.take start, (sent.drop start).take k, (heard.drop start).take k,
    (sent.drop start).drop k, ?_, ?_, ?_, ?_⟩
  · rw [List.take_append_drop, List.take_append_drop]
  · rw [← hback, List.take_append_drop, ← hfront, List.take_append_drop]
  · rw [List.length_take, List.length_take, List.length_drop, List.length_drop, h.length]
  · rw [List.length_take]
    exact Nat.min_le_left _ _

end Any

section Bytes

variable {m : Nat} {sent heard : List UInt8}

theorem airBits (h : Burst m sent heard) :
    Burst (8 * m) (Library.airBits sent) (Library.airBits heard) where
  length := by rw [airBits_length, airBits_length, h.length]
  window := by
    obtain ⟨start, hstart⟩ := h.window
    refine ⟨8 * start, fun i hi => ?_⟩
    rw [airBits_getElem?, airBits_getElem?, hstart (i / 8) (by omega)]

/-- A burst of bits lies in so many bytes, wherever it begins in the first one. -/
theorem of_highBits (h : Burst (8 * m + 1) (highBits sent) (highBits heard)) :
    Burst (m + 1) sent heard := by
  have hlength : heard.length = sent.length := by
    have hbits := h.length
    rw [highBits_length, highBits_length] at hbits
    omega
  obtain ⟨start, hstart⟩ := h.window
  refine ⟨hlength, start / 8, fun i hi => ?_⟩
  by_cases hin : i < sent.length
  · have hin' : i < heard.length := by omega
    rw [List.getElem?_eq_getElem hin, List.getElem?_eq_getElem hin']
    congr 1
    apply UInt8.toNat_inj.mp
    apply Nat.eq_of_testBit_eq
    intro j
    by_cases hj : j < 8
    · -- bit `j` of byte `i` on the wire
      have hbit := hstart (8 * i + (7 - j)) (by omega)
      have hbyte : (8 * i + (7 - j)) / 8 = i := by omega
      have hplace : 7 - (8 * i + (7 - j)) % 8 = j := by omega
      rw [highBits_getElem?, highBits_getElem?, hbyte, hplace, List.getElem?_eq_getElem hin,
        List.getElem?_eq_getElem hin'] at hbit
      exact Option.some.inj hbit
    · have hpow : 2 ^ 8 ≤ 2 ^ j := Nat.pow_le_pow_right (by decide) (by omega)
      rw [Nat.testBit_lt_two_pow (Nat.lt_of_lt_of_le heard[i].toNat_lt hpow),
        Nat.testBit_lt_two_pow (Nat.lt_of_lt_of_le sent[i].toNat_lt hpow)]
  · rw [List.getElem?_eq_none (by omega), List.getElem?_eq_none (by omega)]

end Bytes

end Burst

namespace Register

variable {n : Nat} {taps : List Nat}

/-- The register with the bits added to it, the first one at its output. -/
def load (r : Register n) (bits : List Bool) : Register n :=
  fun i => r i ^^ bits.getD (n - i.val) false

theorem load_nil (r : Register n) : r.load [] = r := by
  funext i
  rw [load, List.getD_nil, Bool.xor_false]

/-- The first bit goes in with the feedback, and the others move on with the register. -/
theorem clock_load (r : Register n) (b : Bool) {bits : List Bool} (h : bits.length ≤ n) :
    (r.clock taps (r.out ^^ b)).load bits = (r.load (b :: bits)).next taps := by
  funext i
  have hout : (r.load (b :: bits)).out = (r.out ^^ b) := by
    rw [out, load, Fin.val_last, Nat.sub_self]
    rfl
  unfold next
  rw [hout]
  unfold load clock
  by_cases hi : i.val = 0
  · rw [if_pos hi, if_pos hi, hi, Nat.sub_zero, List.getD_eq_default _ _ h, Bool.xor_false]
  · rw [if_neg hi, if_neg hi]
    dsimp only
    have hplace : n - (i.val - 1) = n - i.val + 1 := by
      have := i.isLt
      omega
    rw [hplace, List.getD_cons_succ]
    generalize r _ = a
    generalize bits.getD (n - i.val) false = c
    generalize (decide (i.val ∈ taps) && (r.out ^^ b)) = d
    cases a <;> cases c <;> cases d <;> rfl

/-- As many bits as there are positions go through as if they had been added at once. -/
theorem divide_load (r : Register n) {bits : List Bool} (h : bits.length ≤ n + 1) :
    r.divide taps bits = (r.load bits).advance taps bits.length := by
  induction bits generalizing r with
  | nil => rw [load_nil]; rfl
  | cons b bits ih =>
    rw [List.length_cons] at h
    rw [divide, ih _ (by omega), clock_load r b (by omega)]
    rfl

theorem load_injective {r : Register n} {u v : List Bool} (hu : u.length ≤ n + 1)
    (hlength : v.length = u.length) (h : r.load u = r.load v) : u = v := by
  apply List.ext_getElem hlength.symm
  intro i hi hi'
  have hplace := congrFun h ⟨n - i, by omega⟩
  unfold load at hplace
  rw [Bool.xor_right_inj] at hplace
  have hindex : n - (⟨n - i, by omega⟩ : Fin (n + 1)).val = i := by
    show n - (n - i) = i
    omega
  rw [hindex, List.getD_eq_getElem _ _ hi, List.getD_eq_getElem _ _ hi'] at hplace
  exact hplace

section Feedback

variable (htap : 0 ∈ taps)

include htap

/-- Position 0 shows the feedback, and that undoes the clock. -/
theorem clock_injective {r q : Register n} {b : Bool}
    (h : r.clock taps (r.out ^^ b) = q.clock taps (q.out ^^ b)) : r = q := by
  have hout : (r.out ^^ b) = (q.out ^^ b) := by
    have h0 := congrFun h 0
    unfold clock at h0
    simpa [htap] using h0
  have hkept : ∀ (j : Nat) (hj : j < n), r ⟨j, by omega⟩ = q ⟨j, by omega⟩ := by
    intro j hj
    have hnext := congrFun h ⟨j + 1, by omega⟩
    unfold clock at hnext
    rw [hout, Bool.xor_left_inj, if_neg (by simp), if_neg (by simp)] at hnext
    exact hnext
  funext i
  by_cases hi : i.val = n
  · rw [show i = Fin.last n from Fin.ext hi]
    exact Bool.xor_left_inj.mp hout
  · exact hkept i.val (by have := i.isLt; omega)

theorem divide_injective {bits : List Bool} {r q : Register n}
    (h : r.divide taps bits = q.divide taps bits) : r = q := by
  induction bits generalizing r q with
  | nil => exact h
  | cons b bits ih => exact clock_injective htap (ih h)

theorem advance_injective {k : Nat} {r q : Register n} (h : r.advance taps k = q.advance taps k) :
    r = q := by
  induction k generalizing r q with
  | zero => exact h
  | succ k ih =>
    have hnext := ih h
    unfold next at hnext
    rw [← Bool.xor_false r.out, ← Bool.xor_false q.out] at hnext
    exact clock_injective htap hnext

/-- No burst that fits in the register escapes it. -/
theorem divide_burst {r : Register n} {sent heard : List Bool} (h : Burst (n + 1) sent heard)
    (hsame : r.divide taps heard = r.divide taps sent) : heard = sent := by
  obtain ⟨front, u, v, back, rfl, rfl, hlength, hfits⟩ := h.parts
  rw [divide_append, divide_append, divide_append, divide_append] at hsame
  have hwindow := divide_injective htap hsame
  rw [divide_load _ (by omega), divide_load _ hfits, hlength] at hwindow
  rw [load_injective hfits hlength (advance_injective htap hwindow).symm]

end Feedback

/-! ## Checked bits -/

/-- The check of the bits: the register they leave, from its output down, with `mask` added. -/
def check (taps : List Nat) (seed mask : Register n) (bits : List Bool) : List Bool :=
  (List.ofFn fun i => seed.divide taps bits i ^^ mask i).reverse

@[simp] theorem check_length (taps : List Nat) (seed mask : Register n) (bits : List Bool) :
    (seed.check taps mask bits).length = n + 1 := by
  rw [check, List.length_reverse, List.length_ofFn]

/-- The check leaves the same register behind all bits. -/
theorem divide_check (taps : List Nat) (seed mask : Register n) (bits : List Bool) :
    seed.divide taps (bits ++ seed.check taps mask bits) = mask.advance taps (n + 1) := by
  have hlength := check_length taps seed mask bits
  have hload : (seed.divide taps bits).load (seed.check taps mask bits) = mask := by
    funext i
    have hi := i.isLt
    have hplace : (seed.check taps mask bits).getD (n - i.val) false =
        (seed.divide taps bits i ^^ mask i) := by
      rw [List.getD_eq_getElem _ _ (by rw [hlength]; omega)]
      unfold check
      rw [List.getElem_reverse, List.getElem_ofFn]
      have hback : (List.ofFn fun i => seed.divide taps bits i ^^ mask i).length - 1 -
          (n - i.val) = i.val := by
        rw [List.length_ofFn]
        omega
      simp only [hback]
    rw [load, hplace, ← Bool.xor_assoc, Bool.xor_self, Bool.false_xor]
  rw [divide_append, divide_load _ (Nat.le_of_eq hlength), hload, hlength]

/-- Bits with their check that differ from others with theirs in a burst are the same bits. -/
theorem check_burst (htap : 0 ∈ taps) {seed mask : Register n} {bits bits' : List Bool}
    (h : Burst (n + 1) (bits ++ seed.check taps mask bits) (bits' ++ seed.check taps mask bits')) :
    bits' ++ seed.check taps mask bits' = bits ++ seed.check taps mask bits :=
  divide_burst htap h (by rw [divide_check, divide_check])

end Register

/-! ## Scrambled bits -/

/-- A scrambler adds the same to both sides. -/
theorem Burst.scramble {k n : Nat} {taps : List Nat} {sent heard : List Bool}
    (h : Burst k sent heard) (r : Register n) :
    Burst k (r.scramble taps sent) (r.scramble taps heard) where
  length := by rw [Register.scramble_length, Register.scramble_length, h.length]
  window := by
    have hbit : ∀ (bits : List Bool) (r : Register n) (i : Nat), (r.scramble taps bits)[i]? =
        bits[i]?.map (· ^^ (r.advance taps i).out) := by
      intro bits
      induction bits with
      | nil => exact fun r i => rfl
      | cons b bits ih =>
        intro r i
        cases i with
        | zero => rfl
        | succ i =>
          rw [Register.scramble, List.getElem?_cons_succ, List.getElem?_cons_succ, ih]
          rfl
    obtain ⟨start, hstart⟩ := h.window
    refine ⟨start, fun i hi => ?_⟩
    rw [hbit, hbit, hstart i hi]

end UllReceiver.Library
