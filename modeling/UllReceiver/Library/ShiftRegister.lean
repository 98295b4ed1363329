import Mathlib

/-!
Linear feedback shift registers, clocked bit by bit: a scrambler that adds its own output to the
bits, and a divider that adds the bits to its feedback.
-/

namespace UllReceiver.Library

variable {n : Nat}

/-- The positions of a register, from 0, where the feedback goes in, to the last, which is its
output. -/
abbrev Register (n : Nat) := Fin (n + 1) → Bool

namespace Register

def out (r : Register n) : Bool :=
  r (Fin.last n)

/-- One clock. Every position moves on, and the feedback is added where there is a tap. -/
def clock (taps : List Nat) (r : Register n) (feedback : Bool) : Register n :=
  fun i => (if i.val = 0 then false else r ⟨i.val - 1, by omega⟩) ^^
    (decide (i.val ∈ taps) && feedback)

/-- One clock with the output fed back. -/
def next (taps : List Nat) (r : Register n) : Register n :=
  r.clock taps r.out

/-- `k` clocks. -/
def advance (taps : List Nat) : Nat → Register n → Register n
  | 0, r => r
  | k + 1, r => advance taps k (r.next taps)

/-- The bits with the output of the register added. -/
def scramble (taps : List Nat) : Register n → List Bool → List Bool
  | _, [] => []
  | r, b :: bits => (b ^^ r.out) :: scramble taps (r.next taps) bits

/-- The register after the bits have gone through it. -/
def divide (taps : List Nat) : Register n → List Bool → Register n
  | r, [] => r
  | r, b :: bits => divide taps (r.clock taps (r.out ^^ b)) bits

@[simp] theorem scramble_length (taps : List Nat) (r : Register n) (bits : List Bool) :
    (r.scramble taps bits).length = bits.length := by
  induction bits generalizing r with
  | nil => rfl
  | cons b bits ih => rw [scramble, List.length_cons, List.length_cons, ih]

theorem scramble_scramble (taps : List Nat) (r : Register n) (bits : List Bool) :
    r.scramble taps (r.scramble taps bits) = bits := by
  induction bits generalizing r with
  | nil => rfl
  | cons b bits ih =>
    rw [scramble, scramble, ih, Bool.xor_assoc, Bool.xor_self, Bool.xor_false]

theorem advance_succ (taps : List Nat) (k : Nat) (r : Register n) :
    r.advance taps (k + 1) = (r.advance taps k).next taps := by
  induction k generalizing r with
  | zero => rfl
  | succ k ih => exact ih _

theorem scramble_append (taps : List Nat) (r : Register n) (bits more : List Bool) :
    r.scramble taps (bits ++ more) =
      r.scramble taps bits ++ (r.advance taps bits.length).scramble taps more := by
  induction bits generalizing r with
  | nil => rfl
  | cons b bits ih =>
    rw [List.cons_append, scramble, scramble, ih]
    rfl

theorem divide_append (taps : List Nat) (r : Register n) (bits more : List Bool) :
    r.divide taps (bits ++ more) = (r.divide taps bits).divide taps more := by
  induction bits generalizing r with
  | nil => rfl
  | cons b bits ih => exact ih _

end Register

/-! ## The bits of bytes -/

/-- The bits of a byte, the least significant first. -/
def byteBits (b : UInt8) : List Bool :=
  (List.range 8).map b.toNat.testBit

/-- The bits of the bytes in the order in which they go on the air. -/
def airBits (bytes : List UInt8) : List Bool :=
  bytes.flatMap byteBits

/-- The byte with these bits. -/
def bitsByte (bits : List Bool) : UInt8 :=
  UInt8.ofNat (bits.foldr (fun b n => 2 * n + b.toNat) 0)

/-- The bytes that the bits are cut into. -/
def airBytes : List Bool → List UInt8
  | b0 :: b1 :: b2 :: b3 :: b4 :: b5 :: b6 :: b7 :: bits =>
    bitsByte [b0, b1, b2, b3, b4, b5, b6, b7] :: airBytes bits
  | _ => []

@[simp] theorem byteBits_length (b : UInt8) : (byteBits b).length = 8 := by
  simp [byteBits]

@[simp] theorem airBits_nil : airBits [] = [] := rfl

theorem airBits_cons (b : UInt8) (bytes : List UInt8) :
    airBits (b :: bytes) = byteBits b ++ airBits bytes :=
  List.flatMap_cons

theorem airBits_append (a b : List UInt8) : airBits (a ++ b) = airBits a ++ airBits b :=
  List.flatMap_append

@[simp] theorem airBits_length (bytes : List UInt8) :
    (airBits bytes).length = 8 * bytes.length := by
  induction bytes with
  | nil => rfl
  | cons b bytes ih =>
    rw [airBits_cons, List.length_append, byteBits_length, ih, List.length_cons]
    omega

theorem bitsByte_byteBits (b : UInt8) : bitsByte (byteBits b) = b := by
  have hall : ∀ n : Fin 256, bitsByte (byteBits (UInt8.ofNat n.val)) = UInt8.ofNat n.val := by
    decide +kernel
  have hb := hall ⟨b.toNat, b.toNat_lt⟩
  rwa [UInt8.ofNat_toNat] at hb

theorem airBytes_airBits (bytes : List UInt8) : airBytes (airBits bytes) = bytes := by
  induction bytes with
  | nil => rfl
  | cons b bytes ih =>
    rw [airBits_cons]
    change bitsByte (byteBits b) :: airBytes (airBits bytes) = _
    rw [bitsByte_byteBits, ih]

end UllReceiver.Library
