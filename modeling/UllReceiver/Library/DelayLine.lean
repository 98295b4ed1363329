import Mathlib

/-!
# Mirrored delay lines

The last elements of a stream in a circular buffer whose cells are all written twice, so that each
window of it lies in one piece.
-/

namespace UllReceiver.Library

variable {α : Type*} (rest : α)

/-- The element of the stream that came `age` before the last one; `rest` before the first. -/
def aged (x : List α) (age : Nat) : α :=
  x.reverse.getD age rest

/-- The two copies of the circular buffer of `c` cells whose newest element is in cell `newest`. -/
def mirrored (c newest : Nat) (x : List α) : List α :=
  (List.range (2 * c)).map fun i => aged rest x ((newest + 2 * c - i) % c)

variable {rest} {x : List α}

theorem aged_append_zero (a : α) : aged rest (x ++ [a]) 0 = a := by
  unfold aged
  rw [List.reverse_append]
  rfl

theorem aged_append_succ (a : α) (age : Nat) :
    aged rest (x ++ [a]) (age + 1) = aged rest x age := by
  unfold aged
  rw [List.reverse_append]
  rfl

theorem aged_map {β : Type*} (f : α → β) (age : Nat) :
    aged (f rest) (x.map f) age = f (aged rest x age) := by
  unfold aged
  rw [← List.map_reverse, List.getD_map]

/-- Which element of the stream it is. -/
theorem aged_eq (age : Nat) :
    aged rest x age = if age < x.length then x.getD (x.length - 1 - age) rest else rest := by
  unfold aged
  rw [List.getD_eq_getElem?_getD, List.getD_eq_getElem?_getD]
  split
  next h => rw [List.getElem?_reverse h]
  next h =>
    rw [List.getElem?_eq_none (by rw [List.length_reverse]; omega)]
    rfl

theorem mirrored_length (c newest : Nat) : (mirrored rest c newest x).length = 2 * c := by
  unfold mirrored
  rw [List.length_map, List.length_range]

theorem mirrored_nil (c newest : Nat) :
    mirrored rest c newest [] = List.replicate (2 * c) rest := by
  unfold mirrored
  rw [List.eq_replicate_iff]
  refine ⟨by rw [List.length_map, List.length_range], ?_⟩
  intro a ha
  obtain ⟨i, -, rfl⟩ := List.mem_map.mp ha
  rfl

/-- Every element young enough is found in the window below the second copy of the newest. -/
theorem mirrored_window {c newest age : Nat} (hnewest : newest < c) (hage : age < c) :
    (mirrored rest c newest x)[newest + c - age]? = some (aged rest x age) := by
  unfold mirrored
  rw [List.getElem?_map, List.getElem?_range (by omega), Option.map_some,
    show newest + 2 * c - (newest + c - age) = c + age by omega, Nat.add_mod_left,
    Nat.mod_eq_of_lt hage]

/-- The age a cell has after the next element: that of before and one more, but for the two cells
that element is in. -/
theorem age_succ {c newest i : Nat} (hnewest : newest < c) (hi : i < 2 * c)
    (hfirst : i ≠ (newest + 1) % c) (hsecond : i ≠ (newest + 1) % c + c) :
    ((newest + 1) % c + 2 * c - i) % c = (newest + 2 * c - i) % c + 1 := by
  have hmod : ((newest + 1) % c + 2 * c - i) % c = (newest + 2 * c - i + 1) % c := by
    rcases Nat.lt_or_ge (newest + 1) c with hlt | hge
    · rw [Nat.mod_eq_of_lt hlt]
      congr 1
      omega
    · have hwrap : newest + 1 = c := by omega
      rw [hwrap, Nat.mod_self, show newest + 2 * c - i + 1 = c + (0 + 2 * c - i) by omega,
        Nat.add_mod_left]
  have hfresh : (newest + 2 * c - i + 1) % c ≠ 0 := by
    intro hzero
    rw [← hmod] at hzero
    have hlt := Nat.mod_lt (newest + 1) (by omega : 0 < c)
    obtain ⟨q, hq⟩ := Nat.dvd_of_mod_eq_zero hzero
    -- the multiple of `c` is `c` or `2c`
    have hpositive : 0 < c * q := by omega
    have hq0 : 0 < q := Nat.pos_of_mul_pos_left hpositive
    have hq3 : q < 3 := by
      apply Nat.lt_of_mul_lt_mul_left (a := c)
      omega
    rcases (by omega : q = 1 ∨ q = 2) with rfl | rfl
    · exact hsecond (by omega)
    · exact hfirst (by omega)
  rw [hmod]
  rw [← Nat.mod_add_mod] at hfresh ⊢
  have hbelow := Nat.mod_lt (newest + 2 * c - i) (by omega : 0 < c)
  rcases Nat.lt_or_ge ((newest + 2 * c - i) % c + 1) c with hroom | hfull
  · exact Nat.mod_eq_of_lt hroom
  · rw [show (newest + 2 * c - i) % c + 1 = c by omega, Nat.mod_self] at hfresh
    exact absurd rfl hfresh

/-- The next element is written to its cell in both copies. -/
theorem mirrored_push {c newest : Nat} (hnewest : newest < c) (a : α) :
    ((mirrored rest c newest x).set ((newest + 1) % c) a).set ((newest + 1) % c + c) a =
      mirrored rest c ((newest + 1) % c) (x ++ [a]) := by
  have hlt := Nat.mod_lt (newest + 1) (by omega : 0 < c)
  apply List.ext_getElem?
  intro i
  rcases Nat.lt_or_ge i (2 * c) with hi | hi
  · have hnew : (mirrored rest c ((newest + 1) % c) (x ++ [a]))[i]? =
        some (aged rest (x ++ [a]) (((newest + 1) % c + 2 * c - i) % c)) := by
      unfold mirrored
      rw [List.getElem?_map, List.getElem?_range hi, Option.map_some]
    have hold : (mirrored rest c newest x)[i]? =
        some (aged rest x ((newest + 2 * c - i) % c)) := by
      unfold mirrored
      rw [List.getElem?_map, List.getElem?_range hi, Option.map_some]
    rw [hnew]
    by_cases hsecond : i = (newest + 1) % c + c
    · rw [hsecond, List.getElem?_set_self
        (by rw [List.length_set, mirrored_length]; omega),
        show (newest + 1) % c + 2 * c - ((newest + 1) % c + c) = c by omega, Nat.mod_self,
        aged_append_zero]
    · rw [List.getElem?_set_ne (Ne.symm hsecond)]
      by_cases hfirst : i = (newest + 1) % c
      · rw [hfirst, List.getElem?_set_self (by rw [mirrored_length]; omega),
          show (newest + 1) % c + 2 * c - (newest + 1) % c = c * 2 by omega, Nat.mul_mod_right,
          aged_append_zero]
      · rw [List.getElem?_set_ne (Ne.symm hfirst), hold, age_succ hnewest hi hfirst hsecond,
          aged_append_succ]
  · rw [List.getElem?_eq_none, List.getElem?_eq_none]
    · rw [mirrored_length]
      exact hi
    · rw [List.length_set, List.length_set, mirrored_length]
      exact hi

end UllReceiver.Library
