import Mathlib

/-! The first-in first-out contents of a ring addressed by free-running counters. -/

namespace UllReceiver.Library

variable {α : Type*} {N : Nat} [NeZero N]

/-- The ring cell of a free-running index. -/
def ringSlot (N : Nat) [NeZero N] (i : Nat) : Fin N :=
  ⟨i % N, Nat.mod_lt _ (Nat.pos_of_neZero N)⟩

/-- `len` cells of the ring from index `start` on, oldest first. -/
def ringView (cells : Fin N → α) (start len : Nat) : List α :=
  (List.range len).map fun k => cells (ringSlot N (start + k))

@[simp] theorem ringView_length (cells : Fin N → α) (start len : Nat) :
    (ringView cells start len).length = len := by
  simp [ringView]

@[simp] theorem ringView_zero (cells : Fin N → α) (start : Nat) :
    ringView cells start 0 = [] := rfl

theorem ringSlot_congr {i j : Nat} (h : i ≡ j [MOD N]) : ringSlot N i = ringSlot N j :=
  Fin.ext h

theorem ringSlot_injective_of_lt {i k : Nat} (hk : k < N) (h0 : 0 < k) :
    ringSlot N (i + k) ≠ ringSlot N i := by
  intro h
  have hmod : (i + k) % N = i % N := congrArg Fin.val h
  have hk0 : k ≡ 0 [MOD N] := Nat.ModEq.add_left_cancel' i hmod
  have : k % N = 0 := by simpa [Nat.ModEq] using hk0
  rw [Nat.mod_eq_of_lt hk] at this
  omega

/-- Indices that agree modulo the ring size see the same contents. -/
theorem ringView_congr (cells : Fin N → α) {i j : Nat} (len : Nat) (h : i ≡ j [MOD N]) :
    ringView cells i len = ringView cells j len := by
  simp only [ringView]
  congr 1
  funext k
  rw [ringSlot_congr (h.add_right k)]

theorem ringView_succ (cells : Fin N → α) (start len : Nat) :
    ringView cells start (len + 1) =
      cells (ringSlot N start) :: ringView cells (start + 1) len := by
  simp only [ringView, List.range_succ_eq_map, List.map_cons, List.map_map, Nat.add_zero]
  congr 1
  apply List.map_congr_left
  intro k _
  simp only [Function.comp_apply]
  rw [show start + Nat.succ k = start + 1 + k by omega]

theorem ringView_drop (cells : Fin N → α) (start len d : Nat) (hd : d ≤ len) :
    ringView cells (start + d) (len - d) = (ringView cells start len).drop d := by
  induction d generalizing start len with
  | zero => rfl
  | succ d ih =>
      obtain ⟨m, rfl⟩ : ∃ m, len = m + 1 := ⟨len - 1, by omega⟩
      rw [ringView_succ, List.drop_succ_cons, ← ih (start + 1) m (by omega)]
      rw [show start + (d + 1) = start + 1 + d by omega, show m + 1 - (d + 1) = m - d by omega]

theorem ringView_take (cells : Fin N → α) (start len d : Nat) (hd : d ≤ len) :
    (ringView cells start len).take d = ringView cells start d := by
  simp only [ringView, ← List.map_take, List.take_range, Nat.min_eq_left hd]

/-- Writing the next free cell appends to the contents. -/
theorem ringView_push (cells : Fin N → α) (start len : Nat) (a : α) (hlen : len < N) :
    ringView (Function.update cells (ringSlot N (start + len)) a) start (len + 1) =
      ringView cells start len ++ [a] := by
  simp only [ringView, List.range_succ, List.map_append, List.map_cons, List.map_nil,
    Function.update_self]
  congr 1
  apply List.map_congr_left
  intro k hk
  rw [List.mem_range] at hk
  apply Function.update_of_ne
  intro h
  apply ringSlot_injective_of_lt (N := N) (i := start + k) (k := len - k) (by omega) (by omega)
  rw [show start + k + (len - k) = start + len by omega]
  exact h.symm

end UllReceiver.Library
