import Mathlib

/-! Writes laid over a vector one after another: at each index the last one counts. -/

namespace UllReceiver.Library

variable {α : Type*} {n : Nat}

def overlay (writes : List (Nat × α)) (v : Vector α n) : Vector α n :=
  writes.foldl (fun v write => v.setIfInBounds write.1 write.2) v

/-- The last write to an index. -/
def lastWrite (writes : List (Nat × α)) (i : Nat) : Option α :=
  writes.foldl (fun last write => if write.1 = i then some write.2 else last) none

theorem foldl_lastWrite (writes : List (Nat × α)) (i : Nat) (last : Option α) :
    writes.foldl (fun last write => if write.1 = i then some write.2 else last) last =
      (lastWrite writes i).or last := by
  induction writes generalizing last with
  | nil => rfl
  | cons write writes ih =>
      unfold lastWrite
      rw [List.foldl_cons, List.foldl_cons, ih, ih (if write.1 = i then some write.2 else none)]
      by_cases hi : write.1 = i
      · rw [if_pos hi, if_pos hi]
        cases lastWrite writes i <;> rfl
      · rw [if_neg hi, if_neg hi]
        cases lastWrite writes i <;> rfl

/-- An earlier write only counts where no later one does. -/
theorem lastWrite_cons (write : Nat × α) (writes : List (Nat × α)) (i : Nat) :
    lastWrite (write :: writes) i =
      (lastWrite writes i).or (if write.1 = i then some write.2 else none) :=
  foldl_lastWrite writes i _

theorem overlay_get (writes : List (Nat × α)) (v : Vector α n) {i : Nat} (hi : i < n) :
    (overlay writes v)[i] = (lastWrite writes i).getD v[i] := by
  induction writes generalizing v with
  | nil => rfl
  | cons write writes ih =>
      show (overlay writes (v.setIfInBounds write.1 write.2))[i] = _
      rw [ih, lastWrite_cons]
      by_cases hw : write.1 = i
      · subst hw
        rw [if_pos rfl, Vector.getElem_setIfInBounds_self]
        cases lastWrite writes write.1 <;> rfl
      · rw [if_neg hw, Vector.getElem_setIfInBounds_ne hi hw, Option.or_none]

/-- An index that nothing is written to. -/
theorem lastWrite_eq_none {writes : List (Nat × α)} {i : Nat} (h : ∀ write ∈ writes, write.1 ≠ i) :
    lastWrite writes i = none := by
  induction writes with
  | nil => rfl
  | cons write writes ih =>
      have hne : write.1 ≠ i := h write List.mem_cons_self
      rw [lastWrite_cons, if_neg hne, Option.or_none]
      exact ih fun w hw => h w (List.mem_cons_of_mem _ hw)

end UllReceiver.Library
