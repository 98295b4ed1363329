import Mathlib

/-!
# Chains of links

A list linked through its cells: from a pointer on, through cells that hold the next pointer, to the
null pointer.
-/

namespace UllReceiver.Library

variable {P ι : Type*}

/-- Where a cell lies and what it points at. -/
structure Links (P ι : Type*) where
  null : P
  cell : ι → P
  next : ι → P
  cell_ne_null : ∀ i, cell i ≠ null
  cell_injective : Function.Injective cell

namespace Links

variable {l : Links P ι}

/-- The cells from the pointer `p` to the null pointer. -/
def IsChain (l : Links P ι) : P → List ι → Prop
  | p, [] => p = l.null
  | p, i :: cells => p = l.cell i ∧ l.IsChain (l.next i) cells

theorem IsChain.unique {xs : List ι} : ∀ {p : P} {ys : List ι}, l.IsChain p xs →
    l.IsChain p ys → xs = ys := by
  induction xs with
  | nil =>
      intro p ys hx hy
      cases ys with
      | nil => rfl
      | cons j ys => exact absurd (hy.1.symm.trans hx) (l.cell_ne_null j)
  | cons i xs ih =>
      intro p ys hx hy
      cases ys with
      | nil => exact absurd (hx.1.symm.trans hy) (l.cell_ne_null i)
      | cons j ys =>
          have hij : i = j := l.cell_injective (hx.1.symm.trans hy.1)
          subst hij
          rw [ih hx.2 hy.2]

/-- The rest of a chain behind one of its cells. -/
theorem IsChain.behind {xs : List ι} {i : ι} {ys : List ι} : ∀ {p : P},
    l.IsChain p (xs ++ i :: ys) → l.IsChain (l.next i) ys := by
  induction xs with
  | nil => exact fun h => h.2
  | cons j xs ih => exact fun h => ih h.2

/-- A chain that ends meets no cell twice. -/
theorem IsChain.nodup {xs : List ι} : ∀ {p : P}, l.IsChain p xs → xs.Nodup := by
  induction xs with
  | nil => exact fun _ => List.nodup_nil
  | cons i xs ih =>
      intro p h
      refine List.nodup_cons.mpr ⟨?_, ih h.2⟩
      intro hmem
      obtain ⟨front, back, hsplit⟩ := List.append_of_mem hmem
      have hback := h.2
      rw [hsplit] at hback
      -- the rest behind the second meeting would be the whole rest
      have hsame := hback.behind.unique h.2
      have hlength := congrArg List.length hsplit
      rw [List.length_append, List.length_cons, hsame] at hlength
      omega

theorem IsChain.length_le [Fintype ι] {p : P} {xs : List ι} (h : l.IsChain p xs) :
    xs.length ≤ Fintype.card ι :=
  h.nodup.length_le_card

end Links

end UllReceiver.Library
