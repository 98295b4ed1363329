import Mathlib

/-!
# Lines out of a stream

A reader collects what comes between two separators, in a buffer of a fixed length, and notes when
it had to leave something out. Whatever is done with each line, reading the whole stream is doing it
with the parts into which the separators split the stream.
-/

namespace UllReceiver.Library

/-- A buffer of `capacity` elements, and whether the line was longer. -/
structure LineReader (α : Type*) (capacity : Nat) where
  line : List α
  overflow : Bool
  fits : line.length ≤ capacity

namespace LineReader

variable {α β σ : Type*} {capacity : Nat}

def empty : LineReader α capacity :=
  ⟨[], false, Nat.zero_le _⟩

def read (r : LineReader α capacity) (x : α) : LineReader α capacity :=
  if h : r.line.length < capacity then
    ⟨r.line ++ [x], r.overflow, by rw [List.length_append]; exact h⟩
  else { r with overflow := true }

/-- The reader behind a text without a separator. -/
def behind (capacity : Nat) (text : List α) : LineReader α capacity :=
  ⟨text.take capacity, capacity < text.length, List.length_take_le _ _⟩

theorem ext_fields {r s : LineReader α capacity} (hline : r.line = s.line)
    (hoverflow : r.overflow = s.overflow) : r = s := by
  cases r
  cases s
  cases hline
  cases hoverflow
  rfl

theorem behind_nil : behind capacity ([] : List α) = empty :=
  ext_fields (List.take_nil) (decide_eq_false (Nat.not_lt_zero capacity))

theorem behind_read (text : List α) (x : α) :
    (behind capacity text).read x = behind capacity (text ++ [x]) := by
  have hlength : (text ++ [x]).length = text.length + 1 := List.length_append
  have htaken : (behind capacity text).line.length = min capacity text.length :=
    List.length_take
  unfold read
  by_cases h : text.length < capacity
  · rw [dif_pos (by rw [htaken]; omega)]
    apply ext_fields
    · show text.take capacity ++ [x] = (text ++ [x]).take capacity
      rw [List.take_of_length_le (Nat.le_of_lt h), List.take_of_length_le (by omega)]
    · show decide (capacity < text.length) = decide (capacity < (text ++ [x]).length)
      rw [decide_eq_false (by omega), decide_eq_false (by omega)]
  · rw [dif_neg (by rw [htaken]; omega)]
    apply ext_fields
    · show text.take capacity = (text ++ [x]).take capacity
      rw [List.take_append_of_le_length (Nat.le_of_not_lt h)]
    · show true = decide (capacity < (text ++ [x]).length)
      rw [decide_eq_true (by omega)]

/-- A text that fits is held as it is. -/
theorem behind_of_le {text : List α} (h : text.length ≤ capacity) :
    (behind capacity text).line = text ∧ (behind capacity text).overflow = false :=
  ⟨List.take_of_length_le h, decide_eq_false (Nat.not_lt.mpr h)⟩

/-! ## The whole stream -/

/-- One element of the stream; `content` is what goes into the buffer, and `f` what is done with a
line at its separator. -/
def next (sep : α → Bool) (content : α → β) (f : σ → LineReader β capacity → α → σ)
    (s : σ × LineReader β capacity) (x : α) : σ × LineReader β capacity :=
  if sep x then (f s.1 s.2 x, empty) else (s.1, s.2.read (content x))

/-- The complete lines of a stream, each with its separator. -/
def lines (sep : α → Bool) (xs : List α) : List (List α × α) :=
  (xs.splitOnP sep).zip (xs.filter sep)

/-- What follows the last separator. -/
def unfinished (sep : α → Bool) (xs : List α) : List α :=
  (xs.splitOnP sep).getLastD []

variable {sep : α → Bool}

/-- Splitting leaves one part for each separator and the rest. -/
theorem splitOnP_ends (sep : α → Bool) (xs : List α) :
    ∃ front, xs.splitOnP sep = front ++ [unfinished sep xs] ∧
      front.length = (xs.filter sep).length := by
  suffices h : ∃ front rest, xs.splitOnP sep = front ++ [rest] ∧
      front.length = (xs.filter sep).length by
    obtain ⟨front, rest, hsplit, hlength⟩ := h
    have hrest : unfinished sep xs = rest := by
      unfold unfinished
      rw [hsplit, List.getLastD_concat]
    exact ⟨front, by rw [hrest, hsplit], hlength⟩
  induction xs with
  | nil => exact ⟨[], [], List.splitOnP_nil, rfl⟩
  | cons x xs ih =>
    obtain ⟨front, rest, hsplit, hlength⟩ := ih
    rw [List.splitOnP_cons_eq_if_modifyHead, hsplit]
    by_cases hx : sep x = true
    · refine ⟨[] :: front, rest, by rw [if_pos hx]; rfl, ?_⟩
      rw [List.filter_cons_of_pos hx, List.length_cons, List.length_cons, hlength]
    · rw [if_neg hx, List.filter_cons_of_neg hx]
      cases front with
      | nil => exact ⟨[], x :: rest, rfl, hlength⟩
      | cons first front => exact ⟨(x :: first) :: front, rest, rfl, hlength⟩

theorem zip_longer {front : List (List α)} {seps : List α} (h : front.length = seps.length)
    (more : List (List α)) : (front ++ more).zip seps = front.zip seps := by
  have hzip : (front ++ more).zip (seps ++ []) = front.zip seps ++ more.zip [] := List.zip_append h
  rwa [List.append_nil, List.zip_nil_right, List.append_nil] at hzip

theorem lines_sep {x : α} (h : sep x = true) (xs : List α) :
    lines sep (xs ++ [x]) = lines sep xs ++ [(unfinished sep xs, x)] := by
  obtain ⟨front, hsplit, hlength⟩ := splitOnP_ends sep xs
  unfold lines
  rw [List.splitOnP_append_cons xs [] h, List.splitOnP_nil, List.filter_append, hsplit,
    List.filter_cons_of_pos h, List.filter_nil, List.append_assoc, List.zip_append hlength,
    zip_longer hlength]
  rfl

theorem unfinished_sep {x : α} (h : sep x = true) (xs : List α) :
    unfinished sep (xs ++ [x]) = [] := by
  unfold unfinished
  rw [List.splitOnP_append_cons xs [] h, List.splitOnP_nil, List.getLastD_concat]

/-- Behind an element that does not separate only the last part has grown. -/
theorem splitOnP_concat {x : α} (h : sep x = false) (xs : List α) :
    ∃ front rest, xs.splitOnP sep = front ++ [rest] ∧
      (xs ++ [x]).splitOnP sep = front ++ [rest ++ [x]] := by
  induction xs with
  | nil =>
    refine ⟨[], [], List.splitOnP_nil, List.splitOnP_eq_singleton ?_⟩
    intro y hy
    rw [List.mem_singleton.mp hy]
    exact h
  | cons y ys ih =>
    obtain ⟨front, rest, hsplit, hconcat⟩ := ih
    rw [List.cons_append, List.splitOnP_cons_eq_if_modifyHead, List.splitOnP_cons_eq_if_modifyHead,
      hsplit, hconcat]
    by_cases hy : sep y = true
    · rw [if_pos hy, if_pos hy]
      exact ⟨[] :: front, rest, rfl, rfl⟩
    · rw [if_neg hy, if_neg hy]
      cases front with
      | nil => exact ⟨[], y :: rest, rfl, rfl⟩
      | cons first front => exact ⟨(y :: first) :: front, rest, rfl, rfl⟩

theorem unfinished_concat {x : α} (h : sep x = false) (xs : List α) :
    unfinished sep (xs ++ [x]) = unfinished sep xs ++ [x] := by
  obtain ⟨front, rest, hsplit, hconcat⟩ := splitOnP_concat h xs
  unfold unfinished
  rw [hsplit, hconcat, List.getLastD_concat, List.getLastD_concat]

theorem lines_concat {x : α} (h : sep x = false) (xs : List α) :
    lines sep (xs ++ [x]) = lines sep xs := by
  obtain ⟨front, hsplit, hlength⟩ := splitOnP_ends sep xs
  obtain ⟨front', rest, hsplit', hconcat⟩ := splitOnP_concat h xs
  have hfront : front' = front := by
    have hsame := hsplit'.symm.trans hsplit
    exact (List.append_inj' hsame rfl).1
  unfold lines
  rw [hsplit, hconcat, hfront, List.filter_append,
    List.filter_cons_of_neg (by rw [h]; exact Bool.false_ne_true), List.filter_nil,
    List.append_nil, zip_longer hlength, zip_longer hlength]

/-- Reading a stream is carrying out its lines, one after the other. -/
theorem foldl_next (content : α → β) (f : σ → LineReader β capacity → α → σ) (s : σ)
    (xs : List α) :
    xs.foldl (next sep content f) (s, empty) =
      ((lines sep xs).foldl (fun s l => f s (behind capacity (l.1.map content)) l.2) s,
        behind capacity ((unfinished sep xs).map content)) := by
  induction xs using List.reverseRecOn with
  | nil => exact Prod.ext rfl behind_nil.symm
  | append_singleton xs x ih =>
    rw [List.foldl_append, ih, List.foldl_cons, List.foldl_nil]
    unfold next
    cases hx : sep x with
    | true =>
      rw [if_pos rfl, lines_sep hx, unfinished_sep hx, List.foldl_append, List.map_nil, behind_nil]
      rfl
    | false =>
      rw [if_neg Bool.false_ne_true, lines_concat hx, unfinished_concat hx, behind_read,
        List.map_append, List.map_cons, List.map_nil]

end LineReader

end UllReceiver.Library
