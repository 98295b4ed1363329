import UllReceiver.Library.Buffer

/-!
A ring in the first `M` cells of a buffer, read and written by one copy up to its end and a second
one from its beginning.
-/

namespace UllReceiver.Library

variable {α : Type*}

/-- How much of `len` cells lies before the end of the ring. -/
def beforeWrap (M start len : Nat) : Nat :=
  if M - start > len then len else M - start

/-- The `len` cells of the ring from `start` on. -/
def ringSpan (b : List α) (M start len : Nat) : List α :=
  (b.drop start).take (beforeWrap M start len) ++ b.take (len - beforeWrap M start len)

/-- The buffer with `xs` in the cells of the ring from `w` on. -/
def ringStore (b : List α) (M w : Nat) (xs : List α) : Option (List α) := do
  let b ← storeSpan b w (xs.take (beforeWrap M w xs.length))
  storeSpan b 0 (xs.drop (beforeWrap M w xs.length))

variable {b d : List α} {M start len w : Nat} {xs : List α}

theorem beforeWrap_le (M start len : Nat) : beforeWrap M start len ≤ len := by
  unfold beforeWrap
  split <;> omega

theorem beforeWrap_fits (len : Nat) (h : start ≤ M) : start + beforeWrap M start len ≤ M := by
  unfold beforeWrap
  split <;> omega

theorem ringIndex (hs : start < M) {k : Nat} (hk : k ≤ M) :
    (start + k) % M = if start + k < M then start + k else start + k - M := by
  split
  · next h => exact Nat.mod_eq_of_lt h
  · next h => rw [Nat.mod_eq_sub_mod (by omega), Nat.mod_eq_of_lt (by omega)]

theorem ringSpan_length (hs : start < M) (hl : len ≤ M) (hb : M ≤ b.length) :
    (ringSpan b M start len).length = len := by
  have h := beforeWrap_fits len (Nat.le_of_lt hs)
  have h' := beforeWrap_le M start len
  simp only [ringSpan, List.length_append, List.length_take, List.length_drop]
  have hrest : len - beforeWrap M start len ≤ M := by
    omega
  omega

/-- Cell `k` of the ring's contents. -/
theorem ringSpan_getElem? (hs : start < M) (hl : len ≤ M) (hb : M ≤ b.length) {k : Nat}
    (hk : k < len) : (ringSpan b M start len)[k]? = b[(start + k) % M]? := by
  rw [ringIndex hs (by omega), ringSpan]
  have hfirst : ((b.drop start).take (beforeWrap M start len)).length =
      beforeWrap M start len := by
    have h := beforeWrap_fits len (Nat.le_of_lt hs)
    rw [List.length_take, List.length_drop]
    omega
  by_cases hwrap : start + k < M
  · have hbefore : k < beforeWrap M start len := by
      unfold beforeWrap
      split <;> omega
    rw [if_pos hwrap, List.getElem?_append_left (by omega), List.getElem?_take_of_lt hbefore,
      List.getElem?_drop]
  · have hbefore : beforeWrap M start len = M - start := by
      unfold beforeWrap
      split <;> omega
    rw [if_neg hwrap, List.getElem?_append_right (by omega), hfirst, hbefore,
      List.getElem?_take_of_lt (by omega)]
    congr 1
    omega

/-- What the front of the ring gives up is what its contents lose. -/
theorem ringSpan_drop (hs : start < M) (hl : len ≤ M) (hb : M ≤ b.length) {d : Nat}
    (hd : d ≤ len) :
    ringSpan b M ((start + d) % M) (len - d) = (ringSpan b M start len).drop d := by
  have hs' : (start + d) % M < M := Nat.mod_lt _ (by omega)
  apply List.ext_getElem?
  intro k
  rw [List.getElem?_drop]
  by_cases hk : k < len - d
  · rw [ringSpan_getElem? hs' (by omega) hb hk, ringSpan_getElem? hs hl hb (by omega),
      Nat.mod_add_mod, Nat.add_assoc]
  · rw [List.getElem?_eq_none (by rw [ringSpan_length hs' (by omega) hb]; omega),
      List.getElem?_eq_none (by rw [ringSpan_length hs hl hb]; omega)]

theorem ringSpan_take (hs : start < M) (hl : len ≤ M) (hb : M ≤ b.length) {n : Nat}
    (hn : n ≤ len) : ringSpan b M start n = (ringSpan b M start len).take n := by
  apply List.ext_getElem?
  intro k
  by_cases hk : k < n
  · rw [List.getElem?_take_of_lt hk, ringSpan_getElem? hs (by omega) hb hk,
      ringSpan_getElem? hs hl hb (by omega)]
  · rw [List.getElem?_eq_none (by rw [ringSpan_length hs (by omega) hb]; omega),
      List.getElem?_eq_none (by rw [List.length_take]; omega)]

/-- The cells a copy has written, and those it has left alone. -/
theorem storeSpan_getElem? {i : Nat} (h : storeSpan b i xs = some d) (k : Nat) :
    d[k]? = if i ≤ k ∧ k < i + xs.length then xs[k - i]? else b[k]? := by
  unfold storeSpan at h
  split at h
  · next hfit =>
    cases h
    have hfront : (b.take i).length = i := by
      rw [List.length_take]
      omega
    rw [List.append_assoc]
    by_cases hk : k < i
    · rw [if_neg (by omega), List.getElem?_append_left (by omega), List.getElem?_take_of_lt hk]
    rw [List.getElem?_append_right (by omega), hfront]
    by_cases hx : k < i + xs.length
    · rw [if_pos ⟨by omega, hx⟩, List.getElem?_append_left (by omega)]
    · rw [if_neg (by omega), List.getElem?_append_right (by omega), List.getElem?_drop]
      congr 1
      omega
  · cases h

/-- Both copies stay inside the ring. -/
theorem ringStore_ok (hw : w < M) (hx : xs.length ≤ M) (hb : M ≤ b.length) :
    ∃ d, ringStore b M w xs = some d ∧ d.length = b.length := by
  have hfit := beforeWrap_fits xs.length (Nat.le_of_lt hw)
  obtain ⟨mid, hmid⟩ : ∃ mid, storeSpan b w (xs.take (beforeWrap M w xs.length)) = some mid := by
    refine ⟨_, if_pos ?_⟩
    rw [List.length_take]
    omega
  have hmidlen := storeSpan_length hmid
  obtain ⟨d, hc⟩ : ∃ d, storeSpan mid 0 (xs.drop (beforeWrap M w xs.length)) = some d := by
    refine ⟨_, if_pos ?_⟩
    rw [List.length_drop]
    omega
  refine ⟨d, ?_, (storeSpan_length hc).trans hmidlen⟩
  rw [ringStore, hmid]
  exact hc

/-- The cell of the ring that holds element `j` of what was written. -/
theorem ringStore_new (h : ringStore b M w xs = some d) (hw : w < M) (hx : xs.length ≤ M)
    {j : Nat} (hj : j < xs.length) : d[(w + j) % M]? = xs[j]? := by
  obtain ⟨mid, hmid, hc⟩ := Option.bind_eq_some_iff.mp h
  rw [ringIndex hw (by omega), storeSpan_getElem? hc, storeSpan_getElem? hmid]
  have hfirst : (xs.take (beforeWrap M w xs.length)).length = beforeWrap M w xs.length := by
    have := beforeWrap_le M w xs.length
    rw [List.length_take]
    omega
  rw [hfirst, List.length_drop]
  by_cases hwrap : w + j < M
  · have hbefore : j < beforeWrap M w xs.length := by
      unfold beforeWrap
      split <;> omega
    have hback : ¬ (w + j < xs.length - beforeWrap M w xs.length) := by
      unfold beforeWrap
      split <;> omega
    rw [if_pos hwrap, if_neg (by omega), if_pos (by omega), List.getElem?_take_of_lt (by omega)]
    congr 1
    omega
  · have hbefore : beforeWrap M w xs.length = M - w := by
      unfold beforeWrap
      split <;> omega
    rw [if_neg hwrap, if_pos (by omega), List.getElem?_drop, hbefore]
    congr 1
    omega

/-- A cell of the ring that nothing was written to. -/
theorem ringStore_old (h : ringStore b M w xs = some d) (hw : w < M)
    {j : Nat} (hj : xs.length ≤ j) (hM : j < M) : d[(w + j) % M]? = b[(w + j) % M]? := by
  obtain ⟨mid, hmid, hc⟩ := Option.bind_eq_some_iff.mp h
  rw [ringIndex hw (by omega), storeSpan_getElem? hc, storeSpan_getElem? hmid]
  have hfirst : (xs.take (beforeWrap M w xs.length)).length = beforeWrap M w xs.length := by
    have := beforeWrap_le M w xs.length
    rw [List.length_take]
    omega
  rw [hfirst, List.length_drop]
  by_cases hwrap : w + j < M
  · have hback : ¬ (w + j < xs.length - beforeWrap M w xs.length) ∧
        ¬ (w + j < w + beforeWrap M w xs.length) := by
      unfold beforeWrap
      split <;> omega
    rw [if_pos hwrap, if_neg (by omega), if_neg (by omega)]
  · have hback : ¬ (w + j - M < xs.length - beforeWrap M w xs.length) ∧ w + j - M < w := by
      unfold beforeWrap
      split <;> omega
    rw [if_neg hwrap, if_neg (by omega), if_neg (by omega)]

/-- Writing behind the contents appends to them. -/
theorem ringStore_append (h : ringStore b M ((start + len) % M) xs = some d) (hs : start < M)
    (hroom : len + xs.length ≤ M) (hb : M ≤ b.length) (hc : d.length = b.length) :
    ringSpan d M start (len + xs.length) = ringSpan b M start len ++ xs := by
  have hw : (start + len) % M < M := Nat.mod_lt _ (by omega)
  have hlen := ringSpan_length (b := b) hs (show len ≤ M by omega) hb
  apply List.ext_getElem?
  intro k
  by_cases hk : k < len + xs.length
  · rw [ringSpan_getElem? hs hroom (by omega) hk]
    by_cases hold : k < len
    · -- cell `k` comes round again `M - len + k` cells behind the first one written
      have hcell : (start + k) % M = ((start + len) % M + (M - len + k)) % M := by
        rw [Nat.mod_add_mod, show start + len + (M - len + k) = start + k + M by omega,
          Nat.add_mod_right]
      rw [List.getElem?_append_left (by omega), ringSpan_getElem? hs (by omega) hb hold, hcell,
        ringStore_old h hw (by omega) (by omega)]
    · obtain ⟨j, rfl⟩ : ∃ j, k = len + j := ⟨k - len, by omega⟩
      rw [List.getElem?_append_right (by omega), hlen, Nat.add_sub_cancel_left,
        ← Nat.add_assoc, ← Nat.mod_add_mod]
      exact ringStore_new h hw (by omega) (by omega)
  · rw [List.getElem?_eq_none (by rw [ringSpan_length hs hroom (by omega)]; omega),
      List.getElem?_eq_none (by rw [List.length_append, hlen]; omega)]

end UllReceiver.Library
