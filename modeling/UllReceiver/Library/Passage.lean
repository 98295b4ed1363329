import Mathlib

/-!
# What passes a lossy queue

The elements a queue accepts are numbered in the order in which they come. It may lose its oldest
ones to make room, hand its oldest ones on, and be cleared; so it always holds the last ones it has
accepted, and what it hands on has ever larger numbers.
-/

namespace UllReceiver.Library

structure Passage (α : Type*) where
  accepted : List α
  /-- The number of the oldest element that is held. -/
  head : Nat
  /-- What was handed on, oldest first, each with its number. -/
  delivered : List (Nat × α)
  dropped : Nat
  cleared : Nat

namespace Passage

variable {α : Type*}

def empty : Passage α :=
  ⟨[], 0, [], 0, 0⟩

def held (p : Passage α) : List α :=
  p.accepted.drop p.head

/-- New elements, for which the oldest `lost` give way. -/
def accept (p : Passage α) (new : List α) (lost : Nat) : Passage α :=
  { p with accepted := p.accepted ++ new, head := p.head + lost, dropped := p.dropped + lost }

/-- The oldest elements are handed on. -/
def deliver (p : Passage α) (got : List α) : Passage α :=
  { p with
    delivered := p.delivered ++ (List.range' p.head got.length).zip got
    head := p.head + got.length }

def clear (p : Passage α) : Passage α :=
  { p with
    head := p.accepted.length, cleared := p.cleared + (p.accepted.length - p.head) }

/-- Everything accepted is held, or was handed on under its number once and in order, dropped or
cleared. -/
structure Sound (p : Passage α) : Prop where
  within : p.head ≤ p.accepted.length
  account : p.delivered.length + p.dropped + p.cleared = p.head
  ordered : (p.delivered.map Prod.fst).Pairwise (· < ·)
  behind : ∀ d ∈ p.delivered, d.1 < p.head
  numbered : ∀ d ∈ p.delivered, p.accepted[d.1]? = some d.2

/-- What `q` has beyond `p`: more accepted, and of what was handed on since nothing that `p` no
longer held. -/
structure Onward (p q : Passage α) : Prop where
  accepted : p.accepted <+: q.accepted
  head : p.head ≤ q.head
  delivered : ∃ more, q.delivered = p.delivered ++ more ∧ ∀ d ∈ more, p.head ≤ d.1

variable {p q : Passage α}

theorem Sound.held_length (h : p.Sound) : p.head + p.held.length = p.accepted.length := by
  have := h.within
  rw [held, List.length_drop]
  omega

theorem sound_empty : (empty : Passage α).Sound where
  within := Nat.le_refl 0
  account := rfl
  ordered := List.Pairwise.nil
  behind := fun _ hd => nomatch hd
  numbered := fun _ hd => nomatch hd

/-! ## Accepting -/

theorem Sound.held_accept (h : p.Sound) (new : List α) (lost : Nat) :
    (p.accept new lost).held = (p.held ++ new).drop lost := by
  show (p.accepted ++ new).drop (p.head + lost) = _
  rw [← List.drop_drop, List.drop_append_of_le_length h.within]
  rfl

theorem Sound.accept (h : p.Sound) {new : List α} {lost : Nat}
    (hlost : lost ≤ p.held.length + new.length) : (p.accept new lost).Sound where
  within := by
    have := h.held_length
    show p.head + lost ≤ (p.accepted ++ new).length
    rw [List.length_append]
    omega
  account := by
    have := h.account
    show p.delivered.length + (p.dropped + lost) + p.cleared = p.head + lost
    omega
  ordered := h.ordered
  behind := fun d hd => Nat.lt_of_lt_of_le (h.behind d hd) (Nat.le_add_right _ _)
  numbered := fun d hd => by
    show (p.accepted ++ new)[d.1]? = some d.2
    rw [List.getElem?_append_left (Nat.lt_of_lt_of_le (h.behind d hd) h.within)]
    exact h.numbered d hd

theorem onward_accept (p : Passage α) (new : List α) (lost : Nat) : p.Onward (p.accept new lost) :=
  ⟨List.prefix_append _ _, Nat.le_add_right _ _, [], (List.append_nil _).symm,
    fun _ hd => nomatch hd⟩

/-! ## Handing on -/

theorem held_deliver (p : Passage α) (got : List α) :
    (p.deliver got).held = p.held.drop got.length :=
  List.drop_drop.symm

/-- Each element that is handed on has its number. -/
theorem mem_numbered {got : List α} {d : Nat × α}
    (hd : d ∈ (List.range' p.head got.length).zip got) :
    ∃ i, got[i]? = some d.2 ∧ d.1 = p.head + i := by
  obtain ⟨i, hi, rfl⟩ := List.mem_iff_getElem.mp hd
  rw [List.length_zip, List.length_range', Nat.min_self] at hi
  refine ⟨i, ?_, ?_⟩
  · rw [List.getElem_zip, List.getElem?_eq_getElem hi]
  · rw [List.getElem_zip, List.getElem_range', Nat.one_mul]

theorem Sound.deliver (h : p.Sound) {got : List α} (hgot : got <+: p.held) :
    (p.deliver got).Sound where
  within := by
    have hlen := h.held_length
    have hle := hgot.length_le
    show p.head + got.length ≤ p.accepted.length
    omega
  account := by
    have := h.account
    show (p.delivered ++ (List.range' p.head got.length).zip got).length + p.dropped + p.cleared =
      p.head + got.length
    rw [List.length_append, List.length_zip, List.length_range', Nat.min_self]
    omega
  ordered := by
    show ((p.delivered ++ _).map Prod.fst).Pairwise (· < ·)
    rw [List.map_append, List.map_fst_zip (Nat.le_of_eq List.length_range'), List.pairwise_append]
    refine ⟨h.ordered, List.pairwise_lt_range', ?_⟩
    intro a ha b hb
    obtain ⟨d, hd, rfl⟩ := List.mem_map.mp ha
    exact Nat.lt_of_lt_of_le (h.behind d hd) (List.mem_range'_1.mp hb).1
  behind := by
    intro d hd
    show d.1 < p.head + got.length
    rcases List.mem_append.mp hd with hd | hd
    · exact Nat.lt_of_lt_of_le (h.behind d hd) (Nat.le_add_right _ _)
    · obtain ⟨i, hi, hnumber⟩ := mem_numbered hd
      have := (List.getElem?_eq_some_iff.mp hi).1
      omega
  numbered := by
    intro d hd
    show p.accepted[d.1]? = some d.2
    rcases List.mem_append.mp hd with hd | hd
    · exact h.numbered d hd
    · obtain ⟨i, hi, hnumber⟩ := mem_numbered hd
      have hheld : p.held[i]? = some d.2 := by
        obtain ⟨rest, hrest⟩ := hgot
        rw [← hrest, List.getElem?_append_left (List.getElem?_eq_some_iff.mp hi).1, hi]
      rw [hnumber, ← List.getElem?_drop]
      exact hheld

theorem onward_deliver (p : Passage α) (got : List α) : p.Onward (p.deliver got) where
  accepted := List.prefix_rfl
  head := Nat.le_add_right _ _
  delivered := by
    refine ⟨_, rfl, fun d hd => ?_⟩
    obtain ⟨i, -, hnumber⟩ := mem_numbered hd
    omega

/-- Numbers that grow and stay below their count are all numbers below it. -/
theorem eq_range_of_pairwise {l : List Nat} {n : Nat} (hordered : l.Pairwise (· < ·))
    (hbelow : ∀ x ∈ l, x < n) (hlength : l.length = n) : l = List.range n := by
  induction n generalizing l with
  | zero => exact List.eq_nil_of_length_eq_zero hlength
  | succ n ih =>
    obtain ⟨front, last, rfl⟩ := List.eq_nil_or_concat l |>.resolve_left (by
      rintro rfl
      cases hlength)
    rw [List.concat_eq_append] at *
    rw [List.length_append, List.length_singleton] at hlength
    obtain ⟨hfront, -, hlast⟩ := List.pairwise_append.mp hordered
    have hfrontBelow : ∀ x ∈ front, x < last := fun x hx => hlast x hx last List.mem_cons_self
    have hle : last ≤ n :=
      Nat.lt_succ_iff.mp (hbelow last (List.mem_append_right _ List.mem_cons_self))
    have hrange := ih hfront (fun x hx => Nat.lt_of_lt_of_le (hfrontBelow x hx) hle)
      (Nat.succ.inj hlength)
    have hge : n ≤ last := by
      cases n with
      | zero => exact Nat.zero_le _
      | succ m =>
        apply hfrontBelow m
        rw [hrange]
        exact List.mem_range.mpr (Nat.lt_succ_self m)
    rw [hrange, Nat.le_antisymm hle hge, List.range_succ]

/-- When nothing was dropped or cleared, what was handed on and what is held is what was accepted. -/
theorem Sound.whole (h : p.Sound) (hdropped : p.dropped = 0) (hcleared : p.cleared = 0) :
    p.delivered.map Prod.snd ++ p.held = p.accepted := by
  have hnumbers : p.delivered.map Prod.fst = List.range p.head := by
    apply eq_range_of_pairwise h.ordered
    · intro x hx
      obtain ⟨d, hd, rfl⟩ := List.mem_map.mp hx
      exact h.behind d hd
    · have haccount := h.account
      rw [List.length_map]
      omega
  have htaken : p.delivered.map Prod.snd = p.accepted.take p.head := by
    have hlength : p.delivered.length = p.head := by
      have hcount := congrArg List.length hnumbers
      rwa [List.length_map, List.length_range] at hcount
    apply List.ext_getElem?
    intro i
    by_cases hi : i < p.head
    · have hnumber : p.delivered[i].1 = i := by
        have hith := congrArg (·[i]?) hnumbers
        rw [List.getElem?_map, List.getElem?_eq_getElem (by omega), List.getElem?_range hi] at hith
        exact Option.some.inj hith
      have hheld := h.numbered p.delivered[i] (List.getElem_mem _)
      rw [hnumber] at hheld
      rw [List.getElem?_map, List.getElem?_eq_getElem (by omega), List.getElem?_take_of_lt hi, hheld,
        Option.map_some]
    · rw [List.getElem?_eq_none (by rw [List.length_map]; omega),
        List.getElem?_eq_none (by rw [List.length_take]; omega)]
  rw [htaken]
  exact List.take_append_drop _ _

/-! ## Clearing -/

theorem held_clear (p : Passage α) : p.clear.held = [] :=
  List.drop_length

theorem Sound.clear (h : p.Sound) : p.clear.Sound where
  within := Nat.le_refl _
  account := by
    have haccount := h.account
    have hwithin := h.within
    show p.delivered.length + p.dropped + (p.cleared + (p.accepted.length - p.head)) =
      p.accepted.length
    omega
  ordered := h.ordered
  behind := fun d hd => Nat.lt_of_lt_of_le (h.behind d hd) h.within
  numbered := h.numbered

theorem Sound.onward_clear (h : p.Sound) : p.Onward p.clear :=
  ⟨List.prefix_rfl, h.within, [], (List.append_nil _).symm, fun _ hd => nomatch hd⟩

/-! ## Runs -/

theorem Onward.refl (p : Passage α) : p.Onward p :=
  ⟨List.prefix_rfl, Nat.le_refl _, [], (List.append_nil _).symm, fun _ hd => nomatch hd⟩

theorem Onward.trans {r : Passage α} (hpq : p.Onward q) (hqr : q.Onward r) : p.Onward r where
  accepted := hpq.accepted.trans hqr.accepted
  head := Nat.le_trans hpq.head hqr.head
  delivered := by
    obtain ⟨more, hmore, hbehind⟩ := hpq.delivered
    obtain ⟨rest, hrest, hlater⟩ := hqr.delivered
    refine ⟨more ++ rest, by rw [hrest, hmore, List.append_assoc], fun d hd => ?_⟩
    rcases List.mem_append.mp hd with hd | hd
    · exact hbehind d hd
    · exact Nat.le_trans hpq.head (hlater d hd)

end Passage

end UllReceiver.Library
