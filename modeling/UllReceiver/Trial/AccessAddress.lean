import Mathlib
import UllReceiver.Library.BitRuns

/-!
# Access addresses

`tone_trial.c`: the rules of the link layer that a random access address has to obey.
-/

namespace UllReceiver.Trial

open Library

/-- `run`, `transitions` and `top_transitions` of the loop. -/
structure AddressScan where
  run : Nat
  transitions : Nat
  topTransitions : Nat

/-- One turn of the loop; `none` is its early `return false`. -/
def addressStep (aa : UInt32) (s : AddressScan) (i : Nat) : Option AddressScan :=
  if (aa >>> UInt32.ofNat i ^^^ aa >>> UInt32.ofNat (i - 1)) &&& 1 ≠ 0 then
    some
      { run := 1
        transitions := s.transitions + 1
        topTransitions := if i ≥ 27 then s.topTransitions + 1 else s.topTransitions }
  else if s.run + 1 > 6 then none
  else some { s with run := s.run + 1 }

def aaValid (aa : UInt32) : Bool :=
  let difference := aa ^^^ 0x8e89bed6
  if difference = 0 ∨ difference &&& (difference - 1) = 0 then false
  else if aa.toUInt8 = (aa >>> 8).toUInt8 ∧ aa.toUInt8 = (aa >>> 16).toUInt8 ∧
      aa.toUInt8 = (aa >>> 24).toUInt8 then false
  else
    match (List.range' 1 31).foldlM (addressStep aa) ⟨1, 0, 0⟩ with
    | none => false
    | some s => s.transitions ≤ 24 ∧ s.topTransitions ≥ 2

/-! ## The rules -/

/-- Bit `i` of the address, the least significant one first. -/
def addressBit (aa : UInt32) (i : Nat) : Bool :=
  aa.toNat.testBit i

def octet (aa : UInt32) (i : Nat) : Nat :=
  aa.toNat / 256 ^ i % 256

structure ObeysRules (aa : UInt32) : Prop where
  /-- It differs from the advertising address in at least two bits. -/
  differs : 2 ≤ ((Finset.range 32).filter fun i => addressBit aa i ≠ addressBit 0x8e89bed6 i).card
  octets : ¬ ∀ i < 4, octet aa i = octet aa 0
  short : ¬ HasRun (addressBit aa) 6 32
  allChanges : changes (addressBit aa) 0 31 ≤ 24
  /-- The six most significant bits have five neighbours. -/
  topChanges : 2 ≤ changes (addressBit aa) 26 31

section Scan

variable {aa : UInt32}

theorem and_one_eq_zero (x : UInt32) : x &&& 1 = 0 ↔ x.toNat.testBit 0 = false := by
  rw [← UInt32.toNat_inj, UInt32.toNat_and, Nat.testBit_zero]
  change x.toNat &&& 1 = 0 ↔ _
  rw [Nat.and_one_is_mod, decide_eq_false_iff_not]
  omega

/-- The test of the loop: a bit and the one before it. -/
theorem neighbours_differ {i : Nat} (hi : i < 31) :
    (aa >>> UInt32.ofNat (i + 1) ^^^ aa >>> UInt32.ofNat i) &&& 1 ≠ 0 ↔
      addressBit aa i ≠ addressBit aa (i + 1) := by
  have hshift : ∀ j < 32, (aa >>> UInt32.ofNat j).toNat.testBit 0 = addressBit aa j := by
    intro j hj
    rw [UInt32.toNat_shiftRight, Nat.testBit_shiftRight, UInt32.toNat_ofNat', Nat.add_zero,
      Nat.mod_eq_of_lt (by omega : j < 2 ^ 32), Nat.mod_eq_of_lt hj]
    rfl
  rw [ne_eq, and_one_eq_zero, UInt32.toNat_xor, Nat.testBit_xor, hshift _ (by omega),
    hshift _ (by omega)]
  cases addressBit aa i <;> cases addressBit aa (i + 1) <;> decide

/-- What the loop knows when the bits up to `n` are scanned. -/
structure Scanned (aa : UInt32) (n : Nat) (s : AddressScan) : Prop where
  run : EndsRun (addressBit aa) n s.run
  short : ¬ HasRun (addressBit aa) 6 (n + 1)
  transitions : s.transitions = changes (addressBit aa) 0 n
  topTransitions : s.topTransitions = changes (addressBit aa) 26 n

theorem scanned_zero : Scanned aa 0 ⟨1, 0, 0⟩ where
  run := endsRun_zero
  short := by
    rintro ⟨i, hi, -⟩
    omega
  transitions := (changes_of_le (Nat.le_refl 0)).symm
  topTransitions := (changes_of_le (Nat.zero_le 26)).symm

/-- A turn of the loop keeps what it knows, or finds a run that is too long. -/
theorem scanned_step {n : Nat} {s : AddressScan} (h : Scanned aa n s) (hn : n < 31) :
    match addressStep aa s (n + 1) with
    | none => HasRun (addressBit aa) 6 (n + 2)
    | some t => Scanned aa (n + 1) t := by
  have htransitions := changes_succ (b := addressBit aa) (Nat.zero_le n)
  unfold addressStep
  rw [Nat.add_sub_cancel]
  by_cases hchange : addressBit aa n ≠ addressBit aa (n + 1)
  · rw [if_pos ((neighbours_differ hn).mpr hchange)]
    rw [if_pos hchange] at htransitions
    have hrun := endsRun_change hchange
    refine ⟨hrun, ?_, ?_, ?_⟩
    · rw [hrun.hasRun_iff h.short]
      decide
    · rw [htransitions, h.transitions]
    · show (if n + 1 ≥ 27 then s.topTransitions + 1 else s.topTransitions) = _
      split
      next htop =>
        rw [changes_succ (by omega : 26 ≤ n), if_pos hchange, h.topTransitions]
      next htop =>
        rw [h.topTransitions, changes_of_le (by omega), changes_of_le (by omega)]
  · rw [if_neg (fun hne => hchange ((neighbours_differ hn).mp hne))]
    rw [if_neg hchange] at htransitions
    have hrun := h.run.grow (not_not.mp hchange)
    have hlong := hrun.hasRun_iff h.short
    split
    next hnone =>
      split at hnone
      next hsix => exact hlong.mpr hsix
      · cases hnone
    next t hsome =>
      split at hsome
      · cases hsome
      next hsix =>
        cases hsome
        refine ⟨hrun, fun hhas => hsix (hlong.mp hhas), htransitions ▸ h.transitions, ?_⟩
        show s.topTransitions = _
        by_cases htop : 26 ≤ n
        · rw [changes_succ htop, if_neg hchange, h.topTransitions, Nat.add_zero]
        · rw [h.topTransitions, changes_of_le (by omega), changes_of_le (by omega)]

/-- The loop from bit `n` on. -/
theorem scanned_loop (count : Nat) : ∀ {n : Nat} {s : AddressScan}, Scanned aa n s →
    n + count ≤ 31 →
    match (List.range' (n + 1) count).foldlM (addressStep aa) s with
    | none => HasRun (addressBit aa) 6 (n + count + 1)
    | some t => Scanned aa (n + count) t := by
  induction count with
  | zero => exact fun h _ => h
  | succ count ih =>
      intro n s h hn
      have hstep := scanned_step h (by omega)
      rw [List.range'_succ, List.foldlM_cons]
      cases hnext : addressStep aa s (n + 1) with
      | none =>
          rw [hnext] at hstep
          exact hstep.mono (by omega)
      | some t =>
          rw [hnext] at hstep
          have hrest := ih hstep (by omega)
          rw [show n + (count + 1) = n + 1 + count by omega]
          exact hrest

/-- The test for a power of two. -/
theorem few_bits_iff (x : UInt32) : x = 0 ∨ x &&& (x - 1) = 0 ↔
    ((Finset.range 32).filter fun i => x.toNat.testBit i = true).card ≤ 1 := by
  by_cases hx : x = 0
  · have hnone : ((Finset.range 32).filter fun i => (0 : Nat).testBit i = true) = ∅ :=
      Finset.filter_eq_empty_iff.mpr fun i _ => by rw [Nat.zero_testBit]; exact Bool.false_ne_true
    rw [hx]
    show _ ↔ ((Finset.range 32).filter fun i => (0 : Nat).testBit i = true).card ≤ 1
    rw [hnone, Finset.card_empty]
    exact ⟨fun _ => Nat.zero_le 1, fun _ => .inl rfl⟩
  · have hpositive : x.toNat ≠ 0 := fun h => hx (UInt32.toNat_inj.mp h)
    have hminus : (x - 1).toNat = x.toNat - 1 := by
      apply UInt32.toNat_sub_of_le
      rw [UInt32.le_iff_toNat_le]
      exact Nat.pos_of_ne_zero hpositive
    rw [← isPowerOfTwo_iff hpositive x.toNat_lt,
      ← Nat.and_sub_one_eq_zero_iff_isPowerOfTwo hpositive, ← hminus, ← UInt32.toNat_and]
    constructor
    · intro h
      exact congrArg UInt32.toNat (h.resolve_left hx)
    · intro h
      exact .inr (UInt32.toNat_inj.mp h)

theorem differs_iff : 2 ≤ ((Finset.range 32).filter fun i =>
      addressBit aa i ≠ addressBit 0x8e89bed6 i).card ↔
    ¬ (aa ^^^ 0x8e89bed6 = 0 ∨ (aa ^^^ 0x8e89bed6) &&& ((aa ^^^ 0x8e89bed6) - 1) = 0) := by
  have hbits : ((Finset.range 32).filter fun i => addressBit aa i ≠ addressBit 0x8e89bed6 i) =
      (Finset.range 32).filter fun i => (aa ^^^ 0x8e89bed6).toNat.testBit i = true := by
    apply Finset.filter_congr
    intro i _
    rw [UInt32.toNat_xor, Nat.testBit_xor]
    show addressBit aa i ≠ _ ↔ ((addressBit aa i) ^^ (addressBit 0x8e89bed6 i)) = true
    cases addressBit aa i <;> cases addressBit 0x8e89bed6 i <;> decide
  rw [hbits, few_bits_iff]
  omega

theorem octets_iff : (∀ i < 4, octet aa i = octet aa 0) ↔
    aa.toUInt8 = (aa >>> 8).toUInt8 ∧ aa.toUInt8 = (aa >>> 16).toUInt8 ∧
      aa.toUInt8 = (aa >>> 24).toUInt8 := by
  have hlow : aa.toUInt8.toNat = octet aa 0 := by
    unfold octet
    rw [UInt32.toNat_toUInt8, Nat.pow_zero, Nat.div_one]
  have hshift : ∀ i < 4, (aa >>> UInt32.ofNat (8 * i)).toUInt8.toNat = octet aa i := by
    intro i hi
    unfold octet
    rw [UInt32.toNat_toUInt8, UInt32.toNat_shiftRight, UInt32.toNat_ofNat',
      Nat.mod_eq_of_lt (by omega : 8 * i < 2 ^ 32), Nat.mod_eq_of_lt (by omega : 8 * i < 32),
      Nat.shiftRight_eq_div_pow, Nat.pow_mul]
  have hone : ∀ i < 4, aa.toUInt8 = (aa >>> UInt32.ofNat (8 * i)).toUInt8 ↔
      octet aa i = octet aa 0 := by
    intro i hi
    rw [← UInt8.toNat_inj, hlow, hshift i hi]
    exact eq_comm
  constructor
  · intro h
    exact ⟨(hone 1 (by omega)).mpr (h 1 (by omega)), (hone 2 (by omega)).mpr (h 2 (by omega)),
      (hone 3 (by omega)).mpr (h 3 (by omega))⟩
  · rintro ⟨h1, h2, h3⟩ i hi
    rcases (by omega : i = 0 ∨ i = 1 ∨ i = 2 ∨ i = 3) with rfl | rfl | rfl | rfl
    · rfl
    · exact (hone 1 (by omega)).mp h1
    · exact (hone 2 (by omega)).mp h2
    · exact (hone 3 (by omega)).mp h3

end Scan

theorem aaValid_obeys {aa : UInt32} (h : aaValid aa = true) : ObeysRules aa := by
  have hloop := scanned_loop 31 (@scanned_zero aa) (by omega)
  unfold aaValid at h
  dsimp only at h
  -- each return of `false` contradicts the hypothesis, and the last test is the two counts
  split at h
  next => cases h
  next hfew =>
    split at h
    next => cases h
    next hsame =>
      split at hloop
      next hnone =>
        rw [hnone] at h
        cases h
      next s hsome =>
        rw [hsome] at h
        dsimp only at h
        rw [decide_eq_true_eq, hloop.transitions, hloop.topTransitions] at h
        exact ⟨differs_iff.mpr hfew, fun h => hsame (octets_iff.mp h), hloop.short, h.1, h.2⟩

theorem ObeysRules.valid {aa : UInt32} (h : ObeysRules aa) : aaValid aa = true := by
  have hloop := scanned_loop 31 (@scanned_zero aa) (by omega)
  have hfew := differs_iff.mp h.differs
  have hsame := fun hall => h.octets (octets_iff.mpr hall)
  unfold aaValid
  dsimp only
  rw [if_neg hfew, if_neg hsame]
  split at hloop
  next => exact absurd hloop h.short
  next s hsome =>
    rw [hsome]
    dsimp only
    rw [decide_eq_true_eq, hloop.transitions, hloop.topTransitions]
    exact ⟨h.allChanges, h.topChanges⟩

/-- `aa_valid` accepts exactly the addresses that obey the rules of the link layer. -/
theorem aaValid_iff (aa : UInt32) : aaValid aa = true ↔ ObeysRules aa :=
  ⟨aaValid_obeys, ObeysRules.valid⟩

end UllReceiver.Trial
