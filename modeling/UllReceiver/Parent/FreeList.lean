import UllReceiver.Library.LinkedChain
import UllReceiver.Parent.PoolReserve

/-!
# Walking the free list

`ull_pool_free_count` of `llcp_pool.c` and the walk of the FCF0 diagnostic of `controller_diag.c`,
over whatever the memory of the pool environment holds.  A walk that has used up its turns has no
result.
-/

namespace UllReceiver.Parent

open Library

/-- The pool environment and the pointers in memory. -/
structure PoolMemory where
  /-- `p_ble_util_buf_env` -/
  env : UInt32
  word : UInt32 → UInt32
  /-- Its 32 bytes and the twenty descriptors do not wrap around the address space. -/
  placed : env.toNat + 192 < 2 ^ 32

namespace PoolMemory

variable (p : PoolMemory)

/-- The loop of `ull_pool_free_count`. -/
def freeWalk : Nat → UInt32 → UInt32 → Int → Option Int
  | 0, _, _, _ => none
  | turns + 1, node, seen, count =>
      if node ≠ 0 then
        match descriptorIndex p.env node with
        | none => some (-1)
        | some index =>
            if seen &&& 1 <<< UInt32.ofNat index ≠ 0 then some (-1)
            else
              freeWalk turns (p.word node) (seen ||| 1 <<< UInt32.ofNat index) (count + 1)
      else some count

def ullPoolFreeCount (turns : Nat) : Option Int :=
  if p.env = 0 then some (-1) else p.freeWalk turns (p.word p.env) 0 0

/-- `result[5]` and `result[6]`. -/
structure WalkResult where
  free : UInt8
  fault : UInt8

/-- The loop of the diagnostic, with the node it ends at. -/
def diagnosticLoop : Nat → UInt32 → WalkResult → Option (UInt32 × WalkResult)
  | 0, _, _ => none
  | turns + 1, node, result =>
      if node ≠ 0 ∧ result.free < 20 then
        let first := p.env + 32
        if node < first ∨ node ≥ first + 20 * 8 ∨ (node - first) % 8 ≠ 0 then
          some (node, { result with fault := 1 })
        else diagnosticLoop turns (p.word node) { result with free := result.free + 1 }
      else some (node, result)

/-- The walk of `diagnostic`, as far as it bears on the list. -/
def diagnosticWalk (turns : Nat) : Option WalkResult := do
  let head := if p.env ≠ 0 then p.word p.env else 0
  let (node, result) ← p.diagnosticLoop turns head ⟨0, 0⟩
  let result := if node ≠ 0 then { result with fault := 1 } else result
  some (if p.env ≠ 0 then result else { result with fault := 2 })

/-! ## The list itself -/

/-- The address of a descriptor. -/
def slotNode (i : Slot) : UInt32 :=
  p.env + 32 + UInt32.ofNat (8 * i.val)

variable {p}

theorem slotNode_toNat (i : Slot) : (p.slotNode i).toNat = p.env.toNat + 32 + 8 * i.val := by
  have hplaced := p.placed
  have hi := i.isLt
  have hbase : (p.env + 32).toNat = p.env.toNat + 32 := by
    rw [UInt32.toNat_add]
    exact Nat.mod_eq_of_lt (by show p.env.toNat + 32 < 2 ^ 32; omega)
  unfold slotNode
  rw [UInt32.toNat_add, hbase, UInt32.toNat_ofNat',
    Nat.mod_eq_of_lt (by omega : 8 * i.val < 2 ^ 32), Nat.mod_eq_of_lt (by omega)]

variable (p) in
/-- The descriptors and what they point at. -/
def links : Links UInt32 Slot where
  null := 0
  cell := p.slotNode
  next := fun i => p.word (p.slotNode i)
  cell_ne_null := by
    intro i h
    have hnode := congrArg UInt32.toNat h
    rw [slotNode_toNat] at hnode
    change _ = 0 at hnode
    omega
  cell_injective := by
    intro i j h
    have hnode := congrArg UInt32.toNat h
    rw [slotNode_toNat, slotNode_toNat] at hnode
    exact Fin.ext (by omega)

variable (p) in
/-- The list from the head is an acyclic chain of `n` descriptors. -/
def FreeList (n : Nat) : Prop :=
  p.env ≠ 0 ∧ ∃ slots, p.links.IsChain (p.word p.env) slots ∧ slots.Nodup ∧ slots.length = n

theorem base_toNat : (p.env + 32).toNat = p.env.toNat + 32 ∧
    (p.env + 32 + 160).toNat = p.env.toNat + 192 := by
  have hplaced := p.placed
  have hbase : (p.env + 32).toNat = p.env.toNat + 32 := by
    rw [UInt32.toNat_add]
    exact Nat.mod_eq_of_lt (by show p.env.toNat + 32 < 2 ^ 32; omega)
  refine ⟨hbase, ?_⟩
  rw [UInt32.toNat_add, hbase]
  exact Nat.mod_eq_of_lt (by show p.env.toNat + 32 + 160 < 2 ^ 32; omega)

/-- The test both walks make of a node. -/
theorem outside_iff (node : UInt32) :
    (node < p.env + 32 ∨ node ≥ p.env + 32 + 160 ∨ (node - (p.env + 32)) % 8 ≠ 0) ↔
      ∀ i, node ≠ p.slotNode i := by
  obtain ⟨hbase, hend⟩ := base_toNat (p := p)
  have height : ((node - (p.env + 32)) % 8 ≠ 0) ↔ (node - (p.env + 32)).toNat % 8 ≠ 0 := by
    rw [ne_eq, ← UInt32.toNat_inj, UInt32.toNat_mod]
    rfl
  rw [UInt32.lt_iff_toNat_lt, ge_iff_le, UInt32.le_iff_toNat_le, height, hbase, hend]
  by_cases hinside : p.env.toNat + 32 ≤ node.toNat
  · rw [UInt32.toNat_sub_of_le _ _ (by rw [UInt32.le_iff_toNat_le, hbase]; exact hinside), hbase]
    constructor
    · intro houtside i heq
      have hnode := congrArg UInt32.toNat heq
      rw [slotNode_toNat] at hnode
      have hi := i.isLt
      omega
    · -- an address inside that is a multiple of eight is that of a slot
      intro hno
      by_contra hslot
      rw [not_or, not_or] at hslot
      refine hno ⟨(node.toNat - (p.env.toNat + 32)) / 8, by omega⟩ (UInt32.toNat_inj.mp ?_)
      rw [slotNode_toNat]
      show node.toNat = p.env.toNat + 32 + 8 * ((node.toNat - (p.env.toNat + 32)) / 8)
      omega
  · constructor
    · intro _ i heq
      have hnode := congrArg UInt32.toNat heq
      rw [slotNode_toNat] at hnode
      omega
    · exact fun _ => .inl (by omega)

theorem descriptorIndex_slot (henv : p.env ≠ 0) (i : Slot) :
    descriptorIndex p.env (p.slotNode i) = some i.val := by
  have hinside := (outside_iff (p.slotNode i)).not.mpr fun h => h i rfl
  unfold descriptorIndex
  dsimp only
  rw [if_neg (not_or.mpr ⟨henv, hinside⟩)]
  obtain ⟨hbase, -⟩ := base_toNat (p := p)
  have hle : p.env + 32 ≤ p.slotNode i := by
    rw [UInt32.le_iff_toNat_le, hbase, slotNode_toNat]
    omega
  rw [UInt32.toNat_div, UInt32.toNat_sub_of_le _ _ hle, hbase, slotNode_toNat]
  congr 1
  show (p.env.toNat + 32 + 8 * i.val - (p.env.toNat + 32)) / 8 = i.val
  omega

theorem descriptorIndex_outside {node : UInt32} (h : ∀ i, node ≠ p.slotNode i) :
    descriptorIndex p.env node = none :=
  if_pos (.inr ((outside_iff node).mpr h))

/-! ## The walk that marks what it has seen -/

/-- The set bits of `seen` are the slots visited. -/
def Marks (visited : List Slot) (seen : UInt32) : Prop :=
  ∀ i : Slot, seen &&& 1 <<< UInt32.ofNat i.val ≠ 0 ↔ i ∈ visited

theorem bit_toNat (i : Slot) : ((1 : UInt32) <<< UInt32.ofNat i.val).toNat = 2 ^ i.val := by
  revert i
  decide +kernel

theorem marked_iff (seen : UInt32) (i : Slot) :
    seen &&& 1 <<< UInt32.ofNat i.val ≠ 0 ↔ seen.toNat.testBit i.val = true := by
  rw [ne_eq, ← UInt32.toNat_inj, UInt32.toNat_and, bit_toNat]
  change ¬ seen.toNat &&& 2 ^ i.val = 0 ↔ _
  constructor
  · intro h
    by_contra hclear
    refine h (Nat.eq_of_testBit_eq fun j => ?_)
    rw [Nat.testBit_and, Nat.testBit_two_pow, Nat.zero_testBit]
    by_cases hij : i.val = j
    · rw [← hij, Bool.eq_false_of_not_eq_true hclear, Bool.false_and]
    · rw [decide_eq_false hij, Bool.and_false]
  · intro hset h
    have hbit := congrArg (Nat.testBit · i.val) h
    simp only [Nat.testBit_and, Nat.testBit_two_pow_self, hset, Nat.zero_testBit] at hbit
    cases hbit

theorem marks_nil : Marks [] 0 := by
  intro i
  rw [marked_iff]
  change (0 : Nat).testBit i.val = true ↔ _
  rw [Nat.zero_testBit]
  exact ⟨fun h => (nomatch h), fun h => (nomatch h)⟩

theorem Marks.add {visited : List Slot} {seen : UInt32} (h : Marks visited seen) (i : Slot) :
    Marks (i :: visited) (seen ||| 1 <<< UInt32.ofNat i.val) := by
  intro j
  have hold := h j
  rw [marked_iff] at hold ⊢
  rw [UInt32.toNat_or, bit_toNat, Nat.testBit_or, Nat.testBit_two_pow, Bool.or_eq_true, hold,
    List.mem_cons, decide_eq_true_iff, Fin.val_inj]
  constructor
  · rintro (hmem | rfl)
    · exact .inr hmem
    · exact .inl rfl
  · rintro (rfl | hmem)
    · exact .inr rfl
    · exact .inl hmem

/-- From a node on, with slots visited before it: the count of the rest of the list if it meets
none of them, else -1. -/
theorem freeWalk_spec (henv : p.env ≠ 0) (turns : Nat) :
    ∀ (node seen : UInt32) (count : Int) (visited : List Slot), Marks visited seen →
      visited.Nodup → 20 < turns + visited.length →
      (∀ slots, p.links.IsChain node slots → (∀ i ∈ slots, i ∉ visited) →
        p.freeWalk turns node seen count = some (count + slots.length)) ∧
      ((¬ ∃ slots, p.links.IsChain node slots ∧ ∀ i ∈ slots, i ∉ visited) →
        p.freeWalk turns node seen count = some (-1)) := by
  -- the turns left and the slots visited are more than there are slots
  induction turns with
  | zero =>
      intro _ _ _ visited _ hnodup hturns
      have hmost := hnodup.length_le_card
      rw [Fintype.card_fin] at hmost
      omega
  | succ turns ih =>
      intro node seen count visited hmarks hnodup hturns
      unfold freeWalk
      by_cases hnode : node = 0
      · rw [if_neg (not_not.mpr hnode)]
        have hend : p.links.IsChain node [] := hnode
        constructor
        · intro slots hchain _
          rw [← hend.unique hchain]
          exact congrArg some (Int.add_zero count).symm
        · intro hno
          exact absurd ⟨[], hend, fun _ h => absurd h List.not_mem_nil⟩ hno
      · rw [if_pos hnode]
        by_cases hslot : ∃ i, node = p.slotNode i
        · obtain ⟨i, rfl⟩ := hslot
          rw [descriptorIndex_slot henv]
          dsimp only
          by_cases hseen : i ∈ visited
          · -- the walk has come round
            rw [if_pos ((hmarks i).mpr hseen)]
            constructor
            · intro slots hchain hnew
              cases slots with
              | nil => exact absurd hchain (p.links.cell_ne_null i)
              | cons j slots =>
                  rw [p.links.cell_injective hchain.1] at hseen
                  exact absurd hseen (hnew j List.mem_cons_self)
            · exact fun _ => rfl
          · rw [if_neg (fun hbit => hseen ((hmarks i).mp hbit))]
            obtain ⟨hchain, hnone⟩ := ih (p.word (p.slotNode i))
              (seen ||| 1 <<< UInt32.ofNat i.val) (count + 1) (i :: visited) (hmarks.add i)
              (List.nodup_cons.mpr ⟨hseen, hnodup⟩) (by rw [List.length_cons]; omega)
            constructor
            · intro slots hslots hnew
              cases slots with
              | nil => exact absurd hslots (p.links.cell_ne_null i)
              | cons j slots =>
                  obtain rfl : i = j := p.links.cell_injective hslots.1
                  have hapart := (List.nodup_cons.mp hslots.nodup).1
                  have hrest : ∀ k ∈ slots, k ∉ i :: visited := by
                    intro k hk hmem
                    rcases List.mem_cons.mp hmem with rfl | hmem
                    · exact hapart hk
                    · exact hnew k (List.mem_cons_of_mem _ hk) hmem
                  rw [hchain slots hslots.2 hrest, List.length_cons]
                  congr 1
                  omega
            · intro hno
              refine hnone fun ⟨slots, hslots, hnew⟩ => hno ⟨i :: slots, ⟨rfl, hslots⟩, ?_⟩
              intro k hk
              rcases List.mem_cons.mp hk with rfl | hk
              · exact hseen
              · exact fun hmem => hnew k hk (List.mem_cons_of_mem i hmem)
        · -- a pointer out of the pool
          have hout : ∀ i, node ≠ p.slotNode i := fun i heq => hslot ⟨i, heq⟩
          rw [descriptorIndex_outside hout]
          constructor
          · intro slots hchain _
            cases slots with
            | nil => exact absurd hchain hnode
            | cons j slots => exact absurd hchain.1 (hout j)
          · exact fun _ => rfl

/-! ## The walk with a bound -/

/-- From a node on, with some slots counted: it ends at the null pointer with the rest of the list
counted, or at another node. -/
theorem diagnosticLoop_spec (turns : Nat) :
    ∀ (node : UInt32) (r : WalkResult), r.free.toNat ≤ 20 → 20 - r.free.toNat < turns →
      (∀ slots, p.links.IsChain node slots → r.free.toNat + slots.length ≤ 20 →
        ∃ t, p.diagnosticLoop turns node r = some (0, t) ∧ t.fault = r.fault ∧
          t.free.toNat = r.free.toNat + slots.length) ∧
      ((¬ ∃ slots, p.links.IsChain node slots ∧ r.free.toNat + slots.length ≤ 20) →
        ∃ node' t, p.diagnosticLoop turns node r = some (node', t) ∧ node' ≠ 0) := by
  induction turns with
  | zero => exact fun _ _ _ hturns => absurd hturns (Nat.not_lt_zero _)
  | succ turns ih =>
      intro node r hfree hturns
      have hbound : r.free < 20 ↔ r.free.toNat < 20 := UInt8.lt_iff_toNat_lt
      have hwidth : (20 * 8 : UInt32) = 160 := by decide
      unfold diagnosticLoop
      rw [hwidth]
      by_cases hnode : node = 0
      · rw [if_neg (fun h => h.1 hnode)]
        have hend : p.links.IsChain node [] := hnode
        constructor
        · intro slots hchain _
          rw [← hend.unique hchain, hnode]
          exact ⟨r, rfl, rfl, rfl⟩
        · intro hno
          exact absurd ⟨[], hend, hfree⟩ hno
      · by_cases hmore : r.free.toNat < 20
        · rw [if_pos ⟨hnode, hbound.mpr hmore⟩]
          dsimp only
          by_cases hslot : ∃ i, node = p.slotNode i
          · obtain ⟨i, rfl⟩ := hslot
            have hinside := (outside_iff (p.slotNode i)).not.mpr fun h => h i rfl
            rw [if_neg hinside]
            have hnext : (r.free + 1).toNat = r.free.toNat + 1 := by
              rw [UInt8.toNat_add]
              exact Nat.mod_eq_of_lt (by show r.free.toNat + 1 < 2 ^ 8; omega)
            obtain ⟨hchain, hnone⟩ := ih (p.word (p.slotNode i)) { r with free := r.free + 1 }
              (by show (r.free + 1).toNat ≤ 20; omega)
              (by show 20 - (r.free + 1).toNat < turns; omega)
            simp only [hnext] at hchain hnone
            constructor
            · intro slots hslots hfits
              cases slots with
              | nil => exact absurd hslots (p.links.cell_ne_null i)
              | cons j slots =>
                  obtain rfl : i = j := p.links.cell_injective hslots.1
                  rw [List.length_cons] at hfits ⊢
                  obtain ⟨t, hloop, hfault, hcount⟩ := hchain slots hslots.2 (by omega)
                  exact ⟨t, hloop, hfault, by omega⟩
            · intro hno
              refine hnone fun ⟨slots, hslots, hfits⟩ => hno ⟨i :: slots, ⟨rfl, hslots⟩, ?_⟩
              rw [List.length_cons]
              omega
          · have hout : ∀ i, node ≠ p.slotNode i := fun i heq => hslot ⟨i, heq⟩
            have houtside := (outside_iff node).mpr hout
            rw [if_pos houtside]
            constructor
            · intro slots hchain _
              cases slots with
              | nil => exact absurd hchain hnode
              | cons j slots => exact absurd hchain.1 (hout j)
            · exact fun _ => ⟨node, _, rfl, hnode⟩
        · -- twenty slots are counted, and the list still goes on
          rw [if_neg (fun h => hmore (hbound.mp h.2))]
          constructor
          · intro slots hchain hfits
            cases slots with
            | nil => exact absurd hchain hnode
            | cons j slots =>
                rw [List.length_cons] at hfits
                omega
          · exact fun _ => ⟨node, r, rfl, hnode⟩

/-! ## Their verdicts -/

theorem freeList_le {n : Nat} (h : p.FreeList n) : n ≤ 20 := by
  obtain ⟨-, slots, hchain, -, rfl⟩ := h
  have hmost := hchain.length_le
  rwa [Fintype.card_fin] at hmost

theorem freeList_unique {n m : Nat} (hn : p.FreeList n) (hm : p.FreeList m) : n = m := by
  obtain ⟨-, xs, hx, -, rfl⟩ := hn
  obtain ⟨-, ys, hy, -, rfl⟩ := hm
  rw [hx.unique hy]

theorem freeCount_of_freeList {n turns : Nat} (h : p.FreeList n) (hturns : 21 ≤ turns) :
    p.ullPoolFreeCount turns = some (n : Int) := by
  obtain ⟨henv, slots, hchain, -, rfl⟩ := h
  obtain ⟨hwalk, -⟩ := freeWalk_spec henv turns (p.word p.env) 0 0 [] marks_nil List.nodup_nil
    (by rw [List.length_nil]; omega)
  unfold ullPoolFreeCount
  rw [if_neg henv, hwalk slots hchain fun _ _ => List.not_mem_nil, Int.zero_add]

theorem freeCount_of_none {turns : Nat} (h : ¬ ∃ n, p.FreeList n) (hturns : 21 ≤ turns) :
    p.ullPoolFreeCount turns = some (-1) := by
  unfold ullPoolFreeCount
  split
  · rfl
  next henv =>
    obtain ⟨-, hwalk⟩ := freeWalk_spec henv turns (p.word p.env) 0 0 [] marks_nil List.nodup_nil
      (by rw [List.length_nil]; omega)
    refine hwalk fun ⟨slots, hchain, _⟩ => h ⟨slots.length, henv, slots, hchain, ?_, rfl⟩
    exact hchain.nodup

theorem diagnosticWalk_of_freeList {n turns : Nat} (h : p.FreeList n) (hturns : 21 ≤ turns) :
    ∃ r, p.diagnosticWalk turns = some r ∧ r.fault = 0 ∧ r.free.toNat = n := by
  have hmost := freeList_le h
  obtain ⟨henv, slots, hchain, -, rfl⟩ := h
  obtain ⟨hloop, -⟩ := diagnosticLoop_spec (p := p) turns (p.word p.env) ⟨0, 0⟩ (Nat.zero_le 20)
    (by show 20 - 0 < turns; omega)
  obtain ⟨t, hrun, hfault, hfree⟩ := hloop slots hchain (by show 0 + slots.length ≤ 20; omega)
  refine ⟨t, ?_, hfault, hfree.trans (Nat.zero_add _)⟩
  unfold diagnosticWalk
  dsimp only
  rw [if_pos henv, hrun, Option.bind_eq_bind, Option.bind_some]
  dsimp only
  rw [if_neg (not_not.mpr rfl), if_pos henv]

theorem diagnosticWalk_of_none {turns : Nat} (h : ¬ ∃ n, p.FreeList n) (hturns : 21 ≤ turns) :
    ∃ r, p.diagnosticWalk turns = some r ∧ r.fault ≠ 0 := by
  have hspec := diagnosticLoop_spec (p := p) turns (if p.env ≠ 0 then p.word p.env else 0) ⟨0, 0⟩
    (Nat.zero_le 20) (by show 20 - 0 < turns; omega)
  unfold diagnosticWalk
  dsimp only
  by_cases henv : p.env = 0
  · rw [if_neg (not_not.mpr henv)] at hspec ⊢
    have hend : p.links.IsChain 0 [] := rfl
    obtain ⟨t, hrun, -, -⟩ := hspec.1 [] hend (Nat.zero_le 20)
    rw [hrun, Option.bind_eq_bind, Option.bind_some]
    refine ⟨_, rfl, ?_⟩
    rw [if_neg (not_not.mpr henv)]
    show (2 : UInt8) ≠ 0
    decide
  · rw [if_pos henv] at hspec ⊢
    obtain ⟨node, t, hrun, hnode⟩ := hspec.2 fun ⟨slots, hchain, _⟩ =>
      h ⟨slots.length, henv, slots, hchain, hchain.nodup, rfl⟩
    rw [hrun, Option.bind_eq_bind, Option.bind_some]
    refine ⟨_, rfl, ?_⟩
    dsimp only
    rw [if_pos henv, if_pos hnode]
    show (1 : UInt8) ≠ 0
    decide

end PoolMemory

/-- Whatever the memory holds, `ull_pool_free_count` ends, with the number of descriptors if the
list is an acyclic chain of them and with -1 if not; and the diagnostic ends without a fault, and
with a count, just when `ull_pool_free_count` returns that count. -/
theorem free_walks (p : PoolMemory) :
    ∃ r : Int, (∀ turns ≥ 21, p.ullPoolFreeCount turns = some r) ∧
      (∀ n : Nat, r = n ↔ p.FreeList n) ∧ (r = -1 ↔ ¬ ∃ n, p.FreeList n) ∧ (r = -1 ∨ 0 ≤ r) ∧
      ∀ turns ≥ 21, ∃ w, p.diagnosticWalk turns = some w ∧
        ∀ n : Nat, (w.fault = 0 ∧ w.free.toNat = n) ↔ r = n := by
  by_cases hlist : ∃ n, p.FreeList n
  · obtain ⟨n, hn⟩ := hlist
    refine ⟨n, fun turns h => PoolMemory.freeCount_of_freeList hn h, ?_, ?_, .inr (by omega), ?_⟩
    · intro m
      constructor
      · intro h
        rwa [← Int.ofNat_inj.mp h]
      · intro hm
        rw [PoolMemory.freeList_unique hn hm]
    · exact ⟨fun h => by omega, fun h => absurd ⟨n, hn⟩ h⟩
    · intro turns hturns
      obtain ⟨w, hwalk, hfault, hfree⟩ := PoolMemory.diagnosticWalk_of_freeList hn hturns
      refine ⟨w, hwalk, fun m => ?_⟩
      rw [hfree]
      exact ⟨fun h => congrArg _ h.2, fun h => ⟨hfault, Int.ofNat_inj.mp h⟩⟩
  · refine ⟨-1, fun turns h => PoolMemory.freeCount_of_none hlist h, ?_, ⟨fun _ => hlist,
      fun _ => rfl⟩, .inl rfl, ?_⟩
    · intro n
      exact ⟨fun h => by omega, fun h => absurd ⟨n, h⟩ hlist⟩
    · intro turns hturns
      obtain ⟨w, hwalk, hfault⟩ := PoolMemory.diagnosticWalk_of_none hlist hturns
      refine ⟨w, hwalk, fun n => ?_⟩
      exact ⟨fun h => absurd h.1 hfault, fun h => by omega⟩

theorem freeEnv_placed : (0x3fc90000 : UInt32).toNat + 192 < 2 ^ 32 := by
  decide

/-- The last descriptor, the first and the second are free, in this order. -/
def threeFree : PoolMemory where
  env := 0x3fc90000
  word a :=
    if a = 0x3fc90000 then 0x3fc900b8
    else if a = 0x3fc900b8 then 0x3fc90020
    else if a = 0x3fc90020 then 0x3fc90028
    else 0
  placed := freeEnv_placed

/-- The same, but the second points back at the last. -/
def loopedFree : PoolMemory :=
  { threeFree with word := fun a => if a = 0x3fc90028 then 0x3fc900b8 else threeFree.word a }

theorem free_walks_three :
    threeFree.FreeList 3 ∧ threeFree.ullPoolFreeCount 21 = some 3 ∧
      (∃ w, threeFree.diagnosticWalk 21 = some w ∧ w.fault = 0 ∧ w.free.toNat = 3) ∧
      ¬∃ n, loopedFree.FreeList n := by
  obtain ⟨r, hcount, hlist, -, -, hwalk⟩ := free_walks threeFree
  obtain ⟨q, hlooped, -, hnone, -⟩ := free_walks loopedFree
  have hthree : threeFree.ullPoolFreeCount 21 = some 3 := by decide
  have hfault : loopedFree.ullPoolFreeCount 21 = some (-1) := by decide
  obtain rfl : r = 3 := Option.some.inj ((hcount 21 le_rfl).symm.trans hthree)
  obtain rfl : q = -1 := Option.some.inj ((hlooped 21 le_rfl).symm.trans hfault)
  obtain ⟨w, hw, hfree⟩ := hwalk 21 le_rfl
  exact ⟨(hlist 3).mp rfl, hthree, ⟨w, hw, (hfree 3).mpr rfl⟩, hnone.mp rfl⟩

end UllReceiver.Parent
