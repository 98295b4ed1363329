import UllReceiver.Parent.LlcpPool
import UllReceiver.Library.Buffer
import Mathlib

/-!
# Reserving adjacent slots

`ull_pool_reserve` and `ull_pool_release` of `llcp_pool.c` on the descriptors themselves, as the
ROM's allocator hands them out. A null pointer is 0, and an access outside an array is `none`.
-/

namespace UllReceiver.Parent

open Library

/-- A descriptor from the allocator with the offset in its memory. -/
structure Drawn where
  node : UInt32
  offset : UInt16

/-- `descriptor_index`, where `none` is -1. -/
def descriptorIndex (env node : UInt32) : Option Nat :=
  let base := env + 32
  if env = 0 ∨ node < base ∨ node ≥ base + 160 ∨ (node - base) % 8 ≠ 0 then none
  else some ((node - base) / 8).toNat

/-- Offset of the buffer of slot `i`. -/
def poolOffset (i : Nat) : UInt16 :=
  0x1c00 + 27 * UInt16.ofNat i

/-- What the allocation loop leaves: whether every descriptor was sound, the descriptors owned, and
those the allocator handed out. -/
structure PoolTaken where
  valid : Bool
  owned : List UInt32
  drawn : List Drawn

/-- The allocation loop of `ull_pool_reserve` for `n` more calls. -/
def drawAll (env : UInt32) : Nat → List Drawn → List UInt32 → Option PoolTaken
  | 0, _, owned => some ⟨true, owned, []⟩
  | _ + 1, [], owned => some ⟨true, owned, []⟩
  | n + 1, d :: rest, owned =>
      if d.node = 0 then some ⟨true, owned, []⟩
      else
        match descriptorIndex env d.node with
        | none => some ⟨false, owned, [d]⟩
        | some index => do
            let held ← load owned index
            if held ≠ 0 then some ⟨false, owned, [d]⟩
            else do
              let owned ← store owned index d.node
              if d.offset ≠ poolOffset index then some ⟨false, owned, [d]⟩
              else do
                let t ← drawAll env n rest owned
                some { t with drawn := d :: t.drawn }

/-- The search for `count` adjacent slots. -/
def findRun (owned : List UInt32) (count : Nat) : Option (Option Nat) :=
  (List.range (21 - count)).findM? fun i =>
    (List.range count).allM fun j => (load owned (i + j)).map (· != 0)

/-- The search is made only when every descriptor was sound. -/
def PoolTaken.search (t : PoolTaken) (count : Nat) : Option (Option Nat) :=
  if t.valid then findRun t.owned count else some none

/-- What the last loop of `ull_pool_reserve` has written and given back. -/
structure PoolSettled where
  descriptors : List UInt32
  offsets : List UInt16
  freed : List UInt16

def inRun (start : Option Nat) (count i : Nat) : Bool :=
  start.any fun start => decide (start ≤ i) && decide (i < start + count)

def settleSlot (start : Option Nat) (count : Nat) (owned : List UInt32) (s : PoolSettled)
    (i : Nat) : Option PoolSettled := do
  let d ← load owned i
  if d = 0 then some s
  else if inRun start count i then do
    let j := i - start.getD 0
    let descriptors ← store s.descriptors j d
    let offsets ← store s.offsets j (poolOffset i)
    some { s with descriptors := descriptors, offsets := offsets }
  else some { s with freed := s.freed ++ [poolOffset i] }

def settleAll (start : Option Nat) (count : Nat) (owned : List UInt32) : Option PoolSettled :=
  (List.range 20).foldlM (settleSlot start count owned)
    ⟨List.replicate 7 0, List.replicate 7 0, []⟩

/-- `ull_pool_reservation_t` -/
structure ReservationRecord where
  descriptors : List UInt32
  offsets : List UInt16
  memory : UInt32
  count : Nat

def ReservationRecord.zero : ReservationRecord :=
  ⟨List.replicate 7 0, List.replicate 7 0, 0, 0⟩

/-- What a call returns, leaves in its record, gives back, and was handed out. -/
structure ReserveReply where
  ok : Bool
  record : Option ReservationRecord
  freed : List UInt16
  drawn : List Drawn

/-- `ull_pool_reserve` against an allocator that hands out `draws` and then nothing. -/
def ullPoolReserve (memAddr : UInt16 → UInt32) (env : UInt32) (draws : List Drawn)
    (r : Option ReservationRecord) (count : Nat) : Option ReserveReply :=
  match r with
  | none => some ⟨false, none, [], []⟩
  | some r =>
      if count < 1 ∨ count > 7 then some ⟨false, some r, [], []⟩
      else do
        let t ← drawAll env 20 draws (List.replicate 20 0)
        let found ← t.search count
        let start := found.filter fun start => LlcpPool.contiguous memAddr start count
        let s ← settleAll start count t.owned
        match start with
        | none => some ⟨false, some .zero, s.freed, t.drawn⟩
        | some start =>
            let record := ⟨s.descriptors, s.offsets, memAddr (poolOffset start), count⟩
            some ⟨true, some record, s.freed, t.drawn⟩

def releaseSlot (offsets : List UInt16) (s : List UInt32 × List UInt16) (i : Nat) :
    Option (List UInt32 × List UInt16) := do
  let d ← load s.1 i
  if d = 0 then some s
  else do
    let offset ← load offsets i
    let descriptors ← store s.1 i 0
    some (descriptors, s.2 ++ [offset])

/-- `ull_pool_release` with the offsets it gives back. -/
def ullPoolRelease (r : ReservationRecord) (first : Nat) :
    Option (ReservationRecord × List UInt16) := do
  let (descriptors, freed) ←
    (List.range' first (r.count - first)).foldlM (releaseSlot r.offsets) (r.descriptors, [])
  some (if first = 0 then .zero else { r with descriptors := descriptors }, freed)

/-! ## What the calls are about -/

/-- The descriptor is that of slot `i`. -/
def Drawn.Of (env : UInt32) (i : Nat) (d : Drawn) : Prop :=
  descriptorIndex env d.node = some i

/-- No descriptor is foreign, wrongly addressed or a repetition. -/
def NoneBad (env : UInt32) (drawn : List Drawn) : Prop :=
  (∀ d ∈ drawn, ∃ i, d.Of env i ∧ d.offset = poolOffset i) ∧
    (drawn.map fun d => descriptorIndex env d.node).Nodup

/-- Slot `i` was handed out. -/
def TakenSlot (env : UInt32) (drawn : List Drawn) (i : Nat) : Prop :=
  ∃ d ∈ drawn, d.Of env i

/-- `count` adjacent slots from `start` on were handed out. -/
def FreeRun (env : UInt32) (drawn : List Drawn) (count start : Nat) : Prop :=
  ∀ j < count, TakenSlot env drawn (start + j)

/-- The lowest such run. -/
def LowestRun (env : UInt32) (drawn : List Drawn) (count start : Nat) : Prop :=
  FreeRun env drawn count start ∧ ∀ s < start, ¬ FreeRun env drawn count s

/-- Their buffers follow one another in memory. -/
def ContiguousRun (memAddr : UInt16 → UInt32) (count start : Nat) : Prop :=
  ∀ j < count, memAddr (poolOffset (start + j)) =
    memAddr (poolOffset start) + 27 * UInt32.ofNat j

theorem descriptorIndex_lt {env node : UInt32} {i : Nat} (h : descriptorIndex env node = some i) :
    i < 20 := by
  unfold descriptorIndex at h
  dsimp only at h
  split at h
  · cases h
  · next hsound =>
    cases h
    push Not at hsound
    obtain ⟨-, hlow, hhigh, -⟩ := hsound
    have hle := UInt32.le_iff_toNat_le.mp (UInt32.not_lt.mp hlow)
    have hlt := UInt32.lt_iff_toNat_lt.mp (UInt32.not_le.mp hhigh)
    rw [UInt32.toNat_add] at hlt
    have hbase := (env + 32).toNat_lt
    have h160 : (160 : UInt32).toNat = 160 := rfl
    rw [UInt32.toNat_div, UInt32.toNat_sub_of_le _ _ (UInt32.not_lt.mp hlow)]
    show (node.toNat - (env + 32).toNat) / 8 < 20
    omega

section Cells

variable {b : List UInt32} {i : Nat} {x : UInt32}

/-- Cell `i` of an array, null outside it. -/
def cell (b : List UInt32) (i : Nat) : UInt32 :=
  b.getD i 0

theorem load_cell (h : i < b.length) : load b i = some (cell b i) := by
  rw [load, cell, List.getD_eq_getElem?_getD, List.getElem?_eq_getElem h]
  rfl

theorem cell_set (h : i < b.length) (k : Nat) :
    cell (b.set i x) k = if k = i then x else cell b k := by
  simp only [cell, List.getD_eq_getElem?_getD, List.getElem?_set]
  by_cases hk : i = k
  · rw [if_pos hk, if_pos hk.symm, if_pos h]
    rfl
  · rw [if_neg hk, if_neg fun h => hk h.symm]

theorem cell_zeros (n k : Nat) : cell (List.replicate n 0) k = 0 := by
  rw [cell, List.getD_eq_getElem?_getD, List.getElem?_replicate]
  split <;> rfl

end Cells

/-- What the allocation loop owns and has seen. -/
structure DrawSpec (env : UInt32) (n : Nat) (draws : List Drawn) (owned : List UInt32)
    (t : PoolTaken) : Prop where
  length : t.owned.length = owned.length
  old : ∀ i, cell owned i ≠ 0 → cell t.owned i = cell owned i
  new : ∀ i, cell t.owned i ≠ 0 → cell owned i ≠ 0 ∨ ∃ d ∈ t.drawn, d.Of env i ∧
    cell t.owned i = d.node
  taken : ∀ d ∈ t.drawn, ∀ i, d.Of env i → cell t.owned i ≠ 0
  valid : t.valid = true ↔
    (∀ d ∈ t.drawn, ∃ i, d.Of env i ∧ d.offset = poolOffset i ∧ cell owned i = 0) ∧
    (t.drawn.map fun d => descriptorIndex env d.node).Nodup
  seen : t.drawn <+: (draws.takeWhile fun d => d.node != 0).take n
  all : t.valid = true → t.drawn = (draws.takeWhile fun d => d.node != 0).take n

variable {env : UInt32}

/-- The allocator has nothing more, or is not asked any more. -/
theorem DrawSpec.done {n : Nat} {draws : List Drawn} {owned : List UInt32}
    (h : (draws.takeWhile fun d => d.node != 0).take n = []) :
    DrawSpec env n draws owned ⟨true, owned, []⟩ where
  length := rfl
  old _ _ := rfl
  new _ h := .inl h
  taken _ h := nomatch h
  valid := ⟨fun _ => ⟨fun _ h => (nomatch h), List.nodup_nil⟩, fun _ => rfl⟩
  seen := List.nil_prefix
  all _ := h.symm

theorem take_cons_node {n : Nat} {d : Drawn} {rest : List Drawn} (h : d.node ≠ 0) :
    ((d :: rest).takeWhile fun d => d.node != 0).take (n + 1) =
      d :: (rest.takeWhile fun d => d.node != 0).take n := by
  rw [List.takeWhile_cons_of_pos (by simpa using h), List.take_succ_cons]

/-- A bad descriptor that is not owned ends the loop. -/
theorem DrawSpec.bad {n : Nat} {d : Drawn} {rest : List Drawn} {owned : List UInt32}
    (hnode : d.node ≠ 0) (hbad : ∀ i, d.Of env i → cell owned i ≠ 0) :
    DrawSpec env (n + 1) (d :: rest) owned ⟨false, owned, [d]⟩ where
  length := rfl
  old _ _ := rfl
  new _ h := .inl h
  taken d' hd' i hi := by
    rw [List.mem_singleton.mp hd'] at hi
    exact hbad i hi
  valid := by
    constructor
    · intro h
      cases h
    · rintro ⟨hall, -⟩
      obtain ⟨i, hi, -, hfree⟩ := hall d List.mem_cons_self
      exact absurd hfree (hbad i hi)
  seen := by
    rw [take_cons_node hnode]
    exact List.cons_prefix_cons.mpr ⟨rfl, List.nil_prefix⟩
  all h := nomatch h

/-- A wrongly addressed one ends it too, but is owned. -/
theorem DrawSpec.misaddressed {n index : Nat} {d : Drawn} {rest : List Drawn}
    {owned : List UInt32} (hnode : d.node ≠ 0) (hindex : d.Of env index)
    (hlen : index < owned.length) (hfree : cell owned index = 0)
    (hoffset : d.offset ≠ poolOffset index) :
    DrawSpec env (n + 1) (d :: rest) owned ⟨false, owned.set index d.node, [d]⟩ where
  length := List.length_set
  old i hi := by
    rw [cell_set hlen, if_neg]
    rintro rfl
    exact hi hfree
  new i hi := by
    rw [cell_set hlen] at hi ⊢
    split at hi
    · next heq =>
      rw [if_pos heq, heq]
      exact .inr ⟨d, List.mem_cons_self, hindex, rfl⟩
    · exact .inl hi
  taken d' hd' i hi := by
    rw [List.mem_singleton.mp hd'] at hi
    cases hindex.symm.trans hi
    rw [cell_set hlen, if_pos rfl]
    exact hnode
  valid := by
    constructor
    · intro h
      cases h
    · rintro ⟨hall, -⟩
      obtain ⟨i, hi, hsame, -⟩ := hall d List.mem_cons_self
      cases hindex.symm.trans hi
      exact absurd hsame hoffset
  seen := by
    rw [take_cons_node hnode]
    exact List.cons_prefix_cons.mpr ⟨rfl, List.nil_prefix⟩
  all h := nomatch h

/-- A sound one is owned, and the loop goes on. -/
theorem DrawSpec.next {n index : Nat} {d : Drawn} {rest : List Drawn} {owned : List UInt32}
    {t : PoolTaken} (hnode : d.node ≠ 0) (hindex : d.Of env index) (hlen : index < owned.length)
    (hfree : cell owned index = 0) (hoffset : d.offset = poolOffset index)
    (h : DrawSpec env n rest (owned.set index d.node) t) :
    DrawSpec env (n + 1) (d :: rest) owned { t with drawn := d :: t.drawn } where
  length := h.length.trans List.length_set
  old i hi := by
    have hne : i ≠ index := by
      rintro rfl
      exact hi hfree
    have hcell := cell_set (x := d.node) hlen i
    rw [if_neg hne] at hcell
    rw [← hcell]
    exact h.old i (by rw [hcell]; exact hi)
  new i hi := by
    rcases h.new i hi with hold | ⟨d', hd', hof, hnode'⟩
    · have hkept := h.old i hold
      rw [cell_set hlen] at hold hkept
      split at hold
      · next heq =>
        rw [if_pos heq] at hkept
        rw [heq] at hkept ⊢
        exact .inr ⟨d, List.mem_cons_self, hindex, hkept⟩
      · exact .inl hold
    · exact .inr ⟨d', List.mem_cons_of_mem _ hd', hof, hnode'⟩
  taken d' hd' i hi := by
    rcases List.mem_cons.mp hd' with rfl | hd'
    · cases hindex.symm.trans hi
      have hcell := cell_set (x := d'.node) hlen index
      rw [if_pos rfl] at hcell
      show cell t.owned index ≠ 0
      rw [h.old index (by rw [hcell]; exact hnode), hcell]
      exact hnode
    · exact h.taken d' hd' i hi
  valid := by
    show t.valid = true ↔ _
    rw [h.valid, List.map_cons, List.nodup_cons]
    constructor
    · rintro ⟨hall, hnodup⟩
      refine ⟨?_, ?_, hnodup⟩
      · intro d' hd'
        rcases List.mem_cons.mp hd' with rfl | hd'
        · exact ⟨index, hindex, hoffset, hfree⟩
        · obtain ⟨i, hi, hsame, hzero⟩ := hall d' hd'
          rw [cell_set hlen] at hzero
          split at hzero
          · exact absurd hzero hnode
          · exact ⟨i, hi, hsame, hzero⟩
      · intro hmem
        obtain ⟨d', hd', hsame⟩ := List.mem_map.mp hmem
        obtain ⟨i, hi, -, hzero⟩ := hall d' hd'
        cases (hi.symm.trans hsame).trans hindex
        rw [cell_set hlen, if_pos rfl] at hzero
        exact hnode hzero
    · rintro ⟨hall, hnot, hnodup⟩
      refine ⟨?_, hnodup⟩
      intro d' hd'
      obtain ⟨i, hi, hsame, hzero⟩ := hall d' (List.mem_cons_of_mem _ hd')
      refine ⟨i, hi, hsame, ?_⟩
      rw [cell_set hlen, if_neg]
      · exact hzero
      · rintro rfl
        exact hnot (List.mem_map.mpr ⟨d', hd', hi.trans hindex.symm⟩)
  seen := by
    rw [take_cons_node hnode]
    exact List.cons_prefix_cons.mpr ⟨rfl, h.seen⟩
  all hvalid := by
    rw [take_cons_node hnode, ← h.all hvalid]

theorem drawAll_spec (n : Nat) (draws : List Drawn) {owned : List UInt32}
    (hlen : owned.length = 20) :
    ∃ t, drawAll env n draws owned = some t ∧ DrawSpec env n draws owned t := by
  induction n generalizing draws owned with
  | zero => exact ⟨_, rfl, .done List.take_zero⟩
  | succ n ih =>
    cases draws with
    | nil => exact ⟨_, rfl, .done rfl⟩
    | cons d rest =>
      unfold drawAll
      by_cases hnode : d.node = 0
      · rw [if_pos hnode]
        exact ⟨_, rfl, .done (by rw [List.takeWhile_cons_of_neg (by simpa using hnode)]; rfl)⟩
      rw [if_neg hnode]
      cases hindex : descriptorIndex env d.node with
      | none =>
        refine ⟨_, rfl, .bad hnode ?_⟩
        intro i hi
        cases hindex.symm.trans hi
      | some index =>
        have hin : index < owned.length := by
          rw [hlen]
          exact descriptorIndex_lt hindex
        dsimp only
        rw [load_cell hin, Option.bind_eq_bind, Option.bind_some]
        by_cases hheld : cell owned index = 0
        · rw [if_neg (not_not.mpr hheld), store, if_pos hin, Option.bind_eq_bind, Option.bind_some]
          by_cases hoffset : d.offset = poolOffset index
          · obtain ⟨t, ht, hspec⟩ := ih rest (List.length_set.trans hlen)
            rw [if_neg (not_not.mpr hoffset), ht]
            exact ⟨_, rfl, .next hnode hindex hin hheld hoffset hspec⟩
          · rw [if_pos hoffset]
            exact ⟨_, rfl, .misaddressed hnode hindex hin hheld hoffset⟩
        · rw [if_pos hheld]
          refine ⟨_, rfl, .bad hnode ?_⟩
          intro i hi
          cases hindex.symm.trans hi
          exact hheld

section Search

variable {α : Type} {p : α → Option Bool} {q : α → Bool} {l : List α}

theorem allM_eq (h : ∀ x ∈ l, p x = some (q x)) : l.allM p = some (l.all q) := by
  induction l with
  | nil => rfl
  | cons x l ih =>
    have hrest := ih fun y hy => h y (List.mem_cons_of_mem x hy)
    rw [List.allM, h x List.mem_cons_self, List.all_cons]
    cases hq : q x with
    | true => exact hrest
    | false => rfl

theorem findM?_eq (h : ∀ x ∈ l, p x = some (q x)) : l.findM? p = some (l.find? q) := by
  induction l with
  | nil => rfl
  | cons x l ih =>
    have hrest := ih fun y hy => h y (List.mem_cons_of_mem x hy)
    rw [List.findM?, h x List.mem_cons_self, List.find?_cons]
    cases hq : q x with
    | true => rfl
    | false => exact hrest

end Search

/-- The lowest place with `count` owned slots in a row. -/
theorem findRun_spec {owned : List UInt32} (count : Nat) (hlen : owned.length = 20)
    (hcount : count ≤ 20) :
    ∃ found, findRun owned count = some found ∧ ∀ start, found = some start ↔
      start + count ≤ 20 ∧ (∀ j < count, cell owned (start + j) ≠ 0) ∧
        ∀ s < start, ¬ ∀ j < count, cell owned (s + j) ≠ 0 := by
  refine ⟨(List.range (21 - count)).find? fun i => (List.range count).all fun j =>
    cell owned (i + j) != 0, ?_, ?_⟩
  · apply findM?_eq
    intro i hi
    rw [List.mem_range] at hi
    apply allM_eq
    intro j hj
    rw [List.mem_range] at hj
    rw [load_cell (by omega)]
    rfl
  · intro start
    rw [List.find?_range_eq_some]
    simp only [List.all_eq_true, List.mem_range, bne_iff_ne, Bool.not_eq_true', ← Bool.not_eq_true]
    constructor
    · rintro ⟨hall, hlt, hno⟩
      exact ⟨by omega, hall, fun s hs => hno s hs⟩
    · rintro ⟨hle, hall, hno⟩
      exact ⟨hall, by omega, fun s hs => hno s hs⟩

theorem range_map_set {α : Type} (n j : Nat) (f : Nat → α) (x : α) :
    ((List.range n).map f).set j x = (List.range n).map fun k => if k = j then x else f k := by
  apply List.ext_getElem?
  intro k
  rw [List.getElem?_set, List.getElem?_map, List.getElem?_map, List.length_map, List.length_range]
  by_cases hk : k < n
  · rw [List.getElem?_range hk]
    by_cases hj : j = k
    · rw [if_pos hj, if_pos (by omega)]
      exact congrArg some (if_pos hj.symm).symm
    · rw [if_neg hj]
      exact congrArg some (if_neg fun h => hj h.symm).symm
  · rw [List.getElem?_eq_none (by rw [List.length_range]; omega)]
    split
    · rw [if_neg (by omega)]
      rfl
    · rfl

/-- Slot `i` is one of the first `k` and goes to the record. -/
def goesIn (start : Option Nat) (count : Nat) (owned : List UInt32) (k i : Nat) : Bool :=
  inRun start count i && decide (i < k) && (cell owned i != 0)

/-- What the last loop has done with the first `k` slots. -/
def settledAt (start : Option Nat) (count : Nat) (owned : List UInt32) (k : Nat) : PoolSettled where
  descriptors := (List.range 7).map fun j =>
    if goesIn start count owned k (start.getD 0 + j) then cell owned (start.getD 0 + j) else 0
  offsets := (List.range 7).map fun j =>
    if goesIn start count owned k (start.getD 0 + j) then poolOffset (start.getD 0 + j) else 0
  freed := ((List.range k).filter fun i =>
    (cell owned i != 0) && !inRun start count i).map poolOffset

section Settle

variable {start : Option Nat} {count : Nat} {owned : List UInt32} {k : Nat}

theorem goesIn_succ {i : Nat} (h : inRun start count k = false ∨ cell owned k = 0) :
    goesIn start count owned (k + 1) i = goesIn start count owned k i := by
  unfold goesIn
  by_cases hik : i = k
  · subst hik
    rcases h with hrun | hcell
    · rw [hrun]
      rfl
    · rw [hcell]
      simp
  · rw [show decide (i < k + 1) = decide (i < k) from decide_eq_decide.mpr (by omega)]

theorem inRun_bounds (h : inRun start count k = true) :
    start.getD 0 ≤ k ∧ k < start.getD 0 + count := by
  cases start with
  | none => cases h
  | some s =>
    simp only [inRun, Option.any_some, Bool.and_eq_true, decide_eq_true_eq] at h
    exact h

/-- Placing slot `k` changes its own cell only. -/
theorem goesIn_place {j : Nat} (hrun : inRun start count k = true) (hcell : cell owned k ≠ 0) :
    goesIn start count owned (k + 1) (start.getD 0 + j) =
      (decide (j = k - start.getD 0) || goesIn start count owned k (start.getD 0 + j)) := by
  have hbounds := inRun_bounds hrun
  unfold goesIn
  by_cases hj : start.getD 0 + j = k
  · rw [hj, hrun, decide_eq_true (by omega : k < k + 1), decide_eq_true (by omega), Bool.true_or]
    simpa using hcell
  · rw [decide_eq_false (by omega : ¬ j = k - start.getD 0), Bool.false_or,
      show decide (start.getD 0 + j < k + 1) = decide (start.getD 0 + j < k) from
        decide_eq_decide.mpr (by omega)]

theorem settleSlot_at (hlen : owned.length = 20) (hcount : count ≤ 7) (hk : k < 20) :
    settleSlot start count owned (settledAt start count owned k) k =
      some (settledAt start count owned (k + 1)) := by
  unfold settleSlot
  rw [load_cell (by omega), Option.bind_eq_bind, Option.bind_some]
  by_cases hcell : cell owned k = 0
  · rw [if_pos hcell]
    congr 1
    unfold settledAt
    rw [List.range_succ (n := k), List.filter_append]
    simp only [goesIn_succ (.inr hcell), hcell, List.filter_cons, List.filter_nil, bne_self_eq_false,
      Bool.false_and, Bool.false_eq_true, if_false, List.append_nil]
  rw [if_neg hcell]
  cases hrun : inRun start count k with
  | false =>
    rw [if_neg Bool.false_ne_true]
    congr 1
    unfold settledAt
    have hne : (cell owned k != 0) = true := by simpa using hcell
    rw [List.range_succ (n := k), List.filter_append, List.map_append]
    simp only [goesIn_succ (.inl hrun), hne, hrun, List.filter_cons, List.filter_nil, Bool.not_false,
      Bool.and_self, if_true, List.map_cons, List.map_nil]
  | true =>
    have hbounds := inRun_bounds hrun
    have hback : start.getD 0 + (k - start.getD 0) = k := by omega
    rw [if_pos rfl]
    dsimp only
    rw [store, if_pos (by simp only [settledAt, List.length_map, List.length_range]; omega),
      Option.bind_eq_bind, Option.bind_some, store,
      if_pos (by simp only [settledAt, List.length_map, List.length_range]; omega),
      Option.bind_eq_bind, Option.bind_some]
    congr 1
    unfold settledAt
    rw [range_map_set, range_map_set, List.range_succ (n := k), List.filter_append]
    simp only [goesIn_place hrun hcell, hrun, List.filter_cons, List.filter_nil, Bool.not_true,
      Bool.and_false, Bool.false_eq_true, if_false, List.append_nil, Bool.or_eq_true,
      decide_eq_true_eq]
    congr 1
    · apply List.map_congr_left
      intro j _
      by_cases hj : j = k - start.getD 0
      · rw [if_pos hj, if_pos (.inl hj), hj, hback]
      · simp only [hj, if_false, false_or]
    · apply List.map_congr_left
      intro j _
      by_cases hj : j = k - start.getD 0
      · rw [if_pos hj, if_pos (.inl hj), hj, hback]
      · simp only [hj, if_false, false_or]

theorem settleAll_eq (hlen : owned.length = 20) (hcount : count ≤ 7) :
    settleAll start count owned = some (settledAt start count owned 20) := by
  have hprefix : ∀ k ≤ 20, (List.range k).foldlM (settleSlot start count owned)
      (settledAt start count owned 0) = some (settledAt start count owned k) := by
    intro k
    induction k with
    | zero => exact fun _ => rfl
    | succ k ih =>
      intro hk
      rw [List.range_succ, List.foldlM_append, ih (by omega), Option.bind_eq_bind,
        Option.bind_some, List.foldlM_cons, settleSlot_at hlen hcount (by omega)]
      rfl
  have hzero : settledAt start count owned 0 =
      ⟨List.replicate 7 0, List.replicate 7 0, []⟩ := by
    unfold settledAt
    simp only [goesIn, Nat.not_lt_zero, decide_false, Bool.and_false, Bool.false_and,
      Bool.false_eq_true, if_false, List.range_zero, List.filter_nil, List.map_nil]
    rfl
  rw [settleAll, ← hzero]
  exact hprefix 20 (Nat.le_refl 20)

end Settle

/-! ## Releasing -/

theorem releaseSlot_clear {offsets : List UInt16} {descriptors : List UInt32} {i : Nat}
    (freed : List UInt16) (hi : i < descriptors.length) (hzero : cell descriptors i = 0) :
    releaseSlot offsets (descriptors, freed) i = some (descriptors, freed) := by
  rw [releaseSlot]
  dsimp only
  rw [load_cell hi, Option.bind_eq_bind, Option.bind_some, if_pos hzero]

theorem releaseSlot_held {offsets : List UInt16} {descriptors : List UInt32} {i : Nat}
    (freed : List UInt16) (hi : i < descriptors.length) (hoff : i < offsets.length)
    (hheld : cell descriptors i ≠ 0) :
    releaseSlot offsets (descriptors, freed) i =
      some (descriptors.set i 0, freed ++ [offsets.getD i 0]) := by
  have hoffset : load offsets i = some (offsets.getD i 0) := by
    rw [load, List.getD_eq_getElem?_getD, List.getElem?_eq_getElem hoff]
    rfl
  rw [releaseSlot]
  dsimp only
  rw [load_cell hi, Option.bind_eq_bind, Option.bind_some, if_neg hheld, hoffset,
    Option.bind_eq_bind, Option.bind_some, store, if_pos hi, Option.bind_eq_bind, Option.bind_some]

/-- A loop over distinct entries gives back those that are held, and clears them. -/
theorem releaseSlot_loop {offsets : List UInt16} (l : List Nat) (hl : l.Nodup)
    {descriptors : List UInt32} (freed : List UInt16)
    (hfit : ∀ i ∈ l, i < descriptors.length ∧ i < offsets.length) :
    ∃ left, l.foldlM (releaseSlot offsets) (descriptors, freed) =
        some (left, freed ++ (l.filter fun i => cell descriptors i != 0).map (offsets.getD · 0)) ∧
      left.length = descriptors.length ∧
      ∀ k, cell left k = if k ∈ l then 0 else cell descriptors k := by
  induction l generalizing descriptors freed with
  | nil => exact ⟨descriptors, by rw [List.filter_nil, List.map_nil, List.append_nil]; rfl, rfl,
      fun k => (if_neg List.not_mem_nil).symm⟩
  | cons i l ih =>
    obtain ⟨hi, hnodup⟩ := List.nodup_cons.mp hl
    obtain ⟨hdesc, hoff⟩ := hfit i List.mem_cons_self
    rw [List.foldlM_cons]
    by_cases hzero : cell descriptors i = 0
    · obtain ⟨left, hrun, hlen, hcells⟩ := ih hnodup freed fun k hk =>
        hfit k (List.mem_cons_of_mem i hk)
      refine ⟨left, ?_, hlen, ?_⟩
      · rw [releaseSlot_clear freed hdesc hzero, Option.bind_eq_bind, Option.bind_some, hrun,
          List.filter_cons_of_neg (by simpa using hzero)]
      · intro k
        rw [hcells]
        by_cases hk : k = i
        · rw [if_neg (hk ▸ hi), hk, hzero, if_pos List.mem_cons_self]
        · simp only [List.mem_cons, hk, false_or]
    · have hfit' : ∀ k ∈ l, k < (descriptors.set i 0).length ∧ k < offsets.length := by
        intro k hk
        rw [List.length_set]
        exact hfit k (List.mem_cons_of_mem i hk)
      obtain ⟨left, hrun, hlen, hcells⟩ := ih hnodup (freed ++ [offsets.getD i 0]) hfit'
      -- the entry that is cleared is none of those still to come
      have hrest : (l.filter fun k => cell (descriptors.set i 0) k != 0) =
          l.filter fun k => cell descriptors k != 0 := by
        apply List.filter_congr
        intro k hk
        have hne : k ≠ i := by
          rintro rfl
          exact hi hk
        rw [cell_set hdesc, if_neg hne]
      refine ⟨left, ?_, hlen.trans List.length_set, ?_⟩
      · rw [releaseSlot_held freed hdesc hoff hzero, Option.bind_eq_bind, Option.bind_some, hrun,
          hrest, List.filter_cons_of_pos (by simpa using hzero), List.map_cons, List.append_assoc]
        rfl
      · intro k
        rw [hcells, cell_set hdesc]
        by_cases hk : k = i
        · simp only [hk, List.mem_cons, true_or, if_true, ite_self]
        · simp only [hk, List.mem_cons, false_or, if_false]

/-- The record holds the run of `count` slots from `start` on, in order. -/
structure HeldRun (env : UInt32) (drawn : List Drawn) (start count : Nat)
    (r : ReservationRecord) : Prop where
  total : r.count = count
  descriptors : r.descriptors.length = 7
  offsets : r.offsets.length = 7
  held : ∀ j < count, cell r.descriptors j ≠ 0 ∧
    (∃ d ∈ drawn, d.Of env (start + j) ∧ cell r.descriptors j = d.node) ∧
    r.offsets[j]? = some (poolOffset (start + j))
  free : ∀ j, count ≤ j → cell r.descriptors j = 0

/-- A release from any entry on and one of the rest give back every held slot once. -/
theorem release_twice {drawn : List Drawn} {start count : Nat} {r : ReservationRecord}
    (h : HeldRun env drawn start count r) (hcount : count ≤ 7) (first : Nat) :
    ∃ r' freed freed', ullPoolRelease r first = some (r', freed) ∧
      ullPoolRelease r' 0 = some (.zero, freed') ∧
      (freed ++ freed').Perm ((List.range count).map fun j => poolOffset (start + j)) := by
  have hoffsets : ∀ j < count, r.offsets.getD j 0 = poolOffset (start + j) := by
    intro j hj
    rw [List.getD_eq_getElem?_getD, (h.held j hj).2.2]
    rfl
  have hinside : ∀ j ∈ List.range' first (r.count - first),
      j < r.descriptors.length ∧ j < r.offsets.length := by
    intro j hj
    rw [List.mem_range'_1, h.total] at hj
    rw [h.descriptors, h.offsets]
    omega
  obtain ⟨left, hloop, hlen, hcells⟩ :=
    releaseSlot_loop (List.range' first (r.count - first)) List.nodup_range' [] hinside
  have hall : (List.range' first (r.count - first)).filter (fun i => cell r.descriptors i != 0) =
      List.range' first (r.count - first) := by
    apply List.filter_eq_self.mpr
    intro j hj
    rw [List.mem_range'_1, h.total] at hj
    simpa using (h.held j (by omega)).1
  rw [hall, List.nil_append] at hloop
  have hfirst : ullPoolRelease r first =
      some (if first = 0 then .zero else { r with descriptors := left },
        (List.range' first (r.count - first)).map (r.offsets.getD · 0)) := by
    rw [ullPoolRelease, hloop]
    rfl
  by_cases hzero : first = 0
  · refine ⟨_, _, [], hfirst, by rw [if_pos hzero]; rfl, ?_⟩
    rw [List.append_nil, hzero, Nat.sub_zero, h.total, ← List.range_eq_range']
    apply List.Perm.of_eq
    apply List.map_congr_left
    intro j hj
    exact hoffsets j (List.mem_range.mp hj)
  -- the second release finds the entries before `first`
  have hinside' : ∀ j ∈ List.range' 0 r.count, j < left.length ∧ j < r.offsets.length := by
    intro j hj
    rw [List.mem_range'_1, h.total] at hj
    rw [hlen, h.descriptors, h.offsets]
    omega
  obtain ⟨left', hloop', -, -⟩ :=
    releaseSlot_loop (List.range' 0 r.count) List.nodup_range' [] hinside'
  have hsecond : ullPoolRelease { r with descriptors := left } 0 =
      some (.zero, ((List.range' 0 r.count).filter fun i => cell left i != 0).map
        (r.offsets.getD · 0)) := by
    rw [ullPoolRelease]
    dsimp only
    rw [Nat.sub_zero, hloop', List.nil_append]
    rfl
  refine ⟨_, _, _, hfirst, by rw [if_neg hzero]; exact hsecond, ?_⟩
  have hparts : (List.range' first (r.count - first) ++
      (List.range' 0 r.count).filter fun i => cell left i != 0).Perm (List.range count) := by
    have hnodup : (List.range' first (r.count - first) ++
        (List.range' 0 r.count).filter fun i => cell left i != 0).Nodup := by
      refine List.nodup_append.mpr ⟨List.nodup_range', List.Nodup.filter _ List.nodup_range', ?_⟩
      rintro j hj k hk rfl
      rw [List.mem_filter, hcells, if_pos hj] at hk
      exact absurd hk.2 (by decide)
    apply (List.perm_ext_iff_of_nodup hnodup List.nodup_range).mpr
    intro j
    simp only [List.mem_append, List.mem_filter, List.mem_range'_1, List.mem_range, hcells,
      h.total]
    constructor
    · rintro (hj | hj) <;> omega
    · intro hj
      by_cases hlow : j < first
      · right
        rw [if_neg (by omega)]
        exact ⟨by omega, by simpa using (h.held j hj).1⟩
      · exact .inl (by omega)
  rw [← List.map_append]
  refine (hparts.map _).trans (List.Perm.of_eq ?_)
  apply List.map_congr_left
  intro j hj
  exact hoffsets j (List.mem_range.mp hj)

/-! ## Reserving -/

theorem contiguous_iff {memAddr : UInt16 → UInt32} {start count : Nat} :
    LlcpPool.contiguous memAddr start count = true ↔ ContiguousRun memAddr count start := by
  simp only [LlcpPool.contiguous, List.all_eq_true, List.mem_range, beq_iff_eq]
  rfl

theorem poolOffset_inj {i j : Nat} (hi : i < 20) (hj : j < 20) (h : poolOffset i = poolOffset j) :
    i = j := by
  have hslot : slotOffset ⟨i, hi⟩ = slotOffset ⟨j, hj⟩ := h
  exact congrArg Fin.val (slotOffset_inj.mp hslot)

/-- What the array says after the allocation loop. -/
structure Owns (env : UInt32) (drawn : List Drawn) (owned : List UInt32) : Prop where
  length : owned.length = 20
  taken : ∀ i, cell owned i ≠ 0 ↔ TakenSlot env drawn i
  node : ∀ i, cell owned i ≠ 0 → ∃ d ∈ drawn, d.Of env i ∧ cell owned i = d.node

theorem drawAll_owns {draws : List Drawn} {t : PoolTaken}
    (h : DrawSpec env 20 draws (List.replicate 20 0) t) :
    Owns env t.drawn t.owned ∧ (t.valid = true ↔ NoneBad env t.drawn) := by
  have hnew : ∀ i, cell t.owned i ≠ 0 →
      ∃ d ∈ t.drawn, d.Of env i ∧ cell t.owned i = d.node := by
    intro i hi
    rcases h.new i hi with hold | hdrawn
    · exact absurd (cell_zeros 20 i) hold
    · exact hdrawn
  refine ⟨⟨h.length.trans List.length_replicate, fun i => ⟨?_, ?_⟩, hnew⟩, ?_⟩
  · intro hi
    obtain ⟨d, hd, hof, -⟩ := hnew i hi
    exact ⟨d, hd, hof⟩
  · rintro ⟨d, hd, hof⟩
    exact h.taken d hd i hof
  · rw [h.valid]
    constructor
    · rintro ⟨hall, hnodup⟩
      refine ⟨fun d hd => ?_, hnodup⟩
      obtain ⟨i, hi, hoffset, -⟩ := hall d hd
      exact ⟨i, hi, hoffset⟩
    · rintro ⟨hall, hnodup⟩
      refine ⟨fun d hd => ?_, hnodup⟩
      obtain ⟨i, hi, hoffset⟩ := hall d hd
      exact ⟨i, hi, hoffset, cell_zeros 20 i⟩

section Owned

variable {drawn : List Drawn} {owned : List UInt32}

theorem TakenSlot.lt {i : Nat} (h : TakenSlot env drawn i) : i < 20 := by
  obtain ⟨d, -, hof⟩ := h
  exact descriptorIndex_lt hof

/-- The search finds the lowest run of slots that were handed out. -/
theorem Owns.findRun (h : Owns env drawn owned) {count : Nat} (h1 : 1 ≤ count) (h7 : count ≤ 7) :
    ∃ found, Parent.findRun owned count = some found ∧
      ∀ start, found = some start ↔ LowestRun env drawn count start := by
  obtain ⟨found, hfound, hspec⟩ := findRun_spec count h.length (by omega)
  have hrun : ∀ s, (∀ j < count, cell owned (s + j) ≠ 0) ↔ FreeRun env drawn count s :=
    fun s => forall₂_congr fun j _ => h.taken (s + j)
  refine ⟨found, hfound, fun start => ?_⟩
  rw [hspec, hrun]
  constructor
  · rintro ⟨-, hfree, hlow⟩
    exact ⟨hfree, fun s hs hs' => hlow s hs ((hrun s).mpr hs')⟩
  · rintro ⟨hfree, hlow⟩
    have hlast := (hfree (count - 1) (by omega)).lt
    exact ⟨by omega, hfree, fun s hs hs' => hlow s hs ((hrun s).mp hs')⟩

/-- Where a run was found, the record holds it. -/
theorem Owns.record (h : Owns env drawn owned) {start count : Nat}
    (hrun : FreeRun env drawn count start) (h7 : count ≤ 7) (memory : UInt32) :
    HeldRun env drawn start count
      ⟨(settledAt (some start) count owned 20).descriptors,
        (settledAt (some start) count owned 20).offsets, memory, count⟩ := by
  have hin : ∀ j, goesIn (some start) count owned 20 (start + j) = decide (j < count) := by
    intro j
    by_cases hj : j < count
    · have htaken := hrun j hj
      have hcell := (h.taken (start + j)).mpr htaken
      have hlt := htaken.lt
      simp only [goesIn, inRun, Option.any_some]
      rw [decide_eq_true (by omega), decide_eq_true (by omega), decide_eq_true hlt,
        decide_eq_true hj]
      simpa using hcell
    · simp only [goesIn, inRun, Option.any_some]
      rw [decide_eq_false (by omega : ¬ start + j < start + count), decide_eq_false hj,
        Bool.and_false, Bool.false_and, Bool.false_and]
  have hdesc : ∀ j < 7, cell (settledAt (some start) count owned 20).descriptors j =
      if j < count then cell owned (start + j) else 0 := by
    intro j hj
    rw [cell, List.getD_eq_getElem?_getD, settledAt]
    dsimp only
    rw [List.getElem?_map, List.getElem?_range hj]
    simp only [Option.map_some, Option.getD_some, hin, decide_eq_true_eq]
  refine ⟨rfl, by simp only [settledAt, List.length_map, List.length_range],
    by simp only [settledAt, List.length_map, List.length_range], ?_, ?_⟩
  · intro j hj
    have hcell := (h.taken (start + j)).mpr (hrun j hj)
    have hj7 : j < 7 := by omega
    refine ⟨?_, ?_, ?_⟩
    · show cell (settledAt (some start) count owned 20).descriptors j ≠ 0
      rw [hdesc j hj7, if_pos hj]
      exact hcell
    · obtain ⟨d, hd, hof, hnode⟩ := h.node (start + j) hcell
      refine ⟨d, hd, hof, ?_⟩
      show cell (settledAt (some start) count owned 20).descriptors j = d.node
      rw [hdesc j hj7, if_pos hj, hnode]
    · rw [settledAt]
      dsimp only
      rw [List.getElem?_map, List.getElem?_range hj7]
      simp only [Option.map_some, Option.getD_some, hin, decide_eq_true_eq, hj, if_true]
  · intro j hj
    show cell (settledAt (some start) count owned 20).descriptors j = 0
    by_cases hj7 : j < 7
    · rw [hdesc j hj7, if_neg (by omega)]
    · rw [cell, List.getD_eq_getElem?_getD, List.getElem?_eq_none]
      · rfl
      · simp only [settledAt, List.length_map, List.length_range]
        omega

/-- Every slot outside the run goes back, once. -/
theorem Owns.freed (h : Owns env drawn owned) (start : Option Nat) (count : Nat) :
    ∃ slots : List Nat, (settledAt start count owned 20).freed = slots.map poolOffset ∧
      slots.Nodup ∧ (slots.map poolOffset).Nodup ∧
      ∀ i, i ∈ slots ↔ TakenSlot env drawn i ∧ inRun start count i = false := by
  have hmem : ∀ i, i ∈ (List.range 20).filter (fun i =>
      (cell owned i != 0) && !inRun start count i) ↔
      TakenSlot env drawn i ∧ inRun start count i = false := by
    intro i
    rw [List.mem_filter, List.mem_range, Bool.and_eq_true, bne_iff_ne, Bool.not_eq_true',
      h.taken]
    constructor
    · rintro ⟨-, htaken, hout⟩
      exact ⟨htaken, hout⟩
    · rintro ⟨htaken, hout⟩
      exact ⟨htaken.lt, htaken, hout⟩
  have hnodup : ((List.range 20).filter fun i =>
      (cell owned i != 0) && !inRun start count i).Nodup := List.nodup_range.filter _
  refine ⟨_, rfl, hnodup, ?_, hmem⟩
  apply List.Nodup.map_on _ hnodup
  intro i hi j hj hsame
  exact poolOffset_inj ((hmem i).mp hi).1.lt ((hmem j).mp hj).1.lt hsame

end Owned

/-- What a call that succeeds leaves. -/
structure Reserved (memAddr : UInt16 → UInt32) (env : UInt32) (count start : Nat)
    (kept : ReservationRecord) (slots : List Nat) (reply : ReserveReply) : Prop where
  lowest : LowestRun env reply.drawn count start
  contiguous : ContiguousRun memAddr count start
  record : reply.record = some kept
  memory : kept.memory = memAddr (poolOffset start)
  held : HeldRun env reply.drawn start count kept
  freed : reply.freed = slots.map poolOffset
  once : reply.freed.Nodup
  rest : ∀ i, i ∈ slots ↔ TakenSlot env reply.drawn i ∧ ¬ (start ≤ i ∧ i < start + count)
  released : ∀ first, ∃ r' freed freed', ullPoolRelease kept first = some (r', freed) ∧
    ullPoolRelease r' 0 = some (.zero, freed') ∧
    (freed ++ freed').Perm ((List.range count).map fun j => poolOffset (start + j))

/-- What a call that fails leaves. -/
structure Refused (env : UInt32) (slots : List Nat) (reply : ReserveReply) : Prop where
  record : reply.record = some .zero
  freed : reply.freed = slots.map poolOffset
  once : reply.freed.Nodup
  all : ∀ i, i ∈ slots ↔ TakenSlot env reply.drawn i

/-- The place of a reservation, when there is one. -/
def reservedAt (memAddr : UInt16 → UInt32) (t : PoolTaken) (found : Option Nat) (count : Nat) :
    Option Nat :=
  (if t.valid then found else none).filter fun start => LlcpPool.contiguous memAddr start count

section Place

variable {memAddr : UInt16 → UInt32} {draws : List Drawn} {t : PoolTaken} {found : Option Nat}
variable {count : Nat}

theorem reservedAt_iff (memAddr : UInt16 → UInt32) (hvalid : t.valid = true ↔ NoneBad env t.drawn)
    (hlow : ∀ start, found = some start ↔ LowestRun env t.drawn count start) (start : Nat) :
    reservedAt memAddr t found count = some start ↔
      NoneBad env t.drawn ∧ LowestRun env t.drawn count start ∧
        ContiguousRun memAddr count start := by
  rw [reservedAt, Option.filter_eq_some_iff, contiguous_iff, ← hvalid, ← hlow]
  cases t.valid with
  | true => simp only [if_true, true_and]
  | false => simp only [Bool.false_eq_true, if_false, false_and, reduceCtorEq]

/-- The call in terms of the place. -/
theorem ullPoolReserve_eq (memAddr : UInt16 → UInt32) (r : ReservationRecord) (h1 : 1 ≤ count)
    (h7 : count ≤ 7)
    (ht : drawAll env 20 draws (List.replicate 20 0) = some t) (hlen : t.owned.length = 20)
    (hfound : findRun t.owned count = some found) :
    ullPoolReserve memAddr env draws (some r) count =
      match reservedAt memAddr t found count with
      | none => some ⟨false, some .zero, (settledAt none count t.owned 20).freed, t.drawn⟩
      | some start => some ⟨true, some ⟨(settledAt (some start) count t.owned 20).descriptors,
          (settledAt (some start) count t.owned 20).offsets, memAddr (poolOffset start), count⟩,
          (settledAt (some start) count t.owned 20).freed, t.drawn⟩ := by
  have hsearch : t.search count = some (if t.valid then found else none) := by
    rw [PoolTaken.search, hfound]
    split <;> rfl
  unfold ullPoolReserve
  dsimp only
  rw [if_neg (by omega), ht, Option.bind_eq_bind, Option.bind_some, hsearch, Option.bind_eq_bind,
    Option.bind_some]
  change (settleAll (reservedAt memAddr t found count) count t.owned).bind _ = _
  rw [settleAll_eq hlen h7, Option.bind_some]
  change (match reservedAt memAddr t found count with | none => _ | some start => _) = _
  cases reservedAt memAddr t found count <;> rfl

end Place

/-- A reservation takes the lowest free run whole or leaves nothing taken, whatever the allocator
hands out. -/
theorem reserve_all_or_nothing (memAddr : UInt16 → UInt32) (env : UInt32) (draws : List Drawn)
    (r : ReservationRecord) (count : Nat) (h1 : 1 ≤ count) (h7 : count ≤ 7) :
    ∃ reply, ullPoolReserve memAddr env draws (some r) count = some reply ∧
      reply.drawn <+: (draws.takeWhile fun d => d.node != 0).take 20 ∧
      (NoneBad env reply.drawn →
        reply.drawn = (draws.takeWhile fun d => d.node != 0).take 20) ∧
      (reply.ok = true ↔ NoneBad env reply.drawn ∧
        ∃ start, LowestRun env reply.drawn count start ∧ ContiguousRun memAddr count start) ∧
      ((∀ start, FreeRun env reply.drawn count start → ContiguousRun memAddr count start) →
        (reply.ok = true ↔ NoneBad env reply.drawn ∧
          ∃ start, FreeRun env reply.drawn count start)) ∧
      (reply.ok = true →
        ∃ start kept slots, Reserved memAddr env count start kept slots reply) ∧
      (reply.ok = false → ∃ slots, Refused env slots reply) := by
  obtain ⟨t, ht, hspec⟩ := @drawAll_spec env 20 draws (List.replicate 20 0)
    List.length_replicate
  obtain ⟨howns, hvalid⟩ := drawAll_owns hspec
  obtain ⟨found, hfound, hlow⟩ := howns.findRun h1 h7
  have hcall := ullPoolReserve_eq memAddr r h1 h7 ht howns.length hfound
  have hplace := reservedAt_iff memAddr hvalid hlow
  -- where memory is contiguous the lowest free run will do
  have hlinear : (∀ start, FreeRun env t.drawn count start → ContiguousRun memAddr count start) →
      ((∃ start, LowestRun env t.drawn count start ∧ ContiguousRun memAddr count start) ↔
        ∃ start, FreeRun env t.drawn count start) := by
    intro hmem
    constructor
    · rintro ⟨start, hrun, -⟩
      exact ⟨start, hrun.1⟩
    · rintro hsome
      classical
      refine ⟨Nat.find hsome, ⟨Nat.find_spec hsome, fun s hs => Nat.find_min hsome hs⟩, ?_⟩
      exact hmem _ (Nat.find_spec hsome)
  cases hstart : reservedAt memAddr t found count with
  | none =>
    rw [hstart] at hcall
    obtain ⟨slots, hfreed, -, honce, hmem⟩ := howns.freed none count
    have hno : ¬ (NoneBad env t.drawn ∧
        ∃ start, LowestRun env t.drawn count start ∧ ContiguousRun memAddr count start) := by
      rintro ⟨hsound, start, hrun⟩
      cases hstart.symm.trans ((hplace start).mpr ⟨hsound, hrun⟩)
    refine ⟨_, hcall, hspec.seen, fun hsound => hspec.all (hvalid.mpr hsound),
      ⟨fun h => (nomatch h), fun h => absurd h hno⟩, fun hmem => ?_, fun h => (nomatch h),
      fun _ => ?_⟩
    · rw [← hlinear hmem]
      exact ⟨fun h => (nomatch h), fun h => absurd h hno⟩
    · refine ⟨slots, rfl, hfreed, by rw [← hfreed] at honce; exact honce, fun i => ?_⟩
      rw [hmem]
      exact and_iff_left rfl
  | some start =>
    rw [hstart] at hcall
    obtain ⟨hsound, hrun, hmemory⟩ := (hplace start).mp hstart
    obtain ⟨slots, hfreed, -, honce, hmem⟩ := howns.freed (some start) count
    have hheld := howns.record hrun.1 h7 (memAddr (poolOffset start))
    refine ⟨_, hcall, hspec.seen, fun _ => hspec.all (hvalid.mpr hsound),
      ⟨fun _ => ⟨hsound, start, hrun, hmemory⟩, fun _ => rfl⟩, fun hmem => ?_, fun _ => ?_,
      fun h => nomatch h⟩
    · exact ⟨fun _ => ⟨hsound, start, hrun.1⟩, fun _ => rfl⟩
    · refine ⟨start, _, slots, hrun, hmemory, rfl, rfl, hheld, hfreed,
        by rw [← hfreed] at honce; exact honce, fun i => ?_, release_twice hheld h7⟩
      rw [hmem, ← Bool.not_eq_true, inRun, Option.any_some, Bool.and_eq_true, decide_eq_true_eq,
        decide_eq_true_eq]

/-- A sound descriptor of the pool at `0x3ffc0000`. -/
def soundDraw (i : Nat) : Drawn :=
  ⟨0x3ffc0020 + 8 * UInt32.ofNat i, poolOffset i⟩

theorem reserve_all_or_nothing_pair :
    ∃ reply start kept slots, ullPoolReserve (fun offset => 0x60000000 + offset.toUInt32) 0x3ffc0000
        [soundDraw 9, soundDraw 3, soundDraw 4] (some .zero) 2 = some reply ∧
      Reserved (fun offset => 0x60000000 + offset.toUInt32) 0x3ffc0000 2 start kept slots reply := by
  have hok : (ullPoolReserve (fun offset => 0x60000000 + offset.toUInt32) 0x3ffc0000
      [soundDraw 9, soundDraw 3, soundDraw 4] (some .zero) 2).map (·.ok) = some true := by
    decide +kernel
  obtain ⟨reply, hcall, -, -, -, -, hreserved, -⟩ := reserve_all_or_nothing
    (fun offset => 0x60000000 + offset.toUInt32) 0x3ffc0000
    [soundDraw 9, soundDraw 3, soundDraw 4] .zero 2 (by decide) (by decide)
  rw [hcall] at hok
  obtain ⟨start, kept, slots, h⟩ := hreserved (Option.some.inj hok)
  exact ⟨reply, start, kept, slots, hcall, h⟩

/-- Memory with a gap behind the first buffer. -/
def gappedAddr (offset : UInt16) : UInt32 :=
  if offset = 0x1c00 then 0x60000000 else 0x60010000 + offset.toUInt32

/-- Slots 1 and 2 are free and their buffers adjacent, but slots 0 and 1 are free too, and are not. -/
theorem lowest_run_gapped :
    ∃ reply, ullPoolReserve gappedAddr 0x3ffc0000 [soundDraw 0, soundDraw 1, soundDraw 2]
        (some .zero) 2 = some reply ∧
      reply.ok = false ∧ NoneBad 0x3ffc0000 reply.drawn ∧
      FreeRun 0x3ffc0000 reply.drawn 2 1 ∧ ContiguousRun gappedAddr 2 1 := by
  have hcall : ullPoolReserve gappedAddr 0x3ffc0000 [soundDraw 0, soundDraw 1, soundDraw 2]
      (some .zero) 2 = some ⟨false, some .zero, [poolOffset 0, poolOffset 1, poolOffset 2],
        [soundDraw 0, soundDraw 1, soundDraw 2]⟩ := by
    rfl
  refine ⟨_, hcall, rfl, ⟨?_, by decide⟩, ?_, by unfold ContiguousRun; decide⟩
  · intro d hd
    simp only [List.mem_cons, List.not_mem_nil, or_false] at hd
    rcases hd with rfl | rfl | rfl
    · exact ⟨0, rfl, rfl⟩
    · exact ⟨1, rfl, rfl⟩
    · exact ⟨2, rfl, rfl⟩
  · intro j hj
    match j, hj with
    | 0, _ => exact ⟨soundDraw 1, by simp, rfl⟩
    | 1, _ => exact ⟨soundDraw 2, by simp, rfl⟩

end UllReceiver.Parent
