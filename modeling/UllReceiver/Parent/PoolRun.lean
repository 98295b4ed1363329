import UllReceiver.Parent.RawRun

/-!
# Transmit slots over whole runs

Each of the twenty slots is free, the controller's or held, at every moment between two calls, and
what a reservation took goes back once.
-/

namespace UllReceiver.Parent

open Air

namespace LlcpPool

variable {rom : PoolRom}

/-- Slots of the newest reservation go back one after the other. -/
def returnAll (rom : PoolRom) (slots : List Slot) (p : LlcpPool) : LlcpPool :=
  slots.foldl (fun p i => (p.actualFree rom i).noteReturned i) p

theorem noteReturned_fields (i : Slot) (p : LlcpPool) :
    (p.noteReturned i).free = p.free ∧ (p.noteReturned i).controller = p.controller := by
  unfold noteReturned
  split <;> exact ⟨rfl, rfl⟩

theorem returnAll_fields (slots : List Slot) (p : LlcpPool) :
    (p.returnAll rom slots).free.Perm (slots ++ p.free) ∧
      (p.returnAll rom slots).controller = p.controller := by
  induction slots generalizing p with
  | nil => exact ⟨.refl _, rfl⟩
  | cons i rest ih =>
      obtain ⟨hfree, hcontroller⟩ := ih ((p.actualFree rom i).noteReturned i)
      obtain ⟨hnote, hkeeps⟩ := noteReturned_fields i (p.actualFree rom i)
      rw [hnote] at hfree
      refine ⟨hfree.trans ?_, hcontroller.trans hkeeps⟩
      exact ((rom.perm i p.free).append_left rest).trans List.perm_middle

theorem returnAll_reservations (slots : List Slot) (p : LlcpPool) {r : PoolReservation}
    {rest : List PoolReservation} (h : p.reservations = r :: rest) :
    (p.returnAll rom slots).reservations =
      { r with returned := slots.reverse ++ r.returned } :: rest := by
  induction slots generalizing p r with
  | nil => exact h
  | cons i slots ih =>
      have hnote : ((p.actualFree rom i).noteReturned i).reservations =
          { r with returned := i :: r.returned } :: rest := by
        simp [noteReturned, actualFree, h]
      have hslots := ih _ hnote
      rw [List.reverse_cons, List.append_assoc]
      exact hslots

/-- From a free list without repetition every slot is taken. -/
theorem takeAll_eq {n : Nat} {owned free : List Slot} (hn : free.length ≤ n)
    (hnodup : (free ++ owned).Nodup) :
    takeAll n owned free = (true, free.reverse ++ owned, []) := by
  induction free generalizing n owned with
  | nil =>
      cases n with
      | zero => rfl
      | succ n => rfl
  | cons d free ih =>
      cases n with
      | zero => exact absurd hn (by simp)
      | succ n =>
          have hd : d ∉ owned := by
            intro hmem
            exact (List.nodup_cons.mp hnodup).1 (List.mem_append_right _ hmem)
          have hrest : (free ++ d :: owned).Nodup :=
            (List.perm_middle.nodup_iff).mpr hnodup
          rw [takeAll, if_neg hd, ih (Nat.le_of_succ_le_succ hn) hrest]
          simp

theorem slots_length {l : List Slot} (h : l.Nodup) : l.length ≤ 20 := by
  have hle := h.length_le_card
  simpa using hle

/-- What a reservation keeps and what it gives back are what it owned. -/
theorem kept_surplus (start : Option Nat) (count : Nat) {owned : List Slot} (h : owned.Nodup) :
    (kept start count owned ++ surplus start count owned).Perm owned := by
  have howned : ((List.finRange 20).filter fun i => decide (i ∈ owned)).Perm owned := by
    apply (List.perm_ext_iff_of_nodup ((List.nodup_finRange 20).filter _) h).mpr
    intro i
    simp
  cases start with
  | none =>
      unfold kept surplus
      simpa using howned
  | some start =>
      have hsplit := List.filter_append_perm (inWindow start count)
        ((List.finRange 20).filter fun i => decide (i ∈ owned))
      rw [List.filter_filter, List.filter_filter] at hsplit
      unfold kept surplus
      simp only [Option.any_some]
      refine .trans (.of_eq ?_) (hsplit.trans howned)
      congr 1 <;> apply List.filter_congr <;> intro i _ <;> rw [Bool.and_comm]

/-- A window that was found is owned whole. -/
theorem kept_length {owned : List Slot} {start : Nat} (h : windowStart owned 7 = some start) :
    (kept (some start) 7 owned).length = 7 := by
  unfold windowStart at h
  have hlt : start < 14 := List.mem_range.mp (List.mem_of_find?_eq_some h)
  have hall := List.find?_some h
  have hkept : kept (some start) 7 owned = (List.finRange 20).filter (inWindow start 7) := by
    unfold kept
    apply List.filter_congr
    intro i _
    cases hi : inWindow start 7 i with
    | false => rw [Bool.and_false]
    | true =>
        simp only [inWindow, Bool.and_eq_true, decide_eq_true_eq] at hi
        have hj := List.all_eq_true.mp hall (i.val - start) (List.mem_range.mpr (by omega))
        obtain ⟨d, hd, heq⟩ := List.any_eq_true.mp hj
        have hval : d = i := by
          apply Fin.ext
          have hnat := beq_iff_eq.mp heq
          omega
        rw [Bool.and_true, decide_eq_true_eq]
        exact hval ▸ hd
  rw [hkept]
  have hcount : ∀ s : Fin 14, ((List.finRange 20).filter (inWindow s.val 7)).length = 7 := by
    decide
  exact hcount ⟨start, hlt⟩

end LlcpPool

/-! ## Reserving and releasing -/

/-- The pool after the window was cut out of the slots taken. -/
def reservedPool (rom : PoolRom) (start : Option Nat) (p : LlcpPool) : LlcpPool :=
  LlcpPool.returnAll rom (LlcpPool.surplus start 7 p.free.reverse) { p with
    free := [], reservations := { taken := p.free.reverse, returned := [] } :: p.reservations }

namespace RawModule

variable {rom : PoolRom}

theorem foldl_returnSlot (slots : List Slot) (m : RawModule) :
    slots.foldl (returnSlot rom) m = m.onPool (LlcpPool.returnAll rom slots) := by
  induction slots generalizing m with
  | nil => rfl
  | cons i rest ih => exact ih (m.returnSlot rom i)

/-- With nothing handed off the wrapped free is the ROM's own. -/
theorem foldl_freeReserved {m : RawModule} (h : m.raw.handedOff = false) (slots : List Slot) :
    slots.foldl (freeReserved rom) m = m.onPool (LlcpPool.returnAll rom slots) := by
  rw [← foldl_returnSlot]
  induction slots generalizing m with
  | nil => rfl
  | cons i rest ih =>
      have hfirst : m.freeReserved rom i = m.returnSlot rom i := by
        unfold freeReserved wrapFree
        rw [if_neg (by rw [h]; exact fun hf => (nomatch hf.1))]
        rfl
      rw [List.foldl_cons, List.foldl_cons, hfirst]
      exact ih h

/-- The free of the first slot of a reservation frees all of it. -/
theorem wrapFree_first {m : RawModule} {i : Slot} (tail : Bool) (h : m.raw.handedOff = true)
    (hi : m.held.head? = some i) :
    m.wrapFree rom tail i = { m with
      raw := { m.raw with handedOff := false }
      held := [], releasedSlots := m.held.length, tailOk := tail
      pool := m.pool.returnAll rom m.held } := by
  unfold wrapFree
  rw [if_pos ⟨h, by rw [hi]; rfl⟩, foldl_returnSlot]
  rfl

theorem wrapFree_other {m : RawModule} {i : Slot} (tail : Bool)
    (h : m.raw.handedOff = false ∨ m.held.head? ≠ some i) :
    m.wrapFree rom tail i = m.onPool (·.actualFree rom i) := by
  unfold wrapFree
  rw [if_neg]
  rintro ⟨hhanded, hhead⟩
  rcases h with hnot | hne
  · exact absurd (hnot.symm.trans hhanded) (by decide)
  · obtain ⟨j, hj, heq⟩ := Option.map_eq_some_iff.mp hhead
    rw [slotOffset_inj.mp heq] at hj
    exact hne hj

/-- A reservation keeps a window of what it took, or nothing, and gives the rest back at once. -/
theorem poolReserve_eq {m : RawModule} (h : m.raw.handedOff = false)
    (hnodup : m.pool.free.Nodup) (memAddr : UInt16 → UInt32) :
    ∃ start m1, m.poolReserve rom memAddr 7 = (start.isSome, m1) ∧
      (∀ s, start = some s → LlcpPool.windowStart m.pool.free.reverse 7 = some s) ∧
      m1.raw = m.raw ∧ m1.held = LlcpPool.kept start 7 m.pool.free.reverse ∧
      m1.pool = reservedPool rom start m.pool := by
  have htake := @LlcpPool.takeAll_eq 20 [] _ (LlcpPool.slots_length hnodup)
    (by rwa [List.append_nil])
  rw [List.append_nil] at htake
  let start := LlcpPool.reservedStart memAddr true m.pool.free.reverse 7
  refine ⟨start, { m with
    held := LlcpPool.kept start 7 m.pool.free.reverse, pool := reservedPool rom start m.pool },
    ?_, fun s hs => ?_, ?_⟩
  · unfold poolReserve
    rw [if_neg (by decide), htake]
    simp only
    rw [foldl_freeReserved (by exact h)]
    rfl
  · obtain ⟨hfound, _⟩ := Option.filter_eq_some_iff.mp hs
    exact hfound
  · exact ⟨rfl, rfl, rfl⟩

theorem poolRelease_eq {m : RawModule} (h : m.raw.handedOff = false) :
    m.poolRelease rom = { m with held := [], pool := m.pool.returnAll rom m.held } := by
  unfold poolRelease
  rw [foldl_freeReserved h]
  rfl

end RawModule

/-- All that a reservation took is back. -/
def PoolReservation.Settled (r : PoolReservation) : Prop :=
  r.taken.Nodup ∧ r.returned.Perm r.taken

/-- All that a reservation took is back but for the slots `held`. -/
def PoolReservation.Open (r : PoolReservation) (held : List Slot) : Prop :=
  r.taken.Nodup ∧ (held ++ r.returned).Perm r.taken

/-- The slots between two calls. -/
structure PoolInv (m : RawModule) : Prop where
  partition : (m.held ++ m.pool.controller ++ m.pool.free).Perm (List.finRange 20)
  handed : m.raw.handedOff = true → m.held.length = 7
  empty : m.raw.handedOff = false → m.held = []
  settled : m.raw.handedOff = false → ∀ r ∈ m.pool.reservations, r.Settled
  pending : m.raw.handedOff = true → ∃ r rest, m.pool.reservations = r :: rest ∧ r.Open m.held ∧
    ∀ r ∈ rest, r.Settled

theorem poolInv_init : PoolInv .init :=
  ⟨.refl _, fun hf => (nomatch hf), fun _ => rfl, fun _ _ hr => (nomatch hr),
    fun hf => (nomatch hf)⟩

theorem PoolInv.nodup_free {m : RawModule} (hi : PoolInv m) : m.pool.free.Nodup := by
  have hall := hi.partition.nodup_iff.mpr (List.nodup_finRange 20)
  exact (List.nodup_append.mp hall).2.1

/-- An action that does not touch the slots. -/
theorem PoolInv.same {m m' : RawModule} (hi : PoolInv m) (hpool : m'.pool = m.pool)
    (hheld : m'.held = m.held) (hhanded : m'.raw.handedOff = m.raw.handedOff) : PoolInv m' := by
  refine ⟨?_, ?_, ?_, ?_, ?_⟩
  · rw [hpool, hheld]
    exact hi.partition
  · rw [hhanded, hheld]
    exact hi.handed
  · rw [hhanded, hheld]
    exact hi.empty
  · rw [hhanded, hpool]
    exact hi.settled
  · rw [hhanded, hpool, hheld]
    exact hi.pending

theorem PoolInv.withRaw {m : RawModule} (hi : PoolInv m) {raw : RawLlcp}
    (h : raw.handedOff = m.raw.handedOff) : PoolInv { m with raw } :=
  hi.same rfl rfl h

/-- What a raw send does to the slots. -/
inductive SendSlots (m m' : RawModule) (status : UInt8) : Prop
  /-- Refused by a guard. -/
  | untouched (hstatus : status ≠ 0) (hpool : m'.pool = m.pool) (hheld : m'.held = m.held)
      (hhanded : m'.raw.handedOff = m.raw.handedOff)
  /-- A reservation was made and all of it released. -/
  | released (hstatus : status ≠ 0) (hidle : m.raw.handedOff = false)
      (hhanded : m'.raw.handedOff = false) (hheld : m'.held = [])
      (hcontroller : m'.pool.controller = m.pool.controller)
      (hfree : m'.pool.free.Perm m.pool.free)
      (hreservations : ∃ r, r.Settled ∧ m'.pool.reservations = r :: m.pool.reservations)
  /-- Seven neighbouring slots were handed to the driver. -/
  | handed (hstatus : status = 0) (hidle : m.raw.handedOff = false)
      (hhanded : m'.raw.handedOff = true) (hheld : m'.held.length = 7)
      (hcontroller : m'.pool.controller = m.pool.controller)
      (hfree : (m'.held ++ m'.pool.free).Perm m.pool.free)
      (hreservations : ∃ r, r.Open m'.held ∧ m'.pool.reservations = r :: m.pool.reservations)

theorem sendReady_idle {c : SendCall} {opcode : UInt8} {plan : Option AirSessionPlan}
    {m : RawModule} (h : m.sendReady c opcode plan = true) : m.raw.handedOff = false := by
  unfold RawModule.sendReady at h
  simp only [Bool.and_eq_true, Bool.not_eq_true'] at h
  exact h.1.1.1.1.1.2

theorem sent_slots (c : SendCall) (opcode : UInt8) (plan : Option AirSessionPlan) (m : RawModule) :
    (m.sent c opcode plan).pool = m.pool ∧ (m.sent c opcode plan).held = m.held ∧
      (m.sent c opcode plan).raw.handedOff = m.raw.handedOff := by
  unfold RawModule.sent
  split
  · exact ⟨rfl, rfl, rfl⟩
  · split
    · exact ⟨rfl, rfl, rfl⟩
    · split
      · unfold RawModule.sentE2
        split <;> exact ⟨rfl, rfl, rfl⟩
      · exact ⟨rfl, rfl, rfl⟩

section Reserved

variable {rom : PoolRom} {m : RawModule} {start : Option Nat}

theorem reservedPool_free (p : LlcpPool) (h : p.free.Nodup) :
    (LlcpPool.kept start 7 p.free.reverse ++ (reservedPool rom start p).free).Perm p.free := by
  have hfree := (@LlcpPool.returnAll_fields rom
    (LlcpPool.surplus start 7 p.free.reverse) { p with
      free := [], reservations := { taken := p.free.reverse, returned := [] } :: p.reservations }).1
  rw [List.append_nil] at hfree
  have hsplit := LlcpPool.kept_surplus start 7 (List.nodup_reverse.mpr h)
  exact ((hfree.append_left _).trans hsplit).trans (List.reverse_perm _)

theorem reservedPool_controller (p : LlcpPool) :
    (reservedPool rom start p).controller = p.controller :=
  (LlcpPool.returnAll_fields _ _).2

theorem reservedPool_reservations (p : LlcpPool) :
    (reservedPool rom start p).reservations =
      { taken := p.free.reverse
        returned := (LlcpPool.surplus start 7 p.free.reverse).reverse } :: p.reservations := by
  have hall := @LlcpPool.returnAll_reservations rom
    (LlcpPool.surplus start 7 p.free.reverse) { p with
      free := [], reservations := { taken := p.free.reverse, returned := [] } :: p.reservations } _ _ rfl
  rw [List.append_nil] at hall
  exact hall

/-- The reservation lacks what it keeps. -/
theorem reserved_open (p : LlcpPool) (h : p.free.Nodup) :
    PoolReservation.Open { taken := p.free.reverse
                           returned := (LlcpPool.surplus start 7 p.free.reverse).reverse }
      (LlcpPool.kept start 7 p.free.reverse) := by
  have hnodup := List.nodup_reverse.mpr h
  refine ⟨hnodup, ?_⟩
  exact ((List.reverse_perm _).append_left _).trans (LlcpPool.kept_surplus start 7 hnodup)

/-- All that is held goes back, and the reservation with it is settled. -/
theorem returned_settled {p : LlcpPool} {held : List Slot} {r : PoolReservation}
    {rest : List PoolReservation} (h : p.reservations = r :: rest) (hr : r.Open held) :
    ∃ r', r'.Settled ∧ (p.returnAll rom held).reservations = r' :: rest := by
  refine ⟨_, ?_, LlcpPool.returnAll_reservations held p h⟩
  exact ⟨hr.1, ((List.reverse_perm held).append_right _).trans hr.2⟩

/-- A reservation that is released again. -/
theorem released_slots (start : Option Nat) {m1 m' : RawModule} {status : UInt8} (hi : PoolInv m)
    (hidle : m.raw.handedOff = false) (hstatus : status ≠ 0) (h1 : m1.raw.handedOff = false)
    (hheld : m1.held = LlcpPool.kept start 7 m.pool.free.reverse)
    (hpool : m1.pool = reservedPool rom start m.pool) (hm' : m' = m1.poolRelease rom) :
    SendSlots m m' status := by
  rw [RawModule.poolRelease_eq h1] at hm'
  obtain ⟨hback, hcontroller⟩ := @LlcpPool.returnAll_fields rom m1.held m1.pool
  have hreservations := @reservedPool_reservations rom start m.pool
  obtain ⟨r, hr, hrest⟩ := @returned_settled rom _ _ _ _ hreservations
    (reserved_open m.pool hi.nodup_free)
  refine .released hstatus hidle ?_ ?_ ?_ ?_ ⟨r, hr, ?_⟩
  · rw [hm']
    exact h1
  · rw [hm']
  · rw [hm']
    change (m1.pool.returnAll rom m1.held).controller = _
    rw [hcontroller, hpool]
    exact reservedPool_controller m.pool
  · rw [hm']
    change (m1.pool.returnAll rom m1.held).free.Perm _
    apply hback.trans
    rw [hheld, hpool]
    exact reservedPool_free m.pool hi.nodup_free
  · rw [hm']
    change (m1.pool.returnAll rom m1.held).reservations = _
    rw [hheld, hpool]
    exact hrest

end Reserved

theorem rawSend_slots {rom : PoolRom} (c : SendCall) (opcode : UInt8)
    (plan : Option AirSessionPlan) {m : RawModule} (hi : PoolInv m) :
    SendSlots m (m.rawSend rom c opcode plan).2 (m.rawSend rom c opcode plan).1 := by
  unfold RawModule.rawSend
  split
  · exact .untouched (show (0x12 : UInt8) ≠ 0 by decide) rfl rfl rfl
  · split
    · exact .untouched (show (0x12 : UInt8) ≠ 0 by decide) rfl rfl rfl
    · split
      · exact .untouched (show (0x0c : UInt8) ≠ 0 by decide) rfl rfl rfl
      next hready =>
        have hidle : m.raw.handedOff = false := sendReady_idle (by simpa using hready)
        obtain ⟨start, m1, hreserve, hstart, hraw, hheld, hpool⟩ :=
          @RawModule.poolReserve_eq rom _ hidle hi.nodup_free c.memAddr
        have hidle1 : m1.raw.handedOff = false := by rw [hraw, hidle]
        have hfree := @reservedPool_free rom start m.pool hi.nodup_free
        have hopen := @reserved_open start m.pool hi.nodup_free
        rw [← hheld] at hopen
        rw [← hheld, ← hpool] at hfree
        have hcontroller := @reservedPool_controller rom start m.pool
        have hreservations := @reservedPool_reservations rom start m.pool
        rw [← hpool] at hcontroller hreservations
        rw [hreserve]
        cases start with
        | none =>
            have hempty : m1.held = [] := hheld
            rw [hempty] at hfree hopen
            exact .released (show (0x0c : UInt8) ≠ 0 by decide) hidle hidle1 hempty hcontroller hfree
              ⟨_, hopen, hreservations⟩
        | some s =>
            have hlength : m1.held.length = 7 := by
              rw [hheld]
              exact LlcpPool.kept_length (hstart s rfl)
            simp only [Option.isSome_some]
            split
            · exact released_slots (some s) hi hidle (show (0x0c : UInt8) ≠ 0 by decide) hidle1 hheld hpool rfl
            · split
              next hstatus =>
                refine released_slots (some s) hi hidle hstatus ?_ ?_ ?_ rfl
                · rfl
                · exact hheld
                · exact hpool
              next hstatus =>
                simp only
                generalize hm2 : ({ m1.onRaw fun s => { s with handedOff := true } with
                  releasedSlots := 0, tailOk := false } : RawModule) = m2
                obtain ⟨hpool2, hheld2, hhanded2⟩ := sent_slots c opcode plan m2
                generalize m2.sent c opcode plan = m' at hpool2 hheld2 hhanded2 ⊢
                rw [← hm2] at hpool2 hheld2 hhanded2
                refine .handed rfl hidle hhanded2 ?_ ?_ ?_ ?_
                · rw [hheld2]
                  exact hlength
                · rw [hpool2]
                  exact hcontroller
                · rw [hpool2, hheld2]
                  exact hfree
                · rw [hpool2, hheld2]
                  exact ⟨_, hopen, hreservations⟩

/-! ## Every action -/

theorem PoolInv.sent {m m' : RawModule} {status : UInt8} (hi : PoolInv m)
    (h : SendSlots m m' status) : PoolInv m' := by
  cases h with
  | untouched hstatus hpool hheld hhanded => exact hi.same hpool hheld hhanded
  | released hstatus hidle hhanded hheld hcontroller hfree hreservations =>
      have hempty := hi.empty hidle
      obtain ⟨r, hr, hreservations⟩ := hreservations
      refine ⟨?_, fun hf => absurd (hhanded.symm.trans hf) (by decide), fun _ => hheld, fun _ => ?_,
        fun hf => absurd (hhanded.symm.trans hf) (by decide)⟩
      · have hall := hi.partition
        rw [hempty] at hall
        rw [hheld, hcontroller]
        exact (hfree.append_left _).trans hall
      · rw [hreservations]
        exact List.forall_mem_cons.mpr ⟨hr, hi.settled hidle⟩
  | handed hstatus hidle hhanded hheld hcontroller hfree hreservations =>
      have hempty := hi.empty hidle
      obtain ⟨r, hr, hreservations⟩ := hreservations
      refine ⟨?_, fun _ => hheld, fun hf => absurd (hhanded.symm.trans hf) (by decide),
        fun hf => absurd (hhanded.symm.trans hf) (by decide),
        fun _ => ⟨r, _, hreservations, hr, hi.settled hidle⟩⟩
      have hall := hi.partition
      rw [hempty, List.nil_append] at hall
      rw [hcontroller, List.append_assoc]
      -- the slots held come from the free list, past the controller's
      have hswap : (m'.held ++ (m.pool.controller ++ m'.pool.free)).Perm
          (m.pool.controller ++ (m'.held ++ m'.pool.free)) :=
        List.perm_append_comm_assoc _ _ _
      exact hswap.trans ((hfree.append_left _).trans hall)

theorem driverFree_first {rom : PoolRom} {m : RawModule} {i : Slot} {tail : Bool} (hi : PoolInv m)
    (h : m.raw.handedOff = true) (hhead : m.held.head? = some i) :
    (m.driverFree rom tail i).pool = m.pool.returnAll rom m.held ∧
      (m.driverFree rom tail i).held = [] ∧ (m.driverFree rom tail i).raw.handedOff = false := by
  have hmem : i ∈ m.held := List.mem_of_mem_head? hhead
  have hnot : i ∉ m.pool.controller := by
    intro hc
    have hall := hi.partition.nodup_iff.mpr (List.nodup_finRange 20)
    exact (List.nodup_append.mp (List.nodup_append.mp hall).1).2.2 i hmem i hc rfl
  have herase : (m.onPool fun p => { p with controller := p.controller.erase i }) = m := by
    simp only [RawModule.onPool, List.erase_of_not_mem hnot]
  unfold RawModule.driverFree
  rw [herase, RawModule.wrapFree_first tail h hhead]
  exact ⟨rfl, rfl, rfl⟩

theorem driverFree_controller {rom : PoolRom} {m : RawModule} {i : Slot} {tail : Bool}
    (hi : PoolInv m) (h : i ∈ m.pool.controller) :
    m.driverFree rom tail i = m.onPool fun p =>
      { p with controller := p.controller.erase i, free := rom.giveBack i p.free } := by
  have hne : m.held.head? ≠ some i := by
    intro hhead
    have hall := hi.partition.nodup_iff.mpr (List.nodup_finRange 20)
    exact (List.nodup_append.mp (List.nodup_append.mp hall).1).2.2 i
      (List.mem_of_mem_head? hhead) i h rfl
  exact RawModule.wrapFree_other
    (m := m.onPool fun p => { p with controller := p.controller.erase i }) tail (.inr hne)

theorem PoolInv.driverFree {rom : PoolRom} {m : RawModule} {i : Slot} {tail : Bool}
    (hi : PoolInv m) (h : m.driverOwns i) : PoolInv (m.driverFree rom tail i) := by
  rcases h with hc | ⟨hhanded, hhead⟩
  · rw [driverFree_controller hi hc]
    refine ⟨?_, hi.handed, hi.empty, hi.settled, hi.pending⟩
    have hback := rom.perm i m.pool.free
    have herase := List.perm_cons_erase hc
    have hall := hi.partition
    change (m.held ++ m.pool.controller.erase i ++ rom.giveBack i m.pool.free).Perm _
    apply (hback.append_left _).trans
    refine .trans ?_ hall
    apply List.perm_middle.trans
    rw [← List.cons_append]
    apply List.Perm.append_right
    exact List.perm_middle.symm.trans (herase.symm.append_left _)
  · obtain ⟨hpool, hheld, hidle⟩ := @driverFree_first rom _ _ tail hi hhanded hhead
    obtain ⟨hfree, hcontroller⟩ := @LlcpPool.returnAll_fields rom m.held m.pool
    obtain ⟨r, rest, hreservations, hopen, hrest⟩ := hi.pending hhanded
    obtain ⟨r', hr', hreturned⟩ := @returned_settled rom _ _ _ _ hreservations hopen
    refine ⟨?_, fun hf => absurd (hidle.symm.trans hf) (by decide), fun _ => hheld, fun _ => ?_,
      fun hf => absurd (hidle.symm.trans hf) (by decide)⟩
    · rw [hpool, hheld, hcontroller, List.nil_append]
      apply (hfree.append_left _).trans
      refine (List.perm_append_comm_assoc _ _ _).trans ?_
      rw [← List.append_assoc]
      exact hi.partition
    · rw [hpool, hreturned]
      exact List.forall_mem_cons.mpr ⟨hr', hrest⟩

theorem PoolInv.controllerAlloc {m : RawModule} (hi : PoolInv m) :
    PoolInv (m.onPool LlcpPool.controllerAlloc) := by
  unfold RawModule.onPool LlcpPool.controllerAlloc
  cases hfree : m.pool.free with
  | nil =>
      have hsame : m.pool = { m.pool with free := [] } := by rw [← hfree]
      exact hi
  | cons i free =>
      refine ⟨?_, hi.handed, hi.empty, hi.settled, hi.pending⟩
      have hall := hi.partition
      rw [hfree] at hall
      refine .trans ?_ hall
      change (m.held ++ i :: m.pool.controller ++ free).Perm (m.held ++ m.pool.controller ++ i :: free)
      rw [List.append_assoc, List.append_assoc]
      exact (List.perm_middle.symm).append_left _

theorem receiveAirControl_handedOff (s : RawLlcp) (k : Controller) (received : AirControlRx)
    (sent : ParentPdu) :
    (s.receiveAirControl k received sent).2.1.handedOff = s.handedOff := by
  have hreply : (s.receiveReply k received sent).handedOff = s.handedOff := rfl
  have he1 : (s.receiveE1 k received sent).2.handedOff = s.handedOff := by
    unfold RawLlcp.receiveE1
    simp only
    split
    · rfl
    · split <;> rfl
  unfold RawLlcp.receiveAirControl
  split
  · rfl
  · split
    · rfl
    · simp only
      split
      · rfl
      · split
        · split
          · exact he1
          · rfl
        · split
          · exact hreply
          · rfl

theorem prepareSecondStream_slots (k0 k1 k2 : Controller) (first : AirSessionPlan)
    (m : RawModule) :
    (m.prepareSecondStream k0 k1 k2 first).2.pool = m.pool ∧
      (m.prepareSecondStream k0 k1 k2 first).2.held = m.held ∧
      (m.prepareSecondStream k0 k1 k2 first).2.raw.handedOff = m.raw.handedOff := by
  unfold RawModule.prepareSecondStream
  split
  · exact ⟨rfl, rfl, rfl⟩
  · split
    · exact ⟨rfl, rfl, rfl⟩
    · split
      · exact ⟨rfl, rfl, rfl⟩
      · simp only
        split
        · split <;> exact ⟨rfl, rfl, rfl⟩
        · exact ⟨rfl, rfl, rfl⟩

theorem PoolInv.act {rom : PoolRom} {m : RawModule} {a : RawAction} (hi : PoolInv m)
    (ha : a.Allowed m) : PoolInv (m.act rom a).1 := by
  cases a with
  | reset => exact hi.same rfl rfl rfl
  | send c opcode =>
      change PoolInv (m.send rom c opcode).2
      unfold RawModule.send
      split
      · exact hi
      · exact hi.sent (rawSend_slots c opcode none hi)
  | requestSecond c first => exact hi.sent (rawSend_slots c 0xe0 (some first) hi)
  | acknowledged link opcode nowUs =>
      change PoolInv (m.acknowledged link opcode nowUs)
      unfold RawModule.acknowledged
      split
      · split
        · exact hi.same rfl rfl rfl
        · split
          · exact hi.same rfl rfl rfl
          · exact hi
      · exact hi
  | receiveE1 k ind =>
      change PoolInv (m.receiveE1 k ind).2
      unfold RawModule.receiveE1
      split
      · exact hi
      · split
        · exact hi.same rfl rfl rfl
        · exact hi
  | receiveAir k received sent =>
      exact hi.withRaw (receiveAirControl_handedOff m.raw k received sent)
  | prepare k seed offset =>
      change PoolInv { m with raw := (m.raw.prepareSession k seed offset).2 }
      apply hi.withRaw
      unfold RawLlcp.prepareSession
      split <;> rfl
  | prepareSecond k0 k1 k2 first =>
      obtain ⟨hpool, hheld, hhanded⟩ := prepareSecondStream_slots k0 k1 k2 first m
      exact hi.same hpool hheld hhanded
  | commit c plan =>
      change PoolInv (m.commitSession rom c plan).2
      unfold RawModule.commitSession
      split
      · change PoolInv { m with raw := (m.raw.commitAir c.k plan).2 }
        apply hi.withRaw
        unfold RawLlcp.commitAir
        simp only
        split <;> rfl
      · exact hi.sent (rawSend_slots c 0xe2 (some plan) hi)
  | parentRetired => exact hi.same rfl rfl rfl
  | detachedPdu k =>
      change PoolInv { m with raw := (m.raw.detachedParentAirPdu k).2 }
      apply hi.withRaw
      unfold RawLlcp.detachedParentAirPdu
      simp only
      split
      · split
        · rfl
        · split <;> rfl
      · rfl
  | driverFree i tail => exact hi.driverFree ha
  | controllerAlloc => exact hi.controllerAlloc

theorem RawSystem.poolInv {rom : PoolRom} {trace : List RawAction} {s : RawSystem}
    (h : Library.Run (RawSystem.Step rom) .init trace s) : PoolInv s.module := by
  refine h.invariant (fun s => PoolInv s.module) poolInv_init fun t a u hi hs => ?_
  obtain ⟨hallowed, rfl⟩ := hs
  exact hi.act hallowed

/-- The slots over every run.  Between two calls a reservation is handed off exactly while seven
slots are held; each slot is free, the controller's or held; and all that reservations took is back
once, but for the seven held now.  A send leaves the free list as it was or hands seven slots off,
none is handed off before a reservation, and the driver's free of the first slot returns all seven. -/
theorem slots_conserved {rom : PoolRom} {trace : List RawAction} {s : RawSystem}
    (h : Library.Run (RawSystem.Step rom) .init trace s) :
    (s.module.raw.handedOff = true ↔ s.module.held.length = 7) ∧
    (s.module.raw.handedOff = false ↔ s.module.held = []) ∧
    (s.module.held ++ s.module.pool.controller ++ s.module.pool.free).Perm (List.finRange 20) ∧
    (∀ r ∈ s.module.pool.reservations, r.Settled ∨
      (s.module.raw.handedOff = true ∧ s.module.pool.reservations.head? = some r ∧
        r.Open s.module.held)) ∧
    (∀ c opcode plan, SendSlots s.module (s.module.rawSend rom c opcode plan).2
      (s.module.rawSend rom c opcode plan).1) ∧
    ∀ i tail, s.module.driverOwns i →
      let m' := s.module.driverFree rom tail i
      if s.module.raw.handedOff = true ∧ s.module.held.head? = some i then
        m'.held = [] ∧ m'.pool.free.Perm (s.module.held ++ s.module.pool.free)
      else m'.held = s.module.held ∧ m'.pool.free.Perm (i :: s.module.pool.free) := by
  have hi := RawSystem.poolInv h
  refine ⟨⟨hi.handed, fun hseven => ?_⟩, ⟨hi.empty, fun hnone => ?_⟩, hi.partition, fun r hr => ?_,
    fun c opcode plan => rawSend_slots c opcode plan hi, fun i tail hi' => ?_⟩
  · cases hh : s.module.raw.handedOff with
    | true => rfl
    | false =>
        rw [hi.empty hh] at hseven
        exact (nomatch hseven)
  · cases hh : s.module.raw.handedOff with
    | false => rfl
    | true =>
        have hseven := hi.handed hh
        rw [hnone] at hseven
        exact (nomatch hseven)
  · cases hh : s.module.raw.handedOff with
    | false => exact .inl (hi.settled hh r hr)
    | true =>
        obtain ⟨newest, rest, hreservations, hopen, hrest⟩ := hi.pending hh
        rw [hreservations] at hr ⊢
        rcases List.mem_cons.mp hr with rfl | hmem
        · exact .inr ⟨rfl, rfl, hopen⟩
        · exact .inl (hrest r hmem)
  · simp only
    split
    next hfirst =>
      obtain ⟨hpool, hheld, _⟩ := @driverFree_first rom _ _ tail hi hfirst.1 hfirst.2
      refine ⟨hheld, ?_⟩
      rw [hpool]
      exact (LlcpPool.returnAll_fields _ _).1
    next hother =>
      have hc := hi'.resolve_right hother
      rw [driverFree_controller hi hc]
      exact ⟨rfl, rom.perm i s.module.pool.free⟩

/-- E4 is handed off, and the driver's free of its first slot returns all seven. -/
theorem slots_conserved_sent :
    ∃ s, Library.Run (RawSystem.Step queueRom) .init [.send (sendAt 0) 0xe4] s ∧
      s.module.raw.handedOff = true ∧ s.module.held.length = 7 ∧
      (s.module.driverFree queueRom true 0).held = [] := by
  have hrun : Library.Run (RawSystem.Step queueRom) .init [.send (sendAt 0) 0xe4]
      (RawSystem.init.act queueRom (.send (sendAt 0) 0xe4)) := .single ⟨trivial, rfl⟩
  have hstate : ((RawSystem.init.act queueRom (.send (sendAt 0) 0xe4)).module.raw.handedOff,
      (RawSystem.init.act queueRom (.send (sendAt 0) 0xe4)).module.held.head?) = (true, some 0) := by
    decide +kernel
  obtain ⟨hhanded, hhead⟩ := Prod.mk.inj hstate
  obtain ⟨hseven, _, _, _, _, hfree⟩ := slots_conserved hrun
  have hback := hfree 0 true (.inr ⟨hhanded, hhead⟩)
  simp only at hback
  rw [if_pos ⟨hhanded, hhead⟩] at hback
  exact ⟨_, hrun, hhanded, hseven.mp hhanded, hback.1⟩

end UllReceiver.Parent
