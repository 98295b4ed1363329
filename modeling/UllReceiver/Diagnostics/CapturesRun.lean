import Mathlib
import UllReceiver.Diagnostics.Captures

/-!
# No capture crosses a switch
-/

namespace UllReceiver.Diagnostics

open Library

/-! ## The ring -/

/-- The log after the arrivals that were let through, with `given` drained from it already. -/
structure ControlLog.Holds (l : ControlLog) (arrivals : List Arrival) (given : List Record) :
    Prop where
  kept : given ++ l.queue = (arrivals.filterMap (·.record)).take capacity
  total : l.total = UInt32.ofNat ((arrivals.filterMap (·.record)).take capacity).length
  dropped : l.dropped = UInt32.ofNat ((arrivals.filterMap (·.record)).drop capacity).length
  suppressed : l.suppressed = UInt32.ofNat (arrivals.filter (·.record.isNone)).length
  count : l.count.toNat ≤ capacity
  head : l.head = ringSlot capacity (l.tail + l.count.toNat)

theorem ringSlot_add_one (i : Nat) :
    ringSlot capacity i + 1 = ringSlot capacity (i + 1) := by
  apply Fin.ext
  change (i % 32 + 1 % 32) % 32 = (i + 1) % 32
  omega

theorem ringSlot_tail (t : Fin capacity) : ringSlot capacity t.val = t :=
  Fin.ext (Nat.mod_eq_of_lt t.isLt)

theorem take_append_newest {α : Type*} (l : List α) (a : α) (n : Nat) :
    (l ++ [a]).take n = if l.length < n then l.take n ++ [a] else l.take n := by
  split
  next h =>
    rw [List.take_of_length_le (by simp; omega), List.take_of_length_le (by omega)]
  next h => exact List.take_append_of_le_length (by omega)

theorem ControlLog.Holds.enable_true (l : ControlLog) : (l.enable true).Holds [] [] where
  kept := rfl
  total := rfl
  dropped := rfl
  suppressed := rfl
  count := Nat.zero_le _
  head := rfl

theorem ControlLog.Holds.of_eq {l m : ControlLog} {arrivals : List Arrival} {given : List Record}
    (h : l.Holds arrivals given) (hm : ∃ e g, m = { l with enabled := e, generation := g }) :
    m.Holds arrivals given := by
  obtain ⟨e, g, rfl⟩ := hm
  exact ⟨h.kept, h.total, h.dropped, h.suppressed, h.count, h.head⟩

/-- A message to hide is counted. -/
theorem ControlLog.Holds.hide {l : ControlLog} {arrivals : List Arrival} {given : List Record}
    (h : l.Holds arrivals given) {a : Arrival} (ha : a.record = none) :
    { l with suppressed := l.suppressed + 1 }.Holds (arrivals ++ [a]) given := by
  have hsame : (arrivals ++ [a]).filterMap (·.record) = arrivals.filterMap (·.record) := by
    simp [ha]
  refine ⟨?_, ?_, ?_, ?_, h.count, h.head⟩
  · rw [hsame]
    exact h.kept
  · rw [hsame]
    exact h.total
  · rw [hsame]
    exact h.dropped
  · have hnone : [a].filter (·.record.isNone) = [a] := by simp [ha]
    rw [List.filter_append, hnone, List.length_append, UInt32.ofNat_add, ← h.suppressed]
    rfl

/-- A record that finds the ring full is counted, and one of the first 32 goes behind the
others. -/
theorem ControlLog.Holds.show {l : ControlLog} {arrivals : List Arrival}
    (h : l.Holds arrivals []) {a : Arrival} {r : Record} (ha : a.record = some r) :
    (if l.count = 32 then { l with dropped := l.dropped + 1 }
      else
        { l with
          records := Function.update l.records l.head r
          head := l.head + 1, count := l.count + 1, total := l.total + 1 }).Holds
      (arrivals ++ [a]) [] := by
  have hmore : (arrivals ++ [a]).filterMap (·.record) = arrivals.filterMap (·.record) ++ [r] := by
    simp [ha]
  have hnone : (arrivals ++ [a]).filter (·.record.isNone) =
      arrivals.filter (·.record.isNone) := by
    simp [ha]
  have hlength : l.count.toNat = min capacity (arrivals.filterMap (·.record)).length := by
    have hqueue := congrArg List.length h.kept
    rw [List.nil_append, List.length_take] at hqueue
    exact (ringView_length _ _ _).symm.trans hqueue
  have hkept : l.queue = (arrivals.filterMap (·.record)).take capacity := h.kept
  have hfull : l.count = 32 ↔ l.count.toNat = 32 := UInt32.toNat_inj.symm
  split
  next hc =>
    have hlong : capacity ≤ (arrivals.filterMap (·.record)).length := by
      have hcount := hfull.mp hc
      rw [hlength] at hcount
      exact (Nat.le_of_eq hcount.symm).trans (Nat.min_le_right _ _)
    refine ⟨?_, ?_, ?_, ?_, h.count, h.head⟩
    · rw [hmore, List.take_append_of_le_length hlong]
      exact h.kept
    · rw [hmore, List.take_append_of_le_length hlong]
      exact h.total
    · rw [hmore, List.drop_append_of_le_length hlong, List.length_append, UInt32.ofNat_add,
        ← h.dropped]
      rfl
    · rw [hnone]
      exact h.suppressed
  next hc =>
    have hroom : l.count.toNat < capacity := by
      exact Nat.lt_of_le_of_ne h.count fun h32 => hc (hfull.mpr h32)
    have hshort : (arrivals.filterMap (·.record)).length < capacity := by omega
    have hnext : (l.count + 1).toNat = l.count.toNat + 1 := by
      rw [UInt32.toNat_add, UInt32.toNat_one]
      change _ < 32 at hroom
      omega
    have htake : ((arrivals ++ [a]).filterMap (·.record)).take capacity =
        (arrivals.filterMap (·.record)).take capacity ++ [r] := by
      rw [hmore, take_append_newest, if_pos hshort]
    refine ⟨?_, ?_, ?_, ?_, ?_, ?_⟩
    · rw [htake, ← hkept]
      change ringView (Function.update l.records l.head r) l.tail (l.count + 1).toNat = _
      rw [hnext, h.head, ringView_push _ _ _ _ hroom]
      rfl
    · rw [htake, List.length_append, UInt32.ofNat_add, ← h.total]
      rfl
    · rw [hmore, List.drop_of_length_le (by simp; omega)]
      exact h.dropped.trans (by rw [List.drop_of_length_le (by omega)])
    · rw [hnone]
      exact h.suppressed
    · change (l.count + 1).toNat ≤ 32
      change _ < 32 at hroom
      omega
    · change l.head + 1 = ringSlot capacity (l.tail + (l.count + 1).toNat)
      rw [hnext, h.head, ringSlot_add_one]
      rfl

theorem ControlLog.drain_none {l : ControlLog} (h : l.drain = none) : l.queue = [] := by
  unfold ControlLog.drain at h
  split at h
  next hc =>
    unfold ControlLog.queue
    rw [hc]
    rfl
  next => cases h

theorem ControlLog.Holds.drain {l m : ControlLog} {arrivals : List Arrival}
    {given : List Record} {r : Record} (h : l.Holds arrivals given)
    (hd : l.drain = some (r, m)) : m.Holds arrivals (given ++ [r]) := by
  unfold ControlLog.drain at hd
  split at hd
  next => cases hd
  next hc =>
    cases hd
    have hpos : l.count.toNat ≠ 0 := fun h0 => hc (UInt32.toNat_inj.mp h0)
    have hless : (l.count - 1).toNat = l.count.toNat - 1 := by
      rw [UInt32.toNat_sub_of_le _ _ (UInt32.le_iff_toNat_le.mpr (by simp; omega))]
      rfl
    have hone : l.count.toNat = (l.count - 1).toNat + 1 := by omega
    have htail : l.tail + 1 = ringSlot capacity (l.tail.val + 1) := by
      rw [← ringSlot_add_one, ringSlot_tail]
    have hmod : (l.tail + 1).val ≡ l.tail.val + 1 [MOD capacity] := by
      rw [htail]
      exact Nat.mod_modEq _ _
    refine ⟨?_, h.total, h.dropped, h.suppressed, ?_, ?_⟩
    · rw [← h.kept, List.append_assoc]
      congr 1
      change [l.records l.tail] ++ ringView l.records (l.tail + 1).val (l.count - 1).toNat =
        ringView l.records l.tail l.count.toNat
      rw [hone, ringView_succ, ringView_congr _ _ hmod, ringSlot_tail]
      rfl
    · change (l.count - 1).toNat ≤ capacity
      have := h.count
      omega
    · change l.head = ringSlot capacity ((l.tail + 1).val + (l.count - 1).toNat)
      rw [h.head, hone, ringSlot_congr (hmod.add_right _)]
      congr 1
      omega

/-! ## A capture comes before its publication -/

/-- The next access to the generation is a capture. -/
def freshTodo : List DiagOp → Bool
  | [] => true
  | .capture :: _ => true
  | .commit _ :: _ => false
  | _ :: rest => freshTodo rest

/-- Neither a capture nor a publication. -/
def DiagOp.plain : DiagOp → Bool
  | .capture => false
  | .commit _ => false
  | _ => true

theorem freshTodo_append {l : List DiagOp} (h : ∀ op ∈ l, op.plain = true) (m : List DiagOp) :
    freshTodo (l ++ m) = freshTodo m := by
  induction l with
  | nil => rfl
  | cons op l ih =>
    have hop := h op (List.mem_cons_self ..)
    have hl := ih fun o ho => h o (List.mem_cons_of_mem _ ho)
    cases op with
    | capture => cases hop
    | commit r => cases hop
    | _ => exact hl

theorem observe_plain (origin : UInt32) (p : Option (List UInt8)) (n : UInt32) :
    ∀ op ∈ observe origin p n, op.plain = true := by
  unfold observe
  split
  · simp
  · split_ifs <;> simp [DiagOp.plain]

theorem statusProbeAir_plain (header : UInt8) (p : Option (List UInt8)) (n : UInt32) :
    ∀ op ∈ statusProbeAir header p n, op.plain = true := by
  unfold statusProbeAir
  split
  · simp
  · split_ifs
    · simp
    · simp [DiagOp.plain]
    · exact observe_plain _ _ _

theorem statusProbeAcl_plain (p : Option (List UInt8)) (n : UInt32) :
    ∀ op ∈ statusProbeAcl p n, op.plain = true := by
  unfold statusProbeAcl
  split_ifs
  · exact observe_plain _ _ _
  · simp

theorem statusProbeControlOnly_plain (header : UInt8) (p : Option (List UInt8)) (n : UInt32) :
    ∀ op ∈ statusProbeControlOnly header p n, op.plain = true := by
  unfold statusProbeControlOnly
  split
  · simp
  · dsimp only
    split_ifs <;> simp [DiagOp.plain]

theorem program_fresh (c : DiagCall) : freshTodo c.program = true := by
  unfold DiagCall.program
  cases c.entry with
  | controlLogAir =>
    dsimp only
    unfold controlLogAir
    split
    · rfl
    · split
      · exact freshTodo_append (statusProbeAir_plain _ _ _) _
      · rfl
  | controlLogAcl =>
    dsimp only
    unfold controlLogAcl
    split
    · exact freshTodo_append (statusProbeAcl_plain _ _) _
    · rfl
  | statusProbeAir =>
    rw [← List.append_nil (statusProbeAir _ _ _)]
    exact freshTodo_append (statusProbeAir_plain _ _ _) []
  | statusProbeAcl =>
    rw [← List.append_nil (statusProbeAcl _ _)]
    exact freshTodo_append (statusProbeAcl_plain _ _) []
  | statusProbeControlOnly =>
    rw [← List.append_nil (statusProbeControlOnly _ _ _)]
    exact freshTodo_append (statusProbeControlOnly_plain _ _ _) []

/-! ## One step -/

/-- Before its capture a call knows nothing, and after it the word that it captured. -/
def LogRun.Knows (s : LogRun) (i : Nat) : Prop :=
  freshTodo (s.diag.workers i).todo = true ∨
    (s.diag.workers i).generation = UInt32.ofNat (s.captured i) ∧ s.captured i ≤ s.epoch

structure LogRun.Inv (s : LogRun) : Prop where
  generation : s.diag.data.log.generation = UInt32.ofNat s.epoch
  opened_le : ∀ e, s.opened = some e → e ≤ s.epoch
  locked : s.console.locked = true → s.diag.data.log.enabled = false
  enabled : s.console.locked = false →
    (s.diag.data.log.enabled = true ↔ s.opened = some s.epoch)
  quiet : s.opened = some s.epoch → s.drains = [] ∧ ∀ emitted, s.console ≠ .draining emitted
  knows : ∀ i, s.Knows i
  rechecked : ∀ a ∈ s.arrivals, a.passed = s.inTime a
  holds : s.diag.data.log.Holds s.eligible (s.drains.flatten ++ s.console.emitted)
  first : ∀ first later, s.drains = first :: later → first = s.wanted.take capacity

theorem Console.emitted_nil {c : Console} (h : ∀ emitted, c ≠ .draining emitted) :
    c.emitted = [] := by
  cases c with
  | idle => rfl
  | switching c => rfl
  | draining emitted => exact absurd rfl (h emitted)

theorem LogRun.Inv.reset : LogRun.reset.Inv where
  generation := rfl
  opened_le := fun _ h => nomatch h
  locked := fun _ => rfl
  enabled := fun _ => ⟨fun h => (nomatch h), fun h => (nomatch h)⟩
  quiet := fun h => nomatch h
  knows := fun _ => Or.inl rfl
  rechecked := fun _ h => nomatch h
  holds := ⟨rfl, rfl, rfl, rfl, Nat.zero_le _, rfl⟩
  first := fun _ _ h => nomatch h

/-- A step of a worker that leaves the log alone. -/
theorem LogRun.Inv.work {s : LogRun} (h : s.Inv) {d : DiagState} {captured : Nat → Nat}
    (hlog : d.data.log = s.diag.data.log)
    (hknows : ∀ i, LogRun.Knows { s with diag := d, captured := captured } i) :
    LogRun.Inv { s with diag := d, captured := captured } where
  generation := (congrArg (·.generation) hlog).trans h.generation
  opened_le := h.opened_le
  locked := fun hl => (congrArg (·.enabled) hlog).trans (h.locked hl)
  enabled := by
    intro hl
    change d.data.log.enabled = true ↔ _
    rw [hlog]
    exact h.enabled hl
  quiet := h.quiet
  knows := hknows
  rechecked := h.rechecked
  holds := by
    change d.data.log.Holds _ _
    rw [hlog]
    exact h.holds
  first := h.first

theorem LogRun.Knows.of_ne {s : LogRun} {i j : Nat} (h : s.Knows j) (hij : j ≠ i)
    {d : DiagData} {w : Worker} {p : List Record} {n : Nat} :
    LogRun.Knows { s with
      diag := { data := d, workers := Function.update s.diag.workers i w, printed := p }
      captured := Function.update s.captured i n } j := by
  unfold LogRun.Knows at h ⊢
  simp only [Function.update_of_ne hij]
  exact h

theorem LogRun.Inv.call {s t : LogRun} (h : s.Inv) {i : Nat} {c : DiagCall}
    (ht : s.act (.call i c) = some t) : t.Inv := by
  unfold LogRun.act at ht
  dsimp only at ht
  rw [DiagState.act_call] at ht
  split at ht
  next =>
    cases ht
    refine h.work rfl fun j => ?_
    by_cases hij : j = i
    · left
      subst hij
      dsimp only
      rw [Function.update_self]
      exact program_fresh c
    · rcases h.knows j with hj | hj
      · left
        dsimp only
        rw [Function.update_of_ne hij]
        exact hj
      · right
        dsimp only
        rw [Function.update_of_ne hij]
        exact hj
  next => cases ht

/-- Such a step takes nothing from the log, and the call keeps the word it captured. -/
theorem DiagOp.exec_plain {op : DiagOp} (hop : op.plain = true) (now : Int64) (d : DiagData)
    (w : Worker) :
    (op.exec now d w).1.log = d.log ∧ (op.exec now d w).2.generation = w.generation ∧
      ((op.exec now d w).2.todo = w.todo ∨ (op.exec now d w).2.todo = []) := by
  cases op with
  | capture => cases hop
  | commit r => cases hop
  | check =>
    refine ⟨rfl, ?_, ?_⟩
    · unfold DiagOp.exec
      dsimp only
      split <;> rfl
    · unfold DiagOp.exec
      dsimp only
      split
      · exact Or.inl rfl
      · exact Or.inr rfl
  | _ => exact ⟨rfl, rfl, Or.inl rfl⟩

theorem freshTodo_plain {op : DiagOp} (hop : op.plain = true) (rest : List DiagOp) :
    freshTodo (op :: rest) = freshTodo rest := by
  cases op with
  | capture => cases hop
  | commit r => cases hop
  | _ => rfl

theorem LogRun.note_plain {op : DiagOp} (hop : op.plain = true) (s : LogRun) (i : Nat) :
    s.note i op = s := by
  cases op with
  | capture => cases hop
  | commit r => cases hop
  | _ => rfl

/-- Worker `i` after the step `op`. -/
def LogRun.stepped (s : LogRun) (i : Nat) (now : Int64) (op : DiagOp) (rest : List DiagOp) :
    LogRun :=
  { s.note i op with
    diag := { s.diag with
      data := (op.exec now s.diag.data { s.diag.workers i with todo := rest }).1
      workers := Function.update s.diag.workers i
        (op.exec now s.diag.data { s.diag.workers i with todo := rest }).2 } }

theorem LogRun.act_run {s t : LogRun} {i : Nat} {now : Int64} (h : s.act (.run i now) = some t) :
    t = s ∨ ∃ op rest, (s.diag.workers i).todo = op :: rest ∧
      ¬(op.locks = true ∧ s.console.locked = true) ∧ t = s.stepped i now op rest := by
  unfold LogRun.act at h
  dsimp only at h
  split at h
  next =>
    cases h
    exact Or.inl rfl
  next op rest htodo =>
    split at h
    next => cases h
    next hfree =>
      rw [DiagState.act_step htodo] at h
      cases h
      exact Or.inr ⟨op, rest, htodo, by simpa using hfree, rfl⟩

theorem LogRun.Inv.plain {s : LogRun} (h : s.Inv) {i : Nat} {op : DiagOp} {rest : List DiagOp}
    (htodo : (s.diag.workers i).todo = op :: rest) (hop : op.plain = true) (now : Int64) :
    (s.stepped i now op rest).Inv := by
  have hexec := DiagOp.exec_plain hop now s.diag.data { s.diag.workers i with todo := rest }
  unfold LogRun.stepped
  rw [LogRun.note_plain hop]
  refine @LogRun.Inv.work s h _ s.captured hexec.1 fun j => ?_
  by_cases hij : j = i
  · subst hij
    unfold LogRun.Knows
    dsimp only
    rw [Function.update_self]
    rcases hexec.2.2 with hrest | hend
    · rw [hrest, hexec.2.1, ← freshTodo_plain hop rest, ← htodo]
      exact h.knows j
    · left
      rw [hend]
      rfl
  · have := (h.knows j).of_ne (d := s.diag.data) (p := s.diag.printed) hij
      (w := s.diag.workers i) (n := s.captured i)
    unfold LogRun.Knows at this ⊢
    simp only [Function.update_of_ne hij] at this ⊢
    exact this

theorem LogRun.Inv.capture {s : LogRun} (h : s.Inv) (i : Nat) (now : Int64)
    (rest : List DiagOp) : (s.stepped i now .capture rest).Inv := by
  refine h.work rfl fun j => ?_
  by_cases hij : j = i
  · right
    subst hij
    have hself : (s.note j .capture).captured j = s.epoch := Function.update_self ..
    dsimp only
    rw [Function.update_self, hself]
    exact ⟨h.generation, Nat.le_refl _⟩
  · exact (h.knows j).of_ne hij

/-! ## A publication -/

theorem ofNat_inj_of_lt {m n : Nat} (hm : m < 2 ^ 32) (hn : n < 2 ^ 32) :
    UInt32.ofNat m = UInt32.ofNat n ↔ m = n := by
  rw [← UInt32.toNat_inj, UInt32.toNat_ofNat_of_lt' hm, UInt32.toNat_ofNat_of_lt' hn]

theorem LogRun.Inv.committer {s : LogRun} (h : s.Inv) {i : Nat} {r : Option Record}
    {rest : List DiagOp} (htodo : (s.diag.workers i).todo = .commit r :: rest) :
    (s.diag.workers i).generation = UInt32.ofNat (s.captured i) ∧ s.captured i ≤ s.epoch := by
  have hi := h.knows i
  unfold LogRun.Knows at hi
  rw [htodo] at hi
  exact hi.resolve_left (by simp [freshTodo])

/-- The recheck lets through what was captured since the log was switched on. -/
theorem LogRun.Inv.arrival_passed {s : LogRun} (h : s.Inv) (hepoch : s.epoch < 2 ^ 32) {i : Nat}
    {r : Option Record} {rest : List DiagOp} (htodo : (s.diag.workers i).todo = .commit r :: rest)
    (hfree : s.console.locked = false) :
    (s.arrival i r).passed = s.inTime (s.arrival i r) := by
  have hknows := h.committer htodo
  have hword : (s.diag.workers i).generation = s.diag.data.log.generation ↔
      s.captured i = s.epoch := by
    rw [hknows.1, h.generation]
    exact ofNat_inj_of_lt (by omega) hepoch
  rw [Bool.eq_iff_iff]
  simp only [LogRun.arrival, LogRun.inTime, Bool.and_eq_true, beq_iff_eq, h.enabled hfree, hword]
  constructor
  · intro ⟨hopen, hsame⟩
    exact ⟨by rw [hsame, hopen], hopen.symm⟩
  · intro ⟨hcaptured, hopen⟩
    exact ⟨hopen.symm, Option.some.inj (hcaptured.trans hopen.symm)⟩

theorem ControlLog.commit_refused {l : ControlLog} {capture : UInt32}
    (h : ¬(l.enabled = true ∧ capture = l.generation)) (us : Int64) (r : Option Record) :
    l.commit capture us r = l :=
  if_neg h

theorem ControlLog.commit_config (l : ControlLog) (capture : UInt32) (us : Int64)
    (r : Option Record) :
    (l.commit capture us r).enabled = l.enabled ∧
      (l.commit capture us r).generation = l.generation := by
  unfold ControlLog.commit
  split
  · cases r with
    | none => exact ⟨rfl, rfl⟩
    | some r =>
      dsimp only
      split <;> exact ⟨rfl, rfl⟩
  · exact ⟨rfl, rfl⟩

theorem ControlLog.Holds.commit {l : ControlLog} {arrivals : List Arrival}
    (h : l.Holds arrivals []) {capture : UInt32} (hpass : l.enabled = true ∧ capture = l.generation)
    (us : Int64) {a : Arrival} {r : Option Record}
    (ha : a.record = r.map fun r => { r with us := us }) :
    (l.commit capture us r).Holds (arrivals ++ [a]) [] := by
  unfold ControlLog.commit
  rw [if_pos hpass]
  cases r with
  | none => exact h.hide ha
  | some r => exact h.show ha

theorem LogRun.Inv.commit {s : LogRun} (h : s.Inv) (hepoch : s.epoch < 2 ^ 32) {i : Nat}
    {r : Option Record} {rest : List DiagOp} (htodo : (s.diag.workers i).todo = .commit r :: rest)
    (hfree : s.console.locked = false) (now : Int64) :
    (s.stepped i now (.commit r) rest).Inv := by
  have hpassed := h.arrival_passed hepoch htodo hfree
  have hconfig := s.diag.data.log.commit_config (s.diag.workers i).generation
    (s.diag.workers i).us r
  have heligible : (s.stepped i now (.commit r) rest).eligible =
      s.eligible ++ [s.arrival i r].filter s.inTime :=
    List.filter_append ..
  have hknows (j : Nat) : (s.stepped i now (.commit r) rest).Knows j := by
    by_cases hij : j = i
    · right
      subst hij
      unfold LogRun.stepped
      dsimp only
      rw [Function.update_self]
      exact h.committer htodo
    · have hj := h.knows j
      unfold LogRun.Knows LogRun.stepped at *
      simp only [Function.update_of_ne hij]
      exact hj
  have hcase : (s.diag.data.log.commit (s.diag.workers i).generation
        (s.diag.workers i).us r).Holds (s.stepped i now (.commit r) rest).eligible
        (s.drains.flatten ++ s.console.emitted) ∧
      ∀ first later, s.drains = first :: later →
        first = (s.stepped i now (.commit r) rest).wanted.take capacity := by
    unfold LogRun.wanted
    rw [heligible]
    by_cases hlet : (s.arrival i r).passed = true
    · have hin := hpassed.symm.trans hlet
      have hopen : s.opened = some s.epoch := by
        simp only [LogRun.inTime, LogRun.arrival, Bool.and_eq_true, beq_iff_eq] at hin
        exact hin.2.symm
      have hquiet := h.quiet hopen
      have hholds := h.holds
      rw [hquiet.1, Console.emitted_nil hquiet.2] at hholds ⊢
      have hrecheck : s.diag.data.log.enabled = true ∧
          (s.diag.workers i).generation = s.diag.data.log.generation := by
        simpa [LogRun.arrival] using hlet
      constructor
      · rw [List.filter_cons_of_pos hin]
        exact hholds.commit hrecheck _ rfl
      · intro first later hnone
        cases hnone
    · have hout := hpassed.symm.trans (Bool.eq_false_iff.mpr hlet)
      have hrecheck : ¬(s.diag.data.log.enabled = true ∧
          (s.diag.workers i).generation = s.diag.data.log.generation) := by
        simpa [LogRun.arrival] using hlet
      rw [ControlLog.commit_refused hrecheck, List.filter_cons_of_neg (by simp [hout]),
        List.filter_nil, List.append_nil]
      exact ⟨h.holds, h.first⟩
  exact {
    generation := hconfig.2.trans h.generation
    opened_le := h.opened_le
    locked := fun hl => hconfig.1.trans (h.locked hl)
    enabled := by
      intro hl
      change (s.diag.data.log.commit _ _ r).enabled = true ↔ _
      rw [hconfig.1]
      exact h.enabled hl
    quiet := h.quiet
    knows := hknows
    rechecked := by
      intro a ha
      rcases List.mem_append.mp ha with hold | hnew
      · exact h.rechecked a hold
      · rw [List.mem_singleton.mp hnew]
        exact hpassed
    holds := hcase.1
    first := hcase.2 }

/-! ## The console -/

theorem LogRun.Inv.command {s t : LogRun} (h : s.Inv) {c : Command}
    (ht : s.act (.command c) = some t) : t.Inv := by
  unfold LogRun.act at ht
  dsimp only at ht
  split at ht
  next hidle =>
    cases ht
    have hemitted : s.console.emitted = [] := by
      rw [hidle]
      rfl
    exact {
      generation := h.generation
      opened_le := h.opened_le
      locked := fun _ => rfl
      enabled := fun hl => nomatch hl
      quiet := fun hopen => ⟨(h.quiet hopen).1, fun _ hd => nomatch hd⟩
      knows := h.knows
      rechecked := h.rechecked
      holds := by
        have hholds := h.holds
        rw [hemitted] at hholds
        exact hholds.of_eq ⟨_, _, rfl⟩
      first := h.first }
  next => cases ht

theorem ofNat_succ (n : Nat) : UInt32.ofNat n + 1 = UInt32.ofNat (n + 1) :=
  (UInt32.ofNat_add n 1).symm

/-- Workers know their capture across a switch of the log. -/
theorem LogRun.Knows.switch {s t : LogRun} {i : Nat} (h : s.Knows i)
    (hworkers : t.diag.workers = s.diag.workers) (hcaptured : t.captured = s.captured)
    (hepoch : s.epoch ≤ t.epoch) : t.Knows i := by
  unfold LogRun.Knows at h ⊢
  rw [hworkers, hcaptured]
  exact h.imp_right fun hi => ⟨hi.1, hi.2.trans hepoch⟩

theorem LogRun.Inv.switch_on {s : LogRun} (h : s.Inv) :
    LogRun.Inv { s.switched (.enable true) with
      diag := { s.diag with
        data := { s.diag.data with log := s.diag.data.log.enable true } } } where
  generation := by
    change s.diag.data.log.generation + 1 = _
    rw [h.generation]
    exact ofNat_succ _
  opened_le := by
    intro e he
    cases he
    exact Nat.le_refl _
  locked := fun hl => nomatch hl
  enabled := fun _ => ⟨fun _ => rfl, fun _ => rfl⟩
  quiet := fun _ => ⟨rfl, fun _ hd => nomatch hd⟩
  knows := fun i => (h.knows i).switch rfl rfl (Nat.le_succ _)
  rechecked := fun a ha => nomatch ha
  holds := ControlLog.Holds.enable_true _
  first := fun _ _ hd => nomatch hd

/-- Switched off, by the command or by a drain. -/
theorem LogRun.Inv.switch_off {s : LogRun} (h : s.Inv) {c : Command} (hc : c.value = false)
    (hemitted : s.console.emitted = []) :
    LogRun.Inv { s.switched c with
      diag := { s.diag with
        data := { s.diag.data with log := s.diag.data.log.enable false } } } := by
  have hswitched : s.switched c = { s with epoch := s.epoch + 1, console := c.next } := by
    unfold LogRun.switched
    rw [hc]
    exact if_neg Bool.false_ne_true
  have hlater : s.opened ≠ some (s.epoch + 1) := by
    intro hopen
    have := h.opened_le _ hopen
    omega
  have hnone : c.next.emitted = [] := by
    cases c <;> rfl
  rw [hswitched]
  exact {
    generation := by
      change s.diag.data.log.generation + 1 = _
      rw [h.generation]
      exact ofNat_succ _
    opened_le := fun e he => (h.opened_le e he).trans (Nat.le_succ _)
    locked := fun _ => rfl
    enabled := fun _ => ⟨fun hon => (nomatch hon), fun hopen => absurd hopen hlater⟩
    quiet := fun hopen => absurd hopen hlater
    knows := fun i => (h.knows i).switch rfl rfl (Nat.le_succ _)
    rechecked := h.rechecked
    holds := by
      have hholds := h.holds
      rw [hemitted] at hholds
      dsimp only
      rw [hnone]
      exact hholds.of_eq ⟨false, s.diag.data.log.generation + 1, rfl⟩
    first := h.first }

theorem ControlLog.drain_config {l m : ControlLog} {r : Record} (h : l.drain = some (r, m)) :
    m.enabled = l.enabled ∧ m.generation = l.generation := by
  unfold ControlLog.drain at h
  split at h
  next => cases h
  next =>
    cases h
    exact ⟨rfl, rfl⟩

theorem DiagState.act_drain {s : DiagState} {l : ControlLog} {r : Record}
    (h : s.data.log.drain = some (r, l)) :
    s.act .drain =
      some { s with data := { s.data with log := l }, printed := s.printed ++ [r] } := by
  simp only [DiagState.act, h]

theorem LogRun.Inv.turn {s t : LogRun} (h : s.Inv) (ht : s.act .turn = some t) : t.Inv := by
  unfold LogRun.act at ht
  dsimp only at ht
  split at ht
  next => cases ht
  next c hconsole =>
    cases ht
    have hemitted : s.console.emitted = [] := by
      rw [hconsole]
      rfl
    cases hc : c.value with
    | true =>
      obtain rfl : c = .enable true := by
        cases c with
        | enable value => exact congrArg _ hc
        | drain => cases hc
      exact h.switch_on
    | false => exact h.switch_off hc hemitted
  next emitted hconsole =>
    have hlocked : s.console.locked = false := by
      rw [hconsole]
      rfl
    have hshut : s.opened ≠ some s.epoch := fun hopen => (h.quiet hopen).2 emitted hconsole
    have hholds := h.holds
    rw [hconsole] at hholds
    split at ht
    next hdone =>
      cases ht
      have hkept := hholds.kept
      rw [ControlLog.drain_none hdone, List.append_nil] at hkept
      exact {
        generation := h.generation
        opened_le := h.opened_le
        locked := fun hl => nomatch hl
        enabled := fun _ => h.enabled hlocked
        quiet := fun hopen => absurd hopen hshut
        knows := h.knows
        rechecked := h.rechecked
        holds := by
          dsimp only
          rw [List.flatten_append, List.flatten_singleton]
          change s.diag.data.log.Holds s.eligible (s.drains.flatten ++ emitted ++ [])
          rw [List.append_nil]
          exact hholds
        first := by
          intro first later hdrains
          cases hd : s.drains with
          | nil =>
            dsimp only at hdrains
            rw [hd] at hkept hdrains
            cases hdrains
            exact hkept
          | cons d ds =>
            dsimp only at hdrains
            rw [hd] at hdrains
            cases hdrains
            exact h.first _ _ hd }
    next r l hdrain =>
      have hconfig := ControlLog.drain_config hdrain
      rw [DiagState.act_drain hdrain] at ht
      cases ht
      exact {
        generation := hconfig.2.trans h.generation
        opened_le := h.opened_le
        locked := fun hl => nomatch hl
        enabled := by
          intro _
          dsimp only
          rw [hconfig.1]
          exact h.enabled hlocked
        quiet := fun hopen => absurd hopen hshut
        knows := h.knows
        rechecked := h.rechecked
        holds := by
          change l.Holds s.eligible (s.drains.flatten ++ (emitted ++ [r]))
          rw [← List.append_assoc]
          exact hholds.drain hdrain
        first := h.first }

/-! ## Every run -/

theorem LogRun.epoch_le {s t : LogRun} {a : LogAct} (h : s.act a = some t) :
    s.epoch ≤ t.epoch := by
  cases a with
  | call i c =>
    obtain ⟨d, -, rfl⟩ := Option.map_eq_some_iff.mp h
    exact Nat.le_refl _
  | run i now =>
    rcases LogRun.act_run h with rfl | ⟨op, rest, -, -, rfl⟩
    · exact Nat.le_refl _
    · cases op <;> exact Nat.le_refl _
  | command c =>
    unfold LogRun.act at h
    dsimp only at h
    split at h
    next =>
      cases h
      exact Nat.le_refl _
    next => cases h
  | turn =>
    unfold LogRun.act at h
    dsimp only at h
    split at h
    next => cases h
    next c hc =>
      cases h
      unfold LogRun.switched
      dsimp only
      split <;> exact Nat.le_succ _
    next =>
      split at h
      next =>
        cases h
        exact Nat.le_refl _
      next =>
        obtain ⟨d, -, rfl⟩ := Option.map_eq_some_iff.mp h
        exact Nat.le_refl _

theorem LogRun.Inv.act {s t : LogRun} (h : s.Inv) (hepoch : s.epoch < 2 ^ 32) {a : LogAct}
    (ht : s.act a = some t) : t.Inv := by
  cases a with
  | call i c => exact h.call ht
  | command c => exact h.command ht
  | turn => exact h.turn ht
  | run i now =>
    rcases LogRun.act_run ht with rfl | ⟨op, rest, htodo, hfree, rfl⟩
    · exact h
    · cases op with
      | capture => exact h.capture i now rest
      | commit r =>
        refine h.commit hepoch htodo ?_ now
        exact Bool.eq_false_iff.mpr fun hl => hfree ⟨rfl, hl⟩
      | _ => exact h.plain htodo rfl now

theorem LogRun.Inv.run {trace : List LogAct} : ∀ {s t : LogRun}, s.Inv → t.epoch < 2 ^ 32 →
    s.run trace = some t → t.Inv := by
  induction trace using List.reverseRecOn with
  | nil =>
    intro s t h _ ht
    cases ht
    exact h
  | append_singleton trace a ih =>
    intro s t h hepoch ht
    unfold LogRun.run at ih ht
    rw [List.foldlM_append] at ht
    obtain ⟨m, hm, ht⟩ := Option.bind_eq_some_iff.mp ht
    have hact : m.act a = some t := by simpa using ht
    have hmid := (LogRun.epoch_le hact).trans_lt hepoch
    exact (ih h hmid hm).act hmid hact

theorem LogRun.Inv.first_drain {s : LogRun} (h : s.Inv) {first : List Record}
    {later : List (List Record)} (hdrains : s.drains = first :: later) :
    first = s.wanted.take capacity ∧ ∀ d ∈ later, d = [] := by
  have hfirst := h.first first later hdrains
  have hkept := h.holds.kept
  rw [hdrains, List.flatten_cons, List.append_assoc, List.append_assoc] at hkept
  have hrest : later.flatten ++ (s.console.emitted ++ s.diag.data.log.queue) = [] := by
    apply List.append_right_eq_self.mp
    exact hkept.trans hfirst.symm
  exact ⟨hfirst, List.flatten_eq_nil_iff.mp (List.append_eq_nil_iff.mp hrest).1⟩

theorem LogRun.Inv.passed {s : LogRun} (h : s.Inv) : s.passed = s.eligible :=
  List.filter_congr h.rechecked

theorem length_shown_hidden (arrivals : List Arrival) :
    arrivals.length =
      (arrivals.filterMap (·.record)).length + (arrivals.filter (·.record.isNone)).length := by
  induction arrivals with
  | nil => rfl
  | cons a arrivals ih =>
    cases hr : a.record with
    | none =>
      simp only [List.filterMap_cons, List.filter_cons, hr, Option.isNone_none, if_true,
        List.length_cons, ih]
      omega
    | some r =>
      simp only [List.filterMap_cons, List.filter_cons, hr, Option.isNone_some,
        Bool.false_eq_true, if_false, List.length_cons, ih]
      omega

theorem LogRun.Inv.counted {s : LogRun} (h : s.Inv) :
    UInt32.ofNat s.passed.length =
      s.diag.data.log.total + s.diag.data.log.dropped + s.diag.data.log.suppressed := by
  rw [h.holds.total, h.holds.dropped, h.holds.suppressed, ← UInt32.ofNat_add, ← List.length_append,
    List.take_append_drop, ← UInt32.ofNat_add, h.passed]
  exact congrArg UInt32.ofNat (length_shown_hidden _)

/-- What was captured before a switch of the log is not inserted after it. -/
theorem LogRun.Inv.never_late {s t : LogRun} (h : s.Inv) (hepoch : s.epoch < 2 ^ 32) {i : Nat}
    {now : Int64} {r : Option Record} {rest : List DiagOp}
    (htodo : (s.diag.workers i).todo = .commit r :: rest) (hlate : s.captured i ≠ s.epoch)
    (ht : s.act (.run i now) = some t) : t.diag.data.log = s.diag.data.log := by
  have hknows := h.committer htodo
  have hrefused : ¬(s.diag.data.log.enabled = true ∧
      (s.diag.workers i).generation = s.diag.data.log.generation) := by
    intro ⟨_, hsame⟩
    rw [hknows.1, h.generation] at hsame
    exact hlate ((ofNat_inj_of_lt (by omega) hepoch).mp hsame)
  rcases LogRun.act_run ht with rfl | ⟨op, rest', htodo', -, rfl⟩
  · rfl
  · obtain ⟨rfl, rfl⟩ := List.cons.inj (htodo.symm.trans htodo')
    exact ControlLog.commit_refused hrefused _ r

theorem captures_within_generation {trace : List LogAct} {s : LogRun}
    (hrun : LogRun.reset.run trace = some s) (hepoch : s.epoch < 2 ^ 32) : s.Honest := by
  have h := LogRun.Inv.reset.run hepoch hrun
  exact {
    first_drain := fun _ _ hd => h.first_drain hd
    in_order := h.holds.kept
    rechecked := by
      intro a ha
      rw [h.rechecked a ha, LogRun.inTime, Bool.and_eq_true, beq_iff_eq, beq_iff_eq]
    never_late := fun _ _ _ _ _ htodo hlate ht => h.never_late hepoch htodo hlate ht
    counted := h.counted
    recorded := h.holds.total
    dropped := h.holds.dropped
    queued := UInt32.le_iff_toNat_le.mpr h.holds.count
    ring := h.holds.head }

/-- Switched on, one message from the link published, and drained twice. -/
def drainedTwice : List LogAct :=
  [.command (.enable true), .turn, .call 0 ⟨.controlLogAcl, 0, some [7, 1, 2, 3], 4⟩] ++
    List.replicate 7 (.run 0 5) ++
    [.command .drain, .turn, .turn, .turn, .command .drain, .turn, .turn]

/-- The record of that message. -/
def drainedRecord : Record :=
  { us := 5, length := 4, origin := 2, header := 0, opcode := some 7, payload := [] }

theorem captures_within_generation_drained :
    ∃ s, LogRun.reset.run drainedTwice = some s ∧ s.drains = [[drainedRecord], []] ∧
      s.Honest := by
  refine ⟨_, rfl, by decide, ?_⟩
  exact @captures_within_generation drainedTwice _ rfl (by decide)

/-- The second drain has nothing to give. -/
theorem second_drain_empty :
    ¬∀ (trace : List LogAct) (s : LogRun), LogRun.reset.run trace = some s →
      s.epoch < 2 ^ 32 → ∀ d ∈ s.drains, d = s.wanted.take capacity := by
  intro hclaim
  have hempty := hclaim drainedTwice _ rfl (by decide) [] (by decide)
  exact absurd hempty (by decide)

end UllReceiver.Diagnostics
