import UllReceiver.Trial.TraceBuffer

/-!
# The trace replays what it stored

The run keeps a history beside the buffer: how many records were offered since the buffer was last
cleared, by a start or by `ull_trial_pump_rearm`, which of them were stored, and what has been
read back.
-/

namespace UllReceiver.Trial

open Library

structure TraceEntry where
  data : List UInt8
  time : Int64
deriving DecidableEq

structure TraceRun where
  trace : TraceBuffer
  offered : Nat
  stored : List TraceEntry
  replayed : List TraceEntry

inductive TraceAct where
  | record (data : List UInt8) (now : Int64)
  | finish (status : UInt8) (w : SummaryWords) (now : Int64)
  | next (capacity : Nat)
  | rearm (busy : Bool)
  | start (timer busy armed : Bool) (w : SummaryWords) (now later : Int64)

/-- The history after `data` was offered and the buffer is `t`. -/
def TraceRun.noted (c : TraceBuild) (s : TraceRun) (data : List UInt8) (now : Int64)
    (t : TraceBuffer) : TraceRun :=
  { s with
    trace := t
    offered := s.offered + if s.trace.recording && c.keeps data then 1 else 0
    stored := if t.used = s.trace.used then s.stored else s.stored ++ [{ data, time := now }] }

/-- The history after the buffer was cleared. -/
def TraceRun.cleared (t : TraceBuffer) : TraceRun :=
  { trace := t, offered := 0, stored := [], replayed := [] }

/-- `ull_trial_pump_start` returns before it clears anything. -/
def startRefused (t : TraceBuffer) (timer busy : Bool) : Bool :=
  !timer || t.active || busy || t.recording || t.frozen

/-- The buffer while it records, from `now` on. -/
def TraceBuffer.started (t : TraceBuffer) (now : Int64) : TraceBuffer :=
  { t with used := 0, read := 0, lost := 0, base := now, recording := true, active := true }

def finishSummary (t : TraceBuffer) (status : UInt8) (w : SummaryWords) : List UInt8 :=
  summaryRecord t (if status ≠ 0 then 3 else 2) status w

/-- One call; `none` is an access outside the buffer. -/
def TraceRun.act (c : TraceBuild) (s : TraceRun) : TraceAct → Option TraceRun
  | .record data now => (traceRecord c s.trace data now).map fun r => s.noted c data now r.2
  | .finish status w now =>
    (pumpFinish c s.trace status w now).map fun t =>
      if s.trace.active then s.noted c (finishSummary s.trace status w) now t
      else { s with trace := t }
  | .next capacity =>
    (traceNext s.trace capacity).map fun r =>
      { s with
        trace := r.2
        replayed := s.replayed ++ (r.1.map fun e => { data := e.1, time := e.2 }).toList }
  | .rearm busy =>
    let r := pumpRearm s.trace busy
    some (if r.1 then .cleared r.2 else { s with trace := r.2 })
  | .start timer busy armed w now later =>
    (pumpStart c s.trace timer busy armed w now later).map fun r =>
      if startRefused s.trace timer busy then { s with trace := r.2 }
      else if armed then .cleared r.2
      else
        let t := s.trace.started now
        (TraceRun.cleared t).noted c (finishSummary t 1 w) later r.2

def TraceRun.run (c : TraceBuild) (s : TraceRun) (acts : List TraceAct) : Option TraceRun :=
  acts.foldlM (TraceRun.act c) s

/-- After a reset. -/
def TraceRun.reset (c : TraceBuild) : TraceRun :=
  .cleared { bytes := List.replicate c.capacity 0, used := 0, read := 0, lost := 0, base := 0
             recording := false, frozen := false, active := false }

/-- Calls of `ull_trial_trace_next`, one after the other, and what they return. -/
def traceNexts : TraceBuffer → List Nat → Option (List (Option (List UInt8 × Int64)) × TraceBuffer)
  | t, [] => some ([], t)
  | t, capacity :: rest => do
    let (r, t) ← traceNext t capacity
    let (rs, t) ← traceNexts t rest
    return (r :: rs, t)

/-- What `n` calls should return: the entries in turn, and then nothing. -/
def replies : List TraceEntry → Nat → List (Option (List UInt8 × Int64))
  | _, 0 => []
  | [], n + 1 => none :: replies [] n
  | e :: rest, n + 1 => some (e.data, e.time) :: replies rest n

/-- The bytes that the entries take. -/
def traceSize (entries : List TraceEntry) : Nat :=
  (entries.map fun e => 5 + e.data.length).sum

/-- What the trace does right. -/
structure TraceRun.Sound (c : TraceBuild) (s : TraceRun) : Prop where
  bounded : s.trace.read ≤ s.trace.used ∧ s.trace.used ≤ c.capacity
  inside : ∀ a, (s.act c a).isSome
  replays : s.trace.recording = false → ∀ capacities : List Nat,
    (∀ n ∈ capacities, 103 ≤ n) → ∃ t, traceNexts s.trace capacities =
      some (replies (s.stored.drop s.replayed.length) capacities.length, t)
  finished : s.trace.active = true → ∀ status w now t, s.act c (.finish status w now) = some t →
    t.replayed = [] ∧ ∀ capacities : List Nat, (∀ n ∈ capacities, 103 ≤ n) →
      ∃ u, traceNexts t.trace capacities = some (replies t.stored capacities.length, u)
  accounted : s.trace.recording = true → ∀ data now t, c.keeps data = true →
    s.act c (.record data now) = some t →
      (t.stored = s.stored ++ [{ data, time := now }] ∧ t.trace.lost = s.trace.lost) ∨
      (t.stored = s.stored ∧ t.trace.lost = s.trace.lost + 1)
  counted : UInt32.ofNat s.offered = UInt32.ofNat s.stored.length + s.trace.lost
  kept : ∀ e ∈ s.stored, c.keeps e.data = true
  reserved : ∀ before e after, s.stored = before ++ e :: after → terminalRecord e.data = false →
    traceSize (before ++ [e]) ≤ c.capacity - 128
  refused : s.replayed ≠ s.stored ∨ s.trace.recording = true →
    ∀ timer busy armed w now later,
      pumpStart c s.trace timer busy armed w now later = some (false, s.trace)

/-! ## The buffer -/

/-- An entry in the buffer. -/
def entryBytes (base : Int64) (e : TraceEntry) : List UInt8 :=
  Air.le32 (UInt32.ofNat (e.time - base).toInt.toNat) ++
    ([UInt8.ofNat e.data.length] ++ e.data)

structure EntryFits (base : Int64) (e : TraceEntry) : Prop where
  nonempty : 0 < e.data.length
  short : e.data.length ≤ 103
  after : 0 ≤ (e.time - base).toInt
  soon : (e.time - base).toInt ≤ 0xffffffff

/-- What is left to read is `rest`. -/
structure TraceBuffer.Holds (c : TraceBuild) (t : TraceBuffer) (rest : List TraceEntry) : Prop where
  length : t.bytes.length = c.capacity
  bytes : ∃ front back, t.bytes = front ++ (rest.flatMap (entryBytes t.base) ++ back) ∧
    front.length = t.read
  used : t.used = t.read + traceSize rest
  fits : ∀ e ∈ rest, EntryFits t.base e

@[simp] theorem entryBytes_length (base : Int64) (e : TraceEntry) :
    (entryBytes base e).length = 5 + e.data.length := by
  simp [entryBytes, Air.le32]
  omega

@[simp] theorem traceSize_nil : traceSize [] = 0 := rfl

@[simp] theorem traceSize_cons (e : TraceEntry) (rest : List TraceEntry) :
    traceSize (e :: rest) = 5 + e.data.length + traceSize rest := by
  simp [traceSize]

@[simp] theorem traceSize_append (a b : List TraceEntry) :
    traceSize (a ++ b) = traceSize a + traceSize b := by
  simp [traceSize]

theorem traceSize_eq_zero {entries : List TraceEntry} (h : traceSize entries = 0) :
    entries = [] := by
  cases entries with
  | nil => rfl
  | cons e rest =>
    rw [traceSize_cons] at h
    omega

theorem entryBytes_flatMap_length (base : Int64) (entries : List TraceEntry) :
    (entries.flatMap (entryBytes base)).length = traceSize entries := by
  induction entries with
  | nil => rfl
  | cons e rest ih =>
    rw [List.flatMap_cons, List.length_append, entryBytes_length, ih, traceSize_cons]

theorem TraceBuffer.Holds.used_le {c : TraceBuild} {t : TraceBuffer} {rest : List TraceEntry}
    (h : t.Holds c rest) : t.used ≤ c.capacity := by
  obtain ⟨front, back, hbytes, hfront⟩ := h.bytes
  have hlength := h.length
  rw [hbytes, List.length_append, List.length_append, entryBytes_flatMap_length] at hlength
  have hused := h.used
  omega

theorem TraceBuffer.Holds.congr {c : TraceBuild} {t u : TraceBuffer} {rest : List TraceEntry}
    (h : t.Holds c rest) (hbytes : u.bytes = t.bytes) (hused : u.used = t.used)
    (hread : u.read = t.read) (hbase : u.base = t.base) : u.Holds c rest where
  length := hbytes ▸ h.length
  bytes := by
    rw [hbytes, hread, hbase]
    exact h.bytes
  used := by
    rw [hused, hread]
    exact h.used
  fits := by
    rw [hbase]
    exact h.fits

/-- The time since the start comes back out of its four bytes. -/
theorem timestamp_back {base now : Int64} (h0 : 0 ≤ (now - base).toInt)
    (h1 : (now - base).toInt ≤ 0xffffffff) :
    base + Int64.ofNat (UInt32.ofNat (now - base).toInt.toNat).toNat = now := by
  have hnat : (UInt32.ofNat (now - base).toInt.toNat).toNat = (now - base).toInt.toNat :=
    UInt32.toNat_ofNat_of_lt' (by
      change _ < 4294967296
      omega)
  have hback : Int64.ofNat (now - base).toInt.toNat = now - base := by
    rw [← Int64.ofInt_toInt (now - base), ← Int64.ofInt_eq_ofNat, Int64.ofInt_toInt,
      Int.toNat_of_nonneg h0, Int64.ofInt_toInt]
  rw [hnat, hback, Int64.add_comm, Int64.sub_add_cancel]

theorem word32_le32 (x : UInt32) : word32 (Air.le32 x) = x :=
  word32_join x

/-! ## A record -/

/-- What an offer of `data` does to the buffer, apart from the flags. -/
inductive TraceBuffer.Recorded (c : TraceBuild) (t : TraceBuffer) (data : List UInt8)
    (now : Int64) (u : TraceBuffer) : Prop where
  | ignored (h : (t.recording && c.keeps data) = false) (hbytes : u.bytes = t.bytes)
      (hused : u.used = t.used) (hlost : u.lost = t.lost)
  | lost (h : (t.recording && c.keeps data) = true) (hbytes : u.bytes = t.bytes)
      (hused : u.used = t.used) (hlost : u.lost = t.lost + 1)
  | stored (h : (t.recording && c.keeps data) = true)
      (hused : u.used = t.used + 5 + data.length) (hlimit : u.used ≤ c.limit data)
      (hlost : u.lost = t.lost)
      (hholds : ∀ rest, t.Holds c rest → u.Holds c (rest ++ [{ data, time := now }]))

theorem TraceBuild.limit_le (c : TraceBuild) (data : List UInt8) : c.limit data ≤ c.capacity := by
  unfold TraceBuild.limit
  split <;> omega

/-- The three copies of a record behind what is there. -/
theorem trace_store {full back delta data : List UInt8} (hdelta : delta.length = 4)
    (hroom : 5 + data.length ≤ back.length) :
    (do
      let bytes ← storeSpan (full ++ back) full.length delta
      let bytes ← storeSpan bytes (full.length + 4) [UInt8.ofNat data.length]
      storeSpan bytes (full.length + 5) data) =
      some (full ++ (delta ++ ([UInt8.ofNat data.length] ++ data) ++
        back.drop (5 + data.length))) := by
  have hfirst : (full ++ delta).length = full.length + 4 := by rw [List.length_append, hdelta]
  have hsecond : (full ++ delta ++ [UInt8.ofNat data.length]).length = full.length + 5 := by
    rw [List.length_append, hfirst]
    rfl
  rw [storeSpan_append (by omega), hdelta]
  simp only [Option.bind_eq_bind, Option.bind_some]
  rw [← hfirst, storeSpan_append (by rw [List.length_drop]; change 1 ≤ _; omega)]
  simp only [Option.bind_some]
  have hrest : data.length ≤ ((back.drop 4).drop [UInt8.ofNat data.length].length).length := by
    rw [List.length_drop, List.length_drop]
    change _ ≤ _ - 1
    omega
  rw [← hsecond, storeSpan_append hrest, List.drop_drop, List.drop_drop]
  simp only [List.append_assoc, List.length_singleton]
  rw [show 4 + (1 + data.length) = 5 + data.length by omega]

theorem TraceBuffer.Holds.store {c : TraceBuild} {t : TraceBuffer} {rest : List TraceEntry}
    (h : t.Holds c rest) {e : TraceEntry} (he : EntryFits t.base e)
    (hroom : t.used + 5 + e.data.length ≤ c.capacity) :
    ∃ bytes, (do
        let bytes ← storeSpan t.bytes t.used
          (Air.le32 (UInt32.ofNat (e.time - t.base).toInt.toNat))
        let bytes ← storeSpan bytes (t.used + 4) [UInt8.ofNat e.data.length]
        storeSpan bytes (t.used + 5) e.data) = some bytes ∧
      TraceBuffer.Holds c { t with bytes := bytes, used := t.used + 5 + e.data.length }
        (rest ++ [e]) := by
  obtain ⟨front, back, hbytes, hfront⟩ := h.bytes
  have hlength := h.length
  have hused := h.used
  rw [hbytes, List.length_append, List.length_append, entryBytes_flatMap_length] at hlength
  -- what is read and what is still to be read fill the buffer up to `used`
  have hfull : (front ++ rest.flatMap (entryBytes t.base)).length = t.used := by
    rw [List.length_append, entryBytes_flatMap_length]
    omega
  rw [← List.append_assoc] at hbytes
  refine ⟨front ++ rest.flatMap (entryBytes t.base) ++
    (entryBytes t.base e ++ back.drop (5 + e.data.length)), ?_, ?_⟩
  · rw [hbytes, ← hfull]
    exact trace_store rfl (by omega)
  · exact {
      length := by
        simp only [List.length_append, List.length_drop, entryBytes_length,
          entryBytes_flatMap_length]
        omega
      bytes := by
        refine ⟨front, back.drop (5 + e.data.length), ?_, hfront⟩
        rw [List.flatMap_append, List.flatMap_singleton, List.append_assoc, List.append_assoc]
      used := by
        rw [traceSize_append, traceSize_cons, traceSize_nil]
        dsimp only
        omega
      fits := by
        intro x hx
        rcases List.mem_append.mp hx with hold | hnew
        · exact h.fits x hold
        · rw [List.mem_singleton.mp hnew]
          exact he }

/-- Nothing but the buffer, its fill and the count of lost records changes. -/
theorem traceRecord_spec {c : TraceBuild} {t : TraceBuffer} {held : List TraceEntry}
    (h : t.Holds c held) (data : List UInt8) (now : Int64) :
    ∃ ok bytes used lost, traceRecord c t data now =
        some (ok, { t with bytes := bytes, used := used, lost := lost }) ∧
      t.Recorded c data now { t with bytes := bytes, used := used, lost := lost } := by
  unfold traceRecord
  by_cases hrec : t.recording = true
  · by_cases hkeeps : c.keeps data = true
    · have hoffered : (t.recording && c.keeps data) = true := by simp [hrec, hkeeps]
      rw [if_neg (by simp [hrec]), if_neg (by simp [hkeeps])]
      dsimp only
      split
      next => exact ⟨true, t.bytes, t.used, t.lost + 1, rfl, .lost hoffered rfl rfl rfl⟩
      next hfits =>
        -- the guard of the code is what makes the entry fit
        push Not at hfits
        obtain ⟨hsome, hshort, hafter, hsoon, hroom⟩ := hfits
        have hentry : EntryFits t.base { data, time := now } :=
          ⟨Nat.pos_of_ne_zero hsome, hshort, Int64.le_iff_toInt_le.mp (Int64.not_lt.mp hafter),
            Int64.le_iff_toInt_le.mp (Int64.not_lt.mp hsoon)⟩
        have hstore := fun rest (hrest : t.Holds c rest) =>
          hrest.store hentry (Nat.le_trans hroom (c.limit_le data))
        obtain ⟨bytes, hbytes, -⟩ := hstore held h
        refine ⟨true, bytes, t.used + 5 + data.length, t.lost, ?_, .stored hoffered rfl ?_ rfl ?_⟩
        · obtain ⟨first, hfirst, hlater⟩ := Option.bind_eq_some_iff.mp hbytes
          obtain ⟨second, hsecond, hthird⟩ := Option.bind_eq_some_iff.mp hlater
          simp only [Option.bind_eq_bind, hfirst, Option.bind_some, hsecond, hthird]
        · exact hroom
        · intro rest hrest
          obtain ⟨bytes', hbytes', hholds⟩ := hstore rest hrest
          obtain rfl := Option.some.inj (hbytes.symm.trans hbytes')
          exact hholds
    · refine ⟨true, t.bytes, t.used, t.lost, ?_, .ignored (by simp [hkeeps]) rfl rfl rfl⟩
      rw [if_neg (by simp [hrec]), if_pos (by simp [hkeeps])]
  · refine ⟨false, t.bytes, t.used, t.lost, ?_, .ignored (by simp [hrec]) rfl rfl rfl⟩
    rw [if_pos (by simp [hrec])]

/-! ## A record read back -/

/-- The buffer after the entry `e` was read. -/
def TraceBuffer.after (t : TraceBuffer) (e : TraceEntry) (bytes : List UInt8) : TraceBuffer :=
  let read := t.read + 5 + e.data.length
  { t with bytes := bytes, read := read, frozen := if read = t.used then false else t.frozen }

/-- The parts of the entry at the read cursor. -/
theorem TraceBuffer.Holds.loads {c : TraceBuild} {t : TraceBuffer} {e : TraceEntry}
    {later : List TraceEntry} (h : t.Holds c (e :: later)) :
    loadSpan t.bytes t.read 4 =
        some (Air.le32 (UInt32.ofNat (e.time - t.base).toInt.toNat)) ∧
      load t.bytes (t.read + 4) = some (UInt8.ofNat e.data.length) ∧
      (UInt8.ofNat e.data.length).toNat = e.data.length ∧
      loadSpan t.bytes (t.read + 5) e.data.length = some e.data := by
  obtain ⟨front, back, hbytes, hfront⟩ := h.bytes
  have hshort := (h.fits e List.mem_cons_self).short
  rw [List.flatMap_cons, List.append_assoc] at hbytes
  generalize later.flatMap (entryBytes t.base) ++ back = more at hbytes
  have hcells : t.bytes = front ++ (Air.le32 (UInt32.ofNat (e.time - t.base).toInt.toNat) ++
      ([UInt8.ofNat e.data.length] ++ (e.data ++ more))) := by
    rw [hbytes, entryBytes, List.append_assoc, List.append_assoc]
  generalize hdelta : Air.le32 (UInt32.ofNat (e.time - t.base).toInt.toNat) = delta at hcells
  have hfour : delta.length = 4 := by
    rw [← hdelta]
    rfl
  refine ⟨?_, ?_, ?_, ?_⟩
  · rw [hcells]
    exact loadSpan_middle hfront hfour
  · rw [hcells, ← List.append_assoc]
    exact load_middle (by rw [List.length_append, hfront, hfour])
  · apply UInt8.toNat_ofNat_of_lt'
    change _ < 256
    omega
  · rw [hcells, ← List.append_assoc, ← List.append_assoc]
    refine loadSpan_middle ?_ rfl
    rw [List.length_append, List.length_append, hfront, hfour]
    rfl

theorem TraceBuffer.Holds.next {c : TraceBuild} {t : TraceBuffer} {e : TraceEntry}
    {later : List TraceEntry} (h : t.Holds c (e :: later)) (hfrozen : t.frozen = true)
    {capacity : Nat} (hcapacity : e.data.length ≤ capacity) :
    ∃ bytes, traceNext t capacity = some (some (e.data, e.time), t.after e bytes) ∧
      (t.after e bytes).Holds c later := by
  obtain ⟨hdelta, hcountAt, hcount, hdata⟩ := h.loads
  obtain ⟨front, back, hbytes, hfront⟩ := h.bytes
  have hfits := h.fits e List.mem_cons_self
  have hused := h.used
  rw [traceSize_cons] at hused
  rw [List.flatMap_cons, List.append_assoc] at hbytes
  have herased : storeSpan t.bytes t.read (List.replicate (5 + e.data.length) 0) =
      some (front ++ (List.replicate (5 + e.data.length) 0 ++
        (later.flatMap (entryBytes t.base) ++ back))) := by
    rw [hbytes]
    exact storeSpan_middle hfront (by rw [entryBytes_length, List.length_replicate])
  refine ⟨front ++ (List.replicate (5 + e.data.length) 0 ++
    (later.flatMap (entryBytes t.base) ++ back)), ?_, ?_⟩
  · unfold traceNext
    rw [if_neg (by simp [hfrozen]; omega)]
    simp only [hdelta, hcountAt, hcount, Option.bind_eq_bind, Option.bind_some]
    rw [if_neg (by omega)]
    simp only [hdata, herased, Option.bind_some, word32_le32, timestamp_back hfits.after hfits.soon]
    rfl
  · exact {
      length := (storeSpan_length herased).trans h.length
      bytes := by
        refine ⟨front ++ List.replicate (5 + e.data.length) 0, back, ?_, ?_⟩
        · rw [List.append_assoc]
          rfl
        · rw [List.length_append, List.length_replicate, hfront]
          exact (Nat.add_assoc ..).symm
      used := by
        change t.used = t.read + 5 + e.data.length + traceSize later
        omega
      fits := fun x hx => h.fits x (List.mem_cons_of_mem _ hx) }

/-- Nothing is returned, and nothing changes. -/
theorem traceNext_none {c : TraceBuild} {t : TraceBuffer} {rest : List TraceEntry}
    (h : t.Holds c rest) (hnone : t.frozen = false ∨ rest = []) (capacity : Nat) :
    traceNext t capacity = some (none, t) := by
  have hstop : !t.frozen ∨ t.read = t.used := by
    rcases hnone with hopen | rfl
    · exact Or.inl (by simp [hopen])
    · exact Or.inr h.used.symm
  exact if_pos hstop

/-- A record that does not fit the caller's buffer stays where it is. -/
theorem TraceBuffer.Holds.next_short {c : TraceBuild} {t : TraceBuffer} {e : TraceEntry}
    {later : List TraceEntry} (h : t.Holds c (e :: later)) {capacity : Nat}
    (hcapacity : capacity < e.data.length) : traceNext t capacity = some (none, t) := by
  obtain ⟨hdelta, hcountAt, hcount, -⟩ := h.loads
  unfold traceNext
  split
  next => rfl
  next =>
    simp only [hdelta, hcountAt, hcount, Option.bind_eq_bind, Option.bind_some]
    rw [if_pos (Or.inl hcapacity)]

/-- The buffer stays frozen until its last entry was read. -/
theorem TraceBuffer.Holds.after_frozen {c : TraceBuild} {t : TraceBuffer} {e : TraceEntry}
    {bytes : List UInt8} {later : List TraceEntry} (h : (t.after e bytes).Holds c later)
    (hfrozen : t.frozen = true) :
    (t.after e bytes).frozen = true ∧ later ≠ [] ∨
      (t.after e bytes).frozen = false ∧ later = [] := by
  have hused : t.used = t.read + 5 + e.data.length + traceSize later := h.used
  unfold TraceBuffer.after
  dsimp only
  split
  next hend => exact Or.inr ⟨rfl, traceSize_eq_zero (by omega)⟩
  next hmore =>
    refine Or.inl ⟨hfrozen, ?_⟩
    rintro rfl
    exact hmore hused.symm

/-- Calls with room for any record. -/
theorem traceNexts_spec {c : TraceBuild} (capacities : List Nat) :
    ∀ {t : TraceBuffer} {rest : List TraceEntry}, (∀ n ∈ capacities, 103 ≤ n) → t.Holds c rest →
      (t.frozen = true ∨ rest = []) →
      ∃ u, traceNexts t capacities = some (replies rest capacities.length, u) := by
  induction capacities with
  | nil =>
    intro t rest _ _ _
    exact ⟨t, by cases rest <;> rfl⟩
  | cons capacity capacities ih =>
    intro t rest hcapacities h hready
    have hlater := fun n hn => hcapacities n (List.mem_cons_of_mem _ hn)
    unfold traceNexts
    cases rest with
    | nil =>
      obtain ⟨u, hu⟩ := ih hlater h (Or.inr rfl)
      refine ⟨u, ?_⟩
      rw [traceNext_none h (Or.inr rfl)]
      simp only [Option.bind_eq_bind, Option.bind_some, hu]
      rfl
    | cons e rest =>
      have hfrozen := hready.resolve_right (List.cons_ne_nil _ _)
      have hcapacity := hcapacities capacity List.mem_cons_self
      have hshort := (h.fits e List.mem_cons_self).short
      obtain ⟨bytes, hnext, hholds⟩ := h.next hfrozen (Nat.le_trans hshort hcapacity)
      have hready' := (hholds.after_frozen hfrozen).imp And.left And.right
      obtain ⟨u, hu⟩ := ih hlater hholds hready'
      refine ⟨u, ?_⟩
      simp only [hnext, Option.bind_eq_bind, Option.bind_some, hu]
      rfl

/-! ## The history -/

/-- The history agrees with the buffer. -/
structure TraceRun.Agrees (c : TraceBuild) (s : TraceRun) : Prop where
  holds : ∃ rest, s.stored = s.replayed ++ rest ∧ s.trace.Holds c rest
  read : s.trace.read = traceSize s.replayed
  counted : UInt32.ofNat s.offered = UInt32.ofNat s.stored.length + s.trace.lost
  kept : ∀ e ∈ s.stored, c.keeps e.data = true
  reserved : ∀ before e after, s.stored = before ++ e :: after → terminalRecord e.data = false →
    traceSize (before ++ [e]) ≤ c.capacity - 128

theorem TraceRun.Agrees.used {c : TraceBuild} {s : TraceRun} (h : s.Agrees c) :
    s.trace.used = traceSize s.stored := by
  obtain ⟨rest, hstored, hholds⟩ := h.holds
  rw [hholds.used, h.read, hstored, traceSize_append]

theorem TraceRun.Agrees.congr {c : TraceBuild} {s : TraceRun} (h : s.Agrees c) {u : TraceBuffer}
    (hbytes : u.bytes = s.trace.bytes) (hused : u.used = s.trace.used)
    (hread : u.read = s.trace.read) (hbase : u.base = s.trace.base)
    (hlost : u.lost = s.trace.lost) : TraceRun.Agrees c { s with trace := u } where
  holds := by
    obtain ⟨rest, hstored, hholds⟩ := h.holds
    exact ⟨rest, hstored, hholds.congr hbytes hused hread hbase⟩
  read := hread.trans h.read
  counted := by
    dsimp only
    rw [hlost]
    exact h.counted
  kept := h.kept
  reserved := h.reserved

/-- A cleared buffer holds nothing. -/
theorem TraceRun.Agrees.cleared {c : TraceBuild} {t : TraceBuffer}
    (hlength : t.bytes.length = c.capacity) (hused : t.used = 0) (hread : t.read = 0)
    (hlost : t.lost = 0) : (TraceRun.cleared t).Agrees c where
  holds := ⟨[], rfl, hlength, ⟨[], t.bytes, rfl, hread.symm⟩,
    hused.trans hread.symm, fun _ he => nomatch he⟩
  read := hread
  counted := by
    change 0 = 0 + t.lost
    rw [hlost]
    rfl
  kept := fun _ he => nomatch he
  reserved := fun before e after h _ => absurd h (by simp [TraceRun.cleared])

theorem TraceRun.Agrees.noted {c : TraceBuild} {s : TraceRun} (h : s.Agrees c)
    {data : List UInt8} {now : Int64} {u : TraceBuffer} (hread : u.read = s.trace.read)
    (hbase : u.base = s.trace.base) (hu : s.trace.Recorded c data now u) :
    (s.noted c data now u).Agrees c := by
  unfold TraceRun.noted
  cases hu with
  | ignored hoffered hbytes hused hlost =>
    rw [hoffered, if_pos hused]
    exact h.congr hbytes hused hread hbase hlost
  | lost hoffered hbytes hused hlost =>
    obtain ⟨rest, hstored, hholds⟩ := h.holds
    rw [hoffered, if_pos rfl, if_pos hused]
    exact {
      holds := ⟨rest, hstored, hholds.congr hbytes hused hread hbase⟩
      read := hread.trans h.read
      counted := by
        dsimp only
        rw [UInt32.ofNat_add, h.counted, hlost, UInt32.add_assoc]
        rfl
      kept := h.kept
      reserved := h.reserved }
  | stored hoffered hused hlimit hlost hholds =>
    obtain ⟨rest, hstored, hrest⟩ := h.holds
    have hmoved : ¬u.used = s.trace.used := by omega
    have hkeeps : c.keeps data = true := by
      rw [Bool.and_eq_true] at hoffered
      exact hoffered.2
    rw [hoffered, if_pos rfl, if_neg hmoved]
    exact {
      holds := ⟨rest ++ [_], by rw [hstored, List.append_assoc], hholds rest hrest⟩
      read := hread.trans h.read
      counted := by
        dsimp only
        rw [UInt32.ofNat_add, h.counted, hlost, List.length_append, UInt32.ofNat_add,
          UInt32.add_assoc, UInt32.add_assoc]
        exact congrArg (_ + ·) (UInt32.add_comm _ _)
      kept := by
        intro e he
        rcases List.mem_append.mp he with hold | hnew
        · exact h.kept e hold
        · rw [List.mem_singleton.mp hnew]
          exact hkeeps
      reserved := by
        intro before e after hsplit hplain
        rcases List.eq_nil_or_concat after with rfl | ⟨after', last, rfl⟩
        · -- the new record is an ordinary one, and leaves the room of the summary
          obtain ⟨rfl, hlast⟩ := List.append_inj' hsplit rfl
          obtain rfl := (List.cons.inj hlast).1
          rw [traceSize_append, ← h.used, traceSize_cons, traceSize_nil]
          have hlimit' : c.limit data = c.capacity - 128 := by
            unfold TraceBuild.limit
            rw [if_neg (by rw [hplain]; exact Bool.false_ne_true)]
            rfl
          rw [hlimit'] at hlimit
          dsimp only
          omega
        · rw [List.concat_eq_append, ← List.cons_append, ← List.append_assoc] at hsplit
          obtain ⟨hsplit', -⟩ := List.append_inj' hsplit rfl
          exact h.reserved before e after' hsplit' hplain }

/-! ## One call -/

structure TraceRun.Inv (c : TraceBuild) (s : TraceRun) : Prop where
  agrees : s.Agrees c
  writing : s.trace.recording = true → s.replayed = [] ∧ s.trace.frozen = false
  active : s.trace.active = s.trace.recording
  drained : s.trace.recording = false → s.trace.frozen = false → s.replayed = s.stored

theorem TraceRun.Inv.reset (c : TraceBuild) : (TraceRun.reset c).Inv c where
  agrees := .cleared List.length_replicate rfl rfl rfl
  writing := fun h => nomatch h
  active := rfl
  drained := fun _ _ => rfl

theorem TraceRun.Inv.record {c : TraceBuild} {s : TraceRun} (h : s.Inv c) (data : List UInt8)
    (now : Int64) : ∃ t, s.act c (.record data now) = some t ∧ t.Inv c := by
  obtain ⟨rest, -, hholds⟩ := h.agrees.holds
  obtain ⟨ok, bytes, used, lost, hrecord, hspec⟩ := traceRecord_spec hholds data now
  refine ⟨_, by rw [TraceRun.act, hrecord]; rfl, ?_⟩
  exact {
    agrees := h.agrees.noted rfl rfl hspec
    writing := h.writing
    active := h.active
    drained := by
      intro hstopped hopen
      have hused : used = s.trace.used := by
        cases hspec with
        | ignored _ _ hused _ => exact hused
        | lost _ _ hused _ => exact hused
        | stored hoffered =>
          have hstopped' : s.trace.recording = false := hstopped
          rw [hstopped'] at hoffered
          exact absurd hoffered Bool.false_ne_true
      change s.replayed = if used = s.trace.used then s.stored else _
      rw [if_pos hused]
      exact h.drained hstopped hopen }

theorem TraceRun.Inv.next {c : TraceBuild} {s : TraceRun} (h : s.Inv c) (capacity : Nat) :
    ∃ t, s.act c (.next capacity) = some t ∧ t.Inv c := by
  obtain ⟨rest, hstored, hholds⟩ := h.agrees.holds
  have hsame (hnext : traceNext s.trace capacity = some (none, s.trace)) :
      ∃ t, s.act c (.next capacity) = some t ∧ t.Inv c := by
    refine ⟨s, ?_, h⟩
    rw [TraceRun.act, hnext]
    simp
  cases rest with
  | nil => exact hsame (traceNext_none hholds (Or.inr rfl) capacity)
  | cons e later =>
    by_cases hfrozen : s.trace.frozen = true
    · by_cases hcapacity : e.data.length ≤ capacity
      · obtain ⟨bytes, hnext, hlater⟩ := hholds.next hfrozen hcapacity
        -- nothing is replayed while the trace is written
        have hstopped : s.trace.recording = false := by
          by_contra hrecording
          have hopen := (h.writing (by simpa using hrecording)).2
          rw [hopen] at hfrozen
          cases hfrozen
        refine ⟨_, by rw [TraceRun.act, hnext]; rfl, ?_⟩
        exact {
          agrees := {
            holds := by
              refine ⟨later, ?_, hlater⟩
              rw [hstored]
              exact (List.append_cons ..)
            read := by
              change s.trace.read + 5 + e.data.length = traceSize (s.replayed ++ [e])
              rw [traceSize_append, ← h.agrees.read, traceSize_cons, traceSize_nil]
              omega
            counted := h.agrees.counted
            kept := h.agrees.kept
            reserved := h.agrees.reserved }
          writing := fun hrecording => absurd (hstopped.symm.trans hrecording) Bool.false_ne_true
          active := h.active
          drained := by
            intro _ hopen
            have hend : later = [] := by
              rcases hlater.after_frozen hfrozen with ⟨hmore, -⟩ | ⟨-, hend⟩
              · exact absurd (hopen.symm.trans hmore) Bool.false_ne_true
              · exact hend
            change s.replayed ++ [e] = s.stored
            rw [hstored, hend] }
      · exact hsame (hholds.next_short (by omega))
    · exact hsame (traceNext_none hholds (Or.inl (by simpa using hfrozen)) capacity)

theorem TraceRun.Inv.rearm {c : TraceBuild} {s : TraceRun} (h : s.Inv c) (busy : Bool) :
    ∃ t, s.act c (.rearm busy) = some t ∧ t.Inv c := by
  obtain ⟨rest, -, hholds⟩ := h.agrees.holds
  refine ⟨_, rfl, ?_⟩
  unfold pumpRearm
  split
  next => exact h
  next =>
    split
    next => exact h
    next hstopped =>
      exact {
        agrees := .cleared hholds.length rfl rfl rfl
        writing := fun hrecording => absurd hrecording hstopped
        active := h.active
        drained := fun _ _ => rfl }

/-- The flags do not matter. -/
theorem TraceBuffer.Recorded.flags {c : TraceBuild} {t u t' u' : TraceBuffer}
    {data : List UInt8} {now : Int64} (h : t.Recorded c data now u)
    (ht : ∃ active, t' = { t with active := active })
    (hu : ∃ active recording frozen,
      u' = { u with active := active, recording := recording, frozen := frozen }) :
    t'.Recorded c data now u' := by
  obtain ⟨active, rfl⟩ := ht
  obtain ⟨active', recording, frozen, rfl⟩ := hu
  cases h with
  | ignored h hbytes hused hlost => exact .ignored h hbytes hused hlost
  | lost h hbytes hused hlost => exact .lost h hbytes hused hlost
  | stored h hused hlimit hlost hholds =>
    refine .stored h hused hlimit hlost fun rest hrest => ?_
    exact (hholds rest (hrest.congr rfl rfl rfl rfl)).congr rfl rfl rfl rfl

/-- A finish while the pump is active. -/
theorem TraceRun.Agrees.finish {c : TraceBuild} {s : TraceRun} (h : s.Agrees c)
    (hactive : s.trace.active = true) (hreplayed : s.replayed = []) (status : UInt8)
    (w : SummaryWords) (now : Int64) :
    ∃ t, pumpFinish c s.trace status w now = some t ∧ t.recording = false ∧
      (s.noted c (finishSummary s.trace status w) now t).Inv c := by
  obtain ⟨rest, -, hholds⟩ := h.holds
  have hquiet : TraceBuffer.Holds c { s.trace with active := false } rest :=
    hholds.congr rfl rfl rfl rfl
  obtain ⟨ok, bytes, used, lost, hrecord, hspec⟩ :=
    traceRecord_spec hquiet (finishSummary s.trace status w) now
  refine ⟨{ s.trace with
    bytes := bytes, used := used, lost := lost, active := false, recording := false
    frozen := used != 0 }, ?_, rfl, ?_⟩
  · unfold pumpFinish summary
    rw [if_neg (by simp [hactive])]
    have hsame : summaryRecord { s.trace with active := false } (if status ≠ 0 then 3 else 2) status
        w = finishSummary s.trace status w := rfl
    rw [hsame, hrecord]
    rfl
  · have hagrees := h.noted (u := { s.trace with
        bytes := bytes, used := used, lost := lost, active := false, recording := false
        frozen := used != 0 }) rfl rfl (hspec.flags ⟨_, rfl⟩ ⟨_, _, _, rfl⟩)
    exact {
      agrees := hagrees
      writing := fun hrecording => nomatch hrecording
      active := rfl
      drained := by
        intro _ hopen
        have hzero : used = 0 := by
          have hopen' : (used != 0) = false := hopen
          simpa using hopen'
        have hstored := traceSize_eq_zero (hagrees.used.symm.trans hzero)
        rw [hstored]
        exact hreplayed }

theorem TraceRun.Inv.finish {c : TraceBuild} {s : TraceRun} (h : s.Inv c) (status : UInt8)
    (w : SummaryWords) (now : Int64) :
    ∃ t, s.act c (.finish status w now) = some t ∧ t.Inv c := by
  by_cases hactive : s.trace.active = true
  · have hrecording := h.active.symm.trans hactive
    obtain ⟨t, hfinish, -, hinv⟩ :=
      h.agrees.finish hactive (h.writing hrecording).1 status w now
    refine ⟨_, ?_, hinv⟩
    rw [TraceRun.act, hfinish]
    exact congrArg some (if_pos hactive)
  · refine ⟨s, ?_, h⟩
    have hnone : pumpFinish c s.trace status w now = some s.trace :=
      if_pos (by simpa using hactive)
    rw [TraceRun.act, hnone]
    exact congrArg some (if_neg hactive)

theorem summary_idle {c : TraceBuild} {t : TraceBuffer} (h : t.recording = false)
    (state status : UInt8) (w : SummaryWords) (now : Int64) :
    summary c t state status w now = some t := by
  unfold summary traceRecord
  rw [if_pos (by simp [h])]
  rfl

theorem pumpStart_refused {c : TraceBuild} {t : TraceBuffer} {timer busy : Bool}
    (h : startRefused t timer busy = true) (armed : Bool) (w : SummaryWords) (now later : Int64) :
    pumpStart c t timer busy armed w now later = some (false, t) := by
  unfold startRefused at h
  unfold pumpStart
  split
  next => rfl
  next hready =>
    rw [if_pos]
    simp only [Bool.not_eq_true] at hready
    rw [hready] at h
    simpa using h

theorem pumpStart_cleared {c : TraceBuild} {t : TraceBuffer} {timer busy : Bool}
    (h : startRefused t timer busy = false) (armed : Bool) (w : SummaryWords) (now later : Int64) :
    pumpStart c t timer busy armed w now later =
      if armed then some (true, t.started now)
      else (pumpFinish c (t.started now) 1 w later).map fun t => (false, t) := by
  unfold startRefused at h
  simp only [Bool.or_eq_false_iff] at h
  obtain ⟨⟨⟨⟨htimer, hactive⟩, hbusy⟩, hrecording⟩, hfrozen⟩ := h
  unfold pumpStart
  rw [if_neg (by simp [htimer, hactive, hbusy]), if_neg (by simp [hrecording, hfrozen])]
  simp only [Option.bind_eq_bind]
  rw [summary_idle (t := { t with used := 0, read := 0, lost := 0, base := now }) hrecording]
  cases armed with
  | true => rfl
  | false =>
    change (pumpFinish c (t.started now) 1 w later).bind (fun t => some (false, t)) = _
    exact Option.map_eq_bind.symm

theorem TraceRun.Inv.start {c : TraceBuild} {s : TraceRun} (h : s.Inv c)
    (timer busy armed : Bool) (w : SummaryWords) (now later : Int64) :
    ∃ t, s.act c (.start timer busy armed w now later) = some t ∧ t.Inv c := by
  obtain ⟨rest, -, hholds⟩ := h.agrees.holds
  unfold TraceRun.act
  dsimp only
  cases hrefused : startRefused s.trace timer busy with
  | true =>
    rw [pumpStart_refused hrefused]
    exact ⟨s, rfl, h⟩
  | false =>
    have hfrozen : s.trace.frozen = false := by
      unfold startRefused at hrefused
      simp only [Bool.or_eq_false_iff] at hrefused
      exact hrefused.2
    have hcleared : (TraceRun.cleared (s.trace.started now)).Agrees c :=
      .cleared hholds.length rfl rfl rfl
    rw [pumpStart_cleared hrefused]
    cases armed with
    | true =>
      exact ⟨_, rfl, {
        agrees := hcleared
        writing := fun _ => ⟨rfl, hfrozen⟩
        active := rfl
        drained := fun hstopped => nomatch hstopped }⟩
    | false =>
      -- the timer was not armed: the trial ends where it started
      obtain ⟨t, hfinish, -, hinv⟩ := hcleared.finish rfl rfl 1 w later
      refine ⟨_, ?_, hinv⟩
      have hfinish' : pumpFinish c (s.trace.started now) 1 w later = some t := hfinish
      rw [hfinish']
      rfl

theorem TraceRun.Inv.act {c : TraceBuild} {s : TraceRun} (h : s.Inv c) (a : TraceAct) :
    ∃ t, s.act c a = some t ∧ t.Inv c := by
  cases a with
  | record data now => exact h.record data now
  | finish status w now => exact h.finish status w now
  | next capacity => exact h.next capacity
  | rearm busy => exact h.rearm busy
  | start timer busy armed w now later => exact h.start timer busy armed w now later

/-! ## Every run -/

theorem TraceRun.Inv.replays {c : TraceBuild} {s : TraceRun} (h : s.Inv c)
    (hstopped : s.trace.recording = false) (capacities : List Nat)
    (hcapacities : ∀ n ∈ capacities, 103 ≤ n) :
    ∃ t, traceNexts s.trace capacities =
      some (replies (s.stored.drop s.replayed.length) capacities.length, t) := by
  obtain ⟨rest, hstored, hholds⟩ := h.agrees.holds
  have hready : s.trace.frozen = true ∨ rest = [] := by
    cases hfrozen : s.trace.frozen with
    | true => exact Or.inl rfl
    | false =>
      have hdrained := h.drained hstopped hfrozen
      rw [hdrained] at hstored
      exact Or.inr (List.append_right_eq_self.mp hstored.symm)
  rw [hstored, List.drop_left]
  exact traceNexts_spec capacities hcapacities hholds hready

theorem TraceRun.Inv.finished {c : TraceBuild} {s t : TraceRun} (h : s.Inv c)
    (hactive : s.trace.active = true) {status : UInt8} {w : SummaryWords} {now : Int64}
    (ht : s.act c (.finish status w now) = some t) :
    t.replayed = [] ∧ ∀ capacities : List Nat, (∀ n ∈ capacities, 103 ≤ n) →
      ∃ u, traceNexts t.trace capacities = some (replies t.stored capacities.length, u) := by
  have hreplayed := (h.writing (h.active.symm.trans hactive)).1
  obtain ⟨u, hfinish, hstopped, hinv⟩ := h.agrees.finish hactive hreplayed status w now
  rw [TraceRun.act, hfinish] at ht
  obtain rfl := Option.some.inj ht
  dsimp only at *
  rw [if_pos hactive]
  refine ⟨hreplayed, fun capacities hcapacities => ?_⟩
  have hreplays := hinv.replays hstopped capacities hcapacities
  have hnone : (s.noted c (finishSummary s.trace status w) now u).replayed = [] := hreplayed
  rwa [hnone] at hreplays

theorem TraceRun.Inv.accounted {c : TraceBuild} {s t : TraceRun} (h : s.Inv c)
    (hrecording : s.trace.recording = true) {data : List UInt8} {now : Int64}
    (hkeeps : c.keeps data = true) (ht : s.act c (.record data now) = some t) :
    (t.stored = s.stored ++ [{ data, time := now }] ∧ t.trace.lost = s.trace.lost) ∨
      (t.stored = s.stored ∧ t.trace.lost = s.trace.lost + 1) := by
  obtain ⟨rest, -, hholds⟩ := h.agrees.holds
  obtain ⟨ok, bytes, used, lost, hrecord, hspec⟩ := traceRecord_spec hholds data now
  rw [TraceRun.act, hrecord] at ht
  obtain rfl := Option.some.inj ht
  cases hspec with
  | ignored hoffered =>
    rw [hrecording, hkeeps] at hoffered
    cases hoffered
  | lost _ _ hused hlost => exact Or.inr ⟨if_pos hused, hlost⟩
  | stored _ hused _ hlost =>
    refine Or.inl ⟨if_neg ?_, hlost⟩
    dsimp only at hused ⊢
    omega

theorem TraceRun.Inv.refused {c : TraceBuild} {s : TraceRun} (h : s.Inv c)
    (hkept : s.replayed ≠ s.stored ∨ s.trace.recording = true) (timer busy : Bool) :
    startRefused s.trace timer busy = true := by
  unfold startRefused
  cases hrecording : s.trace.recording with
  | true => simp
  | false =>
    cases hfrozen : s.trace.frozen with
    | true => simp
    | false =>
      rcases hkept with hmore | hwriting
      · exact absurd (h.drained hrecording hfrozen) hmore
      · exact absurd (hrecording.symm.trans hwriting) Bool.false_ne_true

theorem TraceRun.Inv.sound {c : TraceBuild} {s : TraceRun} (h : s.Inv c) : s.Sound c := by
  obtain ⟨rest, hstored, hholds⟩ := h.agrees.holds
  exact {
    bounded := ⟨by rw [hholds.used]; omega, hholds.used_le⟩
    inside := by
      intro a
      obtain ⟨t, ht, -⟩ := h.act a
      rw [ht]
      rfl
    replays := h.replays
    finished := fun hactive _ _ _ _ ht => h.finished hactive ht
    accounted := fun hrecording _ _ _ hkeeps ht => h.accounted hrecording hkeeps ht
    counted := h.agrees.counted
    kept := h.agrees.kept
    reserved := h.agrees.reserved
    refused := fun hkept _ _ _ _ _ _ => pumpStart_refused (h.refused hkept _ _) _ _ _ _ }

theorem TraceRun.Inv.run {c : TraceBuild} (acts : List TraceAct) :
    ∀ {s : TraceRun}, s.Inv c → ∃ t, s.run c acts = some t ∧ t.Inv c := by
  induction acts with
  | nil => exact fun {s} h => ⟨s, rfl, h⟩
  | cons a acts ih =>
    intro s h
    obtain ⟨t, ht, hinv⟩ := h.act a
    obtain ⟨u, hu, hlast⟩ := ih hinv
    refine ⟨u, ?_, hlast⟩
    unfold TraceRun.run at hu ⊢
    rw [List.foldlM_cons, ht]
    exact hu

/-- Whatever is called in whatever order. -/
theorem trace_replays (c : TraceBuild) (acts : List TraceAct) :
    ∃ s, (TraceRun.reset c).run c acts = some s ∧ s.Sound c := by
  obtain ⟨s, hrun, hinv⟩ := (TraceRun.Inv.reset c).run acts
  exact ⟨s, hrun, hinv.sound⟩

theorem liveTrace_bounded : 256 ≤ 4096 ∧ 4096 ≤ 98304 := by
  decide

/-- The trace of the live build, which keeps the last records alone. -/
def liveTrace : TraceBuild where
  capacity := 4096
  bounded := liveTrace_bounded
  live := true

/-- A trial with one record in it, which ends and is read back. -/
def liveActs : List TraceAct :=
  let w : SummaryWords := { pending := false, requests := 7, steps := 9, maxDispatchUs := 80 }
  [.start true false true w 100 100, .record [1, 2, 3] 200, .finish 0 w 300, .next 103, .next 103]

/-- Only the summary is kept, and it is replayed. -/
theorem trace_replays_live :
    ∃ s, (TraceRun.reset liveTrace).run liveTrace liveActs = some s ∧ s.stored.length = 1 ∧
      s.replayed = s.stored ∧ s.Sound liveTrace := by
  obtain ⟨s, hrun, hsound⟩ := trace_replays liveTrace liveActs
  have hkept : (((TraceRun.reset liveTrace).run liveTrace liveActs).any fun s =>
      s.stored.length == 1 && s.replayed == s.stored) = true := by
    decide +kernel
  rw [hrun, Option.any_some, Bool.and_eq_true, beq_iff_eq, beq_iff_eq] at hkept
  exact ⟨s, hrun, hkept.1, hkept.2, hsound⟩

end UllReceiver.Trial
