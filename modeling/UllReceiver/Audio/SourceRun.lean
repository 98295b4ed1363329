import UllReceiver.Audio.SourceQueue

/-!
# Runs of the audio source

Arbitrary sequences of pushes, selections and rearms, with a record of what went in and came out.
The record is kept from the results of the calls alone.
-/

namespace UllReceiver.Audio

open Library

variable {α : Type*}

inductive SourceOp (α : Type*)
  | push (frame : α)
  | select (event : UInt32) (buffer : α)
  | rearm (paused : Bool)

structure History (α : Type*) where
  pushed : List α
  delivered : List α
  /-- Events first selected since the last rearm with their answers, newest first. -/
  answers : List (Nat × Option α)
  /-- Frames that left the queue undelivered. -/
  lost : Nat
  underflows : Nat

structure Tracked (α : Type*) where
  source : AudioSource α
  history : History α

def Tracked.init [Inhabited α] : Tracked α :=
  { source := .init
    history := { pushed := [], delivered := [], answers := [], lost := 0, underflows := 0 } }

/-- The queue and the answers a listener knows of. -/
def Tracked.playout (t : Tracked α) : Playout α :=
  { queue := t.source.frames, answers := t.history.answers }

def History.recordPush (h : History α) (frame : α) (ok : Bool) : History α :=
  if ok then { h with pushed := h.pushed ++ [frame] } else h

/-- A selection counts once: refusals and repeated events leave the record alone. -/
def History.recordSelect (h : History α) (event : UInt32) (code : Int) (data : α)
    (before after : Nat) : History α :=
  if code = -1 ∨ event.toNat ∈ h.answers.map Prod.fst then h
  else if code = 1 then
    { h with
      delivered := h.delivered ++ [data]
      answers := (event.toNat, some data) :: h.answers
      lost := h.lost + (before - 1 - after) }
  else
    { h with
      answers := (event.toNat, none) :: h.answers
      underflows := h.underflows + 1
      lost := h.lost + (before - after) }

def History.recordRearm (h : History α) (ok : Bool) (before after : Nat) : History α :=
  if ok then { h with answers := [], lost := h.lost + (before - after) } else h

variable [Inhabited α]

def Tracked.step (t : Tracked α) : SourceOp α → Tracked α
  | .push frame =>
      let (ok, s) := t.source.push frame
      { source := s, history := t.history.recordPush frame ok }
  | .select event buffer =>
      let (code, data, s) := t.source.select event buffer
      { source := s
        history := t.history.recordSelect event code data t.source.frames.length s.frames.length }
  | .rearm paused =>
      let (ok, s) := t.source.rearm paused
      { source := s
        history := t.history.recordRearm ok t.source.frames.length s.frames.length }

def Tracked.run (t : Tracked α) (ops : List (SourceOp α)) : Tracked α :=
  ops.foldl Tracked.step t

/-- Nothing is lost or reordered, and the source's own counters agree with the record. -/
structure Tracked.Conserved (t : Tracked α) : Prop where
  represents : Represents t.source t.playout
  order : (t.history.delivered ++ t.source.frames).Sublist t.history.pushed
  count : t.history.pushed.length =
    t.history.delivered.length + t.history.lost + t.source.frames.length
  discarded : t.source.discarded = UInt32.ofNat t.history.lost
  selected : t.source.selected =
    UInt32.ofNat (t.history.delivered.length + t.history.underflows)
  underflows : t.source.underflows = UInt32.ofNat t.history.underflows

theorem conserved_init : (Tracked.init : Tracked α).Conserved := by
  have hframes : (Tracked.init : Tracked α).source.frames = [] := represents_init.queue
  refine ⟨?_, ?_, ?_, rfl, rfl, rfl⟩
  · rw [Tracked.playout, hframes]
    exact represents_init
  · rw [hframes]
    exact List.Sublist.refl _
  · rw [hframes]
    rfl

theorem Tracked.Conserved.push {t : Tracked α} (h : t.Conserved) (frame : α) :
    (t.step (.push frame)).Conserved := by
  by_cases hroom : t.source.frames.length < 4
  · have hrep := h.represents.push frame hroom
    have hframes := push_frames frame hroom
    have hpush := push_room frame hroom
    simp only [Tracked.step, hpush, History.recordPush] at hrep hframes ⊢
    refine ⟨?_, ?_, ?_, h.discarded, h.selected, h.underflows⟩
    · exact hrep.frames
    · rw [hframes, ← List.append_assoc]
      exact h.order.append (List.Sublist.refl _)
    · have hcount := h.count
      simp only [if_true, hframes, List.length_append, List.length_singleton]
      omega
  · have hpush := push_full (s := t.source) frame (by omega)
    simp only [Tracked.step, hpush, History.recordPush]
    exact h

omit [Inhabited α] in
theorem recordSelect_unchanged (h : History α) (event : UInt32) (code : Int) (data : α)
    (before after : Nat) (hskip : code = -1 ∨ event.toNat ∈ h.answers.map Prod.fst) :
    h.recordSelect event code data before after = h :=
  if_pos hskip

omit [Inhabited α] in
theorem recordSelect_first (h : History α) (event : UInt32) (a : Option α) (buffer : α)
    (before after : Nat) (hnew : event.toNat ∉ h.answers.map Prod.fst) :
    h.recordSelect event (answerCode a) (a.getD buffer) before after =
      { h with
        delivered := h.delivered ++ a.toList
        answers := (event.toNat, a) :: h.answers
        underflows := h.underflows + if a.isNone then 1 else 0
        lost := h.lost + (before - a.toList.length - after) } := by
  cases a <;> simp [History.recordSelect, answerCode, hnew]

omit [Inhabited α] in
theorem getD_of_answerCode (a : Option α) (buffer : α)
    (h : answerCode a = 0 ∨ answerCode a = -1) : a.getD buffer = buffer := by
  cases a with
  | none => rfl
  | some a => simp [answerCode] at h

omit [Inhabited α] in
theorem Tracked.Conserved.requested {t : Tracked α} (h : t.Conserved) :
    ({ t with source := { t.source with requested := true } } : Tracked α).Conserved :=
  ⟨h.represents.requested true, h.order, h.count, h.discarded, h.selected, h.underflows⟩

theorem Tracked.Conserved.select {t : Tracked α} (h : t.Conserved) (event : UInt32)
    (buffer : α) : (t.step (.select event buffer)).Conserved := by
  rcases h.represents.select_cases event buffer with ⟨a, hheld, hsel⟩ | ⟨_, hsel⟩ | ⟨_, hnew, hfirst⟩
  · simp only [Tracked.step, hsel]
    rw [recordSelect_unchanged _ _ _ _ _ _ (.inr (Playout.mem_of_held hheld))]
    exact h.requested
  · simp only [Tracked.step, hsel]
    rw [recordSelect_unchanged _ _ _ _ _ _ (.inl rfl)]
    exact h.requested
  · obtain ⟨hcode, hdata, hrep, hdisc, hsel, hunder⟩ := hfirst
    have hlen := t.playout.first_length event.toNat
    have hsub := t.playout.first_sublist event.toNat
    simp only [Tracked.step, hcode, hdata]
    rw [recordSelect_first _ _ _ _ _ _ hnew]
    generalize (t.source.select event buffer).2.2 = s at *
    rw [← hrep.queue] at hlen hsub
    have hqueue : t.playout.queue = t.source.frames := rfl
    rw [hqueue] at hlen hsub
    have hlost : t.source.frames.length - (t.playout.answer event.toNat).toList.length -
        s.frames.length = min (t.playout.skipped event.toNat) t.source.frames.length := by omega
    rw [hlost]
    refine ⟨?_, ?_, ?_, ?_, ?_, ?_⟩
    · exact hrep.frames
    · rw [List.append_assoc]
      exact (List.Sublist.append (List.Sublist.refl _) hsub).trans h.order
    · have hcount := h.count
      simp only [List.length_append]
      omega
    · rw [hdisc, h.discarded, UInt32.ofNat_add, hqueue]
    · have hone (a : Option α) : (t.history.delivered ++ a.toList).length +
          (t.history.underflows + if a.isNone then 1 else 0) =
          t.history.delivered.length + t.history.underflows + 1 := by
        cases a with
        | none => simp [Nat.add_assoc]
        | some a =>
            simp only [Option.toList_some, List.length_append, List.length_singleton]
            simp
            omega
      refine hsel.trans ?_
      rw [h.selected]
      refine Eq.trans ?_ (congrArg UInt32.ofNat (hone (t.playout.answer event.toNat))).symm
      rw [UInt32.ofNat_add _ 1]
      rfl
    · rw [hunder, h.underflows, UInt32.ofNat_add]

/-- A selection that is not refused returns the answer on record, and answers stay on record. -/
theorem Tracked.Conserved.select_answer {t : Tracked α} (h : t.Conserved) (event : UInt32)
    (buffer : α) :
    t.history.answers ⊆ (t.step (.select event buffer)).history.answers ∧
      ((t.source.select event buffer).1 = -1 ∨
        ∃ a, (event.toNat, a) ∈ (t.step (.select event buffer)).history.answers ∧
          (t.source.select event buffer).1 = answerCode a ∧
          (t.source.select event buffer).2.1 = a.getD buffer) := by
  rcases h.represents.select_cases event buffer with ⟨a, hheld, hsel⟩ | ⟨_, hsel⟩ | ⟨_, hnew, hfirst⟩
  · simp only [Tracked.step, hsel]
    rw [recordSelect_unchanged _ _ _ _ _ _ (.inr (Playout.mem_of_held hheld))]
    exact ⟨List.Subset.refl _, .inr ⟨a, List.mem_of_mem_take (Playout.held_mem hheld), rfl, rfl⟩⟩
  · simp only [Tracked.step, hsel]
    rw [recordSelect_unchanged _ _ _ _ _ _ (.inl rfl)]
    exact ⟨List.Subset.refl _, .inl trivial⟩
  · obtain ⟨hcode, hdata, _⟩ := hfirst
    simp only [Tracked.step, hcode, hdata]
    rw [recordSelect_first _ _ _ _ _ _ hnew]
    exact ⟨List.subset_cons_self _ _, .inr ⟨_, List.mem_cons_self, rfl, rfl⟩⟩

/-- A push leaves the answers alone. -/
theorem Tracked.push_answers (t : Tracked α) (frame : α) :
    (t.step (.push frame)).history.answers = t.history.answers := by
  simp only [Tracked.step, History.recordPush]
  split <;> rfl

omit [Inhabited α] in
/-- An event has one answer on record. -/
theorem Tracked.Conserved.answer_unique {t : Tracked α} (h : t.Conserved) {event : Nat}
    {a b : Option α} (ha : (event, a) ∈ t.history.answers) (hb : (event, b) ∈ t.history.answers) :
    a = b := by
  have hord : t.history.answers.Pairwise fun a b => b.1 < a.1 := h.represents.ordered
  have hkey : t.history.answers.Pairwise fun a b => a.1 = b.1 → a = b :=
    hord.imp fun hlt heq => absurd heq.symm (Nat.ne_of_lt hlt)
  have hflip : t.history.answers.Pairwise (flip fun a b => a.1 = b.1 → a = b) :=
    hord.imp fun hlt heq => absurd heq (Nat.ne_of_lt hlt)
  have hall := hkey.forall_of_forall_of_flip (fun _ _ _ => rfl) hflip
  exact congrArg Prod.snd (hall ha hb rfl)

theorem rearm_frames (s : AudioSource α) (h : s.frames.length ≤ 4) :
    s.rearm true = (true, { s with
      discarded := s.discarded + UInt32.ofNat s.frames.length
      read := s.written
      requested := false
      latch := fun _ => Latch.zero
      lastEvent := 0
      selectedAny := false }) := by
  rw [frames_length] at h ⊢
  have hav : ¬ s.written - s.read > audioQueueFrames := by
    intro hgt
    have : 4 < (s.written - s.read).toNat := UInt32.lt_iff_toNat_lt.mp hgt
    omega
  rw [UInt32.ofNat_toNat]
  simp [AudioSource.rearm, hav]

theorem Tracked.Conserved.rearm {t : Tracked α} (h : t.Conserved) (paused : Bool) :
    (t.step (.rearm paused)).Conserved := by
  cases paused with
  | false => exact h
  | true =>
      have hbound : t.source.frames.length ≤ 4 := h.represents.queue ▸ h.represents.length_le
      simp only [Tracked.step, rearm_frames t.source hbound, History.recordRearm, if_true]
      generalize hs : ({ t.source with
        discarded := t.source.discarded + UInt32.ofNat t.source.frames.length
        read := t.source.written, requested := false, latch := fun _ => Latch.zero
        lastEvent := 0, selectedAny := false } : AudioSource α) = s
      have hnil : s.frames = [] := by
        subst hs
        rw [← List.length_eq_zero_iff, frames_length]
        exact counter_sub_self _
      have hcount := h.count
      refine ⟨?_, ?_, ?_, ?_, ?_, ?_⟩
      · subst hs
        refine ⟨?_, rfl, rfl, ?_, rfl, rfl, Playout.ordered_empty⟩
        · simp
        · simp [Tracked.playout]
      · rw [hnil, List.append_nil]
        exact (List.sublist_append_left _ _).trans h.order
      · rw [hnil]
        simp only [List.length_nil]
        omega
      · subst hs
        rw [hnil, h.discarded, UInt32.ofNat_add]
        rfl
      · subst hs
        exact h.selected
      · subst hs
        exact h.underflows

theorem Tracked.Conserved.step {t : Tracked α} (h : t.Conserved) (op : SourceOp α) :
    (t.step op).Conserved := by
  cases op with
  | push frame => exact h.push frame
  | select event buffer => exact h.select event buffer
  | rearm paused => exact h.rearm paused

theorem Tracked.Conserved.run {t : Tracked α} (h : t.Conserved) (ops : List (SourceOp α)) :
    (t.run ops).Conserved := by
  induction ops generalizing t with
  | nil => exact h
  | cons op rest ih => exact ih (h.step op)

/-- Playout by the audio source after any calls since it was initialised: first deliveries keep the
order of the pushes, the two newest answers given since the last rearm are given again and cost
nothing, and every frame pushed is delivered, discarded or still queued. -/
theorem audioSource_playout (ops : List (SourceOp α)) :
    let t : Tracked α := Tracked.init.run ops
    let s := t.source
    let h := t.history
    h.delivered.Sublist h.pushed ∧
    (∀ event a buffer, (event.toNat, a) ∈ h.answers.take 2 →
      s.select event buffer = (answerCode a, a.getD buffer, { s with requested := true })) ∧
    (∀ event buffer, (s.select event buffer).1 = 0 ∨ (s.select event buffer).1 = -1 →
      (s.select event buffer).2.1 = buffer) ∧
    (∀ frame, (s.push frame).1 = false ↔ s.frames.length = 4) ∧
    (∀ event buffer, event.toNat ∉ h.answers.map Prod.fst → (s.select event buffer).1 ≠ -1 →
      let k := t.playout.skipped event.toNat
      let after := (s.select event buffer).2.2
      after.discarded = s.discarded + UInt32.ofNat (min k s.frames.length) ∧
      after.frames = (s.frames.drop (min k s.frames.length)).tail ∧
      ((s.select event buffer).1 = 1 →
        (s.frames.drop (min k s.frames.length)).head? = some (s.select event buffer).2.1)) ∧
    h.pushed.length = h.delivered.length + h.lost + s.frames.length ∧
    s.discarded = UInt32.ofNat h.lost ∧
    s.selected = UInt32.ofNat (h.delivered.length + h.underflows) ∧
    s.underflows = UInt32.ofNat h.underflows := by
  intro t s h
  have hinv : t.Conserved := conserved_init.run ops
  refine ⟨(List.sublist_append_left _ _).trans hinv.order, ?_, ?_, ?_, ?_, hinv.count,
    hinv.discarded, hinv.selected, hinv.underflows⟩
  · intro event a buffer hmem
    exact hinv.represents.select_held (hinv.represents.ordered.held_of_mem hmem) buffer
  · intro event buffer hcode
    rcases hinv.represents.select_cases event buffer with ⟨a, _, hsel⟩ | ⟨_, hsel⟩ | ⟨_, _, hfirst⟩
    · rw [hsel] at hcode ⊢
      exact getD_of_answerCode a buffer hcode
    · rw [hsel]
    · rw [hfirst.code] at hcode
      rw [hfirst.data]
      exact getD_of_answerCode _ buffer hcode
  · intro frame
    have hbound : s.frames.length ≤ 4 := hinv.represents.queue ▸ hinv.represents.length_le
    by_cases hroom : s.frames.length < 4
    · rw [push_room frame hroom]
      simp only [Bool.true_eq_false, false_iff]
      omega
    · rw [push_full frame (by omega)]
      simp only [true_iff]
      omega
  · intro event buffer hnew hcode
    rcases hinv.represents.select_cases event buffer with ⟨a, hheld, _⟩ | ⟨_, hsel⟩ | ⟨_, _, hfirst⟩
    · exact absurd (Playout.mem_of_held hheld) hnew
    · rw [hsel] at hcode
      exact absurd rfl hcode
    · have hdrop : s.frames.drop (min (t.playout.skipped event.toNat) s.frames.length) =
          t.playout.remaining event.toNat := by
        have hqueue : t.playout.queue = s.frames := rfl
        rw [Playout.remaining, hqueue, List.drop_eq_drop_iff]
        omega
      intro k after
      rw [hdrop]
      refine ⟨hfirst.discarded, hfirst.represents.queue, ?_⟩
      intro hone
      rw [hfirst.data]
      rw [hfirst.code] at hone
      change t.playout.answer event.toNat = _
      cases ha : t.playout.answer event.toNat with
      | none =>
          rw [ha] at hone
          simp [answerCode] at hone
      | some a => rfl

/-- A rearm clears the latches: event 5, just answered with a frame, then has no answer. -/
theorem rearm_forgets_answer :
    let t : Tracked Nat := Tracked.init.run [.push 7, .select 5 0]
    let u : Tracked Nat := t.run [.rearm true]
    (t.source.select 5 0).1 = 1 ∧ (t.source.select 5 0).2.1 = 7 ∧
      t.history.answers = [(5, some 7)] ∧
      (u.source.select 5 0).1 = 0 ∧
      (u.source.select 5 0).2.2.underflows = u.source.underflows + 1 := by
  decide

end UllReceiver.Audio
