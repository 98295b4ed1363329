import UllReceiver.Audio.Source
import UllReceiver.Audio.Playout
import UllReceiver.Library.Counter

/-! The audio source is a playout queue of at most four frames, for every run of its operations. -/

namespace UllReceiver.Audio

open Library

variable {α : Type*}

/-- Frames pushed and not yet read, oldest first. -/
def AudioSource.frames (s : AudioSource α) : List α :=
  ringView s.queue s.read.toNat (s.written - s.read).toNat

/-- What a latch answers to a repeated request. -/
def Latch.content (l : Latch α) : Option α :=
  if l.present then some l.data else none

def Latch.answer (l : Latch α) : Option (Nat × Option α) :=
  if l.valid then some (l.event.toNat, l.content) else none

theorem frames_length (s : AudioSource α) : s.frames.length = (s.written - s.read).toNat :=
  ringView_length _ _ _

theorem queueSlot_eq (i : UInt32) : queueSlot i = ringSlot 4 i.toNat :=
  Fin.ext (counter_mask_toNat 2 i _ rfl)

theorem latchSlot_val (i : UInt32) : (latchSlot i).val = i.toNat % 2 :=
  counter_mask_toNat 1 i _ rfl

/-- Consecutive selections use the two latches in turn. -/
theorem latchSlot_succ_ne (i : UInt32) : latchSlot (i + 1) ≠ latchSlot i := by
  intro h
  have hval := congrArg Fin.val h
  rw [latchSlot_val, latchSlot_val, counter_succ_toNat] at hval
  omega

theorem latchSlot_pred_ne (i : UInt32) : latchSlot (i - 1) ≠ latchSlot i := by
  have h := latchSlot_succ_ne (i - 1)
  rw [UInt32.sub_add_cancel] at h
  exact h.symm

theorem latchSlot_succ_eq_pred (i : UInt32) : latchSlot (i + 1) = latchSlot (i - 1) := by
  have hp := latchSlot_pred_ne i
  have hs := latchSlot_succ_ne i
  omega

/-- The counters and latches of `s` hold exactly the playout queue `p`. -/
structure Represents (s : AudioSource α) (p : Playout α) : Prop where
  bound : (s.written - s.read).toNat ≤ 4
  queue : s.frames = p.queue
  any : s.selectedAny = !p.answers.isEmpty
  last : ∀ a ∈ p.answers.head?, s.lastEvent.toNat = a.1
  newest : (s.latch (latchSlot (s.selected - 1))).answer = p.answers[0]?
  second : (s.latch (latchSlot s.selected)).answer = p.answers[1]?
  ordered : p.Ordered

theorem represents_init [Inhabited α] : Represents (AudioSource.init : AudioSource α) .empty where
  bound := by simp [AudioSource.init]
  queue := by simp [AudioSource.frames, AudioSource.init, Playout.empty]
  any := rfl
  last := by simp [Playout.empty]
  newest := rfl
  second := rfl
  ordered := Playout.ordered_empty

theorem Represents.requested {s : AudioSource α} {p : Playout α} (h : Represents s p) (b : Bool) :
    Represents { s with requested := b } p :=
  ⟨h.bound, h.queue, h.any, h.last, h.newest, h.second, h.ordered⟩

theorem Represents.frames {s : AudioSource α} {p : Playout α} (h : Represents s p) :
    Represents s { queue := s.frames, answers := p.answers } :=
  ⟨h.bound, rfl, h.any, h.last, h.newest, h.second, h.ordered⟩

theorem Represents.length {s : AudioSource α} {p : Playout α} (h : Represents s p) :
    p.queue.length = (s.written - s.read).toNat := by
  rw [← h.queue, frames_length]

theorem Represents.length_le {s : AudioSource α} {p : Playout α} (h : Represents s p) :
    p.queue.length ≤ 4 := by
  rw [h.length]
  exact h.bound

theorem push_full {s : AudioSource α} (frame : α) (h : 4 ≤ s.frames.length) :
    s.push frame = (false, s) := by
  rw [frames_length] at h
  have hge : s.written - s.read ≥ audioQueueFrames := UInt32.le_iff_toNat_le.mpr h
  simp only [AudioSource.push, if_pos hge]

theorem push_room {s : AudioSource α} (frame : α) (h : s.frames.length < 4) :
    s.push frame = (true, { s with
      queue := Function.update s.queue (queueSlot s.written) frame
      written := s.written + 1 }) := by
  rw [frames_length] at h
  have hge : ¬ s.written - s.read ≥ audioQueueFrames := by
    intro hge
    have hle : 4 ≤ (s.written - s.read).toNat := UInt32.le_iff_toNat_le.mp hge
    omega
  simp only [AudioSource.push, if_neg hge]

theorem push_frames {s : AudioSource α} (frame : α) (h : s.frames.length < 4) :
    (s.push frame).2.frames = s.frames ++ [frame] := by
  rw [push_room frame h]
  rw [frames_length] at h
  simp only [AudioSource.frames]
  have hslot : queueSlot s.written = ringSlot 4 (s.read.toNat + (s.written - s.read).toNat) := by
    rw [queueSlot_eq]
    apply ringSlot_congr
    rw [← counter_add_sub s.written s.read]
    unfold Nat.ModEq
    omega
  rw [counter_sub_succ _ _ (by omega), hslot]
  exact ringView_push s.queue s.read.toNat _ frame h

theorem Represents.push {s : AudioSource α} {p : Playout α} (h : Represents s p) (frame : α)
    (hroom : s.frames.length < 4) : Represents (s.push frame).2 (p.push frame) := by
  have hframes := push_frames frame hroom
  rw [push_room frame hroom] at hframes ⊢
  rw [frames_length] at hroom
  refine ⟨?_, ?_, h.any, h.last, h.newest, h.second, h.ordered.push frame⟩
  · change (s.written + 1 - s.read).toNat ≤ 4
    rw [counter_sub_succ _ _ (by omega)]
    omega
  · rw [hframes, h.queue]
    rfl

/-- A frame written past the queue's end is not yet part of it. -/
theorem Represents.copy {s : AudioSource α} {p : Playout α} (h : Represents s p) (frame : α)
    (hroom : s.frames.length < 4) :
    Represents { s with queue := Function.update s.queue (queueSlot s.written) frame } p := by
  refine ⟨h.bound, ?_, h.any, h.last, h.newest, h.second, h.ordered⟩
  have hpush := push_frames frame hroom
  rw [push_room frame hroom] at hpush
  rw [frames_length] at hroom
  have hlen := counter_sub_succ s.written s.read (by omega)
  simp only [AudioSource.frames] at hpush ⊢
  rw [hlen] at hpush
  have htake := congrArg (List.take (s.written - s.read).toNat) hpush
  rw [ringView_take _ _ _ _ (Nat.le_succ _)] at htake
  rw [htake, List.take_left' (ringView_length _ _ _)]
  exact h.queue

/-- Advancing the write index makes the frame written there the newest of the queue. -/
theorem Represents.publish {s : AudioSource α} {p : Playout α} (h : Represents s p) {frame : α}
    (hroom : s.frames.length < 4) (hslot : s.queue (queueSlot s.written) = frame) :
    Represents { s with written := s.written + 1 } (p.push frame) := by
  have hpush := h.push frame hroom
  rw [push_room frame hroom, ← hslot, Function.update_eq_self] at hpush
  rw [← hslot]
  exact hpush

/-- Moving the read index to the write index empties the queue. -/
theorem Represents.drain {s : AudioSource α} {p : Playout α} (h : Represents s p)
    (requested : Bool) :
    Represents { s with read := s.written, requested } { p with queue := [] } := by
  have hzero := counter_sub_self s.written
  refine ⟨?_, ?_, h.any, h.last, h.newest, h.second, h.ordered⟩
  · change (s.written - s.written).toNat ≤ 4
    omega
  · rw [← List.length_eq_zero_iff, frames_length]
    exact hzero

theorem latch_lookup (l : Latch α) (event : UInt32) :
    (if l.valid && l.event == event then some l else none).map Latch.content =
      l.answer.toList.lookup event.toNat := by
  cases hv : l.valid with
  | false => simp [Latch.answer, hv]
  | true =>
      by_cases he : l.event = event
      · simp [Latch.answer, hv, he]
      · have hn : (event.toNat == l.event.toNat) = false := by
          rw [beq_eq_false_iff_ne]
          exact fun h => he (UInt32.toNat_inj.mp h.symm)
        simp [Latch.answer, hv, he, List.lookup_cons, hn]

theorem latched_lookup (s : AudioSource α) (event : UInt32) :
    (s.latched event).map Latch.content =
      ((s.latch 0).answer.toList ++ (s.latch 1).answer.toList).lookup event.toNat := by
  rw [List.lookup_append, ← latch_lookup, ← latch_lookup]
  unfold AudioSource.latched
  split <;> simp

/-- The latches are searched in slot order; with distinct events the order does not matter. -/
theorem lookup_swap (a b : Option (Nat × Option α)) (event : Nat)
    (hne : ∀ x ∈ a, ∀ y ∈ b, x.1 ≠ y.1) :
    (a.toList ++ b.toList).lookup event = (b.toList ++ a.toList).lookup event := by
  cases a with
  | none => simp
  | some x =>
      cases b with
      | none => simp
      | some y =>
          have hxy := hne x rfl y rfl
          obtain ⟨ex, ax⟩ := x
          obtain ⟨ey, ay⟩ := y
          simp only [Option.toList_some, List.cons_append, List.nil_append, List.lookup]
          by_cases hx : event = ex
          · have hy : (event == ey) = false := by
              rw [beq_eq_false_iff_ne, hx]
              exact hxy
            subst hx
            simp [hy]
          · have hx' : (event == ex) = false := beq_eq_false_iff_ne.mpr hx
            rw [hx']

theorem Represents.latched {s : AudioSource α} {p : Playout α} (h : Represents s p)
    (event : UInt32) : (s.latched event).map Latch.content = p.held event.toNat := by
  have hne : ∀ x ∈ p.answers[0]?, ∀ y ∈ p.answers[1]?, x.1 ≠ y.1 := by
    intro x hx y hy
    have hord := h.ordered
    unfold Playout.Ordered at hord
    cases hans : p.answers with
    | nil => simp [hans] at hx
    | cons c rest =>
        rw [hans] at hx hy hord
        have hyr : y ∈ rest := by
          simp only [List.getElem?_cons_succ] at hy
          exact List.mem_of_getElem? hy
        simp only [List.getElem?_cons_zero, Option.mem_some_iff] at hx
        subst hx
        exact Nat.ne_of_gt (List.rel_of_pairwise_cons hord hyr)
  have htake : p.answers.take 2 = p.answers[0]?.toList ++ p.answers[1]?.toList := by
    rcases p.answers with _ | ⟨a, _ | ⟨b, rest⟩⟩ <;> rfl
  rw [latched_lookup, Playout.held, htake]
  have hslots := latchSlot_pred_ne s.selected
  have hn := h.newest
  have hs := h.second
  generalize latchSlot (s.selected - 1) = i at hslots hn
  generalize latchSlot s.selected = j at hslots hs
  match i, j with
  | 0, 0 => exact absurd rfl hslots
  | 1, 1 => exact absurd rfl hslots
  | 0, 1 => rw [hn, hs]
  | 1, 0 =>
      rw [hn, hs]
      exact (lookup_swap _ _ _ hne).symm

theorem Represents.behind_iff {s : AudioSource α} {p : Playout α} (h : Represents s p)
    (event : UInt32) : (s.selectedAny && event ≤ s.lastEvent) = true ↔ ¬ p.accepts event.toNat := by
  have hany := h.any
  have hlast := h.last
  unfold Playout.accepts
  cases hans : p.answers with
  | nil =>
      rw [hans] at hany
      simp [hany]
  | cons c rest =>
      rw [hans] at hany hlast
      have hc := hlast c rfl
      simp only [hany, List.isEmpty_cons, Bool.not_false, Bool.true_and, decide_eq_true_eq,
        List.head?_cons, Option.mem_some_iff, forall_eq', Nat.not_lt]
      rw [UInt32.le_iff_toNat_le, hc]

theorem Represents.skipped {s : AudioSource α} {p : Playout α} (h : Represents s p)
    {event : UInt32} (hacc : p.accepts event.toNat) :
    (s.skipped event).toNat = p.skipped event.toNat := by
  have hany := h.any
  have hlast := h.last
  unfold Playout.accepts at hacc
  unfold AudioSource.skipped Playout.skipped
  cases hans : p.answers with
  | nil =>
      rw [hans] at hany
      simp [hany]
  | cons c rest =>
      rw [hans] at hany hlast hacc
      have hc := hlast c rfl
      have hlt := hacc c rfl
      rw [hany, List.isEmpty_cons, Bool.not_false, if_pos rfl]
      change _ = event.toNat - c.1 - 1
      have h1 : (event - s.lastEvent).toNat = event.toNat - c.1 := by
        rw [UInt32.toNat_sub_of_le _ _ (UInt32.le_iff_toNat_le.mpr (by omega)), hc]
      rw [UInt32.toNat_sub_of_le _ _ (UInt32.le_iff_toNat_le.mpr (by rw [h1]; simp; omega)), h1]
      rfl

/-- Queued frames the first selection of `event` throws away. -/
def AudioSource.discards (s : AudioSource α) (event : UInt32) : UInt32 :=
  if s.skipped event < s.written - s.read then s.skipped event else s.written - s.read

theorem discards_toNat (s : AudioSource α) (event : UInt32) :
    (s.discards event).toNat = min (s.skipped event).toNat s.frames.length := by
  rw [frames_length]
  unfold AudioSource.discards
  by_cases hlt : s.skipped event < s.written - s.read
  · rw [if_pos hlt]
    have := UInt32.lt_iff_toNat_lt.mp hlt
    omega
  · rw [if_neg hlt]
    have hge : ¬ (s.skipped event).toNat < (s.written - s.read).toNat :=
      fun h => hlt (UInt32.lt_iff_toNat_lt.mpr h)
    omega

/-- Moving the read index on drops the oldest frames. -/
theorem ringView_advance (s : AudioSource α) (d : UInt32) (hd : d.toNat ≤ s.frames.length) :
    ringView s.queue (s.read + d).toNat (s.written - (s.read + d)).toNat =
      s.frames.drop d.toNat := by
  rw [frames_length] at hd
  rw [counter_sub_advance _ _ _ hd, AudioSource.frames, ← ringView_drop _ _ _ _ hd]
  apply ringView_congr
  rw [UInt32.toNat_add]
  unfold Nat.ModEq
  omega

theorem ringView_head (s : AudioSource α) (d : UInt32) (hd : d.toNat < s.frames.length) :
    s.frames.drop d.toNat =
      s.queue (queueSlot (s.read + d)) :: s.frames.drop (d.toNat + 1) := by
  have hdrop := ringView_advance s d (Nat.le_of_lt hd)
  rw [frames_length] at hd
  rw [← List.tail_drop, ← hdrop, counter_sub_advance _ _ _ (Nat.le_of_lt hd)]
  obtain ⟨n, hn⟩ : ∃ n, (s.written - s.read).toNat - d.toNat = n + 1 :=
    ⟨(s.written - s.read).toNat - d.toNat - 1, by omega⟩
  rw [hn, ringView_succ, queueSlot_eq]
  rfl

/-- A first selection moves the read index to what the playout queue keeps and fills the older
latch with its answer. -/
theorem Represents.advance {s : AudioSource α} {p : Playout α} (h : Represents s p)
    {event : UInt32} (hacc : p.accepts event.toNat) (l : Latch α)
    (hl : l.answer = some (event.toNat, p.answer event.toNat)) (d : UInt32)
    (hd : d.toNat ≤ s.frames.length) (hqueue : s.frames.drop d.toNat = (p.first event.toNat).queue)
    (discarded underflows : UInt32) :
    Represents { s with
      discarded, underflows, lastEvent := event, selectedAny := true
      selected := s.selected + 1, read := s.read + d
      latch := Function.update s.latch (latchSlot s.selected) l } (p.first event.toNat) := by
  have hadv := ringView_advance s d hd
  refine ⟨?_, hadv.trans hqueue, rfl, ?_, ?_, ?_, h.ordered.first hacc⟩
  · have hlen := congrArg List.length hadv
    rw [ringView_length, List.length_drop] at hlen
    have hb := h.bound
    rw [frames_length] at hlen
    change (s.written - (s.read + d)).toNat ≤ 4
    omega
  · simp [Playout.first]
  · change (Function.update s.latch (latchSlot s.selected) l
      (latchSlot (s.selected + 1 - 1))).answer = _
    rw [UInt32.add_sub_cancel, Function.update_self, hl]
    rfl
  · change (Function.update s.latch (latchSlot s.selected) l
      (latchSlot (s.selected + 1))).answer = _
    rw [Function.update_of_ne (latchSlot_succ_ne _), latchSlot_succ_eq_pred]
    exact h.newest

/-- The status `ull_audio_source_select` reports for an answer. -/
def answerCode (a : Option α) : Int :=
  if a.isSome then 1 else 0

theorem answerCode_none : answerCode (none : Option α) = 0 := rfl

theorem answerCode_some (a : α) : answerCode (some a) = 1 := rfl

variable [Inhabited α]

theorem Represents.select_held {s : AudioSource α} {p : Playout α} (h : Represents s p)
    {event : UInt32} {a : Option α} (hheld : p.held event.toNat = some a) (buffer : α) :
    s.select event buffer = (answerCode a, a.getD buffer, { s with requested := true }) := by
  have hl := (h.requested true).latched event
  rw [hheld] at hl
  unfold AudioSource.select
  cases hlatch : AudioSource.latched { s with requested := true } event with
  | none => simp [hlatch] at hl
  | some l =>
      rw [hlatch] at hl
      have hc : l.content = a := by simpa using hl
      rw [← hc]
      cases hpres : l.present <;> simp [hlatch, Latch.content, answerCode, hpres]

theorem Represents.select_refused {s : AudioSource α} {p : Playout α} (h : Represents s p)
    {event : UInt32} (hheld : p.held event.toNat = none) (hacc : ¬ p.accepts event.toNat)
    (buffer : α) : s.select event buffer = (-1, buffer, { s with requested := true }) := by
  have hl := (h.requested true).latched event
  rw [hheld, Option.map_eq_none_iff] at hl
  have hb := (h.behind_iff event).mpr hacc
  unfold AudioSource.select
  simp only [hl, hb, if_true]

theorem Represents.select_new {s : AudioSource α} {p : Playout α} (h : Represents s p)
    {event : UInt32} (hheld : p.held event.toNat = none) (hacc : p.accepts event.toNat)
    (buffer : α) :
    s.select event buffer = AudioSource.selectNew { s with requested := true } event buffer := by
  have hl := (h.requested true).latched event
  rw [hheld, Option.map_eq_none_iff] at hl
  have hb : ¬ (s.selectedAny && event ≤ s.lastEvent) = true := by
    rw [h.behind_iff event]
    exact not_not_intro hacc
  unfold AudioSource.select
  simp only [hl, hb]
  rfl

/-- The two outcomes of a first selection, by what is left after the skip. -/
theorem selectNew_cases {s : AudioSource α} (event : UInt32) (buffer : α)
    (hbound : s.frames.length ≤ 4) :
    s.selectNew event buffer =
      if s.frames.length ≤ (s.skipped event).toNat then
        (0, buffer, { s with
          discarded := s.discarded + s.discards event
          lastEvent := event
          selectedAny := true
          selected := s.selected + 1
          latch := Function.update s.latch (latchSlot s.selected)
            { event, valid := true, present := false, data := default }
          underflows := s.underflows + 1
          read := s.read + s.discards event })
      else
        (1, s.queue (queueSlot (s.read + s.discards event)), { s with
          discarded := s.discarded + s.discards event
          lastEvent := event
          selectedAny := true
          selected := s.selected + 1
          latch := Function.update s.latch (latchSlot s.selected)
            { event, valid := true, present := true,
              data := s.queue (queueSlot (s.read + s.discards event)) }
          read := s.read + s.discards event + 1 }) := by
  have hlen := frames_length s
  have hd := discards_toNat s event
  have hav : ¬ s.written - s.read > audioQueueFrames := by
    intro hgt
    have : 4 < (s.written - s.read).toNat := UInt32.lt_iff_toNat_lt.mp hgt
    omega
  have hleft : s.written - s.read - s.discards event ≠ 0 ↔
      ¬ s.frames.length ≤ (s.skipped event).toNat := by
    have hle : (s.discards event).toNat ≤ (s.written - s.read).toNat := by omega
    have hsub := UInt32.toNat_sub_of_le _ _ (UInt32.le_iff_toNat_le.mpr hle)
    rw [Ne, ← UInt32.toNat_inj, hsub]
    change ¬ _ = 0 ↔ _
    omega
  unfold AudioSource.selectNew
  simp only [if_neg hav]
  change (if s.written - s.read - s.discards event ≠ 0 then _ else _) = _
  by_cases hle : s.frames.length ≤ (s.skipped event).toNat
  · rw [if_neg (fun hne => hleft.mp hne hle), if_pos hle]
    rfl
  · rw [if_pos (hleft.mpr hle), if_neg hle]
    rfl

/-- What a first selection reports and leaves behind. -/
structure FirstSelection (s : AudioSource α) (p : Playout α) (event : UInt32) (buffer : α)
    (result : Int × α × AudioSource α) : Prop where
  code : result.1 = answerCode (p.answer event.toNat)
  data : result.2.1 = (p.answer event.toNat).getD buffer
  represents : Represents result.2.2 (p.first event.toNat)
  discarded : result.2.2.discarded =
    s.discarded + UInt32.ofNat (min (p.skipped event.toNat) p.queue.length)
  selected : result.2.2.selected = s.selected + 1
  underflows : result.2.2.underflows =
    s.underflows + UInt32.ofNat (if (p.answer event.toNat).isNone then 1 else 0)

theorem Represents.selectNew {s : AudioSource α} {p : Playout α} (h : Represents s p)
    {event : UInt32} (hacc : p.accepts event.toNat) (buffer : α) :
    FirstSelection s p event buffer (s.selectNew event buffer) := by
  have hbound : s.frames.length ≤ 4 := by rw [h.queue]; exact h.length_le
  have hskip := h.skipped hacc
  have hdisc := discards_toNat s event
  have hofNat : s.discards event =
      UInt32.ofNat (min (p.skipped event.toNat) p.queue.length) := by
    rw [← hskip, ← h.queue, ← hdisc, UInt32.ofNat_toNat]
  have hremaining : s.frames.drop (s.discards event).toNat = p.remaining event.toNat := by
    rw [Playout.remaining, ← h.queue, ← hskip, hdisc, List.drop_eq_drop_iff]
    omega
  rw [selectNew_cases event buffer hbound]
  by_cases hle : s.frames.length ≤ (s.skipped event).toNat
  · -- the skip empties the queue: the event is answered with nothing
    have hempty : p.remaining event.toNat = [] := by
      rw [← hremaining, List.drop_eq_nil_iff]
      omega
    have ha : p.answer event.toNat = none := by rw [Playout.answer, hempty]; rfl
    rw [if_pos hle]
    refine ⟨by rw [ha]; rfl, by rw [ha]; rfl, ?_, by rw [hofNat], rfl, by rw [ha]; rfl⟩
    refine h.advance hacc _ (by simp [Latch.answer, Latch.content, ha]) _ (by omega) ?_ _ _
    rw [hremaining, Playout.first, hempty]
    rfl
  · -- the oldest frame left answers the event and leaves the queue with the skipped ones
    have hhead := ringView_head s (s.discards event) (by omega)
    have ha : p.answer event.toNat = some (s.queue (queueSlot (s.read + s.discards event))) := by
      rw [Playout.answer, ← hremaining, hhead]
      rfl
    have hsucc : (s.discards event + 1).toNat = (s.discards event).toNat + 1 := by
      rw [counter_succ_toNat]
      omega
    rw [if_neg hle, UInt32.add_assoc]
    refine ⟨by rw [ha]; rfl, by rw [ha]; rfl, ?_, by rw [hofNat], rfl, by rw [ha]; simp⟩
    refine h.advance hacc _ (by simp [Latch.answer, Latch.content, ha]) _ (by omega) ?_ _ _
    rw [hsucc, ← List.tail_drop, hremaining]
    rfl

/-- A selection repeats a held answer, is refused, or answers a new event. -/
theorem Represents.select_cases {s : AudioSource α} {p : Playout α} (h : Represents s p)
    (event : UInt32) (buffer : α) :
    (∃ a, p.held event.toNat = some a ∧
      s.select event buffer = (answerCode a, a.getD buffer, { s with requested := true })) ∨
    (¬ p.accepts event.toNat ∧
      s.select event buffer = (-1, buffer, { s with requested := true })) ∨
    (p.accepts event.toNat ∧ event.toNat ∉ p.answers.map Prod.fst ∧
      FirstSelection s p event buffer (s.select event buffer)) := by
  cases hheld : p.held event.toNat with
  | some a => exact .inl ⟨a, rfl, h.select_held hheld buffer⟩
  | none =>
      by_cases hacc : p.accepts event.toNat
      · refine .inr (.inr ⟨hacc, h.ordered.not_answered hacc, ?_⟩)
        rw [h.select_new hheld hacc buffer]
        have hnew := (h.requested true).selectNew hacc buffer
        exact ⟨hnew.code, hnew.data, hnew.represents, hnew.discarded, hnew.selected,
          hnew.underflows⟩
      · exact .inr (.inl ⟨hacc, h.select_refused hheld hacc buffer⟩)

/-- A selection writes neither the ring nor its write index. -/
theorem select_producer (s : AudioSource α) (event : UInt32) (buffer : α) :
    (s.select event buffer).2.2.written = s.written ∧
      (s.select event buffer).2.2.queue = s.queue := by
  have hnew (s : AudioSource α) : (s.selectNew event buffer).2.2.written = s.written ∧
      (s.selectNew event buffer).2.2.queue = s.queue := by
    unfold AudioSource.selectNew
    simp only
    split
    · exact ⟨rfl, rfl⟩
    · -- the amount discarded, then whether a frame is left
      split <;> split <;> exact ⟨rfl, rfl⟩
  unfold AudioSource.select
  simp only
  split
  · split <;> exact ⟨rfl, rfl⟩
  · split
    · exact ⟨rfl, rfl⟩
    · exact hnew _

end UllReceiver.Audio
