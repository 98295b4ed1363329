import UllReceiver.Library.RingView
import Mathlib

/-!
# Encoded audio source

The queue between the codec worker and the radio controller, from `audio_source.c`.  A frame is
both channels of one 5 ms record; it is only ever copied, so its type is a parameter.  A null
`source` or `frames` pointer, refused by every entry point, has no counterpart here.
-/

namespace UllReceiver.Audio

open Library

def audioQueueFrames : UInt32 := 4

structure Latch (α : Type*) where
  event : UInt32
  valid : Bool
  present : Bool
  data : α
deriving DecidableEq

structure AudioSource (α : Type*) where
  written : UInt32
  read : UInt32
  requested : Bool
  queue : Fin 4 → α
  latch : Fin 2 → Latch α
  lastEvent : UInt32
  selected : UInt32
  underflows : UInt32
  discarded : UInt32
  selectedAny : Bool

variable {α : Type*}

/-- `i & (audioQueueFrames-1u)`. -/
def queueSlot (i : UInt32) : Fin 4 :=
  ⟨(i &&& (audioQueueFrames - 1)).toNat, by
    change (i.toNat &&& 3) < 4
    have h : i.toNat &&& 3 ≤ 3 := Nat.and_le_right
    omega⟩

/-- `selected & 1u`. -/
def latchSlot (selected : UInt32) : Fin 2 :=
  ⟨(selected &&& 1).toNat, by
    change (selected.toNat &&& 1) < 2
    have h : selected.toNat &&& 1 ≤ 1 := Nat.and_le_right
    omega⟩

/-- A latch as `memset` leaves it; `default` stands for the all-zero frame. -/
def Latch.zero [Inhabited α] : Latch α :=
  { event := 0, valid := false, present := false, data := default }

def AudioSource.init [Inhabited α] : AudioSource α :=
  { written := 0, read := 0, requested := false, queue := fun _ => default,
    latch := fun _ => Latch.zero, lastEvent := 0, selected := 0, underflows := 0,
    discarded := 0, selectedAny := false }

def AudioSource.push (s : AudioSource α) (frames : α) : Bool × AudioSource α :=
  if s.written - s.read ≥ audioQueueFrames then (false, s)
  else (true, { s with
    queue := Function.update s.queue (queueSlot s.written) frames
    written := s.written + 1 })

/-- The latch, if any, that already owns `event`; slot 0 is looked at first. -/
def AudioSource.latched (s : AudioSource α) (event : UInt32) : Option (Latch α) :=
  if (s.latch 0).valid && (s.latch 0).event == event then some (s.latch 0)
  else if (s.latch 1).valid && (s.latch 1).event == event then some (s.latch 1)
  else none

/-- Queued frames a first selection of `event` passes over. -/
def AudioSource.skipped (s : AudioSource α) (event : UInt32) : UInt32 :=
  if s.selectedAny then event - s.lastEvent - 1 else 0

/-- The part of `ull_audio_source_select` after the latches and the order of events were checked. -/
def AudioSource.selectNew [Inhabited α] (s : AudioSource α) (event : UInt32) (frames : α) :
    Int × α × AudioSource α :=
  let available := s.written - s.read
  if available > audioQueueFrames then (-1, frames, s)
  else
    let skipped := s.skipped event
    let discard := if skipped < available then skipped else available
    let read := s.read + discard
    let available := available - discard
    let slot := latchSlot s.selected
    let s := { s with
      discarded := s.discarded + discard
      lastEvent := event
      selectedAny := true
      selected := s.selected + 1 }
    if available ≠ 0 then
      let data := s.queue (queueSlot read)
      (1, data, { s with
        latch := Function.update s.latch slot { event, valid := true, present := true, data }
        read := read + 1 })
    else
      (0, frames, { s with
        latch := Function.update s.latch slot
          { event, valid := true, present := false, data := default }
        underflows := s.underflows + 1
        read := read })

/-- `ull_audio_source_select`: the status, the caller's buffer afterwards and the source. -/
def AudioSource.select [Inhabited α] (s : AudioSource α) (event : UInt32) (frames : α) :
    Int × α × AudioSource α :=
  let s := { s with requested := true }
  match s.latched event with
  | some l => if l.present then (1, l.data, s) else (0, frames, s)
  | none =>
      if s.selectedAny && event ≤ s.lastEvent then (-1, frames, s)
      else s.selectNew event frames

/-- `ull_audio_source_rearm`; `paused` is `ull_reconnect_paused` of the caller's barrier. -/
def AudioSource.rearm [Inhabited α] (s : AudioSource α) (paused : Bool) :
    Bool × AudioSource α :=
  if !paused then (false, s)
  else if s.written - s.read > audioQueueFrames then (false, s)
  else (true, { s with
    discarded := s.discarded + (s.written - s.read)
    read := s.written
    requested := false
    latch := fun _ => Latch.zero
    lastEvent := 0
    selectedAny := false })

end UllReceiver.Audio
