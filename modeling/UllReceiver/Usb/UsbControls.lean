import UllReceiver.Library.Runs
import Mathlib

/-!
# The media keys

`usb_controls.c`: any task queues a key, and the USB owner task turns the queued keys into pairs of
reports. Between any two accesses to what they share the other tasks may run and time may pass.
-/

namespace UllReceiver.Usb

open Library

/-- The length the queue of keys is created with. -/
def keyQueueLength : Nat := 32

inductive KeyReport
  | press (usage : UInt16)
  | zero
deriving DecidableEq

/-- A report the USB stack has taken: when, and the clock reading of the call that sent it. -/
structure SentReport where
  report : KeyReport
  sentAt : Int
  now : Int

/-- Where the USB owner task stands in `ull_usb_controls_service`. -/
inductive ServiceStep
  | outside
  | entered
  | timed (now : Int)
  | releasing (now : Int)
  | peeked (now : Int) (usage : UInt16)
  | reported (now : Int)
  | received (now : Int)
deriving DecidableEq

structure Controls where
  /-- The queue, once `ull_usb_controls_init` has created it. -/
  pending : Option (List UInt16)
  releasePending : Bool
  releaseDue : Int
  keyQueued : UInt32
  keySent : UInt32
  service : ServiceStep
  /-- Tasks in `ull_usb_controls_enqueue` between the queue and the counter. -/
  counting : Nat
  clock : Int
  /-- The keys the queue has taken so far. -/
  accepted : List UInt16
  /-- The reports sent so far. -/
  sent : List SentReport

inductive ControlsAction
  | init (created : Bool)
  | send (usage : UInt16)
  | count
  | enter (mounted hidReady : Bool)
  | readClock
  | choose
  | report (taken : Bool)
  | receive
  | finish
  | tick (us : Nat)

namespace Controls

def boot (clock : Int) : Controls where
  pending := none
  releasePending := false
  releaseDue := 0
  keyQueued := 0
  keySent := 0
  service := .outside
  counting := 0
  clock := clock
  accepted := []
  sent := []

/-- `xQueueSend` in `ull_usb_controls_enqueue`; a key that is not taken is refused. -/
def send (s : Controls) (usage : UInt16) : Controls :=
  match s.pending with
  | none => s
  | some queue =>
      if queue.length < keyQueueLength then
        { s with
          pending := some (queue ++ [usage])
          counting := s.counting + 1
          accepted := s.accepted ++ [usage] }
      else s

/-- What `ull_usb_controls_service` does with its clock reading. -/
def choose (s : Controls) (now : Int) : Controls :=
  if s.releasePending then
    if now < s.releaseDue then { s with service := .outside }
    else { s with service := .releasing now }
  else
    match s.pending with
    | some (usage :: _) => { s with service := .peeked now usage }
    | _ => { s with service := .outside }

def log (s : Controls) (report : KeyReport) (now : Int) : List SentReport :=
  s.sent ++ [⟨report, s.clock, now⟩]

/-- `none` for a step that is not this task's next one. -/
def step (s : Controls) : ControlsAction → Option Controls
  | .init created =>
      if s.pending.isNone then some { s with pending := if created then some [] else none }
      else none
  | .send usage => some (s.send usage)
  | .count =>
      if 0 < s.counting then
        some { s with counting := s.counting - 1, keyQueued := s.keyQueued + 1 }
      else none
  | .enter mounted hidReady =>
      match s.service with
      | .outside => some (if mounted && hidReady then { s with service := .entered } else s)
      | _ => none
  | .readClock =>
      match s.service with
      | .entered => some { s with service := .timed s.clock }
      | _ => none
  | .choose =>
      match s.service with
      | .timed now => some (s.choose now)
      | _ => none
  | .report taken =>
      match s.service with
      | .releasing now =>
          some (if taken then
            { s with service := .outside, releasePending := false, sent := s.log .zero now }
          else { s with service := .outside })
      | .peeked now usage =>
          some (if taken then { s with service := .reported now, sent := s.log (.press usage) now }
          else { s with service := .outside })
      | _ => none
  | .receive =>
      match s.service with
      | .reported now => some { s with service := .received now, pending := s.pending.map List.tail }
      | _ => none
  | .finish =>
      match s.service with
      | .received now =>
          some { s with
            service := .outside
            keySent := s.keySent + 1
            releasePending := true
            releaseDue := now + 12000 }
      | _ => none
  | .tick us => some { s with clock := s.clock + us }

end Controls

/-- `before` leads to `after` by the action. -/
def ControlsStep (s : Controls) (a : ControlsAction) (t : Controls) : Prop :=
  s.step a = some t

/-- The key a report presses. -/
def SentReport.key (r : SentReport) : Option UInt16 :=
  match r.report with
  | .press usage => some usage
  | .zero => none

def pressedKeys (sent : List SentReport) : List UInt16 :=
  sent.filterMap SentReport.key

/-- Press, zero, press, zero and so on; the clock reading behind a zero is at least 12 ms after that
behind its press. The last argument is the reading behind a press that is still held. -/
inductive Alternating : List SentReport → Option Int → Prop
  | none : Alternating [] none
  | press {l : List SentReport} (usage : UInt16) (sentAt now : Int) :
      Alternating l none → Alternating (l ++ [⟨.press usage, sentAt, now⟩]) (some now)
  | release {l : List SentReport} {held : Int} (sentAt now : Int) :
      Alternating l (some held) → held + 12000 ≤ now →
      Alternating (l ++ [⟨.zero, sentAt, now⟩]) none

/-- A press has been reported and not yet accounted for. -/
def ServiceStep.sending : ServiceStep → Bool
  | .reported _ | .received _ => true
  | _ => false

/-- The clock reading of the call under way. -/
def ServiceStep.reading : ServiceStep → Option Int
  | .timed now | .releasing now | .peeked now _ | .reported now | .received now => some now
  | _ => none

namespace Controls

/-- The clock reading behind the key that is held. -/
def held (s : Controls) : Option Int :=
  match s.service with
  | .reported now | .received now => some now
  | _ => if s.releasePending then some (s.releaseDue - 12000) else none

/-- The keys still to be pressed. -/
def waiting (s : Controls) : List UInt16 :=
  match s.service with
  | .reported _ => (s.pending.getD []).tail
  | _ => s.pending.getD []

/-- Presses that are reported but not counted. -/
def uncounted (s : Controls) : Nat :=
  match s.service with
  | .reported _ | .received _ => 1
  | _ => 0

structure Good (s : Controls) : Prop where
  alternating : Alternating s.sent s.held
  order : s.accepted = pressedKeys s.sent ++ s.waiting
  /-- A key that has been peeked stays the first one, and nothing is held meanwhile. -/
  peeked : ∀ now usage, s.service = .peeked now usage →
    s.releasePending = false ∧ ∃ rest, s.pending = some (usage :: rest)
  reported : ∀ now, s.service = .reported now → ∃ queue, s.pending = some queue ∧ queue ≠ []
  releasing : ∀ now, s.service = .releasing now →
    s.releasePending = true ∧ s.releaseDue ≤ now
  counted : ∃ n, s.keySent = UInt32.ofNat n ∧ (pressedKeys s.sent).length = n + s.uncounted
  queued : ∃ n, s.keyQueued = UInt32.ofNat n ∧ s.accepted.length = n + s.counting

theorem good_boot (clock : Int) : (boot clock).Good where
  alternating := .none
  order := rfl
  peeked _ _ h := nomatch h
  reported _ h := nomatch h
  releasing _ h := nomatch h
  counted := ⟨0, rfl, rfl⟩
  queued := ⟨0, rfl, rfl⟩

theorem pressedKeys_append (l m : List SentReport) :
    pressedKeys (l ++ m) = pressedKeys l ++ pressedKeys m :=
  List.filterMap_append

variable {s t : Controls}

theorem Good.init (h : s.Good) (hnone : s.pending = none) (created : Bool) :
    { s with pending := if created then some [] else none }.Good where
  alternating := h.alternating
  order := by
    have horder := h.order
    cases created with
    | true =>
      simp only [waiting, hnone, Option.getD_none] at horder
      simpa only [waiting, Option.getD_some, if_true] using horder
    | false => simpa only [waiting, hnone, Bool.false_eq_true, if_false] using horder
  peeked now usage hat := by
    obtain ⟨-, rest, hrest⟩ := h.peeked now usage hat
    cases hnone.symm.trans hrest
  reported now hat := by
    obtain ⟨queue, hqueue, -⟩ := h.reported now hat
    cases hnone.symm.trans hqueue
  releasing := h.releasing
  counted := h.counted
  queued := h.queued

theorem Good.send (h : s.Good) (usage : UInt16) : (s.send usage).Good := by
  unfold Controls.send
  split
  · exact h
  · next queue hqueue =>
    split
    · refine ⟨h.alternating, ?_, ?_, ?_, h.releasing, h.counted, ?_⟩
      · have horder := h.order
        show s.accepted ++ [usage] = _
        rw [horder, List.append_assoc]
        congr 1
        unfold waiting
        cases hat : s.service with
        | reported now =>
          obtain ⟨q, hq, hne⟩ := h.reported now hat
          cases hqueue.symm.trans hq
          rw [hqueue]
          exact (List.tail_append_of_ne_nil hne).symm
        | _ =>
          rw [hqueue]
          rfl
      · intro now u hat
        obtain ⟨hfree, rest, hrest⟩ := h.peeked now u hat
        cases hqueue.symm.trans hrest
        exact ⟨hfree, rest ++ [usage], rfl⟩
      · intro now hat
        exact ⟨queue ++ [usage], rfl, List.append_ne_nil_of_right_ne_nil _ (List.cons_ne_nil _ _)⟩
      · obtain ⟨n, hn, hlen⟩ := h.queued
        refine ⟨n, hn, ?_⟩
        show (s.accepted ++ [usage]).length = n + (s.counting + 1)
        rw [List.length_append, List.length_singleton, hlen, Nat.add_assoc]
    · exact h

theorem Good.count (h : s.Good) (hpos : 0 < s.counting) :
    { s with counting := s.counting - 1, keyQueued := s.keyQueued + 1 }.Good where
  alternating := h.alternating
  order := h.order
  peeked := h.peeked
  reported := h.reported
  releasing := h.releasing
  counted := h.counted
  queued := by
    obtain ⟨n, hn, hlen⟩ := h.queued
    refine ⟨n + 1, ?_, ?_⟩
    · show s.keyQueued + 1 = _
      rw [hn, UInt32.ofNat_add]
      rfl
    · show s.accepted.length = n + 1 + (s.counting - 1)
      omega

theorem held_of_early (h : s.service.sending = false) :
    s.held = if s.releasePending then some (s.releaseDue - 12000) else none := by
  unfold held
  cases hat : s.service with
  | reported now => rw [hat] at h; cases h
  | received now => rw [hat] at h; cases h
  | _ => rfl

theorem waiting_of_early (h : s.service.sending = false) : s.waiting = s.pending.getD [] := by
  unfold waiting
  cases hat : s.service with
  | reported now => rw [hat] at h; cases h
  | _ => rfl

theorem uncounted_of_early (h : s.service.sending = false) : s.uncounted = 0 := by
  unfold uncounted
  cases hat : s.service with
  | reported now => rw [hat] at h; cases h
  | received now => rw [hat] at h; cases h
  | _ => rfl

/-- The service goes on before it reports a press, or returns. -/
theorem Good.moved (h : s.Good) {c : ServiceStep} (hs : s.service.sending = false)
    (hc : c.sending = false)
    (hpeeked : ∀ now usage, c = .peeked now usage →
      s.releasePending = false ∧ ∃ rest, s.pending = some (usage :: rest))
    (hreleasing : ∀ now, c = .releasing now → s.releasePending = true ∧ s.releaseDue ≤ now) :
    { s with service := c }.Good where
  alternating := by
    rw [held_of_early hc]
    have halt := h.alternating
    rw [held_of_early hs] at halt
    exact halt
  order := by
    rw [waiting_of_early hc]
    have horder := h.order
    rw [waiting_of_early hs] at horder
    exact horder
  peeked := hpeeked
  reported now hat := by
    change c = .reported now at hat
    rw [hat] at hc
    cases hc
  releasing := hreleasing
  counted := by
    rw [uncounted_of_early hc]
    have hcounted := h.counted
    rw [uncounted_of_early hs] at hcounted
    exact hcounted
  queued := h.queued

theorem Good.outside (h : s.Good) (hs : s.service.sending = false) :
    { s with service := .outside }.Good :=
  h.moved hs rfl (fun _ _ h => nomatch h) fun _ h => nomatch h

theorem Good.choose (h : s.Good) (hs : s.service.sending = false) (now : Int) :
    (s.choose now).Good := by
  unfold Controls.choose
  split
  · next hpending =>
    split
    · exact h.outside hs
    · next hdue =>
      refine h.moved hs rfl (fun _ _ h => nomatch h) ?_
      intro n hn
      cases hn
      exact ⟨hpending, Int.not_lt.mp hdue⟩
  · next hfree =>
    split
    · next usage rest hqueue =>
      refine h.moved hs rfl ?_ fun _ h => nomatch h
      intro n u hu
      cases hu
      exact ⟨Bool.eq_false_iff.mpr hfree, rest, hqueue⟩
    · exact h.outside hs

/-- The zero report ends the press that is held. -/
theorem Good.release (h : s.Good) {now : Int} (hat : s.service = .releasing now) :
    { s with service := .outside, releasePending := false, sent := s.log .zero now }.Good := by
  obtain ⟨hpending, hdue⟩ := h.releasing now hat
  have hearly : s.service.sending = false := by
    rw [hat]
    rfl
  have halt := h.alternating
  rw [held_of_early hearly, hpending, if_pos rfl] at halt
  have hkeys : pressedKeys (s.log .zero now) = pressedKeys s.sent := by
    rw [log, pressedKeys_append]
    exact List.append_nil _
  refine ⟨halt.release s.clock now (by omega), ?_, (fun _ _ h => nomatch h),
    (fun _ h => nomatch h), (fun _ h => nomatch h), ?_, h.queued⟩
  · have horder := h.order
    rw [waiting_of_early hearly] at horder
    show s.accepted = pressedKeys (s.log .zero now) ++ _
    rw [hkeys]
    exact horder
  · obtain ⟨n, hn, hlen⟩ := h.counted
    rw [uncounted_of_early hearly] at hlen
    refine ⟨n, hn, ?_⟩
    show (pressedKeys (s.log .zero now)).length = n + 0
    rw [hkeys, hlen]

/-- The key that was peeked is pressed, and from now on it is held. -/
theorem Good.press (h : s.Good) {now : Int} {usage : UInt16} (hat : s.service = .peeked now usage) :
    { s with service := .reported now, sent := s.log (.press usage) now }.Good := by
  obtain ⟨hfree, rest, hqueue⟩ := h.peeked now usage hat
  have hearly : s.service.sending = false := by
    rw [hat]
    rfl
  have halt := h.alternating
  rw [held_of_early hearly, hfree, if_neg Bool.false_ne_true] at halt
  have hkeys : pressedKeys (s.log (.press usage) now) = pressedKeys s.sent ++ [usage] :=
    pressedKeys_append _ _
  refine ⟨halt.press usage s.clock now, ?_, (fun _ _ h => nomatch h), ?_, (fun _ h => nomatch h),
    ?_, h.queued⟩
  · have horder := h.order
    rw [waiting_of_early hearly, hqueue] at horder
    show s.accepted = pressedKeys (s.log (.press usage) now) ++ (s.pending.getD []).tail
    rw [hkeys, hqueue, List.append_assoc]
    exact horder
  · intro n _
    exact ⟨usage :: rest, hqueue, List.cons_ne_nil _ _⟩
  · obtain ⟨n, hn, hlen⟩ := h.counted
    rw [uncounted_of_early hearly] at hlen
    refine ⟨n, hn, ?_⟩
    show (pressedKeys (s.log (.press usage) now)).length = n + 1
    rw [hkeys, List.length_append, hlen]
    rfl

theorem Good.receive (h : s.Good) {now : Int} (hat : s.service = .reported now) :
    { s with service := .received now, pending := s.pending.map List.tail }.Good := by
  obtain ⟨queue, hqueue, -⟩ := h.reported now hat
  have halt := h.alternating
  have horder := h.order
  have hcounted := h.counted
  unfold held at halt
  unfold waiting at horder
  unfold uncounted at hcounted
  rw [hat] at halt horder hcounted
  refine ⟨halt, ?_, (fun _ _ h => nomatch h), (fun _ h => nomatch h), (fun _ h => nomatch h),
    hcounted, h.queued⟩
  rw [hqueue] at horder
  show s.accepted = pressedKeys s.sent ++ (s.pending.map List.tail).getD []
  rw [hqueue]
  exact horder

theorem Good.finish (h : s.Good) {now : Int} (hat : s.service = .received now) :
    { s with
      service := .outside, keySent := s.keySent + 1
      releasePending := true, releaseDue := now + 12000 }.Good := by
  have halt := h.alternating
  have horder := h.order
  obtain ⟨n, hn, hlen⟩ := h.counted
  unfold held at halt
  unfold waiting at horder
  unfold uncounted at hlen
  rw [hat] at halt horder hlen
  refine ⟨?_, horder, (fun _ _ h => nomatch h), (fun _ h => nomatch h), (fun _ h => nomatch h),
    ⟨n + 1, ?_, hlen⟩, h.queued⟩
  · show Alternating s.sent (some (now + 12000 - 12000))
    rw [Int.add_sub_cancel]
    exact halt
  · show s.keySent + 1 = _
    rw [hn, UInt32.ofNat_add]
    rfl

theorem Good.step (h : s.Good) {a : ControlsAction} (hstep : ControlsStep s a t) : t.Good := by
  unfold ControlsStep Controls.step at hstep
  cases a with
  | init created =>
    dsimp only at hstep
    split at hstep
    · next hnone =>
      cases hstep
      exact h.init (Option.isNone_iff_eq_none.mp hnone) created
    · cases hstep
  | send usage =>
    cases hstep
    exact h.send usage
  | count =>
    dsimp only at hstep
    split at hstep
    · next hpos =>
      cases hstep
      exact h.count hpos
    · cases hstep
  | enter mounted hidReady =>
    dsimp only at hstep
    split at hstep
    · next hat =>
      cases hstep
      split
      · exact h.moved (by rw [hat]; rfl) rfl (fun _ _ h => nomatch h) fun _ h => nomatch h
      · exact h
    · cases hstep
  | readClock =>
    dsimp only at hstep
    split at hstep
    · next hat =>
      cases hstep
      exact h.moved (by rw [hat]; rfl) rfl (fun _ _ h => nomatch h) fun _ h => nomatch h
    · cases hstep
  | choose =>
    dsimp only at hstep
    split at hstep
    · next now hat =>
      cases hstep
      exact h.choose (by rw [hat]; rfl) now
    · cases hstep
  | report taken =>
    dsimp only at hstep
    split at hstep
    · next now hat =>
      cases hstep
      split
      · exact h.release hat
      · exact h.outside (by rw [hat]; rfl)
    · next now usage hat =>
      cases hstep
      split
      · exact h.press hat
      · exact h.outside (by rw [hat]; rfl)
    · cases hstep
  | receive =>
    dsimp only at hstep
    split at hstep
    · next now hat =>
      cases hstep
      exact h.receive hat
    · cases hstep
  | finish =>
    dsimp only at hstep
    split at hstep
    · next now hat =>
      cases hstep
      exact h.finish hat
    · cases hstep
  | tick us =>
    cases hstep
    exact ⟨h.alternating, h.order, h.peeked, h.reported, h.releasing, h.counted, h.queued⟩

/-- No report is sent before its call has read the clock. -/
structure Stamped (s : Controls) : Prop where
  sent : ∀ r ∈ s.sent, r.now ≤ r.sentAt
  reading : ∀ now ∈ s.service.reading, now ≤ s.clock

theorem Stamped.log (h : s.Stamped) (report : KeyReport) {now : Int} (hnow : now ≤ s.clock) :
    ∀ r ∈ s.log report now, r.now ≤ r.sentAt := by
  intro r hr
  rcases List.mem_append.mp hr with hr | hr
  · exact h.sent r hr
  · rw [List.mem_singleton.mp hr]
    exact hnow

theorem Stamped.step (h : s.Stamped) {a : ControlsAction} (hstep : ControlsStep s a t) :
    t.Stamped := by
  unfold ControlsStep Controls.step at hstep
  cases a with
  | init created =>
    dsimp only at hstep
    split at hstep
    · cases hstep
      exact ⟨h.sent, h.reading⟩
    · cases hstep
  | send usage =>
    cases hstep
    unfold Controls.send
    split
    · exact h
    · split
      · exact ⟨h.sent, h.reading⟩
      · exact h
  | count =>
    dsimp only at hstep
    split at hstep
    · cases hstep
      exact ⟨h.sent, h.reading⟩
    · cases hstep
  | enter mounted hidReady =>
    dsimp only at hstep
    split at hstep
    · cases hstep
      split
      · exact ⟨h.sent, fun _ h => nomatch h⟩
      · exact h
    · cases hstep
  | readClock =>
    dsimp only at hstep
    split at hstep
    · cases hstep
      exact ⟨h.sent, fun now hnow => by cases hnow; exact Int.le_refl _⟩
    · cases hstep
  | choose =>
    dsimp only at hstep
    split at hstep
    · next now hat =>
      cases hstep
      have hnow : now ≤ s.clock := h.reading now (by rw [hat]; rfl)
      have hreading : ∀ n ∈ some now, n ≤ s.clock := fun n hn => by cases hn; exact hnow
      unfold Controls.choose
      split
      · split
        · exact ⟨h.sent, fun _ h => nomatch h⟩
        · exact ⟨h.sent, hreading⟩
      · split
        · exact ⟨h.sent, hreading⟩
        · exact ⟨h.sent, fun _ h => nomatch h⟩
    · cases hstep
  | report taken =>
    dsimp only at hstep
    split at hstep
    · next now hat =>
      cases hstep
      have hnow : now ≤ s.clock := h.reading now (by rw [hat]; rfl)
      split
      · exact ⟨h.log .zero hnow, fun _ h => nomatch h⟩
      · exact ⟨h.sent, fun _ h => nomatch h⟩
    · next now usage hat =>
      cases hstep
      have hnow : now ≤ s.clock := h.reading now (by rw [hat]; rfl)
      split
      · exact ⟨h.log (.press usage) hnow, fun n hn => by cases hn; exact hnow⟩
      · exact ⟨h.sent, fun _ h => nomatch h⟩
    · cases hstep
  | receive =>
    dsimp only at hstep
    split at hstep
    · next now hat =>
      cases hstep
      have hnow : now ≤ s.clock := h.reading now (by rw [hat]; rfl)
      exact ⟨h.sent, fun n hn => by cases hn; exact hnow⟩
    · cases hstep
  | finish =>
    dsimp only at hstep
    split at hstep
    · cases hstep
      exact ⟨h.sent, fun _ h => nomatch h⟩
    · cases hstep
  | tick us =>
    cases hstep
    refine ⟨h.sent, fun now hnow => ?_⟩
    have := h.reading now hnow
    show now ≤ s.clock + us
    omega

end Controls

/-- Whatever the interleaving: the reports alternate, a zero is sent by a call that reads the clock
at least 12 ms after the call behind its press did, the presses are the accepted keys in their
order with the waiting ones left, a failed report changes nothing, and the counters are the counts
modulo 2^32. -/
theorem keys_pressed_once (clock : Int) (trace : List ControlsAction) (s : Controls)
    (h : Run ControlsStep (Controls.boot clock) trace s) :
    Alternating s.sent s.held ∧ (∀ r ∈ s.sent, r.now ≤ r.sentAt) ∧
      s.accepted = pressedKeys s.sent ++ s.waiting ∧
      (s.service.sending = false → s.waiting = s.pending.getD []) ∧
      (∀ t, ControlsStep s (.report false) t → t = { s with service := .outside }) ∧
      (∃ counted, s.keyQueued = UInt32.ofNat counted ∧
        s.accepted.length = counted + s.counting ∧
        (pressedKeys s.sent).length ≤ counted + s.counting) ∧
      (∃ counted, s.keySent = UInt32.ofNat counted ∧
        (pressedKeys s.sent).length = counted + s.uncounted) ∧
      (s.service.sending = false → s.uncounted = 0) := by
  have hgood : s.Good := Run.invariant Controls.Good h (Controls.good_boot clock)
    fun _ _ _ ht hstep => ht.step hstep
  have hstamped : s.Stamped := Run.invariant Controls.Stamped h
    ⟨fun _ h => (nomatch h), fun _ h => nomatch h⟩ fun _ _ _ ht hstep => ht.step hstep
  refine ⟨hgood.alternating, hstamped.sent, hgood.order, Controls.waiting_of_early, ?_, ?_,
    hgood.counted, Controls.uncounted_of_early⟩
  · intro t hstep
    unfold ControlsStep Controls.step at hstep
    dsimp only at hstep
    split at hstep
    · exact (Option.some.inj hstep).symm
    · exact (Option.some.inj hstep).symm
    · cases hstep
  · obtain ⟨n, hn, hlen⟩ := hgood.queued
    refine ⟨n, hn, hlen, ?_⟩
    rw [← hlen, hgood.order, List.length_append]
    exact Nat.le_add_right _ _

/-- A key that is queued, pressed and released. -/
def keyTrace (usage : UInt16) : List ControlsAction :=
  [.send usage, .count, .enter true true, .readClock, .choose, .report true, .receive, .finish,
    .tick 12000, .enter true true, .readClock, .choose, .report true]

theorem keys_pressed_once_volume :
    ∃ s, Run ControlsStep (Controls.boot 0) (.init true :: keyTrace 233) s ∧
      s.accepted = pressedKeys s.sent ++ s.waiting := by
  have hrun : Run ControlsStep (Controls.boot 0) (.init true :: keyTrace 233) _ :=
    Run.of_foldlM rfl
  exact ⟨_, hrun, (keys_pressed_once 0 _ _ hrun).2.2.1⟩

namespace Controls

/-- Nothing is queued, held or under way. -/
structure Rest (s : Controls) : Prop where
  pending : s.pending = some []
  free : s.releasePending = false
  service : s.service = .outside
  counting : s.counting = 0

/-- The state a key leaves behind. -/
def afterKey (s : Controls) (usage : UInt16) : Controls :=
  { s with
    releaseDue := s.clock + 12000
    keyQueued := s.keyQueued + 1
    keySent := s.keySent + 1
    clock := s.clock + 12000
    accepted := s.accepted ++ [usage]
    sent := s.sent ++ [⟨.press usage, s.clock, s.clock⟩] ++
      [⟨.zero, s.clock + 12000, s.clock + 12000⟩] }

/-- One more key from rest to rest. -/
theorem Rest.key {s : Controls} (h : s.Rest) (usage : UInt16) :
    Run ControlsStep s (keyTrace usage) (s.afterKey usage) ∧ (s.afterKey usage).Rest ∧
      (pressedKeys (s.afterKey usage).sent).length = (pressedKeys s.sent).length + 1 := by
  refine ⟨Run.of_foldlM ?_, ⟨h.pending, h.free, h.service, h.counting⟩, ?_⟩
  · obtain ⟨pending, releasePending, releaseDue, keyQueued, keySent, service, counting, clock,
      accepted, sent⟩ := s
    obtain ⟨hpending, hfree, hservice, hcounting⟩ := h
    dsimp only at hpending hfree hservice hcounting
    subst hpending hfree hservice hcounting
    simp [keyTrace, step, Controls.send, Controls.choose, keyQueueLength, log, afterKey]
  · rw [afterKey, pressedKeys_append, pressedKeys_append, List.length_append, List.length_append]
    rfl

/-- Any number of keys, one after the other. -/
theorem Rest.keys {s : Controls} (h : s.Rest) (n : Nat) :
    ∃ trace t, Run ControlsStep s trace t ∧ t.Rest ∧
      t.keySent = s.keySent + UInt32.ofNat n ∧
      (pressedKeys t.sent).length = (pressedKeys s.sent).length + n := by
  induction n with
  | zero => exact ⟨[], s, .nil, h, (UInt32.add_zero _).symm, rfl⟩
  | succ n ih =>
    obtain ⟨trace, t, hrun, ht, hsent, hlen⟩ := ih
    obtain ⟨hkey, hrest, hmore⟩ := ht.key 233
    refine ⟨trace ++ keyTrace 233, _, hrun.append hkey, hrest, ?_, by omega⟩
    show t.keySent + 1 = _
    rw [hsent, UInt32.ofNat_add, UInt32.add_assoc]
    rfl

end Controls

/-- A call that is held up between its clock reading and its report: the zero follows 7 ms after
the press. And after 2^32 keys the counter of the sent ones stands at zero. -/
theorem zero_too_early :
    (∃ trace s, Run ControlsStep (Controls.boot 0) trace s ∧
      s.sent = [⟨.press 233, 5000, 0⟩, ⟨.zero, 12000, 12000⟩]) ∧
    ∃ trace s, Run ControlsStep (Controls.boot 0) trace s ∧ s.service = .outside ∧
      (pressedKeys s.sent).length = 2 ^ 32 ∧ s.keySent = 0 := by
  constructor
  · have hrun : Run ControlsStep (Controls.boot 0)
        [.init true, .send 233, .count, .enter true true, .readClock, .choose, .tick 5000,
          .report true, .receive, .finish, .tick 7000, .enter true true, .readClock, .choose,
          .report true] _ := Run.of_foldlM rfl
    exact ⟨_, _, hrun, rfl⟩
  · have hinit : Run ControlsStep (Controls.boot 0) [.init true]
        { Controls.boot 0 with pending := some [] } := Run.single rfl
    obtain ⟨trace, s, hrun, hrest, hsent, hlen⟩ :=
      Controls.Rest.keys (s := { Controls.boot 0 with pending := some [] })
        ⟨rfl, rfl, rfl, rfl⟩ (2 ^ 32)
    refine ⟨_, s, hinit.append hrun, hrest.service, ?_, ?_⟩
    · rw [hlen]
      exact Nat.zero_add _
    · rw [hsent]
      decide

end UllReceiver.Usb
