import Mathlib

/-!
# Playout queue

What the audio source is for: frames leave in the order they came, one for each new event, and
an event that is passed over costs the oldest frame.  The newest answers stay available.
-/

namespace UllReceiver.Audio

structure Playout (α : Type*) where
  queue : List α
  /-- Events answered since the last restart, newest first. -/
  answers : List (Nat × Option α)

namespace Playout

variable {α : Type*}

def empty : Playout α := { queue := [], answers := [] }

def push (p : Playout α) (frame : α) : Playout α :=
  { p with queue := p.queue ++ [frame] }

/-- Events between the newest answered one and `event`. -/
def skipped (p : Playout α) (event : Nat) : Nat :=
  match p.answers with
  | [] => 0
  | (last, _) :: _ => event - last - 1

def accepts (p : Playout α) (event : Nat) : Prop :=
  ∀ a ∈ p.answers.head?, a.1 < event

def remaining (p : Playout α) (event : Nat) : List α :=
  p.queue.drop (p.skipped event)

/-- The answer a new event gets: the oldest frame left after the skip, or nothing. -/
def answer (p : Playout α) (event : Nat) : Option α :=
  (p.remaining event).head?

def first (p : Playout α) (event : Nat) : Playout α :=
  { queue := (p.remaining event).tail
    answers := (event, p.answer event) :: p.answers }

/-- The answer still held for `event`: only the two newest are. -/
def held (p : Playout α) (event : Nat) : Option (Option α) :=
  (p.answers.take 2).lookup event

/-- Answered events strictly increase. -/
def Ordered (p : Playout α) : Prop :=
  p.answers.Pairwise fun a b => b.1 < a.1

theorem ordered_empty : (empty : Playout α).Ordered := List.Pairwise.nil

theorem Ordered.push {p : Playout α} (h : p.Ordered) (frame : α) : (p.push frame).Ordered := h

theorem Ordered.head_max {p : Playout α} (h : p.Ordered) {a b : Nat × Option α}
    (ha : p.answers.head? = some a) (hb : b ∈ p.answers) : b.1 ≤ a.1 := by
  unfold Ordered at h
  cases hans : p.answers with
  | nil => simp [hans] at hb
  | cons c rest =>
      rw [hans] at h ha hb
      simp only [List.head?_cons, Option.some.injEq] at ha
      subst ha
      rcases List.mem_cons.mp hb with rfl | hmem
      · exact Nat.le_refl _
      · exact Nat.le_of_lt (List.rel_of_pairwise_cons h hmem)

theorem Ordered.first {p : Playout α} (h : p.Ordered) {event : Nat} (hacc : p.accepts event) :
    (p.first event).Ordered := by
  refine List.Pairwise.cons ?_ h
  intro b hb
  cases hans : p.answers with
  | nil => simp [hans] at hb
  | cons c rest =>
      have hhead : p.answers.head? = some c := by rw [hans]; rfl
      exact Nat.lt_of_le_of_lt (h.head_max hhead hb) (hacc c hhead)

theorem Ordered.not_answered {p : Playout α} (h : p.Ordered) {event : Nat}
    (hacc : p.accepts event) : event ∉ p.answers.map Prod.fst := by
  intro hmem
  obtain ⟨b, hb, rfl⟩ := List.mem_map.mp hmem
  cases hans : p.answers with
  | nil => simp [hans] at hb
  | cons c rest =>
      have hhead : p.answers.head? = some c := by rw [hans]; rfl
      have hlt := hacc c hhead
      have hle := h.head_max hhead hb
      omega

/-- The two newest answers are the ones held. -/
theorem Ordered.held_of_mem {p : Playout α} (h : p.Ordered) {event : Nat} {a : Option α}
    (hmem : (event, a) ∈ p.answers.take 2) : p.held event = some a := by
  have hord : (p.answers.take 2).Pairwise fun a b => b.1 < a.1 := h.sublist (List.take_sublist 2 _)
  unfold held
  generalize p.answers.take 2 = l at hmem hord
  induction l with
  | nil => simp at hmem
  | cons c rest ih =>
      rcases List.mem_cons.mp hmem with rfl | hrest
      · simp [List.lookup]
      · have hlt := List.rel_of_pairwise_cons hord hrest
        have hne : (event == c.1) = false := by
          simp only [beq_eq_false_iff_ne]
          exact Nat.ne_of_lt hlt
        rw [show c = (c.1, c.2) from rfl, List.lookup_cons, hne]
        exact ih hrest (List.Pairwise.of_cons hord)

theorem held_mem {p : Playout α} {event : Nat} {a : Option α} (h : p.held event = some a) :
    (event, a) ∈ p.answers.take 2 := by
  unfold held at h
  generalize p.answers.take 2 = l at h
  induction l with
  | nil => simp at h
  | cons c rest ih =>
      obtain ⟨e, b⟩ := c
      rw [List.lookup_cons] at h
      by_cases he : event = e
      · subst he
        simp only [BEq.rfl, Option.some.injEq] at h
        rw [h]
        exact List.mem_cons_self
      · rw [beq_eq_false_iff_ne.mpr he] at h
        exact List.mem_cons_of_mem _ (ih h)

theorem mem_of_held {p : Playout α} {event : Nat} {a : Option α} (h : p.held event = some a) :
    event ∈ p.answers.map Prod.fst :=
  List.mem_map_of_mem (List.mem_of_mem_take (held_mem h))

theorem remaining_sublist (p : Playout α) (event : Nat) : (p.remaining event).Sublist p.queue :=
  List.drop_sublist _ _

/-- A new event costs its own frame and the skipped ones, as far as there are any. -/
theorem first_length (p : Playout α) (event : Nat) :
    p.queue.length = (p.answer event).toList.length + min (p.skipped event) p.queue.length +
      (p.first event).queue.length := by
  have hlen : (p.remaining event).length = p.queue.length - p.skipped event :=
    List.length_drop
  simp only [first, answer, List.length_tail]
  cases hr : p.remaining event with
  | nil =>
      rw [hr, List.length_nil] at hlen
      simp only [List.head?_nil, Option.toList_none, List.length_nil]
      omega
  | cons c rest =>
      rw [hr, List.length_cons] at hlen
      simp only [List.head?_cons, Option.toList_some, List.length_cons, List.length_nil]
      omega

/-- What is delivered and what stays queued is still an in-order part of what was queued. -/
theorem first_sublist (p : Playout α) (event : Nat) :
    ((p.answer event).toList ++ (p.first event).queue).Sublist p.queue := by
  have h : (p.answer event).toList ++ (p.first event).queue = p.remaining event := by
    simp only [first, answer]
    cases p.remaining event <;> rfl
  rw [h]
  exact p.remaining_sublist event

end Playout

end UllReceiver.Audio
