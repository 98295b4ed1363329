import Mathlib

/-!
# One-bit numbered links

An endpoint of a stop-and-wait link: one PDU outstanding, numbered by one bit, and one bit for the
number expected next.  PDUs are known by their place in the sender's sequence.
-/

namespace UllReceiver.Library

/-- `sn` numbers the PDU being sent, the `pdu`-th of the sequence; `taken` are the payloads taken as
new, oldest first. -/
structure Endpoint (β : Type*) where
  sn : Bool
  nesn : Bool
  pdu : Nat
  taken : List β

variable {β : Type*}

/-- A PDU with numbers `sn` and `nesn` is received: an acknowledged PDU gives way to the next one,
and a payload with the expected number is taken. -/
def Endpoint.hear (e : Endpoint β) (sn nesn : Bool) (payload : β) : Endpoint β where
  sn := if nesn = e.sn then e.sn else !e.sn
  nesn := if sn = e.nesn then !e.nesn else e.nesn
  pdu := if nesn = e.sn then e.pdu else e.pdu + 1
  taken := if sn = e.nesn then e.taken ++ [payload] else e.taken

/-- The number of the `i`-th PDU when the first one has number `first`. -/
def number (first : Bool) (i : Nat) : Bool :=
  first ^^ i.bodd

@[simp]
theorem number_succ (first : Bool) (i : Nat) : number first (i + 1) = !number first i := by
  unfold number
  rw [Nat.bodd_succ]
  cases first <;> cases i.bodd <;> rfl

theorem number_ne_succ (first : Bool) (i : Nat) : number first i ≠ number first (i + 1) := by
  rw [number_succ]
  cases number first i <;> decide

/-- The endpoint numbers what it sends. -/
def Endpoint.Numbered (e : Endpoint β) (first : Bool) : Prop :=
  e.sn = number first e.pdu

theorem Endpoint.Numbered.hear {e : Endpoint β} {first : Bool} (h : e.Numbered first)
    (sn nesn : Bool) (payload : β) : (e.hear sn nesn payload).Numbered first := by
  unfold Endpoint.Numbered Endpoint.hear at *
  by_cases hn : nesn = e.sn
  · simpa only [if_pos hn] using h
  · simp only [if_neg hn, number_succ]
    rw [h]

theorem Endpoint.le_hear_pdu (e : Endpoint β) (sn nesn : Bool) (payload : β) :
    e.pdu ≤ (e.hear sn nesn payload).pdu := by
  unfold Endpoint.hear
  simp only
  split <;> omega

/-- A header that asks for the PDU the endpoint already holds moves nothing. -/
theorem Endpoint.hear_pdu_same (e : Endpoint β) (sn : Bool) (payload : β) :
    (e.hear sn e.sn payload).pdu = e.pdu := by
  simp [Endpoint.hear]

/-- A header that asks for `next` brings an endpoint at `next` or just before it to `next`. -/
theorem Endpoint.Numbered.hear_asked {e : Endpoint β} {first : Bool} (h : e.Numbered first)
    {next : Nat} (hpdu : e.pdu = next ∨ e.pdu + 1 = next) (sn : Bool) (payload : β) :
    (e.hear sn (number first next) payload).pdu = next := by
  rcases hpdu with rfl | rfl
  · rw [← h]
    exact e.hear_pdu_same sn payload
  · have hne : ¬ number first (e.pdu + 1) = e.sn := by
      rw [h]
      exact (number_ne_succ first e.pdu).symm
    simp only [Endpoint.hear, if_neg hne]

/-! What is in flight is tagged with what was newest when it was sent. -/

variable {τ : Type*} {void current newest : τ} {tags : List τ}

/-- First come the outdated tags, then those that are current or void; the newest one sent is
outdated only if nothing current is in flight. -/
def Tagged (void current newest : τ) (tags : List τ) : Prop :=
  ∃ old new, tags = old ++ new ∧ (∀ t ∈ old, t ≠ current) ∧ (∀ t ∈ new, t = current ∨ t = void) ∧
    (newest = current ∨ newest = void ∨ new = [])

theorem tagged_nil : Tagged void current newest [] :=
  ⟨[], [], rfl, by simp, by simp, .inr (.inr rfl)⟩

theorem Tagged.push (h : Tagged void current newest tags) :
    Tagged void current newest (tags ++ [newest]) := by
  obtain ⟨old, new, rfl, hold, hnew, hnewest⟩ := h
  by_cases hfresh : newest = current ∨ newest = void
  · refine ⟨old, new ++ [newest], by simp, hold, ?_, hfresh.elim .inl (.inr ∘ .inl)⟩
    intro t ht
    rcases List.mem_append.mp ht with ht | ht
    · exact hnew t ht
    · exact List.mem_singleton.mp ht ▸ hfresh
  · rw [not_or] at hfresh
    obtain rfl : new = [] := (hnewest.resolve_left hfresh.1).resolve_left hfresh.2
    refine ⟨old ++ [newest], [], by simp, ?_, by simp, .inr (.inr rfl)⟩
    intro t ht
    rcases List.mem_append.mp ht with ht | ht
    · exact hold t ht
    · exact List.mem_singleton.mp ht ▸ hfresh.1

theorem Tagged.pop {t : τ} (h : Tagged void current newest (t :: tags)) :
    Tagged void current newest tags := by
  obtain ⟨old, new, heq, hold, hnew, hnewest⟩ := h
  cases old with
  | nil =>
      rw [List.nil_append] at heq
      subst heq
      refine ⟨[], tags, rfl, by simp, fun u hu => hnew u (List.mem_cons_of_mem _ hu), ?_⟩
      rcases hnewest with h | h | h
      · exact .inl h
      · exact .inr (.inl h)
      · exact nomatch h
  | cons u old =>
      obtain ⟨_, rfl⟩ := List.cons.inj heq
      exact ⟨old, new, rfl, fun v hv => hold v (List.mem_cons_of_mem _ hv), hnew, hnewest⟩

/-- What is sent next carries the current tag or none. -/
theorem Tagged.send (h : Tagged void current newest tags) {t : τ} (ht : t = current ∨ t = void) :
    Tagged void current t tags := by
  obtain ⟨old, new, heq, hold, hnew, _⟩ := h
  exact ⟨old, new, heq, hold, hnew, ht.elim .inl (.inr ∘ .inl)⟩

/-- Once something current has arrived, everything still in flight is current or void, and so is
the newest. -/
theorem Tagged.arrived (h : Tagged void current newest (current :: tags)) :
    (∀ t ∈ tags, t = current ∨ t = void) ∧ (newest = current ∨ newest = void) := by
  obtain ⟨old, new, heq, hold, hnew, hnewest⟩ := h
  cases old with
  | nil =>
      rw [List.nil_append] at heq
      subst heq
      refine ⟨fun u hu => hnew u (List.mem_cons_of_mem _ hu), ?_⟩
      rcases hnewest with h | h | h
      · exact .inl h
      · exact .inr h
      · exact nomatch h
  | cons u old =>
      obtain ⟨rfl, _⟩ := List.cons.inj heq
      exact absurd rfl (hold current (List.mem_cons_self ..))

/-- A new current tag outdates all of it. -/
theorem tagged_outdated (h : ∀ t ∈ tags, t ≠ current) : Tagged void current newest tags :=
  ⟨tags, [], by simp, h, by simp, .inr (.inr rfl)⟩

theorem Tagged.advance (h : Tagged void current newest (current :: tags)) {next : τ}
    (hnext : next ≠ current) (hvoid : next ≠ void) : Tagged void next newest tags := by
  refine tagged_outdated fun t ht heq => ?_
  rcases h.arrived.1 t ht with rfl | rfl
  · exact hnext heq.symm
  · exact hvoid heq.symm

end UllReceiver.Library
