import Mathlib

/-!
# Programs that may stop

A program over a state that may stop at any point, keeping the state it stopped in: what its
surroundings never answer.  Invariants of such programs are those of every point they can stop at.
-/

namespace UllReceiver.Library

/-- A program over the state `σ`; no result is a program that has stopped. -/
def Halting (σ α : Type) : Type :=
  σ → Option α × σ

namespace Halting

variable {σ α β : Type}

def pure (a : α) : Halting σ α :=
  fun s => (some a, s)

def bind (m : Halting σ α) (f : α → Halting σ β) : Halting σ β := fun s =>
  match m s with
  | (some a, s') => f a s'
  | (none, s') => (none, s')

instance : Monad (Halting σ) where
  pure := pure
  bind := bind

def get : Halting σ σ :=
  fun s => (some s, s)

def modify (f : σ → σ) : Halting σ Unit :=
  fun s => (some (), f s)

/-- A step that always ends. -/
def step (f : σ → α × σ) : Halting σ α :=
  fun s => (some (f s).1, (f s).2)

def halt : Halting σ α :=
  fun s => (none, s)

/-- The second test of a conjunction is only made when the first one holds. -/
def andThen (m k : Halting σ Bool) : Halting σ Bool :=
  m >>= fun ok => if ok then k else Pure.pure false

/-- The invariant holds wherever the program ends or stops. -/
def Keeps (I : σ → Prop) (m : Halting σ α) : Prop :=
  ∀ s, I s → I (m s).2

variable {I : σ → Prop}

theorem keeps_pure (a : α) : Keeps I (Pure.pure a : Halting σ α) :=
  fun _ h => h

theorem keeps_halt : Keeps I (halt : Halting σ α) :=
  fun _ h => h

theorem keeps_modify {f : σ → σ} (h : ∀ s, I s → I (f s)) : Keeps I (modify f) :=
  h

theorem keeps_step {f : σ → α × σ} (h : ∀ s, I s → I (f s).2) : Keeps I (step f) :=
  h

/-- What follows a part that leaves the invariant, from one state. -/
theorem bind_keeps {m : Halting σ α} {f : α → Halting σ β} {s : σ} (hm : I (m s).2)
    (hf : ∀ a, Keeps I (f a)) : I ((m >>= f) s).2 := by
  change I (Halting.bind m f s).2
  unfold Halting.bind
  generalize m s = r at hm
  obtain ⟨a, s'⟩ := r
  cases a with
  | none => exact hm
  | some a => exact hf a s' hm

theorem Keeps.bind {m : Halting σ α} {f : α → Halting σ β} (hm : Keeps I m)
    (hf : ∀ a, Keeps I (f a)) : Keeps I (m >>= f) :=
  fun s h => bind_keeps (hm s h) hf

/-- What the program ends with, wherever it starts. -/
def Gives (Q : α → Prop) (m : Halting σ α) : Prop :=
  ∀ s a, (m s).1 = some a → Q a

/-- What follows is only kept from the results the program can have. -/
theorem Keeps.bindGives {Q : α → Prop} {m : Halting σ α} {f : α → Halting σ β} (hm : Keeps I m)
    (hq : Gives Q m) (hf : ∀ a, Q a → Keeps I (f a)) : Keeps I (m >>= f) := by
  intro s h
  have hmid := hm s h
  have hresult := hq s
  change I (Halting.bind m f s).2
  unfold Halting.bind
  generalize m s = r at hmid hresult
  obtain ⟨a, s'⟩ := r
  cases a with
  | none => exact hmid
  | some a => exact hf a (hresult a rfl) s' hmid

theorem gives_pure {Q : α → Prop} {a : α} (h : Q a) : Gives Q (Pure.pure a : Halting σ α) := by
  intro s b hb
  cases hb
  exact h

theorem Gives.bind {Q : β → Prop} {m : Halting σ α} {f : α → Halting σ β}
    (hf : ∀ a, Gives Q (f a)) : Gives Q (m >>= f) := by
  intro s b hb
  change (Halting.bind m f s).1 = some b at hb
  unfold Halting.bind at hb
  generalize m s = r at hb
  obtain ⟨a, s'⟩ := r
  cases a with
  | none => cases hb
  | some a => exact hf a s' b hb

/-- What is read of the state is read of one that has the invariant. -/
theorem keeps_get_bind {f : σ → Halting σ β} (h : ∀ s, I s → I (f s s).2) :
    Keeps I (get >>= f) :=
  h

theorem Keeps.ite {c : Prop} [Decidable c] {m k : Halting σ α} (hm : Keeps I m)
    (hk : Keeps I k) : Keeps I (if c then m else k) := by
  split
  · exact hm
  · exact hk

theorem Keeps.andThen {m k : Halting σ Bool} (hm : Keeps I m) (hk : Keeps I k) :
    Keeps I (m.andThen k) :=
  hm.bind fun _ => hk.ite (keeps_pure false)

end Halting

end UllReceiver.Library
