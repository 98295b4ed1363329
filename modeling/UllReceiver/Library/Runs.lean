import Mathlib

/-! Runs of a labelled step relation, with the rules that carry an invariant over a whole run. -/

namespace UllReceiver.Library

variable {σ ε : Type*}

/-- `Run step s trace t`: the labels of `trace`, oldest first, lead from `s` to `t`. -/
inductive Run (step : σ → ε → σ → Prop) (s : σ) : List ε → σ → Prop
  | nil : Run step s [] s
  | snoc {trace t e u} : Run step s trace t → step t e u → Run step s (trace ++ [e]) u

variable {step : σ → ε → σ → Prop}

theorem Run.single {s t : σ} {e : ε} (h : step s e t) : Run step s [e] t :=
  Run.snoc .nil h

theorem Run.append {s t u : σ} {l m : List ε} (h : Run step s l t) (k : Run step t m u) :
    Run step s (l ++ m) u := by
  induction k with
  | nil => simpa using h
  | snoc _ hstep ih => simpa using ih.snoc hstep

/-- A property of trace and state that every step keeps holds after every run. -/
theorem Run.history {s u : σ} {trace : List ε} (P : List ε → σ → Prop) (h : Run step s trace u)
    (h0 : P [] s) (hstep : ∀ l t e v, P l t → step t e v → P (l ++ [e]) v) : P trace u := by
  induction h with
  | nil => exact h0
  | snoc _ he ih => exact hstep _ _ _ _ ih he

theorem Run.invariant {s u : σ} {trace : List ε} (I : σ → Prop) (h : Run step s trace u)
    (h0 : I s) (hstep : ∀ t e v, I t → step t e v → I v) : I u :=
  Run.history (fun _ => I) h h0 fun _ t e v ht he => hstep t e v ht he

/-- An invariant may be established under the assumption of one already known to hold. -/
theorem Run.invariant_of_invariant {s u : σ} {trace : List ε} (I J : σ → Prop)
    (h : Run step s trace u) (hI0 : I s) (hI : ∀ t e v, I t → step t e v → I v)
    (hJ0 : J s) (hJ : ∀ t e v, I t → J t → step t e v → J v) : I u ∧ J u :=
  Run.invariant (fun t => I t ∧ J t) h ⟨hI0, hJ0⟩ fun t e v ht he =>
    ⟨hI t e v ht.1 he, hJ t e v ht.1 ht.2 he⟩

/-- Executing a partial step function is a run of its relation. -/
theorem Run.of_foldlM {f : σ → ε → Option σ} {l : List ε} {s t : σ}
    (h : l.foldlM f s = some t) : Run (fun a e b => f a e = some b) s l t := by
  induction l generalizing s with
  | nil =>
      simp only [List.foldlM_nil, Option.pure_def, Option.some.injEq] at h
      subst h
      exact .nil
  | cons e l ih =>
      rw [List.foldlM_cons] at h
      obtain ⟨u, hu, hl⟩ := Option.bind_eq_some_iff.mp h
      exact (Run.single hu).append (ih hl)

/-- Steps of a larger relation that all satisfy a side condition form a run of the smaller one. -/
theorem Run.mono {step' : σ → ε → σ → Prop} {s u : σ} {trace : List ε}
    (h : Run step s trace u) (hle : ∀ t e v, step t e v → step' t e v) : Run step' s trace u := by
  induction h with
  | nil => exact .nil
  | snoc _ he ih => exact ih.snoc (hle _ _ _ he)

end UllReceiver.Library
