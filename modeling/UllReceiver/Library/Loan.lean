import Mathlib

/-!
# Things taken for a while

A value that is overwritten for a while and put back afterwards, and a ledger of things that are
taken one by one and each given back.
-/

namespace UllReceiver.Library

variable {α β : Type*}

/-- While a value is out, what belongs in its place is kept aside; otherwise it is in its place. -/
structure OnLoan (out : Prop) (home kept here : α) : Prop where
  kept : out → kept = home
  home : ¬out → here = home

namespace OnLoan

variable {out : Prop} {home kept here : α}

theorem settled (hout : ¬out) (h : here = home) : OnLoan out home kept here where
  kept := fun ho => absurd ho hout
  home := fun _ => h

/-- What is there is kept aside before anything is written. -/
theorem take (h : OnLoan out home kept here) (hout : ¬out) {out' : Prop} (hout' : out')
    (new : α) : OnLoan out' home here new where
  kept := fun _ => h.home hout
  home := fun hn => absurd hout' hn

/-- It is taken only if it is needed. -/
theorem takeIf (h : OnLoan out home kept here) (hout : ¬out) (p : Prop) [Decidable p]
    {out' : Prop} (hout' : out' ↔ p) (spare new : α) :
    OnLoan out' home (if p then here else spare) (if p then new else here) := by
  by_cases hp : p
  · rw [if_pos hp, if_pos hp]
    exact h.take hout (hout'.mpr hp) new
  · rw [if_neg hp, if_neg hp]
    exact .settled (fun ho => hp (hout'.mp ho)) (h.home hout)

/-- While it is out, anything may be written. -/
theorem write (h : OnLoan out home kept here) (hout : out) (new : α) :
    OnLoan out home kept new where
  kept := h.kept
  home := fun hn => absurd hout hn

theorem giveBack (h : OnLoan out home kept here) (hout : out) {out' : Prop} (hout' : ¬out')
    (spare : α) : OnLoan out' home spare kept where
  kept := fun ho => absurd ho hout'
  home := fun _ => h.kept hout

/-- Once it is in its place, what was kept aside no longer matters. -/
theorem forget (h : OnLoan out home kept here) (hout : ¬out) {out' : Prop} (hout' : ¬out')
    (spare : α) : OnLoan out' home spare here :=
  settled hout' (h.home hout)

/-- Others may write it while it is out. -/
theorem moved (h : OnLoan out home kept here) {here' : α} (hsame : ¬out → here' = here) :
    OnLoan out home kept here' where
  kept := h.kept
  home := fun hn => (hsame hn).trans (h.home hn)

end OnLoan

/-- An entry of a ledger. -/
inductive LedgerEntry (α : Type*)
  | taken (a : α)
  | given (a : α)
deriving DecidableEq

variable [DecidableEq α]

/-- What is out after the entries, newest first; nothing once something was given back that was
not out. -/
def outstanding : List (LedgerEntry α) → Option (List α)
  | [] => some []
  | .taken a :: entries => (outstanding entries).map (a :: ·)
  | .given a :: entries =>
      (outstanding entries).bind fun held => if a ∈ held then some (held.erase a) else none

theorem outstanding_taken {entries : List (LedgerEntry α)} {held : List α}
    (h : outstanding entries = some held) (a : α) :
    outstanding (.taken a :: entries) = some (a :: held) := by
  unfold outstanding
  rw [h, Option.map_some]

/-- What was taken last is given back. -/
theorem outstanding_given {entries : List (LedgerEntry α)} {a : α} {held : List α}
    (h : outstanding entries = some (a :: held)) :
    outstanding (.given a :: entries) = some held := by
  unfold outstanding
  rw [h, Option.bind_some, if_pos List.mem_cons_self, List.erase_cons_head]

/-- Nothing is given back that was not taken, and what is out is the difference. -/
theorem count_outstanding {entries : List (LedgerEntry α)} {held : List α}
    (h : outstanding entries = some held) (a : α) :
    entries.count (.taken a) = entries.count (.given a) + held.count a := by
  induction entries generalizing held with
  | nil =>
      cases h
      rfl
  | cons entry entries ih =>
      cases entry with
      | taken b =>
          obtain ⟨before, hbefore, rfl⟩ := Option.map_eq_some_iff.mp h
          have hcount := ih hbefore
          rw [List.count_cons, List.count_cons, List.count_cons, hcount]
          by_cases hab : b = a
          · subst hab
            simp
            omega
          · have hne : (LedgerEntry.taken b == LedgerEntry.taken a) = false :=
              beq_false_of_ne fun he => hab (LedgerEntry.taken.inj he)
            have hother : (LedgerEntry.taken b == LedgerEntry.given a) = false :=
              beq_false_of_ne fun he => nomatch he
            simp [hne, hother, hab]
      | given b =>
          obtain ⟨before, hbefore, hgiven⟩ := Option.bind_eq_some_iff.mp h
          have hcount := ih hbefore
          split at hgiven
          next hmem =>
            cases hgiven
            rw [List.count_cons, List.count_cons, hcount, List.count_erase]
            have hother : (LedgerEntry.given b == LedgerEntry.taken a) = false :=
              beq_false_of_ne fun he => nomatch he
            by_cases hab : b = a
            · subst hab
              have hpos := List.count_pos_iff.mpr hmem
              simp [hother]
              omega
            · have hne : (LedgerEntry.given b == LedgerEntry.given a) = false :=
                beq_false_of_ne fun he => hab (LedgerEntry.given.inj he)
              simp [hne, hother, hab]
          · cases hgiven

end UllReceiver.Library
