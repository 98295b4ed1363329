import Mathlib
import UllReceiver.Trial.Cooldown

/-!
# Control polls

When a poll of the parent may be repeated, and the one millisecond in which the guard of the
controls does not see a receipt.
-/

namespace UllReceiver.Trial

open Air Audio Parent Radio

variable {W : Type} {P : Platform W} {ms : W → Nat}

/-! ## Receipts -/

/-- The millisecond of the newest receipt. -/
def heardAt : PolicyLog → Option Nat
  | [] => none
  | (t, .heard) :: _ => some t
  | _ :: log => heardAt log

/-- `control_last_data_ms`: zero stands for never. -/
def dataStamp : Option Nat → UInt32
  | none => 0
  | some t => if UInt32.ofNat t ≠ 0 then UInt32.ofNat t else 1

theorem Remembers.lastData {log : PolicyLog} {v : RetryView} (h : Remembers log v) :
    v.lastData = dataStamp (heardAt log) := by
  induction h with
  | boot => rfl
  | still _ _ hstep ih => cases hstep <;> exact ih
  | event t event _ _ hstep ih =>
    cases hstep with
    | heard => rfl
    | steady =>
      unfold RetryView.complete
      split
      · exact ih
      · split
        · exact ih
        · split
          · exact ih
          · exact ih
    | disturbed =>
      unfold RetryView.disturb
      split
      · exact ih
      · exact ih
    | warmed frame | claimed frame =>
      unfold RetryView.warm
      split
      · exact ih
      · exact ih
    | cooled | sent | unwarmed | passed | rearmed => exact ih

theorem heardAt_mem {log : PolicyLog} {t : Nat} (h : heardAt log = some t) :
    (t, .heard) ∈ log := by
  induction log with
  | nil => cases h
  | cons e log ih =>
    obtain ⟨first, event⟩ := e
    cases event with
    | heard =>
      rw [← Option.some.inj h]
      exact List.mem_cons_self
    | _ => exact List.mem_cons_of_mem _ (ih h)

/-- No receipt is newer than the newest. -/
theorem heardAt_ge {log : PolicyLog} (hsorted : log.Pairwise fun newer older => older.1 ≤ newer.1)
    {t : Nat} (h : (t, .heard) ∈ log) : ∃ newest, heardAt log = some newest ∧ t ≤ newest := by
  induction log with
  | nil => cases h
  | cons e log ih =>
    obtain ⟨hnewest, hrest⟩ := List.pairwise_cons.mp hsorted
    obtain ⟨first, event⟩ := e
    have hold (hne : event ≠ .heard) : (t, .heard) ∈ log := by
      rcases List.mem_cons.mp h with heq | hin
      · exact absurd (Prod.mk.inj heq).2.symm hne
      · exact hin
    cases event with
    | heard =>
      refine ⟨first, rfl, ?_⟩
      rcases List.mem_cons.mp h with heq | hin
      · exact (Prod.mk.inj heq).1.le
      · exact hnewest _ hin
    | _ => exact ih hrest (hold (by simp))

theorem event_heard {d : Deed} {now : UInt32} {r : Retry} {log : PolicyLog} {event : PolicyEvent}
    (h : d.event now r log = some event) : event = .heard ↔ d.hears = true := by
  unfold Deed.event at h
  unfold Deed.hears
  cases d with
  | control rx parent =>
    simp only at h ⊢
    split at h
    next hlength =>
      cases h
      simpa using hlength
    · cases h
  | refused | conflict | skip | completed | claim =>
    simp only at h
    split at h <;> grind
  | _ => grind

/-- The receipts are remembered. -/
theorem heard_mem {log : DeedLog} {t : Nat} :
    (t, .heard) ∈ log.events ↔ ∃ d, (t, d) ∈ log ∧ d.hears = true := by
  induction log with
  | nil =>
    refine ⟨fun h => (nomatch h), fun h => ?_⟩
    obtain ⟨_, h, _⟩ := h
    cases h
  | cons e log ih =>
    rw [DeedLog.events_cons]
    split
    next event hevent =>
      have hheard := event_heard hevent
      rw [List.mem_cons, ih]
      constructor
      · rintro (heq | ⟨d, hd, hhears⟩)
        · obtain ⟨ht, hev⟩ := Prod.mk.inj heq
          refine ⟨e.2, ?_, hheard.mp hev.symm⟩
          rw [ht]
          exact List.mem_cons_self
        · exact ⟨d, List.mem_cons_of_mem _ hd, hhears⟩
      · rintro ⟨d, hd, hhears⟩
        rcases List.mem_cons.mp hd with heq | hold
        · left
          rw [← heq] at hheard ⊢
          rw [hheard.mpr hhears]
        · exact .inr ⟨d, hold, hhears⟩
    next hnone =>
      rw [ih]
      constructor
      · rintro ⟨d, hd, hhears⟩
        exact ⟨d, List.mem_cons_of_mem _ hd, hhears⟩
      · rintro ⟨d, hd, hhears⟩
        rcases List.mem_cons.mp hd with heq | hold
        · -- a receipt is always remembered
          rw [← heq] at hnone
          cases d with
          | control rx parent =>
            unfold Deed.event at hnone
            have hlength : rx.length ≠ 0 := by simpa [Deed.hears] using hhears
            simp [hlength] at hnone
          | _ => cases hhears
        · exact ⟨d, hold, hhears⟩

/-! ## The guard -/

/-- The decision falls in the very millisecond of a receipt, and the 32-bit clock reads zero. -/
def Overlooked (before : DeedLog) (decided : Nat) : Prop :=
  4294967296 ∣ decided ∧ ∃ e ∈ before, e.2.hears = true ∧ e.1 = decided

theorem dataStamp_some (t : Nat) :
    dataStamp (some t) = if UInt32.ofNat t ≠ 0 then UInt32.ofNat t else 1 :=
  rfl

theorem stamp_elapsed {now t : Nat} (hpast : t ≤ now)
    (h : 5000 ≤ UInt32.ofNat now - dataStamp (some t)) :
    t + 5000 ≤ now ∨ t = now ∧ 4294967296 ∣ now := by
  rw [dataStamp_some, UInt32.le_iff_toNat_le, UInt32.toNat_sub, UInt32.toNat_ofNat'] at h
  split at h
  next hne =>
    rw [UInt32.toNat_ofNat'] at h
    change 5000 ≤ (4294967296 - t % 4294967296 + now % 4294967296) % 4294967296 at h
    omega
  next heq =>
    have hzero : t % 4294967296 = 0 := by
      have hnat := congrArg UInt32.toNat (not_not.mp heq)
      rw [UInt32.toNat_ofNat'] at hnat
      exact hnat
    change 5000 ≤ (4294967296 - 1 + now % 4294967296) % 4294967296 at h
    omega

theorem dataStamp_ne_zero (t : Nat) : dataStamp (some t) ≠ 0 := by
  rw [dataStamp_some]
  split
  next hne => exact hne
  next => decide

/-- A guard that lets a repeat through has seen five quiet seconds, or overlooked a receipt. -/
theorem quiet_iff {before : DeedLog} {decided : Nat}
    (hsorted : before.Pairwise fun newer older => older.1 ≤ newer.1)
    (honward : ∀ e ∈ before, e.1 ≤ decided)
    (hquiet : (DeedLog.retry .init before).controlQuiet (UInt32.ofNat decided) = true) :
    (∀ e ∈ before, e.2.hears = true → e.1 + 5000 ≤ decided) ↔ ¬Overlooked before decided := by
  constructor
  · rintro hall ⟨_, e, he, hhears, heq⟩
    have hlate := hall e he hhears
    omega
  · intro hseen e he hhears
    have hremembers := DeedLog.remembers hsorted
    have hstamp : (DeedLog.retry .init before).controlLastDataMs = _ := hremembers.lastData
    obtain ⟨newest, hnewest, hle⟩ :=
      heardAt_ge hremembers.sorted (heard_mem.mpr ⟨e.2, he, hhears⟩)
    obtain ⟨d, hd, hhears'⟩ := heard_mem.mp (heardAt_mem hnewest)
    unfold Retry.controlQuiet at hquiet
    rw [hstamp, hnewest] at hquiet
    have hpassed : 5000 ≤ UInt32.ofNat decided - dataStamp (some newest) := by
      simpa [dataStamp_ne_zero newest] using hquiet
    rcases stamp_elapsed (honward _ hd) hpassed with hlate | ⟨hsame, hzero⟩
    · omega
    · exact absurd ⟨hzero, _, hd, hhears', hsame⟩ hseen

/-! ## Polls -/

/-- What makes a repeated control poll harmless: it is an exact packet of a cache, it is none of the
polls that stay single, and nothing was heard for five seconds. -/
structure KeepsOpenings (before : DeedLog) (decided : Nat) (sub : Submission) : Prop where
  reused : sub.frame.cacheReused = true ∧ FromCache sub.trial sub.parent
  single : getElem sub.trial.streamStarts 1 Nat.one_lt_two ≤ sub.frame.index ∧
    ¬sub.frame.index.toNat ≡ (getElem sub.trial.streamStarts 1 Nat.one_lt_two).toNat [MOD 24]
  quiet : ∀ e ∈ before, e.2.hears = true → e.1 + 5000 ≤ decided

theorem controlSlot_single {t : ToneTrial} {p : PreparedFrame}
    (h : TrialSystem.controlSlot t p = true) :
    getElem t.streamStarts 1 Nat.one_lt_two ≤ p.index ∧
      ¬p.index.toNat ≡ (getElem t.streamStarts 1 Nat.one_lt_two).toNat [MOD 24] := by
  unfold TrialSystem.controlSlot at h
  obtain ⟨hstarted, hslot⟩ := Bool.and_eq_true_iff.mp h
  have hle : t.streamStarts[1] ≤ p.index := by simpa using hstarted
  refine ⟨hle, fun hmod => ?_⟩
  have hnat := UInt32.le_iff_toNat_le.mp hle
  have hsub := UInt32.toNat_sub_of_le _ _ hle
  have hslot' : (p.index - t.streamStarts[1]) / 6 % 4 ≠ 0 := by simpa using hslot
  apply hslot'
  rw [← UInt32.toNat_inj, UInt32.toNat_mod, UInt32.toNat_div, hsub]
  change (p.index.toNat - t.streamStarts[1].toNat) / 6 % 4 = 0
  unfold Nat.ModEq at hmod
  omega

/-- The polls of a log are repeated only where they were decided upon. -/
def PollsGuarded (log : DeedLog) : Prop :=
  ∀ newer t d older sub, log = newer ++ (t, d) :: older → d.submission = some sub →
    sub.repeated = true → sub.frame.header = 0x32 → sub.frame.length = 205 →
      ∃ mid decided before, older = mid ++ (decided, .eligible sub.frame true) :: before ∧
        decided ≤ t ∧ (∀ e ∈ mid, e.2.hears = false) ∧
        (KeepsOpenings before decided sub ↔ ¬Overlooked before decided)

theorem control_polls_guarded (hc : P.Clock ms) {world : W} {trace : List (TrialAction W)}
    {s : TrialSystem W} (h : Library.Run (TrialSystem.Timely P ms) (.init world) trace s) :
    ∃ log, Account P ms (.init world) trace log s ∧
      (∀ sub, .submit sub ∈ s.history.calls →
        ∃ newer t d older, log = newer ++ (t, d) :: older ∧ d.submission = some sub) ∧
      PollsGuarded log := by
  obtain ⟨log, haccount⟩ := run_account hc h
  have hperforms := haccount.performs
  refine ⟨log, haccount, fun sub hsub => ?_, ?_⟩
  · rw [hperforms.calls] at hsub
    obtain ⟨newer, t, d, older, heq, hmem⟩ := calls_mem hsub
    exact ⟨newer, t, d, older, heq, Deed.of_submit hmem⟩
  · intro newer t d older sub heq hsub hrepeated hheader hlength
    have hsorted := hperforms.sorted
    have hgranted := haccount.granted
    rw [heq] at hsorted hgranted
    obtain ⟨mid, decided, before, holder, hmid, heligible⟩ := hgranted.at hsub hrepeated
    have hafter := (List.pairwise_append.mp hsorted).2.1
    obtain ⟨hlast, hrest⟩ := List.pairwise_cons.mp hafter
    rw [holder] at hlast hrest
    obtain ⟨hdecided, hbefore⟩ := List.pairwise_cons.mp (List.pairwise_append.mp hrest).2.1
    refine ⟨mid, decided, before, holder, ?_, hmid, ?_⟩
    · exact hlast _ (List.mem_append_right _ List.mem_cons_self)
    · rcases heligible.kind with ⟨_, haudio⟩ | ⟨_, _, hcached, hquiet, hslot⟩
      · rw [hheader] at haudio
        exact absurd haudio (by decide)
      · have hiff := quiet_iff hbefore hdecided hquiet
        exact ⟨fun h => hiff.mp h.quiet, fun h =>
          ⟨⟨hcached, heligible.cached hcached⟩, controlSlot_single hslot, hiff.mpr h⟩⟩

/-! ## A receipt that is overlooked -/

/-- The newest call submits a poll twice, and control data came in before. -/
def repeatsAfterData : List Call → Bool
  | .submit sub :: older => sub.repeated && sub.frame.header == 0x32 && sub.frame.length == 205 &&
      older.any fun c => match c with
        | .control rx _ => rx.length != 0
        | _ => false
  | _ => false

theorem wheel_repeats :
    (repeatsAfterData wheelRun.history.calls && wheelRun.world == 8) = true := by
  decide +kernel

/-- A poll is repeated within 5000 ms of a receipt: both happen in the millisecond the clock reads
zero. -/
theorem wheel_overlooked : ∃ log newer t d older sub,
    Account wheelPlatform wheelMs (.init 0) wheelTrace log wheelRun ∧
      log = newer ++ (t, d) :: older ∧ d.submission = some sub ∧ sub.repeated = true ∧
      sub.frame.header = 0x32 ∧ sub.frame.length = 205 ∧
      ∃ e ∈ older, e.2.hears = true ∧ t < e.1 + 5000 := by
  obtain ⟨log, haccount⟩ := run_account wheel_clock wheel_timely
  have hperforms := haccount.performs
  have hcalls : wheelRun.history.calls = DeedLog.calls [] log := hperforms.calls
  obtain ⟨hrepeats, height⟩ := Bool.and_eq_true_iff.mp wheel_repeats
  rw [hcalls] at hrepeats
  -- the newest call of the record is the submission
  cases hrecord : DeedLog.calls [] log with
  | nil => rw [hrecord] at hrepeats; cases hrepeats
  | cons c old =>
    rw [hrecord] at hrepeats
    cases c with
    | submit sub =>
      obtain ⟨newer, t, d, older, hlog, hmem, hold⟩ :=
        calls_split (hrecord.trans (List.nil_append _).symm)
      unfold repeatsAfterData at hrepeats
      simp only [Bool.and_eq_true, beq_iff_eq, List.any_eq_true] at hrepeats
      obtain ⟨⟨⟨hrepeated, hheader⟩, hlength⟩, call, hcall, hdata⟩ := hrepeats
      refine ⟨log, newer, t, d, older, sub, haccount, hlog, Deed.of_submit hmem, hrepeated, hheader,
        hlength, ?_⟩
      cases call with
      | control rx parent =>
        rw [← hold] at hcall
        obtain ⟨_, u, d', _, hlog', hmem'⟩ := calls_mem hcall
        have hin : (u, d') ∈ older := hlog' ▸ List.mem_append_right _ List.mem_cons_self
        refine ⟨(u, d'), hin, ?_, ?_⟩
        · rw [Deed.of_control hmem']
          exact hdata
        · -- the whole run takes 40 ms
          have hfirst := (hperforms.within (u, d') (by rw [hlog]; simp [hin])).1
          have hlast := (hperforms.within (t, d) (by rw [hlog]; simp)).2
          rw [beq_iff_eq.mp height] at hlast
          change 4294967256 ≤ u at hfirst
          change t ≤ 4294967296 at hlast
          show t < u + 5000
          omega
      | _ => cases hdata
    | _ => cases hrepeats

/-- Here the guard overlooks the receipt. -/
theorem control_polls_guarded_wheel :
    ∃ log, Account wheelPlatform wheelMs (.init 0) wheelTrace log wheelRun ∧
      (∀ sub, .submit sub ∈ wheelRun.history.calls →
        ∃ newer t d older, log = newer ++ (t, d) :: older ∧ d.submission = some sub) ∧
      PollsGuarded log :=
  control_polls_guarded wheel_clock wheel_timely

end UllReceiver.Trial
