import UllReceiver.Trial.DeedsWalk
import UllReceiver.Trial.RetryView

/-!
# Accounts of whole runs

The deeds of a run, call by call, and what the policies remember of them.
-/

namespace UllReceiver.Trial

open Air Audio Parent Radio

variable {W : Type} {P : Platform W} {ms : W → Nat}

/-- `log` tells what was done by the calls of `trace`, those of each call between the states it
leads from and to. -/
inductive Account (P : Platform W) (ms : W → Nat) (s : TrialSystem W) :
    List (TrialAction W) → DeedLog → TrialSystem W → Prop
  | nil : Account P ms s [] [] s
  | call {trace log t action newer u} (h : Account P ms s trace log t)
      (hstep : TrialSystem.Timely P ms t action u) (hperforms : Performs ms t newer u)
      (hgranted : Granted t.retry newer) (hrearm : ∀ e ∈ newer, e.2 = .rearm ↔ action = .rearm) :
      Account P ms s (trace ++ [action]) (newer ++ log) u

namespace Account

variable {s t : TrialSystem W} {trace : List (TrialAction W)} {log : DeedLog}

theorem run (h : Account P ms s trace log t) : Library.Run (TrialSystem.Timely P ms) s trace t := by
  induction h with
  | nil => exact .nil
  | call _ hstep _ _ _ ih => exact ih.snoc hstep

theorem performs (h : Account P ms s trace log t) : Performs ms s log t := by
  induction h with
  | nil => exact .still rfl rfl (Nat.le_refl _)
  | call _ _ hperforms _ _ ih => exact ih.trans hperforms

theorem granted (h : Account P ms s trace log t) : Granted s.retry log := by
  induction h with
  | nil => trivial
  | call h _ _ hgranted _ ih =>
    rw [h.performs.retry] at hgranted
    exact hgranted.append ih

end Account

theorem Timely.steps {s t : TrialSystem W} {trace : List (TrialAction W)}
    (h : Library.Run (TrialSystem.Timely P ms) s trace t) :
    Library.Run (TrialSystem.Step P) s trace t :=
  h.mono fun _ _ _ hstep => hstep.1

theorem reached_bounded {world : W} {trace : List (TrialAction W)} {s : TrialSystem W}
    (h : Library.Run (TrialSystem.Timely P ms) (.init world) trace s) : Bounded (restStage s, s) :=
  Moves.bounded (run_moves (Timely.steps h)) (bounded_init world)

/-- Every run has an account. -/
theorem run_account (hc : P.Clock ms) {world : W} {trace : List (TrialAction W)}
    {s : TrialSystem W}
    (h : Library.Run (TrialSystem.Timely P ms) (.init world) trace s) :
    ∃ log, Account P ms (.init world) trace log s := by
  induction h with
  | nil => exact ⟨[], .nil⟩
  | snoc hrun hstep ih =>
    rename_i trace t action u
    obtain ⟨log, haccount⟩ := ih
    obtain ⟨hact, honward⟩ := hstep
    by_cases haction : action = .rearm
    · obtain ⟨newer, hperforms, hgranted, hrearm⟩ := rearm_performs hc t
      have heq : u = (t.rearm P).2 := by
        rw [← hact, haction]
        rfl
      rw [← heq] at hperforms
      refine ⟨_, haccount.call ⟨hact, honward⟩ hperforms hgranted fun e he => ?_⟩
      exact ⟨fun _ => haction, fun _ => hrearm e he⟩
    · have hworld : ∀ world, action = .world world → ms t.world ≤ ms world := by
        rintro world rfl
        rw [← hact] at honward
        exact honward
      obtain ⟨newer, hperforms, hgranted, hsession⟩ :=
        act_does hc (reached_bounded hrun) haction hworld
      rw [hact] at hperforms
      refine ⟨_, haccount.call ⟨hact, honward⟩ hperforms hgranted fun e he => ?_⟩
      exact ⟨fun heq => absurd heq (hsession e he), fun heq => absurd heq haction⟩

/-- Calls in which the world is left to the platform take no time back. -/
theorem run_timely (hc : P.Clock ms) (world : W) (trace : List (TrialAction W))
    (h : ∀ action ∈ trace, ∀ world, action ≠ .world world) :
    Library.Run (TrialSystem.Timely P ms) (.init world) trace
      ((TrialSystem.init world).run P trace) := by
  induction trace using List.reverseRecOn with
  | nil => exact .nil
  | append_singleton trace action ih =>
    have hrun := ih fun a ha => h a (List.mem_append_left _ ha)
    have hlast := h action (List.mem_append_right _ List.mem_cons_self)
    unfold TrialSystem.run
    rw [List.foldl_append]
    refine hrun.snoc ⟨rfl, ?_⟩
    by_cases haction : action = .rearm
    · obtain ⟨_, hperforms, _⟩ := rearm_performs hc ((TrialSystem.init world).run P trace)
      rw [haction]
      exact hperforms.onward
    · obtain ⟨_, hperforms, _⟩ := act_does hc (reached_bounded hrun) haction
        fun world heq => absurd heq (hlast world)
      exact hperforms.onward

/-! ## Past the turn of the clock -/

theorem wheel_clock : wheelPlatform.Clock wheelMs := by
  refine ⟨fun _ => rfl, fun n n' h => ?_⟩
  cases h with
  | collect =>
    show 4294967256 + 5 * n ≤ 4294967256 + 5 * (n + 1)
    omega
  | _ => exact Nat.le_refl _

theorem wheel_timely : Library.Run (TrialSystem.Timely wheelPlatform wheelMs) (.init 0) wheelTrace
    wheelRun :=
  run_timely wheel_clock 0 wheelTrace (by simp [wheelTrace])

/-! ## What is remembered -/

/-- `v` is remembered of the events of `log`. -/
inductive Remembers : PolicyLog → RetryView → Prop
  | boot : Remembers [] Retry.init.view
  | still {log v v'} (now : UInt32) (h : Remembers log v) (hstep : ViewStep now none v v') :
      Remembers log v'
  | event {log v v'} (t : Nat) (event : PolicyEvent) (h : Remembers log v)
      (honward : ∀ e ∈ log, e.1 ≤ t) (hstep : ViewStep (UInt32.ofNat t) (some event) v v') :
      Remembers ((t, event) :: log) v'

namespace Remembers

theorem sorted {log : PolicyLog} {v : RetryView} (h : Remembers log v) :
    log.Pairwise fun newer older => older.1 ≤ newer.1 := by
  induction h with
  | boot => exact .nil
  | still _ _ _ ih => exact ih
  | event t event _ honward _ ih => exact .cons honward ih

/-- Which way the newest frame was sent is remembered. -/
theorem lastRepeat {log : PolicyLog} {v : RetryView} (h : Remembers log v) :
    v.lastRepeat = sentTwice log := by
  induction h with
  | boot => rfl
  | still _ _ hstep ih => cases hstep <;> exact ih
  | event t event _ _ hstep ih =>
    cases hstep with
    | sent | rearmed => rfl
    | steady =>
      unfold RetryView.complete
      split
      · exact ih
      · split
        · exact ih
        · split
          · exact ih
          · exact ih
    | disturbed =>
      unfold RetryView.disturb
      split
      · exact ih
      · exact ih
    | warmed frame | claimed frame =>
      unfold RetryView.warm
      split
      · exact ih
      · exact ih
    | cooled | unwarmed | passed | heard => exact ih

end Remembers

namespace DeedLog

theorem events_cons (e : Nat × Deed) (log : DeedLog) :
    events (e :: log) =
      match e.2.event (UInt32.ofNat e.1) (retry .init log) (events log) with
      | some event => (e.1, event) :: events log
      | none => events log :=
  rfl

/-- Events happen in the milliseconds of the deeds. -/
theorem events_within {log : DeedLog} {t : Nat} (h : ∀ e ∈ log, e.1 ≤ t) :
    ∀ e ∈ events log, e.1 ≤ t := by
  induction log with
  | nil => exact fun _ he => (nomatch he)
  | cons d log ih =>
    have hlog := ih fun e he => h e (List.mem_cons_of_mem _ he)
    rw [events_cons]
    split
    · intro e he
      rcases List.mem_cons.mp he with rfl | hold
      · exact h d List.mem_cons_self
      · exact hlog e hold
    · exact hlog

theorem remembers {log : DeedLog} (h : log.Pairwise fun newer older => older.1 ≤ newer.1) :
    Remembers (events log) (retry .init log).view := by
  induction log with
  | nil => exact .boot
  | cons d log ih =>
    obtain ⟨hnewest, hsorted⟩ := List.pairwise_cons.mp h
    have hlog := ih hsorted
    have hstep := Deed.viewStep (UInt32.ofNat d.1) (retry .init log) (events log) d.2 hlog.lastRepeat
    rw [events_cons]
    cases hevent : d.2.event (UInt32.ofNat d.1) (retry .init log) (events log) with
    | none => exact .still _ hlog (hevent ▸ hstep)
    | some event => exact .event d.1 event hlog (events_within hnewest) (hevent ▸ hstep)

end DeedLog

theorem Account.remembers {world : W} {trace : List (TrialAction W)} {log : DeedLog}
    {s : TrialSystem W} (h : Account P ms (.init world) trace log s) :
    Remembers log.events s.retry.view := by
  have hperforms := h.performs
  rw [hperforms.retry]
  exact DeedLog.remembers hperforms.sorted

/-! ## The record -/

/-- Every call on record was a deed, and those before it were done before. -/
theorem calls_split {log : DeedLog} {new old : List Call} {c : Call}
    (h : DeedLog.calls [] log = new ++ c :: old) :
    ∃ newer t d older, log = newer ++ (t, d) :: older ∧ c ∈ d.calls [] ∧
      DeedLog.calls [] older = old := by
  induction log generalizing new with
  | nil => exact absurd h.symm (by simp [DeedLog.calls])
  | cons e log ih =>
    obtain ⟨t, d⟩ := e
    change d.calls (DeedLog.calls [] log) = _ at h
    have hearlier {new' : List Call} (heq : DeedLog.calls [] log = new' ++ c :: old) :
        ∃ newer t' d' older, (t, d) :: log = newer ++ (t', d') :: older ∧ c ∈ d'.calls [] ∧
          DeedLog.calls [] older = old := by
      obtain ⟨newer, t', d', older, hlog, hmem, hold⟩ := ih heq
      exact ⟨(t, d) :: newer, t', d', older, congrArg ((t, d) :: ·) hlog, hmem, hold⟩
    have hrecords {c' : Call} (hcalls : d.calls [] = [c'])
        (heq : c' :: DeedLog.calls [] log = new ++ c :: old) :
        ∃ newer t' d' older, (t, d) :: log = newer ++ (t', d') :: older ∧ c ∈ d'.calls [] ∧
          DeedLog.calls [] older = old := by
      cases new with
      | nil =>
        obtain ⟨hc, hold⟩ := List.cons.inj heq
        exact ⟨[], t, d, log, rfl, by rw [hcalls, hc]; exact List.mem_cons_self, hold⟩
      | cons c₀ new => exact hearlier (List.cons.inj heq).2
    cases d with
    | claim | sent | refused | conflict | sentSingle | refusedSingle | collected | control | noteTx =>
      exact hrecords rfl h
    | rearm => exact absurd h.symm (by simp [Deed.calls])
    | _ => exact hearlier h

theorem calls_mem {log : DeedLog} {c : Call} (h : c ∈ DeedLog.calls [] log) :
    ∃ newer t d older, log = newer ++ (t, d) :: older ∧ c ∈ d.calls [] := by
  obtain ⟨new, old, heq⟩ := List.append_of_mem h
  obtain ⟨newer, t, d, older, hlog, hmem, _⟩ := calls_split heq
  exact ⟨newer, t, d, older, hlog, hmem⟩

namespace Deed

theorem of_submit {d : Deed} {sub : Submission} (h : .submit sub ∈ d.calls []) :
    d.submission = some sub := by
  cases d with
  | sent | refused | conflict | sentSingle | refusedSingle =>
    cases List.mem_singleton.mp h
    rfl
  | claim | collected | control | noteTx => cases List.mem_singleton.mp h
  | _ => cases h

theorem of_control {d : Deed} {rx : AirControlRx} {parent : ParentPdu}
    (h : .control rx parent ∈ d.calls []) : d = .control rx parent := by
  cases d with
  | control rx' parent' =>
    cases List.mem_singleton.mp h
    rfl
  | claim | sent | refused | conflict | sentSingle | refusedSingle | collected | noteTx =>
    cases List.mem_singleton.mp h
  | _ => cases h

end Deed

end UllReceiver.Trial
