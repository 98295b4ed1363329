import UllReceiver.Radio.TransmitterEngaged

/-!
# Runs of the transmitter

Whatever the order of calls, callbacks and steps of the others: what was borrowed is back in place
whenever the transmitter is idle, a fault is final, and the radio is only aborted in an event of
the transmitter's own.
-/

namespace UllReceiver.Radio

open Library

namespace TxSystem

variable {home : RadioMemory} {s t : TxSystem} {B : TxBuild} {act : Action}

/-! ## The task's calls keep what a phase promises -/

theorem entryIsOurs_of_holds {index : UInt8} {p : TxProgram} {i : Fin 16}
    (hindex : index.toNat = i.val) (h : (s.rom.entries i).Holds p) :
    s.entryIsOurs index p false = true := by
  have hlt : index.toNat < 16 := hindex ▸ i.isLt
  have hi : (⟨index.toNat, hlt⟩ : Fin 16) = i := Fin.ext hindex
  obtain ⟨hused, hcallback, hcontext, hhs⟩ := h
  unfold entryIsOurs
  rw [dif_pos hlt, hi]
  simp [hused, hcallback, hcontext, hhs]

/-- A live entry is recognised, so none is left once no program is. -/
theorem no_live_of_not_ours (h : Covered s.wiring.roles s.rom.entries)
    (hours : s.programIsOurs false = false) (i : Fin 16) : ¬(s.rom.entries i).live := by
  intro hlive
  obtain ⟨role, hrole, hindex, hheld⟩ := h i hlive
  have hknown := entryIsOurs_of_holds hindex hheld
  have hany : s.programIsOurs false = true := by
    unfold programIsOurs
    simp only [Wiring.roles, List.mem_cons, List.mem_append] at hrole
    -- the first program, the reply if it is queued ahead, the stopper of a repeat
    obtain rfl | hrole | hrole := hrole
    · have hfirst : s.entryIsOurs s.tx.programIndex s.tx.program false = true := hknown
      simp [hfirst]
    · split at hrole
      next hprequeued =>
        rw [List.mem_singleton] at hrole
        subst hrole
        have hreply : s.entryIsOurs s.tx.replyIndex s.tx.replyProgram false = true := hknown
        have hset : s.tx.prequeuedReply = true := hprequeued
        simp [hreply, hset]
      · cases hrole
    · split at hrole
      next hrepeated =>
        rw [List.mem_singleton] at hrole
        subst hrole
        have hstop : s.entryIsOurs s.tx.stopIndex s.tx.stopProgram false = true := hknown
        have hset : s.tx.repeatPayload = true := hrepeated
        simp [hstop, hset]
      · cases hrole
  rw [hany] at hours
  cases hours

/-- With nothing left in the scheduler, `tx` may be cleared. -/
theorem cleared_engaged (hqueued : s.rom.queued = false) (hactive : s.rom.active ≠ .ours)
    (halarm : s.rom.alarm = false) (hnone : ∀ i, ¬(s.rom.entries i).live) :
    s.cleared.Engaged where
  queued := fun hq => absurd (hqueued.symm.trans hq) Bool.false_ne_true
  stored := ⟨fun _ => rfl, fun _ => rfl⟩
  waiting := fun _ => ⟨rfl, rfl, rfl, hnone⟩
  engaging := fun hp => by cases hp <;> contradiction
  ended := fun hp => absurd hp Bool.false_ne_true
  slot := fun _ => hactive
  alarm := halarm
  repeats := fun hr => absurd hr Bool.false_ne_true
  single := fun _ => rfl
  followup := fun hf => absurd hf Bool.false_ne_true
  covered := fun _ i hlive => absurd hlive (hnone i)

theorem releaseStorage_rom : s.releaseStorage.rom = s.rom := by
  unfold releaseStorage
  split <;> rfl

theorem Engaged.reclaim (h : s.Engaged) (hfault : s.tx.result.phase ≠ .fault) :
    s.reclaim.2.Engaged := by
  unfold TxSystem.reclaim
  split
  · exact h
  next hwaiting =>
    simp only [not_or] at hwaiting
    obtain ⟨hqueued, -, -, -, halarm, hactive, hours⟩ := hwaiting
    have hslot : s.rom.active ≠ .ours := by simpa [activeIsOurs] using hactive
    have hset : s.rom.alarm = s.tx.alarmSet := h.alarm
    apply cleared_engaged <;> rw [releaseStorage_rom]
    · exact Wiring.Engaged.unqueued h hqueued
    · exact hslot
    · exact hset.trans (Bool.eq_false_of_not_eq_true halarm)
    · exact no_live_of_not_ours (h.covered hfault) (Bool.eq_false_of_not_eq_true hours)

theorem repeats_of_accepted {r : RadioTxRequest} (h : ¬r.refused) :
    r.repeatPayload ≠ 0 → r.prequeuedReply ≠ 0 := by
  intro hrepeat hnone
  exact h (by
    have hrefused : r.repeatRefused := ⟨hrepeat, .inl hnone⟩
    unfold RadioTxRequest.refused
    tauto)

theorem requestTx_engaged {rom : Scheduler} (mem after : RadioMemory) {r : RadioTxRequest}
    (hr : ¬r.refused) (payload : UInt16) (payloads : List (LedgerEntry UInt16))
    (halarm : rom.alarm = false) (hnone : ∀ i, ¬(rom.entries i).live) :
    Engaged ⟨requestTx r payload rom mem, after, rom, payloads⟩ where
  queued := fun _ => rfl
  stored := ⟨fun hs => absurd hs.symm Bool.false_ne_true, fun hp => nomatch hp⟩
  waiting := fun _ => ⟨rfl, rfl, rfl, hnone⟩
  engaging := fun hp => by cases hp <;> contradiction
  ended := fun _ hf => absurd hf Bool.false_ne_true
  slot := fun hp => nomatch hp
  alarm := halarm
  repeats := fun hr' => by
    have hrepeat : r.repeatPayload ≠ 0 := of_decide_eq_true hr'
    exact decide_eq_true (repeats_of_accepted hr hrepeat)
  single := fun _ => rfl
  followup := fun hf => absurd hf Bool.false_ne_true
  covered := fun _ i hlive => absurd hlive (hnone i)

theorem Engaged.idle_alarm (h : s.Engaged) (hidle : s.tx.result.phase = .idle) :
    s.rom.alarm = false := by
  have hset : s.rom.alarm = s.tx.alarmSet := h.alarm
  exact hset.trans (h.waiting (.inl hidle)).2.2.1

theorem Engaged.submit (h : s.Engaged) (r : RadioTxRequest) (a : SubmitAnswers) :
    (s.submit B r a).2.Engaged := by
  unfold TxSystem.submit
  split
  · exact h
  next hr =>
  split
  · exact h
  next hphase =>
  have hidle : s.tx.result.phase = .idle := by
    by_contra hnot
    exact hphase (.inl hnot)
  have hnone := (h.waiting (.inl hidle)).2.2.2
  have hlaid := requestTx_engaged s.mem (layout B r a.payload s.mem) hr a.payload
    (.taken a.payload :: s.payloads) (h.idle_alarm hidle) hnone
  split
  · exact h
  dsimp only
  split
  · exact h
  split
  · exact h
  -- the arbiter may still refuse the element, and then all is given back at once
  split
  · apply cleared_engaged <;> rw [releaseStorage_rom]
    · exact Wiring.Engaged.unqueued h (by rw [hidle]; simp)
    · exact h.slot hidle
    · exact h.idle_alarm hidle
    · exact hnone
  next hinserted =>
    rw [arbInsert, if_pos (not_not.mp hinserted)]
    exact { hlaid with queued := fun _ => rfl }

theorem Engaged.cancel (h : s.Engaged) (removed : UInt8) : (s.cancel removed).Engaged := by
  have hdropped : (s.onTx fun tx => { tx with followupPending := false }).Engaged :=
    h.reported ⟨rfl, rfl, rfl, rfl, rfl, fun hp => absurd hp Bool.false_ne_true⟩
  unfold TxSystem.cancel
  dsimp only
  generalize (s.onTx fun tx => { tx with followupPending := false }) = t at hdropped ⊢
  split
  next hphase =>
    have hremoved : (t.onRom fun rom => { rom with queued := false }).Engaged :=
      { hdropped with queued := fun hq => absurd hq Bool.false_ne_true }
    have hidle : t.tx.result.phase ≠ .idle := by simp [hphase]
    have hfault : t.tx.result.phase ≠ .fault := by simp [hphase]
    split
    · split
      · exact hremoved
      · exact Wiring.Engaged.settled hremoved hidle hfault rfl (.inr (.inl rfl))
          (.inl (hdropped.waiting (.inr hphase)).2.1)
    · exact hdropped
  split
  next hrepeat =>
    have hphase : t.tx.result.phase ≠ .idle ∧ t.tx.result.phase ≠ .queued := by
      obtain hp | hp := hrepeat.2 <;> simp [hp]
    split
    · exact hdropped
    · exact hdropped.faulted 1 hphase
  · exact hdropped.abortActive

/-- An abort by `ull_radio_tx_collect` finds the event it has just recognised. -/
theorem stopper_abort (a : CollectAnswers) (hlate : s.stopperLate a = true) :
    s.stopRequested.abortActive =
      s.stopRequested.commandAbort := by
  simp only [stopperLate, Bool.and_eq_true, Bool.or_eq_true, beq_iff_eq] at hlate
  obtain ⟨⟨⟨⟨⟨⟨⟨⟨⟨hrepeated, -⟩, -⟩, -⟩, -⟩, hphase⟩, hactive⟩, hentry⟩, -⟩, -⟩ := hlate
  obtain ⟨hnot, -⟩ | ⟨-, hchecks, -⟩ | ⟨-, -, he⟩ := abortActive_cases (s := s.stopRequested)
  · exact absurd hphase hnot
  · have hours : s.stopRequested.activeIsOurs = true := hactive
    have hstop : s.stopRequested.entryIsOurs s.stopRequested.tx.stopIndex
        s.stopRequested.tx.stopProgram true = true := hentry
    have hset : s.stopRequested.tx.repeatPayload = true := hrepeated
    have hprogram : s.stopRequested.programIsOurs true = true := by
      unfold programIsOurs
      rw [hset, hstop]
      simp
    refine absurd ?_ hchecks
    unfold abortChecks
    rw [if_pos hprogram, if_pos hours]
    rfl
  · exact he

theorem programsEnded_flags (h : s.programsEnded = true) :
    s.tx.prequeuedReply = true ∧ s.tx.firstEnded = true ∧ s.tx.replyEnded = true ∧
      (s.tx.repeatPayload = true → s.tx.stopEnded = true) := by
  simp only [programsEnded, Bool.and_eq_true, Bool.or_eq_true, Bool.not_eq_true'] at h
  obtain ⟨⟨⟨hprequeued, hfirst⟩, hreply⟩, hstop⟩ := h
  refine ⟨hprequeued, hfirst, hreply, fun hrepeat => ?_⟩
  obtain hn | hs := hstop
  · rw [hrepeat] at hn
    cases hn
  · exact hs

/-- The stopper's abort keeps what a phase promises, and is no fault. -/
theorem Engaged.stopLate (h : s.Engaged) (hfault : s.tx.result.phase ≠ .fault)
    (a : CollectAnswers) : (s.stopLate a).Engaged ∧ (s.stopLate a).tx.result.phase ≠ .fault := by
  unfold TxSystem.stopLate
  split
  next hlate =>
    have haborted := Engaged.abortActive (s := s.stopRequested) h
    rw [stopper_abort a hlate] at haborted ⊢
    exact ⟨haborted, fun hp => nomatch hp⟩
  next => exact ⟨h, hfault⟩

theorem Engaged.settle (h : s.Engaged) (hfault : s.tx.result.phase ≠ .fault)
    (a : CollectAnswers) : (s.settle a).2.Engaged := by
  unfold TxSystem.settle
  split
  next hended =>
    obtain ⟨hprequeued, hfirst, hreply, hstop⟩ := programsEnded_flags hended
    have hphase := (h.ended hprequeued hfirst hreply hstop).resolve_right hfault
    split
    · exact h.faulted _ (by simp [hphase])
    split
    · exact h
    · have hrestored : s.restoreGlobals.Engaged := by
        unfold Engaged
        rw [restoreGlobals_wiring, restoreGlobals_phase]
        exact { h with
          waiting := fun hw => ⟨rfl, (h.waiting hw).2⟩
          engaging := fun hp => by rw [hphase] at hp; simp at hp }
      obtain ⟨active, hactive, hwiring⟩ := arbRemoveActive_wiring (s := s.restoreGlobals) a.due
      have hremoved : (s.restoreGlobals.arbRemoveActive a.due).Engaged := by
        unfold Engaged
        rw [hwiring, arbRemoveActive_phase]
        exact Wiring.Engaged.slotMoved hrestored active fun ha => absurd ha hactive
      apply hremoved.reclaim
      rw [arbRemoveActive_phase, restoreGlobals_phase]
      exact hfault
  next => exact h.reclaim hfault

theorem Engaged.collect (h : s.Engaged) (a : CollectAnswers) : (s.collect a).2.Engaged := by
  unfold TxSystem.collect
  split
  · exact h
  next hlost =>
    obtain ⟨hlate, hfault⟩ := h.stopLate (fun hp => hlost (.inl hp)) a
    exact hlate.settle hfault a

/-! ## Every step -/

theorem Engaged.retire (h : s.Engaged) (i : Fin 16) : (s.retire i).Engaged :=
  Wiring.Engaged.retired h i

theorem Engaged.step (h : s.Engaged) (hstep : Step B s act t) : t.Engaged := by
  cases hstep with
  | submit r a => exact h.submit r a
  | cancel removed => exact h.cancel removed
  | collect a => exact h.collect a
  | start a hqueued _ =>
      -- the element has left the queue before its start function runs
      have hphase : s.tx.result.phase = .queued := h.queued hqueued
      have hpopped : s.popped.Engaged := { h with
        queued := fun hq => absurd hq Bool.false_ne_true
        slot := fun hp => by
          have hidle : s.tx.result.phase = .idle := hp
          rw [hphase] at hidle
          cases hidle }
      exact hpopped.started hphase rfl a
  | cancelled hqueued =>
      have hphase : s.tx.result.phase = .queued := h.queued hqueued
      have hunlinked : s.unlinked.Engaged :=
        { h with queued := fun hq => absurd hq Bool.false_ne_true }
      have hphase' : s.unlinked.tx.result.phase = .queued := hphase
      unfold TxSystem.cancelled
      rw [if_neg (not_not.mpr hphase')]
      have hidle : s.tx.result.phase ≠ .idle := by simp [hphase]
      have hfault : s.tx.result.phase ≠ .fault := by simp [hphase]
      exact Wiring.Engaged.settled hunlinked hidle hfault rfl (.inr (.inl rfl))
        (.inl (h.waiting (.inr hphase)).2.1)
  | stopped => exact h.abortActive
  | frame i reason a retired hlive hretired =>
      -- a follow-up that was just laid out takes the place of the entry that called back
      obtain hdone | ⟨hbefore, hafter, hdone⟩ :=
        h.frameDone (s.rom.entries i).hs (s.rom.entries i).context reason a hlive
      · split
        · exact Engaged.retire hdone i
        · exact hdone
      · rw [if_pos (hretired hafter hbefore)]
        exact hdone
  | retire i => exact h.retire i
  | alarm now _ =>
      have hremoved : (s.alarmed.onTx fun tx => { tx with
          alarmSet := false
          result := { tx.result with
            deadlineFired := 1, deadlineHs := now.hs, deadlineHus := now.hus.toUInt16 } }).Engaged :=
        Wiring.Engaged.alarmCleared h
      exact hremoved.abortActive
  | beside rom mem hrom hmem =>
      exact { h with
        queued := fun hq => h.queued (hrom.queued.symm.trans hq)
        waiting := fun hw => by
          obtain ⟨hout, hfirst, halarm, hnone⟩ := h.waiting hw
          exact ⟨hout, hfirst, halarm, fun i => hrom.others i (hnone i)⟩
        slot := fun hp ha => h.slot hp (hrom.active ha)
        alarm := hrom.alarm.trans h.alarm
        covered := fun hf => (h.covered hf).moved hrom.entries hrom.others }

/-- What holds of the transmitter, the scheduler and the memory in every state it gets to. -/
structure Sound (home : RadioMemory) (s : TxSystem) : Prop where
  engaged : s.Engaged
  storage : s.storage.Lent home
  registers : s.registers.Lent home

theorem Engaged.stored_of_ne_idle (h : s.Engaged) (hphase : s.tx.result.phase ≠ .idle) :
    s.tx.storageSet = true :=
  Bool.eq_true_of_not_eq_false fun hs => hphase (h.stored.mp hs)

theorem Sound.storage_step (h : s.Sound home) (hstep : Step B s act t) : t.storage.Lent home := by
  have hstored := h.engaged.stored_of_ne_idle
  cases hstep with
  | submit r a => exact submit_lent r a h.engaged.stored.mpr h.storage
  | cancel removed =>
      rw [cancel_storage]
      exact h.storage
  | collect a => exact collect_lent a h.storage
  | start a _ _ => exact started_lent (s := s.popped) a hstored h.storage
  | cancelled _ =>
      rw [cancelled_storage]
      exact h.storage
  | stopped =>
      rw [stopped_storage]
      exact h.storage
  | frame i reason a retired hlive _ =>
      have hphase := Wiring.Engaged.live_phase h.engaged hlive
      have hcalled := frameDone_lent (s.rom.entries i).hs (s.rom.entries i).context reason a
        (hstored hphase.1) h.storage
      split
      · exact hcalled
      · exact hcalled
  | retire i => exact h.storage
  | alarm now _ =>
      rw [deadline_storage]
      exact h.storage
  | beside rom mem _ hmem => exact beside_lent rom mem hmem h.storage

theorem Sound.registers_step (h : s.Sound home) (hstep : Step B s act t) :
    t.registers.Lent home := by
  have hactive : s.Engaging := h.engaged.engaging
  cases hstep with
  | submit r a =>
      exact submit_registers r a (fun hp => (h.engaged.waiting (.inl hp)).1) h.registers
  | cancel removed => exact cancel_registers removed hactive h.registers
  | collect a => exact collect_registers a hactive h.registers
  | start a _ _ =>
      exact started_registers (s := s.popped) a (fun hp => (h.engaged.waiting (.inr hp)).1)
        h.registers
  | cancelled _ =>
      unfold TxSystem.cancelled
      split
      · exact h.registers
      · exact h.registers
  | stopped => exact abortActive_lent hactive h.registers
  | frame i reason a retired _ _ =>
      have hcalled := frameDone_registers (s.rom.entries i).hs (s.rom.entries i).context reason a
        hactive h.registers
      split
      · exact hcalled
      · exact hcalled
  | retire i => exact h.registers
  | alarm now _ => exact deadline_registers (s := s.alarmed) now hactive h.registers
  | beside rom mem _ hmem => exact beside_registers rom mem hmem h.registers

theorem Sound.step (h : s.Sound home) (hstep : Step B s act t) : t.Sound home :=
  ⟨h.engaged.step hstep, h.storage_step hstep, h.registers_step hstep⟩

theorem Boot.sound {boot : TxSystem} (h : Boot boot) : boot.Sound boot.mem where
  engaged := by
    have hcleared := cleared_engaged h.queued h.active h.alarm h.entries
    have hsame : boot.cleared = boot := by
      unfold cleared
      rw [← h.tx]
    rwa [hsame] at hcleared
  storage := by
    unfold storage
    rw [h.tx, h.payloads]
    have hnone : ¬(Tx.zero.storageSet = true) := Bool.false_ne_true
    exact ⟨.settled hnone rfl, .settled (fun hp => hnone hp.1) rfl,
      .settled (fun hp => hnone hp.1) rfl, .settled hnone rfl,
      .settled (fun hp => hnone hp.1) rfl, rfl⟩
  registers := by
    unfold registers
    rw [h.tx]
    exact ⟨.settled Bool.false_ne_true rfl, .settled Bool.false_ne_true rfl,
      .settled Bool.false_ne_true rfl, .settled Bool.false_ne_true rfl,
      fun ht => absurd ht Bool.false_ne_true, fun hf => absurd hf Bool.false_ne_true⟩

theorem Boot.sound_run {boot : TxSystem} {trace : List Action} (h : Boot boot)
    (hrun : Run (Step B) boot trace s) : s.Sound boot.mem :=
  hrun.invariant (fun t => t.Sound boot.mem) h.sound fun _ _ _ ht he => ht.step he

/-! ## Everything is back in place -/

theorem Sound.restored (h : s.Sound home) (hidle : s.tx.result.phase = .idle) :
    s.Restored home := by
  have hout : s.tx.storageSet = false := h.engaged.stored.mpr hidle
  have hnot : ¬(s.tx.storageSet = true) := by simp [hout]
  have hnone (p : Prop) : ¬(s.tx.storageSet = true ∧ p) := fun hp => hnot hp.1
  obtain ⟨hglobals, -, halarm, hentries⟩ := h.engaged.waiting (.inl hidle)
  have hset : ¬(s.tx.globalsSet = true) := by
    have hfalse : s.tx.globalsSet = false := hglobals
    simp [hfalse]
  refine ⟨h.storage.cs.home hnot, h.storage.replyCs.home (hnone _), h.storage.stopCs.home (hnone _),
    h.storage.descriptor.home hnot, h.storage.repeatDescriptor.home (hnone _),
    h.registers.rxTiming.home fun ht => hset (h.registers.timing ht), h.registers.test.home hset,
    h.registers.enable.home hset, h.registers.sequence.home fun hf => hset (h.registers.flags hf),
    fun offset => ?_, Wiring.Engaged.unqueued h.engaged (by rw [hidle]; simp),
    h.engaged.slot hidle, h.engaged.idle_alarm hidle, hentries⟩
  exact count_outstanding (h.storage.held_none hout) offset

theorem reclaim_idle {r : RadioTxResult} (h : s.reclaim.1 = .reclaimed r) :
    s.reclaim.2.tx.result.phase = .idle := by
  unfold reclaim at h ⊢
  split
  next hwaiting =>
    rw [if_pos hwaiting] at h
    cases h
  next => rfl

theorem settled_idle (a : CollectAnswers) {r : RadioTxResult}
    (h : (s.settle a).1 = .reclaimed r) : (s.settle a).2.tx.result.phase = .idle := by
  revert h
  unfold settle
  split
  · split
    · exact fun h => nomatch h
    split
    · exact fun h => nomatch h
    · exact reclaim_idle
  · exact reclaim_idle

theorem collected_idle (a : CollectAnswers) {r : RadioTxResult}
    (h : (s.collect a).1 = .reclaimed r) : (s.collect a).2.tx.result.phase = .idle := by
  revert h
  unfold collect
  split
  · exact fun h => nomatch h
  · exact settled_idle a

/-- What is refused leaves the transmitter as it was, or idle. -/
theorem submit_refused (r : RadioTxRequest) (a : SubmitAnswers)
    (h : (s.submit B r a).1 ≠ 0) :
    (s.submit B r a).2 = s ∨ (s.submit B r a).2.tx.result.phase = .idle := by
  revert h
  unfold submit
  split
  · exact fun _ => .inl rfl
  split
  · exact fun _ => .inl rfl
  split
  · exact fun _ => .inl rfl
  dsimp only
  split
  · exact fun _ => .inl rfl
  split
  · exact fun _ => .inl rfl
  split
  · exact fun _ => .inr rfl
  · exact fun h => absurd rfl h

theorem submit_busy (r : RadioTxRequest) (a : SubmitAnswers) (h : s.tx.result.phase ≠ .idle) :
    (s.submit B r a).1 ≠ 0 ∧ (s.submit B r a).2 = s := by
  have hinvalid : (0x12 : UInt8) ≠ 0 := by decide
  have hbusy : (0x0c : UInt8) ≠ 0 := by decide
  unfold submit
  split
  · exact ⟨hinvalid, rfl⟩
  · rw [if_pos (.inl h)]
    exact ⟨hbusy, rfl⟩

/-- Two idle moments of one run agree on everything that is lent. -/
theorem Restored.since (h : t.Restored home) (hs : s.Restored home) : t.Restored s.mem :=
  { h with
    cs := h.cs.trans hs.cs.symm
    replyCs := h.replyCs.trans hs.replyCs.symm
    stopCs := h.stopCs.trans hs.stopCs.symm
    descriptor := h.descriptor.trans hs.descriptor.symm
    repeatDescriptor := h.repeatDescriptor.trans hs.repeatDescriptor.symm
    rxTiming := h.rxTiming.trans hs.rxTiming.symm
    test := h.test.trans hs.test.symm
    enable := h.enable.trans hs.enable.symm
    sequence := h.sequence.trans hs.sequence.symm }

theorem Sound.collected (h : s.Sound home) (a : CollectAnswers) (r : RadioTxResult)
    (hr : (s.collect a).1 = .reclaimed r) : (s.collect a).2.Restored home := by
  have hafter : (s.collect a).2.Sound home := h.step (Step.collect (B := .stock 0) a)
  exact hafter.restored (collected_idle a hr)

theorem Sound.refused (h : s.Sound home) (r : RadioTxRequest) (a : SubmitAnswers)
    (hr : (s.submit B r a).1 ≠ 0) (hidle : s.tx.result.phase = .idle) :
    (s.submit B r a).2.Restored home := by
  rcases submit_refused r a hr with hsame | hafter
  · rw [hsame]
    exact h.restored hidle
  · exact (h.step (.submit r a)).restored hafter

/-- However calls, callbacks and the others' steps follow one another, what the transmitter borrows
is back in its place whenever it is idle: after every collection, and when a request of an idle
transmitter was refused. -/
theorem transmitter_restores {boot : TxSystem} {trace : List Action} (hboot : Boot boot)
    (hrun : Run (Step B) boot trace s) :
    (s.tx.result.phase = .idle → s.Restored boot.mem) ∧
    (∀ a r, (s.collect a).1 = .reclaimed r → (s.collect a).2.Restored boot.mem) ∧
    ∀ r a, (s.submit B r a).1 ≠ 0 → s.tx.result.phase = .idle →
      (s.submit B r a).2.Restored boot.mem := by
  have hsound := hboot.sound_run hrun
  exact ⟨hsound.restored, hsound.collected, hsound.refused⟩

theorem repeat_reclaimed : ∃ r, (repeatEnded.collect plainCollect).1 = .reclaimed r := by
  have hkind : ((repeatEnded.collect plainCollect).1 matches .reclaimed _) = true := by
    decide +kernel
  cases hcollect : (repeatEnded.collect plainCollect).1 with
  | reclaimed r => exact ⟨r, rfl⟩
  | pending =>
    rw [hcollect] at hkind
    cases hkind
  | lost r =>
    rw [hcollect] at hkind
    cases hkind

theorem transmitter_restores_repeated :
    (repeatEnded.collect plainCollect).2.Restored quiet.mem := by
  obtain ⟨r, hr⟩ := repeat_reclaimed
  exact (transmitter_restores quiet_boot repeat_run).2.1 plainCollect r hr

/-- Every request over every run: refused, it leaves an idle transmitter with everything in its
place, and a busy one as it was; accepted, everything is back where the request found it by the
time it is collected, whatever has happened in between. -/
theorem request_restores {boot : TxSystem} {trace : List Action} (hboot : Boot boot)
    (hrun : Run (Step B) boot trace s) (r : RadioTxRequest) (a : SubmitAnswers) :
    ((s.submit B r a).1 ≠ 0 → s.tx.result.phase = .idle → (s.submit B r a).2.Restored s.mem) ∧
    ((s.submit B r a).1 ≠ 0 → s.tx.result.phase ≠ .idle → (s.submit B r a).2 = s) ∧
    ((s.submit B r a).1 = 0 → ∀ rest t, Run (Step B) (s.submit B r a).2 rest t → ∀ answers,
      (∀ result, (t.collect answers).1 = .reclaimed result →
        (t.collect answers).2.Restored s.mem) ∧
      (¬(t.collect answers).2.Restored s.mem →
        (t.collect answers).1 = .pending ∨ ∃ result, (t.collect answers).1 = .lost result)) := by
  have hsound := hboot.sound_run hrun
  refine ⟨fun hrefused hidle => ?_, fun _ hbusy => (submit_busy r a hbusy).2, ?_⟩
  · exact (hsound.refused r a hrefused hidle).since (hsound.restored hidle)
  · intro haccepted rest t hrest answers
    -- only an idle transmitter accepts
    have hidle : s.tx.result.phase = .idle := by
      by_contra hbusy
      exact (submit_busy r a hbusy).1 haccepted
    have hlater : t.Sound boot.mem := hboot.sound_run ((hrun.snoc (.submit r a)).append hrest)
    have hback : ∀ result, (t.collect answers).1 = .reclaimed result →
        (t.collect answers).2.Restored s.mem := by
      intro result hr
      exact (hlater.collected answers result hr).since (hsound.restored hidle)
    refine ⟨hback, fun hout => ?_⟩
    cases hcollect : (t.collect answers).1 with
    | pending => exact .inl rfl
    | lost result => exact .inr ⟨result, rfl⟩
    | reclaimed result => exact absurd (hback result hcollect) hout

/-- A repeated event is sent, answered, stopped and collected. -/
theorem request_restores_repeated :
    (quiet.submit (.stock 0) repeatRequest plainAnswers).1 = 0 ∧
      ∃ result, (repeatEnded.collect plainCollect).1 = .reclaimed result ∧
        (repeatEnded.collect plainCollect).2.Restored quiet.mem := by
  have haccepted : (quiet.submit (.stock 0) repeatRequest plainAnswers).1 = 0 := by decide +kernel
  obtain ⟨result, hr⟩ := repeat_reclaimed
  have hrestores := (request_restores quiet_boot .nil repeatRequest plainAnswers).2.2 haccepted
  exact ⟨haccepted, result, hr, (hrestores _ _ repeat_rest plainCollect).1 result hr⟩

/-- A request made while another one is queued is refused, and the other one is still out. -/
theorem busy_request_refused :
    Run (Step (.stock 0)) quiet [.submit plainRequest plainAnswers] plainQueued ∧
      (plainQueued.submit (.stock 0) plainRequest plainAnswers).1 = 0x0c ∧
      ¬(plainQueued.submit (.stock 0) plainRequest plainAnswers).2.Restored plainQueued.mem :=
  ⟨Run.single (.submit plainRequest plainAnswers), by decide, fun h => absurd h.queued (by decide)⟩

/-! ## A fault is final -/

theorem abortActive_fault (h : s.tx.result.phase = .fault) :
    s.abortActive.tx.result.phase = .fault := by
  obtain ⟨-, he⟩ | ⟨-, -, he⟩ | ⟨hphase, -, -⟩ := abortActive_cases (s := s)
  · rw [he]
    exact h
  · rw [he]
    rfl
  · simp [h] at hphase

theorem programEnded_fault (role : TxRole) (reason : UInt8) (a : FrameAnswers)
    (h : s.tx.result.phase = .fault) : (s.programEnded role reason a).tx.result.phase = .fault := by
  have hreceived : (if reason ≠ 4 then s.receiveOwned (roleActivity role) a.rx
      else s).tx.result.phase = .fault := by
    split
    · exact (receiveOwned_reported _ _).phase.trans h
    · exact h
  unfold programEnded
  dsimp only
  generalize (if reason ≠ 4 then s.receiveOwned (roleActivity role) a.rx else s) = t
    at hreceived ⊢
  -- neither way out of the end of a program leads away from a fault
  split
  · have hnoted : (t.noteEnded role reason a).tx.result.phase = .fault := by
      rw [noteEnded_phase]
      exact hreceived
    unfold prequeuedEnded
    dsimp only
    split
    · exact hnoted
    · show (if (t.noteEnded role reason a).clearAlarm.tx.result.phase ≠ .fault then
        RadioTxPhase.ended else .fault) = .fault
      rw [clearAlarm_phase, hnoted]
      rfl
  · have hclosed : (t.singleClosed reason a).tx.result.phase = .fault := by
      rw [singleClosed_phase, hreceived]
      rfl
    unfold singleEnded
    dsimp only
    rw [if_neg fun hwanted => by
      rw [hclosed] at hwanted
      exact nomatch hwanted.2.2.1]
    exact hclosed

theorem frameDone_fault (hs : UInt32) (context : TxContext) (reason : UInt8) (a : FrameAnswers)
    (h : s.tx.result.phase = .fault) :
    (s.frameDone hs context reason a).tx.result.phase = .fault := by
  unfold frameDone
  dsimp only
  split
  · rfl
  split
  · split
    · exact h
    · rfl
  split
  · rfl
  split
  · obtain ⟨t, ht, he | he⟩ := packetReceived_spec (s := s) (s.roleOf context) a
    · rw [he]
      exact ht.phase.trans h
    · rw [he]
      exact abortActive_fault (ht.phase.trans h)
  split
  · exact h
  split
  · exact h
  · exact programEnded_fault _ reason a h

theorem Engaged.fault_step (h : s.Engaged) (hfault : s.tx.result.phase = .fault)
    (hstep : Step B s act t) : t.tx.result.phase = .fault := by
  have hunqueued : s.rom.queued = false := Wiring.Engaged.unqueued h (by rw [hfault]; simp)
  cases hstep with
  | submit r a =>
      rw [(submit_busy r a (by rw [hfault]; simp)).2]
      exact hfault
  | cancel removed =>
      unfold TxSystem.cancel
      dsimp only
      rw [if_neg (by show ¬(s.tx.result.phase = .queued); simp [hfault]),
        if_neg fun hp => by
          have hphase : s.tx.result.phase = .active ∨ s.tx.result.phase = .aborting := hp.2
          simp [hfault] at hphase]
      exact abortActive_fault hfault
  | collect a =>
      unfold TxSystem.collect
      rw [if_pos (.inl hfault)]
      exact hfault
  | start a hqueued _ => exact absurd (hunqueued.symm.trans hqueued) Bool.false_ne_true
  | cancelled hqueued => exact absurd (hunqueued.symm.trans hqueued) Bool.false_ne_true
  | stopped => exact abortActive_fault hfault
  | frame i reason a retired _ _ =>
      have hcalled := frameDone_fault (s.rom.entries i).hs (s.rom.entries i).context reason a hfault
      split
      · exact hcalled
      · exact hcalled
  | retire i => exact hfault
  | alarm now _ => exact abortActive_fault hfault
  | beside rom mem _ _ => exact hfault

/-- Once the transmitter has met a fault, it stays with it: every collection says so, every request
is refused without effect, nothing waits in the arbiter, and the buffer is never given back. -/
theorem fault_final {boot : TxSystem} {trace rest : List Action} (hboot : Boot boot)
    (hrun : Run (Step B) boot trace s) (hfault : s.tx.result.phase = .fault)
    (hrest : Run (Step B) s rest t) :
    t.tx.result.phase = .fault ∧ (∀ a, ∃ r, (t.collect a).1 = .lost r) ∧
      (∀ r a, (t.submit B r a).1 ≠ 0 ∧ (t.submit B r a).2 = t) ∧ t.rom.queued = false ∧
      outstanding t.payloads = some [t.tx.payloadOffset] := by
  have hstays : t.Sound boot.mem ∧ t.tx.result.phase = .fault :=
    hrest.invariant (fun u => u.Sound boot.mem ∧ u.tx.result.phase = .fault)
      ⟨hboot.sound_run hrun, hfault⟩ fun _ _ _ hu he =>
        ⟨hu.1.step he, hu.1.engaged.fault_step hu.2 he⟩
  obtain ⟨hsound, hphase⟩ := hstays
  refine ⟨hphase, fun a => ?_, fun r a => ?_, ?_, ?_⟩
  · unfold collect
    rw [if_pos (.inl hphase)]
    exact ⟨_, rfl⟩
  · exact submit_busy r a (by rw [hphase]; simp)
  · exact Wiring.Engaged.unqueued hsound.engaged (by rw [hphase]; simp)
  · exact hsound.storage.held_one (hsound.engaged.stored_of_ne_idle (by rw [hphase]; simp))

/-- The ROM has no entry left for the program. -/
def lostStart : StartAnswers :=
  { plainStart with push := fun _ => ⟨false, 0, 0⟩ }

theorem fault_final_lost :
    ((plainQueued.popped.started (.stock 0) lostStart).stopped).tx.result.phase = .fault :=
  (fault_final quiet_boot
    (Run.snoc (Run.single (.submit plainRequest plainAnswers)) (.start lostStart (by rfl) (by rfl)))
    (by decide) (Run.single .stopped)).1

/-! ## Whose event is aborted -/

/-- The abort bit of the control register. -/
def aborts (s : TxSystem) : UInt32 :=
  s.mem.radioControl &&& radioAbort

/-- What must hold when the abort is commanded: the element is the active one, the entry at the
consumer index is ours, and the event is under way. -/
def Abortable (s : TxSystem) : Prop :=
  s.activeIsOurs = true ∧ s.programIsOurs true = true ∧
    (s.tx.result.phase = .active ∨ s.tx.result.phase = .aborting)

theorem checks_all (h : s.abortChecks = 3) :
    s.activeIsOurs = true ∧ s.programIsOurs true = true := by
  unfold abortChecks at h
  cases hactive : s.activeIsOurs <;> cases hprogram : s.programIsOurs true <;>
    simp [hactive, hprogram] at h ⊢

theorem aborts_of_registers (h : t.registers = s.registers) : t.aborts = s.aborts :=
  congrArg (fun v : Registers => v.radioControl &&& radioAbort) h

theorem aborts_abortActive (hbefore : s.aborts = 0) (hafter : s.abortActive.aborts ≠ 0) :
    s.Abortable := by
  obtain ⟨-, he⟩ | ⟨-, -, he⟩ | ⟨hphase, hchecks, -⟩ := abortActive_cases (s := s)
  · rw [he] at hafter
    exact absurd hbefore hafter
  · rw [he] at hafter
    exact absurd hbefore hafter
  · obtain ⟨hactive, hprogram⟩ := checks_all hchecks
    exact ⟨hactive, hprogram, hphase⟩

/-- The abort bit is back as it was at home when the registers are. -/
theorem aborts_home (hclear : home.radioControl &&& radioAbort = 0) (h : s.registers.Lent home)
    (hout : s.tx.globalsSet = false) : s.aborts = 0 := by
  have hhome : s.mem.radioControl &&& (testEnable ||| radioAbort) =
      home.radioControl &&& (testEnable ||| radioAbort) :=
    h.enable.home fun ho => Bool.false_ne_true (hout.symm.trans ho)
  have hmask : (testEnable ||| radioAbort) &&& radioAbort = radioAbort := by decide
  have hboth := congrArg (· &&& radioAbort) hhome
  simp only [UInt32.and_assoc, hmask] at hboth
  exact hboth.trans hclear

theorem restoreGlobals_out : s.restoreGlobals.tx.globalsSet = false :=
  congrArg Wiring.out restoreGlobals_wiring

theorem Reported.abortable (h : Reported s t) (ht : t.Abortable) : s.Abortable := by
  obtain ⟨hactive, hprogram, hphase⟩ := ht
  rw [h.phase] at hphase
  unfold activeIsOurs at hactive
  unfold programIsOurs entryIsOurs at hprogram
  rw [h.rom] at hactive hprogram
  rw [h.tx] at hprogram
  exact ⟨hactive, hprogram, hphase⟩

theorem singleEnded_out (reason : UInt8) (a : FrameAnswers) :
    (s.singleEnded reason a).tx.globalsSet = false := by
  have hclosed : (s.singleClosed reason a).tx.globalsSet = false := by
    have hremoved (u : TxSystem) :
        (u.restoreGlobals.arbRemoveActive a.due).tx.globalsSet = false :=
      (congrArg Registers.out (arbRemoveActive_registers a.due)).trans restoreGlobals_out
    exact hremoved _
  unfold singleEnded
  dsimp only
  split
  · exact (congrArg Registers.out (queueFollowup_registers a)).trans hclosed
  · exact hclosed

theorem programEnded_aborts (role : TxRole) (reason : UInt8) (a : FrameAnswers)
    (hclear : home.radioControl &&& radioAbort = 0) (h : s.registers.Lent home)
    (hbefore : s.aborts = 0) : (s.programEnded role reason a).aborts = 0 := by
  have hafter := programEnded_registers role reason a h
  have hreceived : (if reason ≠ 4 then s.receiveOwned (roleActivity role) a.rx else s).aborts =
      0 := by
    split <;> exact hbefore
  revert hafter
  unfold programEnded
  dsimp only
  generalize (if reason ≠ 4 then s.receiveOwned (roleActivity role) a.rx else s) = t
    at hreceived ⊢
  split
  · intro _
    rw [aborts_of_registers (prequeuedEnded_registers role reason a)]
    exact hreceived
  · exact fun hafter => aborts_home hclear hafter (singleEnded_out reason a)

theorem frameDone_aborts (hs : UInt32) (context : TxContext) (reason : UInt8) (a : FrameAnswers)
    (hclear : home.radioControl &&& radioAbort = 0) (h : s.registers.Lent home)
    (hbefore : s.aborts = 0) (hafter : (s.frameDone hs context reason a).aborts ≠ 0) :
    s.Abortable := by
  revert hafter
  unfold frameDone
  dsimp only
  split
  · exact fun hafter => absurd hbefore hafter
  split
  · split
    · exact fun hafter => absurd hbefore hafter
    · exact fun hafter => absurd hbefore hafter
  split
  · exact fun hafter => absurd hbefore hafter
  split
  · intro hafter
    obtain ⟨t, ht, he | he⟩ := packetReceived_spec (s := s) (s.roleOf context) a
    · rw [he, aborts_of_registers ht.registers] at hafter
      exact absurd hbefore hafter
    · rw [he] at hafter
      exact ht.abortable (aborts_abortActive (aborts_of_registers ht.registers ▸ hbefore) hafter)
  split
  · exact fun hafter => absurd hbefore hafter
  split
  · exact fun hafter => absurd hbefore hafter
  · exact fun hafter => absurd (programEnded_aborts _ reason a hclear h hbefore) hafter

theorem reclaim_aborts : s.reclaim.2.aborts = s.aborts := by
  unfold reclaim
  split
  · rfl
  · exact congrArg (fun v : Registers => v.radioControl &&& radioAbort) releaseStorage_registers

theorem collect_aborts (a : CollectAnswers) (hclear : home.radioControl &&& radioAbort = 0)
    (hactive : s.Engaging) (h : s.registers.Lent home) (hbefore : s.aborts = 0)
    (hafter : (s.collect a).2.aborts ≠ 0) : s.Abortable := by
  revert hafter
  unfold collect
  split
  · exact fun hafter => absurd hbefore hafter
  intro hafter
  have hlate : (s.stopLate a).aborts ≠ 0 := by
    revert hafter
    unfold settle
    split
    · split
      · exact id
      split
      · exact id
      · -- given back, the control register has its bit from home
        rw [reclaim_aborts]
        intro hrestored
        have hlent : (s.stopLate a).registers.Lent home := by
          unfold stopLate
          split
          · exact abortActive_lent (s := s.stopRequested) hactive h
          · exact h
        refine absurd (aborts_home hclear (s := (s.stopLate a).restoreGlobals.arbRemoveActive a.due)
          ?_ ?_) hrestored
        · rw [arbRemoveActive_registers]
          exact restoreGlobals_lent hlent
        · exact (congrArg Registers.out (arbRemoveActive_registers a.due)).trans restoreGlobals_out
    · rw [reclaim_aborts]
      exact id
  unfold stopLate at hlate
  split at hlate
  · exact aborts_abortActive (s := s.stopRequested) hbefore hlate
  · exact absurd hbefore hlate

theorem begun_aborts (a : StartAnswers) : (s.begun B a).aborts = s.aborts := by
  have hglobals : (s.setGlobals B).aborts = s.aborts := by
    have hclear : ((s.mem.radioControl &&& ~~~testEnable) ||| 0) &&& radioAbort =
        s.mem.radioControl &&& radioAbort := masked_other _ (by decide) (by decide)
    rw [UInt32.or_zero] at hclear
    unfold aborts
    show (if s.sequenceBypass B then _ else _) &&& radioAbort = _
    split
    · refine Eq.trans ?_ hclear
      have hset : (((s.mem.radioControl &&& ~~~testEnable) &&& ~~~(0 : UInt32)) |||
          airSequenceBypassMask) &&& radioAbort =
          (s.mem.radioControl &&& ~~~testEnable) &&& radioAbort :=
        masked_other _ (by decide) (by decide)
      rwa [show ~~~(0 : UInt32) = -1 by decide, UInt32.and_neg_one] at hset
    · exact hclear
  have hpushed : (((s.setGlobals B).activated).pushPrograms a).aborts = s.aborts := by
    rw [aborts_of_registers (pushPrograms_registers a)]
    exact hglobals
  unfold begun
  dsimp only
  split
  · exact hpushed
  · exact hpushed

theorem started_aborts (a : StartAnswers) : (s.started B a).aborts = s.aborts := by
  unfold started
  split
  · exact aborts_of_registers (refuse_registers a.due)
  split
  · exact aborts_of_registers (refuse_registers a.due)
  dsimp only
  split
  · exact aborts_of_registers (arbRemoveActive_registers a.due)
  split
  next t ht =>
    rw [aborts_of_registers (refuse_registers a.due)]
    exact aborts_of_registers (selectAntennas_spec a (.inl ht)).registers
  next t ht =>
    rw [begun_aborts]
    exact aborts_of_registers (selectAntennas_spec a (.inr ht)).registers

theorem cleared_aborts : s.cleared.aborts = s.aborts :=
  rfl

theorem submit_aborts (r : RadioTxRequest) (a : SubmitAnswers) :
    (s.submit B r a).2.aborts = s.aborts := by
  have hlaid : aborts ⟨requestTx r a.payload s.rom s.mem, layout B r a.payload s.mem, s.rom,
      .taken a.payload :: s.payloads⟩ = s.aborts := by
    unfold aborts layout
    rfl
  unfold submit
  split
  · rfl
  split
  · rfl
  split
  · rfl
  dsimp only
  split
  · rfl
  split
  · rfl
  split
  · rw [cleared_aborts, aborts_of_registers releaseStorage_registers]
    exact hlaid
  · rw [aborts_of_registers (arbInsert_registers _)]
    exact hlaid

theorem cancel_aborts (removed : UInt8) (hbefore : s.aborts = 0)
    (hafter : (s.cancel removed).aborts ≠ 0) : s.Abortable := by
  revert hafter
  unfold cancel
  dsimp only
  split
  · split
    · split
      · exact fun hafter => absurd hbefore hafter
      · exact fun hafter => absurd hbefore hafter
    · exact fun hafter => absurd hbefore hafter
  split
  · split
    · exact fun hafter => absurd hbefore hafter
    · exact fun hafter => absurd hbefore hafter
  · exact fun hafter =>
      aborts_abortActive (s := s.onTx fun tx => { tx with followupPending := false }) hbefore hafter

theorem Sound.aborts_step (h : s.Sound home) (hclear : home.radioControl &&& radioAbort = 0)
    (hstep : Step B s act t) (hbefore : s.aborts = 0) (hafter : t.aborts ≠ 0) : s.Abortable := by
  cases hstep with
  | submit r a =>
      rw [submit_aborts] at hafter
      exact absurd hbefore hafter
  | cancel removed => exact cancel_aborts removed hbefore hafter
  | collect a => exact collect_aborts a hclear h.engaged.engaging h.registers hbefore hafter
  | start a _ _ =>
      rw [started_aborts] at hafter
      exact absurd hbefore hafter
  | cancelled _ =>
      unfold TxSystem.cancelled at hafter
      split at hafter
      · exact absurd hbefore hafter
      · exact absurd hbefore hafter
  | stopped => exact aborts_abortActive hbefore hafter
  | frame i reason a retired _ _ =>
      apply frameDone_aborts (s.rom.entries i).hs (s.rom.entries i).context reason a hclear
        h.registers hbefore
      split at hafter
      · exact hafter
      · exact hafter
  | retire i => exact absurd hbefore hafter
  | alarm now _ =>
      exact aborts_abortActive (s := s.alarmed.onTx fun tx => { tx with
        alarmSet := false
        result := { tx.result with
          deadlineFired := 1, deadlineHs := now.hs, deadlineHus := now.hus.toUInt16 } })
        hbefore hafter
  | beside rom mem _ hmem =>
      obtain habort | habort := hmem.abort
      · exact absurd (habort.trans hbefore) hafter
      · exact absurd habort.2 hafter

/-- The abort bit of the radio is set by nobody but the transmitter, and only while its own element
is the arbiter's active one and its own entry the one at the consumer index; it never outlasts
the event. -/
theorem abort_only_own {boot : TxSystem} {trace : List Action} (hboot : Boot boot)
    (hclear : boot.aborts = 0) (hrun : Run (Step B) boot trace s) :
    (s.aborts ≠ 0 → s.tx.globalsSet = true) ∧
      ∀ act t, Step B s act t → s.aborts = 0 → t.aborts ≠ 0 → s.Abortable := by
  have hsound := hboot.sound_run hrun
  refine ⟨fun hset => ?_, fun act t hstep => hsound.aborts_step hclear hstep⟩
  by_contra hout
  exact hset (aborts_home hclear hsound.registers (Bool.eq_false_of_not_eq_true hout))

theorem abort_only_own_plain : plainActive.Abortable :=
  (abort_only_own quiet_boot rfl plain_active_run).2 .stopped _ .stopped (by decide) (by decide)

end TxSystem

end UllReceiver.Radio
