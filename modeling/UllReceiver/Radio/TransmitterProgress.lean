import UllReceiver.Radio.TransmitterSafe

/-!
# An event that is over is collected

Once the ROM has retired the entries of an event that has ended, was cancelled or was refused, the
next collection gives everything back: nothing of it is left that would keep it waiting for ever.
-/

namespace UllReceiver.Radio

open Library

namespace TxSystem

variable {s t : TxSystem} {B : TxBuild} {act : Action}

/-- Every program of a prequeued event has ended. -/
def Wiring.Finished (w : Wiring) : Prop :=
  w.prequeued = true ∧ w.firstEnded = true ∧ w.replyEnded = true ∧
    (w.repeated = true → w.stopEnded = true)

/-- What is left of an event that is over: `ull_radio_tx_collect` itself gives back the registers
and the slot of a prequeued one. -/
structure Wiring.Restful (phase : RadioTxPhase) (w : Wiring) : Prop where
  slot : w.queued = true → w.active ≠ .ours
  alarm : phase = .ended ∨ phase = .cancelled ∨ phase = .refused → w.alarmSet = false
  rest : phase = .ended ∨ phase = .cancelled ∨ phase = .refused →
    w.Finished ∨ w.out = false ∧ w.active ≠ .ours

def Restful (s : TxSystem) : Prop :=
  s.wiring.Restful s.tx.result.phase

/-- Nothing but the storage is out. -/
structure Wiring.Free (w : Wiring) : Prop where
  out : w.out = false
  alarm : w.alarmSet = false
  slot : w.active ≠ .ours

theorem Wiring.Free.restful {w : Wiring} (h : w.Free) (phase : RadioTxPhase) :
    w.Restful phase :=
  ⟨fun _ => h.slot, fun _ => h.alarm, fun _ => .inr ⟨h.out, h.slot⟩⟩

namespace Wiring.Restful

variable {phase next : RadioTxPhase} {w : Wiring}

/-- Nothing is asked of the phases in which the event is not over. -/
theorem other (h : w.Restful phase)
    (hnext : ¬(next = .ended ∨ next = .cancelled ∨ next = .refused)) : w.Restful next :=
  ⟨h.slot, fun hn => absurd hn hnext, fun hn => absurd hn hnext⟩

theorem fault (h : w.Restful phase) : w.Restful .fault :=
  h.other (by simp)

theorem aborting (h : w.Restful phase) : w.Restful .aborting :=
  h.other (by simp)

theorem active (h : w.Restful phase) : w.Restful .active :=
  h.other (by simp)

end Wiring.Restful

theorem restful_of_free (hout : s.tx.globalsSet = false) (halarm : s.tx.alarmSet = false)
    (hslot : s.rom.active ≠ .ours) : s.Restful :=
  Wiring.Free.restful ⟨hout, halarm, hslot⟩ _

theorem Restful.abortActive (h : s.Restful) : s.abortActive.Restful := by
  obtain ⟨-, he⟩ | ⟨-, -, he⟩ | ⟨-, -, he⟩ := abortActive_cases (s := s)
  · rw [he]
    exact h
  · rw [he]
    exact Wiring.Restful.fault h
  · rw [he]
    exact Wiring.Restful.aborting h

theorem Restful.faulted (h : s.Restful) (detail : UInt8) : (s.faulted detail).Restful :=
  Wiring.Restful.fault h

theorem Restful.reported (h : s.Restful) (ht : Reported s t) : t.Restful := by
  have hwiring : t.wiring = { s.wiring with pending := t.tx.followupPending } := by
    unfold wiring
    rw [ht.tx, ht.rom]
  unfold Restful
  rw [hwiring, ht.phase]
  exact ⟨h.slot, h.alarm, h.rest⟩

theorem Restful.retire (h : s.Restful) (i : Fin 16) : (s.retire i).Restful :=
  ⟨h.slot, h.alarm, h.rest⟩

/-! ## Callbacks -/

/-- Ended programs stay ended. -/
theorem noteEnded_finished (role : TxRole) (reason : UInt8) (a : FrameAnswers)
    (h : s.wiring.Finished) : (s.noteEnded role reason a).wiring.Finished := by
  obtain ⟨hprequeued, hfirst, hreply, hstop⟩ := h
  cases role with
  | first => exact ⟨hprequeued, rfl, hreply, hstop⟩
  | reply => exact ⟨hprequeued, hfirst, rfl, hstop⟩
  | stop => exact ⟨hprequeued, hfirst, hreply, fun _ => rfl⟩

theorem Restful.noteEnded (h : s.Restful) (role : TxRole) (reason : UInt8) (a : FrameAnswers) :
    (s.noteEnded role reason a).Restful := by
  have hphase := noteEnded_phase (s := s) role reason a
  have hwiring := noteEnded_wiring (s := s) role reason a
  have hfinished := noteEnded_finished (s := s) role reason a
  unfold Restful
  rw [hphase]
  refine ⟨?_, ?_, fun hover => (h.rest hover).imp hfinished ?_⟩
  · rw [hwiring]
    exact h.slot
  · rw [hwiring]
    exact h.alarm
  · rw [hwiring]
    exact id

theorem Restful.prequeuedEnded (h : s.Restful) (halarm : s.rom.alarm = s.tx.alarmSet)
    (role : TxRole) (reason : UInt8) (a : FrameAnswers) (hprequeued : s.tx.prequeuedReply = true) :
    (s.prequeuedEnded role reason a).Restful := by
  have hnoted := h.noteEnded role reason a
  have hwiring := noteEnded_wiring (s := s) role reason a
  unfold TxSystem.prequeuedEnded
  dsimp only
  generalize s.noteEnded role reason a = t at hnoted hwiring ⊢
  split
  · exact hnoted
  next hall =>
    have hfinished : t.wiring.Finished := by
      have hset : t.tx.prequeuedReply = true :=
        (congrArg Wiring.prequeued hwiring).trans hprequeued
      simp only [Bool.or_eq_true, Bool.and_eq_true, Bool.not_eq_true', not_or, not_and,
        Bool.not_eq_false] at hall
      exact ⟨hset, hall.1.1, hall.1.2, hall.2⟩
    have halarm' : t.rom.alarm = t.tx.alarmSet :=
      (congrArg Wiring.alarm hwiring).trans
        (halarm.trans (congrArg Wiring.alarmSet hwiring).symm)
    have hcleared := clearAlarm_wiring halarm'
    unfold Restful
    show Wiring.Restful _ t.clearAlarm.wiring
    rw [hcleared]
    exact ⟨hnoted.slot, fun _ => rfl, fun _ => .inl hfinished⟩

/-- The end of the only program gives everything but the storage back. -/
theorem singleClosed_free (reason : UInt8) (a : FrameAnswers)
    (halarm : s.rom.alarm = s.tx.alarmSet) : (s.singleClosed reason a).wiring.Free := by
  obtain ⟨active, hactive, hwiring⟩ := singleClosed_wiring (s := s) reason a halarm
  rw [hwiring]
  exact ⟨rfl, rfl, hactive⟩

theorem queueFollowup_free (a : FrameAnswers) (h : s.wiring.Free) :
    (s.queueFollowup a).wiring.Free := by
  have hdropped : (s.onTx fun tx => { tx with followupPending := false }).wiring.Free :=
    ⟨h.out, h.alarm, h.slot⟩
  unfold TxSystem.queueFollowup
  dsimp only
  split
  · exact hdropped
  · exact hdropped
  · exact hdropped
  next arb program alarmHs _ =>
    have hlaid := layFollowup_wiring (s := s.onTx fun tx => { tx with followupPending := false })
      arb program alarmHs
    generalize (s.onTx fun tx => { tx with followupPending := false }).layFollowup arb program
      alarmHs = t at hlaid ⊢
    have hfree : t.wiring.Free := by
      rw [hlaid]
      exact ⟨h.out, h.alarm, h.slot⟩
    split
    next hinserted =>
      rw [arbInsert, if_pos hinserted]
      exact ⟨hfree.out, hfree.alarm, hfree.slot⟩
    next => exact hfree

theorem singleEnded_free (reason : UInt8) (a : FrameAnswers)
    (halarm : s.rom.alarm = s.tx.alarmSet) : (s.singleEnded reason a).wiring.Free := by
  have hclosed := singleClosed_free reason a halarm
  unfold TxSystem.singleEnded
  dsimp only
  split
  · exact queueFollowup_free a hclosed
  · exact hclosed

theorem Restful.frameDone (h : s.Restful) (halarm : s.rom.alarm = s.tx.alarmSet) (hs : UInt32)
    (context : TxContext) (reason : UInt8) (a : FrameAnswers) :
    (s.frameDone hs context reason a).Restful := by
  unfold TxSystem.frameDone
  dsimp only
  split
  · exact Wiring.Restful.fault h
  split
  · split
    · exact h
    · exact h.faulted _
  split
  · exact h.faulted _
  split
  · obtain ⟨t, ht, he | he⟩ := packetReceived_spec (s := s) (s.roleOf context) a
    · rw [he]
      exact h.reported ht
    · rw [he]
      exact (h.reported ht).abortActive
  split
  · exact h
  split
  · exact h
  have hreceived : Reported s (if reason ≠ 4 then
      s.receiveOwned (roleActivity (s.roleOf context)) a.rx else s) := by
    split
    · exact receiveOwned_reported _ _
    · exact ⟨rfl, rfl, rfl, rfl, rfl, id⟩
  unfold programEnded
  dsimp only
  generalize (if reason ≠ 4 then s.receiveOwned (roleActivity (s.roleOf context)) a.rx else s) = t
    at hreceived ⊢
  have halarm' : t.rom.alarm = t.tx.alarmSet := by
    rw [hreceived.rom, hreceived.tx]
    exact halarm
  split
  next hprequeued => exact (h.reported hreceived).prequeuedEnded halarm' _ _ _ hprequeued
  next => exact (singleEnded_free reason a halarm').restful _

/-! ## The start -/

theorem Engaged.queued_free (h : s.Engaged) (hphase : s.tx.result.phase = .queued)
    (hslot : s.rom.active ≠ .ours) : s.wiring.Free := by
  obtain ⟨hout, -, halarm, -⟩ := h.waiting (.inr hphase)
  exact ⟨hout, halarm, hslot⟩

theorem refuse_free (due : Bool) (hout : s.tx.globalsSet = false) (halarm : s.tx.alarmSet = false) :
    (s.refuse due).wiring.Free := by
  obtain ⟨active, hactive, hwiring⟩ := arbRemoveActive_wiring (s := s) due
  show (s.arbRemoveActive due).wiring.Free
  rw [hwiring]
  exact ⟨hout, halarm, hactive⟩

theorem pushPrograms_queued (a : StartAnswers) :
    (s.pushPrograms a).rom.queued = s.rom.queued := by
  have hstop (t : TxSystem) : (t.pushStop a).rom.queued = t.rom.queued := by
    unfold pushStop
    dsimp only
    split
    · rfl
    · split <;> rfl
  have hreply (t : TxSystem) : (t.pushReply a).rom.queued = t.rom.queued := by
    unfold pushReply
    dsimp only
    split
    · rfl
    split
    · rfl
    split
    · exact hstop _
    · rfl
  unfold pushPrograms
  dsimp only
  split
  · rfl
  split
  · exact hreply _
  · rfl

/-- An event that has begun is under way or was lost, and its element is no longer queued. -/
theorem begun_restful (a : StartAnswers) (hqueued : s.rom.queued = false) :
    (s.begun B a).Restful := by
  have hphase := pushPrograms_phase (s := (s.setGlobals B).activated) a rfl
  have hpushed : (((s.setGlobals B).activated).pushPrograms a).rom.queued = false :=
    (pushPrograms_queued a).trans hqueued
  unfold begun
  dsimp only
  generalize ((s.setGlobals B).activated).pushPrograms a = t at hphase hpushed ⊢
  have hunder : ¬(t.tx.result.phase = .ended ∨ t.tx.result.phase = .cancelled ∨
      t.tx.result.phase = .refused) := by
    obtain hp | hp := hphase <;> simp [hp]
  split
  · exact ⟨fun hq => absurd (hpushed.symm.trans hq) Bool.false_ne_true,
      fun hover => absurd hover hunder, fun hover => absurd hover hunder⟩
  · exact ⟨fun hq => absurd (hpushed.symm.trans hq) Bool.false_ne_true,
      fun hover => absurd hover hunder, fun hover => absurd hover hunder⟩

theorem started_restful (a : StartAnswers) (hqueued : s.rom.queued = false)
    (hout : s.tx.globalsSet = false) (halarm : s.tx.alarmSet = false) :
    (s.started B a).Restful := by
  unfold started
  split
  · exact (refuse_free _ hout halarm).restful _
  split
  · exact (refuse_free _ hout halarm).restful _
  dsimp only
  split
  · obtain ⟨active, hactive, hwiring⟩ := arbRemoveActive_wiring (s :=
      (s.onTx fun tx => { tx with programIndex := s.rom.producer }).onResult fun r =>
        { r with faultDetail := 4 }) a.due
    unfold Restful
    show Wiring.Restful .fault (arbRemoveActive _ _).wiring
    rw [hwiring]
    exact Wiring.Free.restful ⟨hout, halarm, hactive⟩ _
  split
  next t ht =>
    have hspec := selectAntennas_spec a (.inl ht)
    refine (refuse_free _ ?_ ?_).restful _
    · rw [hspec.tx]
      exact hout
    · rw [hspec.tx]
      exact halarm
  next t ht =>
    have hspec := selectAntennas_spec a (.inr ht)
    apply begun_restful
    rw [hspec.rom]
    exact hqueued

/-! ## The task's calls -/

theorem cleared_restful (hslot : s.rom.active ≠ .ours) : s.cleared.Restful :=
  Wiring.Free.restful ⟨rfl, rfl, hslot⟩ _

theorem submit_restful (h : s.Engaged) (hrest : s.Restful) (r : RadioTxRequest)
    (a : SubmitAnswers) : (s.submit B r a).2.Restful := by
  unfold submit
  split
  · exact hrest
  split
  · exact hrest
  next hphase =>
  have hslot : s.rom.active ≠ .ours := h.slot (by
    by_contra hnot
    exact hphase (.inl hnot))
  split
  · exact hrest
  dsimp only
  split
  · exact hrest
  split
  · exact hrest
  split
  · apply cleared_restful
    rw [releaseStorage_rom]
    exact hslot
  next hinserted =>
    rw [arbInsert, if_pos (not_not.mp hinserted)]
    exact Wiring.Free.restful ⟨rfl, rfl, hslot⟩ _

theorem cancel_restful (h : s.Engaged) (hrest : s.Restful) (removed : UInt8) :
    (s.cancel removed).Restful := by
  have hreported : Reported s (s.onTx fun tx => { tx with followupPending := false }) :=
    ⟨rfl, rfl, rfl, rfl, rfl, fun hp => absurd hp Bool.false_ne_true⟩
  have hengaged := h.reported hreported
  have hdropped := hrest.reported hreported
  unfold cancel
  dsimp only
  generalize (s.onTx fun tx => { tx with followupPending := false }) = t at hengaged hdropped ⊢
  split
  next hphase =>
    have hremoved : (t.onRom fun rom => { rom with queued := false }).Restful :=
      ⟨fun hq => absurd hq Bool.false_ne_true, hdropped.alarm, hdropped.rest⟩
    split
    · split
      · exact hremoved
      next hactive =>
        have hslot : t.rom.active ≠ .ours := by
          intro ha
          exact hactive (by
            show (t.rom.active == .ours) = true
            rw [ha]
            rfl)
        -- taken from the queue before it was started, it has borrowed nothing yet
        have hfree := hengaged.queued_free hphase hslot
        exact restful_of_free hfree.out hfree.alarm hfree.slot
    · exact hdropped
  split
  · split
    · exact hdropped
    · exact hdropped.faulted 1
  · exact hdropped.abortActive

theorem reclaim_restful (h : s.Restful) : s.reclaim.2.Restful := by
  unfold reclaim
  split
  · exact h
  next hwaiting =>
    apply cleared_restful
    rw [releaseStorage_rom]
    intro ha
    exact hwaiting (.inr (.inr (.inr (.inr (.inr (.inl (by
      show (s.rom.active == .ours) = true
      rw [ha]
      rfl)))))))

theorem settle_restful (h : s.Engaged) (hfault : s.tx.result.phase ≠ .fault) (hrest : s.Restful)
    (a : CollectAnswers) : (s.settle a).2.Restful := by
  unfold settle
  split
  next hended =>
    obtain ⟨hprequeued, hfirst, hreply, hstop⟩ := programsEnded_flags hended
    have hphase := (h.ended hprequeued hfirst hreply hstop).resolve_right hfault
    split
    · exact hrest.faulted _
    split
    · exact hrest
    · apply reclaim_restful
      obtain ⟨active, hactive, hwiring⟩ := arbRemoveActive_wiring (s := s.restoreGlobals) a.due
      have hfree : (s.restoreGlobals.arbRemoveActive a.due).wiring.Free := by
        rw [hwiring, restoreGlobals_wiring]
        exact ⟨rfl, hrest.alarm (.inl hphase), hactive⟩
      exact hfree.restful _
  next => exact reclaim_restful hrest

theorem collect_restful (h : s.Engaged) (hrest : s.Restful) (a : CollectAnswers) :
    (s.collect a).2.Restful := by
  unfold collect
  split
  · exact hrest
  next hlost =>
    obtain ⟨hlate, hfault⟩ := h.stopLate (fun hp => hlost (.inl hp)) a
    refine settle_restful hlate hfault ?_ a
    unfold stopLate
    split
    · exact Restful.abortActive (s := s.stopRequested) hrest
    · exact hrest

theorem Restful.step (h : s.Engaged) (hrest : s.Restful) (hstep : Step B s act t) :
    t.Restful := by
  cases hstep with
  | submit r a => exact submit_restful h hrest r a
  | cancel removed => exact cancel_restful h hrest removed
  | collect a => exact collect_restful h hrest a
  | start a hqueued _ =>
      obtain ⟨hout, -, halarm, -⟩ := h.waiting (.inr (h.queued hqueued))
      exact started_restful (s := s.popped) a rfl hout halarm
  | cancelled hqueued =>
      have hphase : s.unlinked.tx.result.phase = .queued := h.queued hqueued
      have hfree := h.queued_free (h.queued hqueued) (hrest.slot hqueued)
      unfold TxSystem.cancelled
      rw [if_neg (not_not.mpr hphase)]
      exact restful_of_free hfree.out hfree.alarm hfree.slot
  | stopped => exact hrest.abortActive
  | frame i reason a retired _ _ =>
      have hcalled := hrest.frameDone h.alarm (s.rom.entries i).hs (s.rom.entries i).context
        reason a
      split
      · exact Restful.retire hcalled i
      · exact hcalled
  | retire i => exact hrest.retire i
  | alarm now _ =>
      have hremoved : (s.alarmed.onTx fun tx => { tx with
          alarmSet := false
          result := { tx.result with
            deadlineFired := 1, deadlineHs := now.hs, deadlineHus := now.hus.toUInt16 } }).Restful :=
        ⟨hrest.slot, fun _ => rfl, hrest.rest⟩
      exact hremoved.abortActive
  | beside rom mem hrom _ =>
      exact ⟨fun hq ha => hrest.slot (hrom.queued.symm.trans hq) (hrom.active ha), hrest.alarm,
        fun hover => (hrest.rest hover).imp id fun hfree =>
          ⟨hfree.1, fun ha => hfree.2 (hrom.active ha)⟩⟩

theorem Boot.restful_run {boot : TxSystem} {trace : List Action} (h : Boot boot)
    (hrun : Run (Step B) boot trace s) : s.Engaged ∧ s.Restful := by
  have hboot : boot.Restful := by
    unfold Restful wiring
    rw [h.tx]
    exact Wiring.Free.restful ⟨rfl, rfl, h.active⟩ _
  exact hrun.invariant_of_invariant _ _ h.sound.engaged (fun _ _ _ ht he => ht.step he) hboot
    fun _ _ _ ht hrest he => Restful.step ht hrest he

/-! ## The collection -/

theorem entryIsOurs_unused {index : UInt8} {p : TxProgram} (h : s.entryUsed index = false) :
    s.entryIsOurs index p false = false := by
  unfold entryUsed at h
  unfold entryIsOurs
  split
  next hlt =>
    rw [dif_pos hlt] at h
    simp [h]
  next => rfl

/-- Entries that are not used are nobody's. -/
theorem not_ours_of_unused (h : s.entriesUsed = false) : s.programIsOurs false = false := by
  simp only [entriesUsed, Bool.or_eq_false_iff, Bool.and_eq_false_iff] at h
  obtain ⟨⟨hfirst, hreply⟩, hstop⟩ := h
  unfold programIsOurs
  rw [entryIsOurs_unused hfirst, entryIsOurs_unused hreply]
  obtain hnone | hstop := hstop
  · simp [hnone]
  · simp [entryIsOurs_unused hstop]

theorem not_overtaken (h : s.entriesUsed = false) (hslot : s.rom.active ≠ .foreign) :
    s.overtaken = false := by
  simp only [entriesUsed, Bool.or_eq_false_iff, Bool.and_eq_false_iff] at h
  obtain ⟨⟨hfirst, hreply⟩, hstop⟩ := h
  have hforeign : (s.rom.active == .foreign) = false := beq_false_of_ne hslot
  unfold overtaken
  rw [hfirst, hreply, hforeign]
  obtain hnone | hstop := hstop
  · simp [hnone]
  · simp [hstop]

theorem reclaimed_of_free (hphase : s.tx.result.phase = .ended ∨ s.tx.result.phase = .cancelled ∨
      s.tx.result.phase = .refused) (hfree : s.wiring.Free)
    (hours : s.programIsOurs false = false) : ∃ r, s.reclaim.1 = .reclaimed r := by
  have hslot : s.activeIsOurs = false := beq_false_of_ne hfree.slot
  have hout : s.tx.globalsSet = false := hfree.out
  have halarm : s.tx.alarmSet = false := hfree.alarm
  unfold reclaim
  rw [if_neg]
  · exact ⟨_, rfl⟩
  · rw [hslot, hout, halarm, hours]
    obtain hp | hp | hp := hphase <;> simp [hp]

theorem stopperLate_phase {a : CollectAnswers} (h : s.stopperLate a = true) :
    s.tx.result.phase = .active ∨ s.tx.result.phase = .aborting := by
  simp only [stopperLate, Bool.and_eq_true, Bool.or_eq_true, beq_iff_eq] at h
  obtain ⟨⟨⟨⟨⟨-, hphase⟩, -⟩, -⟩, -⟩, -⟩ := h
  exact hphase

theorem programsEnded_of_finished (h : s.wiring.Finished) : s.programsEnded = true := by
  obtain ⟨hprequeued, hfirst, hreply, hstop⟩ := h
  have hset : s.tx.prequeuedReply = true := hprequeued
  have hfirst' : s.tx.firstEnded = true := hfirst
  have hreply' : s.tx.replyEnded = true := hreply
  unfold programsEnded
  rw [hset, hfirst', hreply']
  cases hrepeat : s.tx.repeatPayload with
  | false => rfl
  | true =>
      have hlast : s.tx.stopEnded = true := hstop hrepeat
      rw [hlast]
      rfl

theorem restored_unused (due : Bool) :
    (s.restoreGlobals.arbRemoveActive due).entriesUsed = s.entriesUsed := by
  have hremoved (t : TxSystem) : (t.arbRemoveActive due).entriesUsed = t.entriesUsed := by
    unfold arbRemoveActive
    split <;> rfl
  rw [hremoved]
  unfold restoreGlobals
  split <;> rfl

/-- An event that has ended, was cancelled or refused is collected by the next call once its
entries have retired, as long as the activities it was given are still there and nobody has taken
over its slot. -/
theorem collected_when_retired {boot : TxSystem} {trace : List Action} (hboot : Boot boot)
    (hrun : Run (Step B) boot trace s)
    (hover : s.tx.result.phase = .ended ∨ s.tx.result.phase = .cancelled ∨
      s.tx.result.phase = .refused)
    (hkept : s.parametersKept = true) (hretired : s.entriesUsed = false)
    (hslot : s.rom.active ≠ .foreign) (a : CollectAnswers) :
    ∃ r, (s.collect a).1 = .reclaimed r := by
  obtain ⟨-, hrest⟩ := hboot.restful_run hrun
  have hours := not_ours_of_unused hretired
  have hlate : s.stopLate a = s := by
    unfold stopLate
    rw [if_neg]
    intro hlate
    have hphase := stopperLate_phase hlate
    obtain hp | hp | hp := hover <;> simp [hp] at hphase
  have hlost : ¬(s.tx.result.phase = .fault ∨
      s.tx.storageSet = true ∧ (!s.parametersKept) = true) := by
    rw [hkept]
    obtain hp | hp | hp := hover <;> simp [hp]
  unfold collect
  rw [if_neg hlost, hlate]
  unfold settle
  split
  next hended =>
    rw [not_overtaken hretired hslot, hretired]
    -- the registers and the slot are given back on the way
    obtain ⟨active, hactive, hwiring⟩ := arbRemoveActive_wiring (s := s.restoreGlobals) a.due
    have hfree : (s.restoreGlobals.arbRemoveActive a.due).wiring.Free := by
      rw [hwiring, restoreGlobals_wiring]
      exact ⟨rfl, hrest.alarm hover, hactive⟩
    apply reclaimed_of_free _ hfree
    · exact not_ours_of_unused ((restored_unused a.due).trans hretired)
    · rw [arbRemoveActive_phase, restoreGlobals_phase]
      exact hover
  next hnot =>
    obtain hfinished | hfree := hrest.rest hover
    · exact absurd (programsEnded_of_finished hfinished) hnot
    · exact reclaimed_of_free hover ⟨hfree.1, hrest.alarm hover, hfree.2⟩ hours

theorem collected_when_retired_repeated :
    ∃ r, (repeatEnded.collect plainCollect).1 = .reclaimed r :=
  collected_when_retired quiet_boot repeat_run (by decide +kernel) (by decide +kernel)
    (by decide +kernel) (by decide +kernel) plainCollect

end TxSystem

end UllReceiver.Radio
