import UllReceiver.Radio.TransmitterLoans

/-! # The registers that the transmitter borrows -/

namespace UllReceiver.Radio

open Library

namespace TxSystem

variable {home : RadioMemory} {s : TxSystem} {B : TxBuild}

/-- What `tx_restore_globals` depends on. -/
structure Registers where
  out : Bool
  timingOut : Bool
  sequenceOut : Bool
  savedTestBits : UInt32
  savedEnable : UInt32
  savedRxTiming : UInt32
  savedSequenceFlags : UInt32
  rxTiming : UInt32
  testControl : UInt32
  radioControl : UInt32

def registers (s : TxSystem) : Registers where
  out := s.tx.globalsSet
  timingOut := s.tx.rxTimingSet
  sequenceOut := s.tx.sequenceFlagsSet
  savedTestBits := s.tx.savedTestBits
  savedEnable := s.tx.savedEnable
  savedRxTiming := s.tx.savedRxTiming
  savedSequenceFlags := s.tx.savedSequenceFlags
  rxTiming := s.mem.rxTiming
  testControl := s.mem.testControl
  radioControl := s.mem.radioControl

structure Registers.Lent (home : RadioMemory) (v : Registers) : Prop where
  rxTiming : OnLoan (v.timingOut = true) home.rxTiming v.savedRxTiming v.rxTiming
  test : OnLoan (v.out = true) (home.testControl &&& testBits) v.savedTestBits
    (v.testControl &&& testBits)
  enable : OnLoan (v.out = true) (home.radioControl &&& (testEnable ||| radioAbort)) v.savedEnable
    (v.radioControl &&& (testEnable ||| radioAbort))
  sequence : OnLoan (v.sequenceOut = true) (home.radioControl &&& airSequenceBypassMask)
    v.savedSequenceFlags (v.radioControl &&& airSequenceBypassMask)
  timing : v.timingOut = true → v.out = true
  flags : v.sequenceOut = true → v.out = true

/-! ## Calls that leave them alone -/

@[simp] theorem onResult_registers (f : TxResult → TxResult) :
    (s.onResult f).registers = s.registers :=
  rfl

@[simp] theorem setPhase_registers (phase : RadioTxPhase) :
    (s.setPhase phase).registers = s.registers :=
  rfl

@[simp] theorem followupStatus_registers (status : UInt8) :
    (s.followupStatus status).registers = s.registers :=
  rfl

@[simp] theorem faulted_registers (detail : UInt8) : (s.faulted detail).registers = s.registers :=
  rfl

@[simp] theorem arbInsert_registers (status : UInt8) :
    (s.arbInsert status).registers = s.registers := by
  unfold arbInsert
  split <;> rfl

@[simp] theorem arbRemoveActive_registers (due : Bool) :
    (s.arbRemoveActive due).registers = s.registers := by
  unfold arbRemoveActive
  split <;> rfl

@[simp] theorem refuse_registers (due : Bool) : (s.refuse due).registers = s.registers :=
  arbRemoveActive_registers due

@[simp] theorem clearAlarm_registers : s.clearAlarm.registers = s.registers := by
  unfold clearAlarm
  split <;> rfl

@[simp] theorem releaseStorage_registers : s.releaseStorage.registers = s.registers := by
  unfold releaseStorage
  split <;> rfl

@[simp] theorem noteEnded_registers (role : TxRole) (reason : UInt8) (a : FrameAnswers) :
    (s.noteEnded role reason a).registers = s.registers := by
  cases role <;> rfl

@[simp] theorem pushStop_registers (a : StartAnswers) :
    (s.pushStop a).registers = s.registers := by
  unfold pushStop
  dsimp only
  split
  · rfl
  · split <;> rfl

@[simp] theorem pushReply_registers (a : StartAnswers) :
    (s.pushReply a).registers = s.registers := by
  unfold pushReply
  dsimp only
  split
  · rfl
  · split
    · rfl
    · split
      · exact pushStop_registers a
      · rfl

@[simp] theorem pushPrograms_registers (a : StartAnswers) :
    (s.pushPrograms a).registers = s.registers := by
  unfold pushPrograms
  dsimp only
  split
  · rfl
  · split
    · exact pushReply_registers a
    · rfl

@[simp] theorem layFollowup_registers (arb program : TxSpan) (alarmHs : UInt32) :
    (s.layFollowup arb program alarmHs).registers = s.registers := by
  unfold layFollowup registers
  rfl

@[simp] theorem queueFollowup_registers (a : FrameAnswers) :
    (s.queueFollowup a).registers = s.registers := by
  unfold queueFollowup
  dsimp only
  split
  · rfl
  · rfl
  · rfl
  · split
    · rw [followupStatus_registers, arbInsert_registers, setPhase_registers,
        layFollowup_registers]
      rfl
    · rw [setPhase_registers, followupStatus_registers, layFollowup_registers]
      rfl

theorem Rewritten.registers {t : TxSystem} (h : Rewritten s t) : t.registers = s.registers := by
  unfold TxSystem.registers
  rw [h.tx, h.mem]

/-! ## The abort -/

/-- Either nothing happens, or the event is not ours any more, or the abort is commanded. -/
theorem abortActive_cases :
    (¬(s.tx.result.phase = .active ∨ s.tx.result.phase = .aborting) ∧ s.abortActive = s) ∨
    ((s.tx.result.phase = .active ∨ s.tx.result.phase = .aborting) ∧ s.abortChecks ≠ 3 ∧
      s.abortActive = s.onResult fun r => { r with
        abortChecks := s.abortChecks, faultDetail := 1, phase := .fault }) ∨
    ((s.tx.result.phase = .active ∨ s.tx.result.phase = .aborting) ∧ s.abortChecks = 3 ∧
      s.abortActive = s.commandAbort) := by
  unfold abortActive
  split
  next hphase =>
    refine .inl ⟨?_, rfl⟩
    rintro (h | h)
    · exact hphase.1 h
    · exact hphase.2 h
  next hphase =>
    have hours : s.tx.result.phase = .active ∨ s.tx.result.phase = .aborting := by tauto
    split
    next hchecks => exact .inr (.inl ⟨hours, hchecks, rfl⟩)
    next hchecks => exact .inr (.inr ⟨hours, not_not.mp hchecks, rfl⟩)

theorem commandAbort_registers : s.commandAbort.registers =
    { s.registers with radioControl := (s.mem.radioControl &&& ~~~testEnable) ||| radioAbort } :=
  rfl

/-- The abort only writes what is out, and leaves the sequence flags alone. -/
theorem commandAbort_lent (hout : s.tx.globalsSet = true) (h : s.registers.Lent home) :
    s.commandAbort.registers.Lent home := by
  have hsequence : ((s.mem.radioControl &&& ~~~testEnable) ||| radioAbort) &&&
      airSequenceBypassMask = s.mem.radioControl &&& airSequenceBypassMask :=
    masked_other _ (by decide) (by decide)
  rw [commandAbort_registers]
  refine { h with enable := h.enable.write hout _, sequence := h.sequence.moved fun _ => ?_ }
  exact hsequence

theorem abortActive_lent
    (hactive : s.tx.result.phase = .active ∨ s.tx.result.phase = .aborting →
      s.tx.globalsSet = true) (h : s.registers.Lent home) : s.abortActive.registers.Lent home := by
  obtain ⟨-, he⟩ | ⟨-, -, he⟩ | ⟨hphase, -, he⟩ := abortActive_cases (s := s)
  · rw [he]
    exact h
  · rw [he]
    exact h
  · rw [he]
    exact commandAbort_lent (hactive hphase) h

/-! ## Taken and given back -/

theorem startable_clear (h : s.startable = true) :
    s.mem.radioControl &&& (testEnable ||| radioAbort) = 0 := by
  simp only [startable, Bool.and_eq_true, beq_iff_eq] at h
  tauto

theorem setGlobals_lent (hclear : s.mem.radioControl &&& (testEnable ||| radioAbort) = 0)
    (hout : s.tx.globalsSet = false) (h : s.registers.Lent home) :
    (s.setGlobals B).registers.Lent home := by
  have hnot : ¬(s.tx.globalsSet = true) := by simp [hout]
  have htiming : ¬(s.tx.rxTimingSet = true) := fun ht => hnot (h.timing ht)
  have hflags : ¬(s.tx.sequenceFlagsSet = true) := fun hf => hnot (h.flags hf)
  have hcontrol : (s.mem.radioControl &&& ~~~testEnable) &&& airSequenceBypassMask =
      s.mem.radioControl &&& airSequenceBypassMask := by
    have hother : ((s.mem.radioControl &&& ~~~testEnable) ||| 0) &&& airSequenceBypassMask =
        s.mem.radioControl &&& airSequenceBypassMask := masked_other _ (by decide) (by decide)
    rwa [UInt32.or_zero] at hother
  have hsaved : s.mem.radioControl &&& testEnable = 0 := by
    have hboth : (s.mem.radioControl &&& (testEnable ||| radioAbort)) &&& testEnable = 0 := by
      rw [hclear, UInt32.zero_and]
    rwa [UInt32.and_assoc, show (testEnable ||| radioAbort) &&& testEnable = testEnable by decide]
      at hboth
  refine ⟨h.rxTiming.takeIf htiming _ ?_ _ _, h.test.take hnot rfl _, ?_, ?_, fun _ => rfl,
    fun _ => rfl⟩
  · show (s.tx.rxTimingSet || s.timingProbe B) = true ↔ s.timingProbe B = true
    simp [Bool.eq_false_of_not_eq_true htiming]
  · -- neither bit was set when the event started, so zero is what belongs there
    have hhome : s.mem.radioControl &&& (testEnable ||| radioAbort) =
        home.radioControl &&& (testEnable ||| radioAbort) := h.enable.home hnot
    exact ⟨fun _ => hsaved.trans (hclear.symm.trans hhome), fun hn => absurd rfl hn⟩
  · have hout' : (s.tx.sequenceFlagsSet || s.sequenceBypass B) = true ↔
        s.sequenceBypass B = true := by
      simp [Bool.eq_false_of_not_eq_true hflags]
    have htaken := (hcontrol ▸ h.sequence).takeIf hflags _ hout' s.tx.savedSequenceFlags
      (((s.mem.radioControl &&& ~~~testEnable) ||| airSequenceBypassMask) &&&
        airSequenceBypassMask)
    rwa [← apply_ite (· &&& airSequenceBypassMask)] at htaken

theorem restoreGlobals_lent (h : s.registers.Lent home) :
    s.restoreGlobals.registers.Lent home := by
  unfold restoreGlobals
  split
  next hout =>
    have hnot : ¬(false = true) := Bool.false_ne_true
    have htest : s.tx.savedTestBits = home.testControl &&& testBits := h.test.kept hout
    have henable : s.tx.savedEnable = home.radioControl &&& (testEnable ||| radioAbort) :=
      h.enable.kept hout
    have henableFits : s.tx.savedEnable &&& (testEnable ||| radioAbort) = s.tx.savedEnable := by
      rw [henable, masked_self]
    -- the control register before the sequence flags are put back
    have hcontrol := masked_write s.mem.radioControl henableFits
    have hcontrolFlags : ((s.mem.radioControl &&& ~~~(testEnable ||| radioAbort)) |||
        s.tx.savedEnable) &&& airSequenceBypassMask =
        s.mem.radioControl &&& airSequenceBypassMask :=
      masked_other _ (by decide) (masked_apart henableFits (by decide))
    refine ⟨.settled hnot ?_, .settled hnot ?_, .settled hnot ?_, .settled hnot ?_,
      fun ht => absurd ht hnot, fun hf => absurd hf hnot⟩
    · show (if s.tx.rxTimingSet then s.tx.savedRxTiming else s.mem.rxTiming) = home.rxTiming
      split
      next ht => exact h.rxTiming.kept ht
      next ht => exact h.rxTiming.home ht
    · rw [← htest]
      apply masked_write
      rw [htest, masked_self]
    · rw [← henable]
      show (if s.tx.sequenceFlagsSet then _ else _) &&& (testEnable ||| radioAbort) = _
      split
      next hf =>
        have hsequence : s.tx.savedSequenceFlags = home.radioControl &&& airSequenceBypassMask :=
          h.sequence.kept hf
        have hfits : s.tx.savedSequenceFlags &&& airSequenceBypassMask =
            s.tx.savedSequenceFlags := by
          rw [hsequence, masked_self]
        rw [masked_other _ (by decide) (masked_apart hfits (by decide))]
        exact hcontrol
      next => exact hcontrol
    · show (if s.tx.sequenceFlagsSet then _ else _) &&& airSequenceBypassMask = _
      split
      next hf =>
        have hsequence : s.tx.savedSequenceFlags = home.radioControl &&& airSequenceBypassMask :=
          h.sequence.kept hf
        rw [← hsequence]
        apply masked_write
        rw [hsequence, masked_self]
      next hf => exact hcontrolFlags.trans (h.sequence.home hf)
  next => exact h

/-- With nothing out, what was kept aside no longer matters. -/
theorem Registers.Lent.forget {v : Registers} (h : v.Lent home) (hout : v.out = false)
    (testBits enable rxTiming sequence : UInt32) :
    Registers.Lent home { v with
      timingOut := false, sequenceOut := false
      savedTestBits := testBits, savedEnable := enable, savedRxTiming := rxTiming
      savedSequenceFlags := sequence } := by
  have hnot : ¬(v.out = true) := by simp [hout]
  exact ⟨h.rxTiming.forget (fun ht => hnot (h.timing ht)) Bool.false_ne_true _,
    h.test.forget hnot hnot _, h.enable.forget hnot hnot _,
    h.sequence.forget (fun hf => hnot (h.flags hf)) Bool.false_ne_true _,
    fun ht => absurd ht Bool.false_ne_true, fun hf => absurd hf Bool.false_ne_true⟩

theorem cleared_registers (hout : s.tx.globalsSet = false) (h : s.registers.Lent home) :
    s.cleared.registers.Lent home := by
  have hforgotten := h.forget hout 0 0 0 0
  simp only [registers, hout] at hforgotten
  exact hforgotten

/-! ## The calls -/

/-- An event that is under way has its registers out. -/
def Engaging (s : TxSystem) : Prop :=
  s.tx.result.phase = .active ∨ s.tx.result.phase = .aborting → s.tx.globalsSet = true

/-- `t` differs from `s` in what is reported and in whether a follow-up is still wanted. -/
structure Reported (s t : TxSystem) : Prop where
  phase : t.tx.result.phase = s.tx.result.phase
  tx : t.tx = { s.tx with result := t.tx.result, followupPending := t.tx.followupPending }
  mem : t.mem = s.mem
  rom : t.rom = s.rom
  payloads : t.payloads = s.payloads
  pending : t.tx.followupPending = true → s.tx.followupPending = true

theorem receiveAll_phase (activity : UInt8) (capacity : UInt16) (readings : List RxReading)
    (r : TxResult) : (r.receiveAll activity capacity readings).phase = r.phase := by
  induction readings generalizing r with
  | nil => rfl
  | cons d ds ih =>
      rw [TxResult.receiveAll]
      split
      · rfl
      · rw [ih]
        unfold TxResult.received
        dsimp only
        split <;> rfl

theorem receiveOwned_reported (activity : UInt8) (a : RxAnswers) :
    Reported s (s.receiveOwned activity a) := by
  refine ⟨?_, rfl, rfl, rfl, rfl, id⟩
  unfold receiveOwned
  show (if a.known then _ else _ : TxResult).phase = _
  split
  · exact receiveAll_phase _ _ _ _
  · rfl

theorem Reported.trans {t u : TxSystem} (h : Reported s t) (k : Reported t u) : Reported s u where
  phase := k.phase.trans h.phase
  tx := by rw [k.tx, h.tx]
  mem := k.mem.trans h.mem
  rom := k.rom.trans h.rom
  payloads := k.payloads.trans h.payloads
  pending := fun hp => h.pending (k.pending hp)

theorem Reported.registers {t : TxSystem} (h : Reported s t) : t.registers = s.registers := by
  unfold TxSystem.registers
  rw [h.tx, h.mem]

/-- A received packet is reported, and may end the event. -/
theorem packetReceived_spec (role : TxRole) (a : FrameAnswers) :
    ∃ t, Reported s t ∧ (s.packetReceived role a = t ∨ s.packetReceived role a = t.abortActive) := by
  have hcalled : Reported s (s.onResult fun r => { r with rxCallbacks := r.rxCallbacks + 1 }) :=
    ⟨rfl, rfl, rfl, rfl, rfl, id⟩
  have hreceived := hcalled.trans (receiveOwned_reported (roleActivity role) a.rx)
  unfold packetReceived
  dsimp only
  generalize (s.onResult fun r => { r with rxCallbacks := r.rxCallbacks + 1 }).receiveOwned
    (roleActivity role) a.rx = t at hreceived ⊢
  split
  · exact ⟨t, hreceived, .inl rfl⟩
  split
  · split
    · have homitted : Reported t t.followupOmitted :=
        ⟨rfl, rfl, rfl, rfl, rfl, fun hp => absurd hp Bool.false_ne_true⟩
      exact ⟨_, hreceived.trans homitted, .inr rfl⟩
    · exact ⟨t, hreceived, .inr rfl⟩
  · exact ⟨t, hreceived, .inl rfl⟩

theorem packetReceived_registers (role : TxRole) (a : FrameAnswers) (hactive : s.Engaging)
    (h : s.registers.Lent home) : (s.packetReceived role a).registers.Lent home := by
  obtain ⟨t, hreported, he | he⟩ := packetReceived_spec (s := s) role a
  · rw [he, hreported.registers]
    exact h
  · rw [he]
    rw [← hreported.registers] at h
    refine abortActive_lent (fun hphase => ?_) h
    rw [hreported.phase] at hphase
    rw [hreported.tx]
    exact hactive hphase

theorem prequeuedEnded_registers (role : TxRole) (reason : UInt8) (a : FrameAnswers) :
    (s.prequeuedEnded role reason a).registers = s.registers := by
  unfold prequeuedEnded
  dsimp only
  split
  · exact noteEnded_registers role reason a
  · show (clearAlarm _).registers = _
    rw [clearAlarm_registers, noteEnded_registers]

theorem singleClosed_registers (reason : UInt8) (a : FrameAnswers) (h : s.registers.Lent home) :
    (s.singleClosed reason a).registers.Lent home := by
  unfold singleClosed
  dsimp only
  show (arbRemoveActive _ _).registers.Lent home
  rw [arbRemoveActive_registers]
  apply restoreGlobals_lent
  show s.clearAlarm.registers.Lent home
  rw [clearAlarm_registers]
  exact h

theorem singleEnded_registers (reason : UInt8) (a : FrameAnswers) (h : s.registers.Lent home) :
    (s.singleEnded reason a).registers.Lent home := by
  have hclosed := singleClosed_registers reason a h
  unfold singleEnded
  dsimp only
  split
  · rw [queueFollowup_registers]
    exact hclosed
  · exact hclosed

theorem programEnded_registers (role : TxRole) (reason : UInt8) (a : FrameAnswers)
    (h : s.registers.Lent home) : (s.programEnded role reason a).registers.Lent home := by
  have hreceived : (if reason ≠ 4 then s.receiveOwned (roleActivity role) a.rx else s).registers =
      s.registers := by
    split <;> rfl
  rw [← hreceived] at h
  unfold programEnded
  dsimp only
  generalize (if reason ≠ 4 then s.receiveOwned (roleActivity role) a.rx else s) = t at h ⊢
  split
  · rw [prequeuedEnded_registers]
    exact h
  · exact singleEnded_registers reason a h

theorem frameDone_registers (hs : UInt32) (context : TxContext) (reason : UInt8)
    (a : FrameAnswers) (hactive : s.Engaging) (h : s.registers.Lent home) :
    (s.frameDone hs context reason a).registers.Lent home := by
  unfold frameDone
  dsimp only
  split
  · exact h
  split
  · split <;> exact h
  split
  · exact h
  split
  · exact packetReceived_registers _ a hactive h
  split
  · exact h
  split
  · exact h
  · exact programEnded_registers _ reason a h

theorem begun_registers (a : StartAnswers)
    (hclear : s.mem.radioControl &&& (testEnable ||| radioAbort) = 0)
    (hout : s.tx.globalsSet = false) (h : s.registers.Lent home) :
    (s.begun B a).registers.Lent home := by
  have hpushed : (((s.setGlobals B).activated).pushPrograms a).registers.Lent home := by
    rw [pushPrograms_registers]
    exact setGlobals_lent hclear hout h
  unfold begun
  dsimp only
  split
  · exact hpushed
  · exact hpushed

theorem started_registers (a : StartAnswers)
    (hqueued : s.tx.result.phase = .queued → s.tx.globalsSet = false)
    (h : s.registers.Lent home) : (s.started B a).registers.Lent home := by
  unfold started
  split
  · rw [refuse_registers]
    exact h
  next hstart =>
  have hstartable : s.startable = true := by simpa using hstart
  split
  · rw [refuse_registers]
    exact h
  dsimp only
  split
  · rw [setPhase_registers, arbRemoveActive_registers]
    exact h
  split
  next t ht =>
    rw [refuse_registers, (selectAntennas_spec a (.inl ht)).registers]
    exact h
  next t ht =>
    have hspec := selectAntennas_spec a (.inr ht)
    apply begun_registers
    · rw [hspec.mem]
      exact startable_clear hstartable
    · rw [hspec.tx]
      exact hqueued (startable_queued hstartable)
    · rw [hspec.registers]
      exact h

theorem cancel_registers (removed : UInt8) (hactive : s.Engaging) (h : s.registers.Lent home) :
    (s.cancel removed).registers.Lent home := by
  unfold cancel
  dsimp only
  split
  · split
    · split <;> exact h
    · exact h
  split
  · split <;> exact h
  · exact abortActive_lent hactive h

theorem deadline_registers (now : RadioTime) (hactive : s.Engaging) (h : s.registers.Lent home) :
    (s.deadline now).registers.Lent home :=
  abortActive_lent hactive h

theorem laidOut_registers (r : RadioTxRequest) (payload : UInt16)
    (hout : s.tx.globalsSet = false) (h : s.registers.Lent home) :
    (registers { s with
      payloads := .taken payload :: s.payloads
      tx := requestTx r payload s.rom s.mem
      mem := layout B r payload s.mem }).Lent home := by
  have hforgotten := h.forget hout 0 0 0 0
  unfold registers at hforgotten ⊢
  unfold requestTx layout
  simp only [hout] at hforgotten
  exact hforgotten

theorem submit_registers (r : RadioTxRequest) (a : SubmitAnswers)
    (hidle : s.tx.result.phase = .idle → s.tx.globalsSet = false) (h : s.registers.Lent home) :
    (s.submit B r a).2.registers.Lent home := by
  unfold submit
  split
  · exact h
  split
  · exact h
  next hphase =>
  have hout : s.tx.globalsSet = false := by
    apply hidle
    by_contra hnot
    exact hphase (.inl hnot)
  have hlaid := laidOut_registers (B := B) r a.payload hout h
  split
  · exact h
  dsimp only
  split
  · exact h
  split
  · exact h
  split
  · apply cleared_registers
    · unfold releaseStorage
      split <;> rfl
    · rw [releaseStorage_registers]
      exact hlaid
  · rw [arbInsert_registers]
    exact hlaid

theorem reclaim_registers (h : s.registers.Lent home) : s.reclaim.2.registers.Lent home := by
  unfold reclaim
  split
  · exact h
  next hwaiting =>
    have hout : s.releaseStorage.tx.globalsSet = false := by
      have hsame := congrArg Registers.out (releaseStorage_registers (s := s))
      refine hsame.trans ?_
      refine Bool.eq_false_of_not_eq_true fun hset => ?_
      exact hwaiting (.inr (.inr (.inr (.inl hset))))
    apply cleared_registers hout
    rw [releaseStorage_registers]
    exact h

theorem settle_registers (a : CollectAnswers) (h : s.registers.Lent home) :
    (s.settle a).2.registers.Lent home := by
  unfold settle
  split
  · split
    · exact h
    split
    · exact h
    · apply reclaim_registers
      rw [arbRemoveActive_registers]
      exact restoreGlobals_lent h
  · exact reclaim_registers h

theorem collect_registers (a : CollectAnswers) (hactive : s.Engaging)
    (h : s.registers.Lent home) : (s.collect a).2.registers.Lent home := by
  unfold collect
  split
  · exact h
  · apply settle_registers
    unfold stopLate
    split
    · exact abortActive_lent (s := s.stopRequested) hactive h
    · exact h

/-- The radio ends the abort it was told to make, and nobody else writes these fields. -/
theorem beside_registers (rom : Scheduler) (mem : RadioMemory) (hmem : s.MemoryBeside mem)
    (h : s.registers.Lent home) : (registers { s with rom, mem }).Lent home where
  rxTiming := h.rxTiming.moved fun _ => hmem.rxTiming
  test := h.test.moved fun _ => hmem.test
  enable := h.enable.moved fun hn => by
    obtain habort | habort := hmem.abort
    · exact masked_union hmem.enable habort
    · exact absurd habort.1 hn
  sequence := h.sequence.moved fun _ => hmem.sequence
  timing := h.timing
  flags := h.flags

end TxSystem

end UllReceiver.Radio
