import UllReceiver.Library.MaskedWord
import UllReceiver.Radio.TransmitterRun

/-!
# What the transmitter borrows

The control structures, descriptors, register fields and the payload buffer: taken with a request
or at its start, and each put back as it was.
-/

namespace UllReceiver.Radio

open Library

namespace TxSystem

variable {home : RadioMemory} {s : TxSystem} {B : TxBuild}

/-! ## Exchange memory -/

/-- The layout of the event in exchange memory, and what its release depends on. -/
structure Storage where
  out : Bool
  prequeued : Bool
  repeated : Bool
  followup : Bool
  phy : UInt8
  followupChannel : UInt8
  followupWindowUs : UInt16
  savedCs : CsBlock
  savedReplyCs : CsBlock
  savedStopCs : CsBlock
  savedDescriptor : TxDescriptor
  savedRepeatDescriptor : TxDescriptor
  offset : UInt16
  cs : CsBlock
  replyCs : CsBlock
  stopCs : CsBlock
  descriptor : TxDescriptor
  repeatDescriptor : TxDescriptor
  payload : List UInt8
  payloads : List (LedgerEntry UInt16)

def storage (s : TxSystem) : Storage where
  out := s.tx.storageSet
  prequeued := s.tx.prequeuedReply
  repeated := s.tx.repeatPayload
  followup := s.tx.followupActive
  phy := s.tx.phy
  followupChannel := s.tx.followupChannel
  followupWindowUs := s.tx.followupWindowUs
  savedCs := s.tx.savedCs
  savedReplyCs := s.tx.savedReplyCs
  savedStopCs := s.tx.savedStopCs
  savedDescriptor := s.tx.savedDescriptor
  savedRepeatDescriptor := s.tx.savedRepeatDescriptor
  offset := s.tx.payloadOffset
  cs := s.mem.cs
  replyCs := s.mem.replyCs
  stopCs := s.mem.stopCs
  descriptor := s.mem.descriptor
  repeatDescriptor := s.mem.repeatDescriptor
  payload := s.mem.payload
  payloads := s.payloads

structure Storage.Lent (home : RadioMemory) (v : Storage) : Prop where
  cs : OnLoan (v.out = true) home.cs v.savedCs v.cs
  replyCs : OnLoan (v.out = true ∧ v.prequeued = true) home.replyCs v.savedReplyCs v.replyCs
  stopCs : OnLoan (v.out = true ∧ v.repeated = true) home.stopCs v.savedStopCs v.stopCs
  descriptor : OnLoan (v.out = true) home.descriptor v.savedDescriptor v.descriptor
  repeatDescriptor : OnLoan (v.out = true ∧ v.repeated = true) home.repeatDescriptor
    v.savedRepeatDescriptor v.repeatDescriptor
  payload : outstanding v.payloads = some (if v.out then [v.offset] else [])

theorem Storage.Lent.held_one {v : Storage} (h : v.Lent home) (hout : v.out = true) :
    outstanding v.payloads = some [v.offset] := by
  rw [h.payload, hout]
  rfl

theorem Storage.Lent.held_none {v : Storage} (h : v.Lent home) (hout : v.out = false) :
    outstanding v.payloads = some [] := by
  rw [h.payload, hout]
  rfl

@[simp] theorem onResult_storage (f : TxResult → TxResult) : (s.onResult f).storage = s.storage :=
  rfl

@[simp] theorem onRom_storage (f : Scheduler → Scheduler) : (s.onRom f).storage = s.storage :=
  rfl

@[simp] theorem setPhase_storage (phase : RadioTxPhase) :
    (s.setPhase phase).storage = s.storage :=
  rfl

@[simp] theorem faulted_storage (detail : UInt8) : (s.faulted detail).storage = s.storage :=
  rfl

@[simp] theorem arbInsert_storage (status : UInt8) : (s.arbInsert status).storage = s.storage := by
  unfold arbInsert
  split <;> rfl

@[simp] theorem arbRemoveActive_storage (due : Bool) :
    (s.arbRemoveActive due).storage = s.storage := by
  unfold arbRemoveActive
  split <;> rfl

@[simp] theorem refuse_storage (due : Bool) : (s.refuse due).storage = s.storage :=
  arbRemoveActive_storage due

@[simp] theorem restoreGlobals_storage : s.restoreGlobals.storage = s.storage := by
  unfold restoreGlobals
  split <;> rfl

@[simp] theorem setGlobals_storage : (s.setGlobals B).storage = s.storage :=
  rfl

@[simp] theorem abortActive_storage : s.abortActive.storage = s.storage := by
  unfold abortActive
  split
  · rfl
  · split <;> rfl

@[simp] theorem clearAlarm_storage : s.clearAlarm.storage = s.storage := by
  unfold clearAlarm
  split <;> rfl

@[simp] theorem closed_storage (reason : UInt8) (a : FrameAnswers) :
    (s.closed reason a).storage = s.storage :=
  rfl

@[simp] theorem noteEnded_storage (role : TxRole) (reason : UInt8) (a : FrameAnswers) :
    (s.noteEnded role reason a).storage = s.storage := by
  cases role <;> rfl

@[simp] theorem deadline_storage (now : RadioTime) : (s.deadline now).storage = s.storage :=
  abortActive_storage

@[simp] theorem receiveOwned_storage (activity : UInt8) (a : RxAnswers) :
    (s.receiveOwned activity a).storage = s.storage :=
  rfl

@[simp] theorem progPush_storage (a : PushAnswer) (p : TxProgram) :
    (s.progPush a p).storage = s.storage :=
  rfl

@[simp] theorem packetReceived_storage (role : TxRole) (a : FrameAnswers) :
    (s.packetReceived role a).storage = s.storage := by
  unfold packetReceived
  dsimp only
  split
  · rfl
  split
  · split
    · exact abortActive_storage
    · exact abortActive_storage
  · rfl

@[simp] theorem prequeuedEnded_storage (role : TxRole) (reason : UInt8) (a : FrameAnswers) :
    (s.prequeuedEnded role reason a).storage = s.storage := by
  unfold prequeuedEnded
  dsimp only
  split
  · rw [noteEnded_storage]
  · rw [closed_storage, clearAlarm_storage, noteEnded_storage]

@[simp] theorem singleClosed_storage (reason : UInt8) (a : FrameAnswers) :
    (s.singleClosed reason a).storage = s.storage := by
  unfold singleClosed
  dsimp only
  rw [closed_storage, arbRemoveActive_storage, restoreGlobals_storage]
  exact clearAlarm_storage

@[simp] theorem pushStop_storage (a : StartAnswers) : (s.pushStop a).storage = s.storage := by
  unfold pushStop
  dsimp only
  split
  · rfl
  · split <;> rfl

@[simp] theorem pushReply_storage (a : StartAnswers) : (s.pushReply a).storage = s.storage := by
  unfold pushReply
  dsimp only
  split
  · rfl
  · split
    · rfl
    · split
      · exact pushStop_storage a
      · rfl

@[simp] theorem pushPrograms_storage (a : StartAnswers) :
    (s.pushPrograms a).storage = s.storage := by
  unfold pushPrograms
  dsimp only
  split
  · rfl
  · split
    · exact pushReply_storage a
    · rfl

@[simp] theorem cancelled_storage : s.cancelled.storage = s.storage := by
  unfold cancelled
  split <;> rfl

@[simp] theorem stopped_storage : s.stopped.storage = s.storage :=
  abortActive_storage

@[simp] theorem cancel_storage (removed : UInt8) : (s.cancel removed).storage = s.storage := by
  unfold cancel
  dsimp only
  split
  · split
    · split <;> rfl
    · rfl
  split
  · split <;> rfl
  · rw [abortActive_storage]
    rfl

/-- `t` differs from `s` only in control structures that the request uses. -/
structure Rewritten (s t : TxSystem) : Prop where
  tx : t.tx = s.tx
  rom : t.rom = s.rom
  payloads : t.payloads = s.payloads
  mem : t.mem = { s.mem with cs := t.mem.cs, replyCs := t.mem.replyCs, stopCs := t.mem.stopCs }
  replyCs : s.tx.prequeuedReply = false → t.mem.replyCs = s.mem.replyCs
  stopCs : s.tx.repeatPayload = false → t.mem.stopCs = s.mem.stopCs

theorem Rewritten.refl : Rewritten s s :=
  ⟨rfl, rfl, rfl, rfl, fun _ => rfl, fun _ => rfl⟩

theorem Rewritten.trans {t u : TxSystem} (h : Rewritten s t) (k : Rewritten t u) :
    Rewritten s u where
  tx := k.tx.trans h.tx
  rom := k.rom.trans h.rom
  payloads := k.payloads.trans h.payloads
  mem := by rw [k.mem, h.mem]
  replyCs := fun hr => (k.replyCs (h.tx ▸ hr)).trans (h.replyCs hr)
  stopCs := fun hr => (k.stopCs (h.tx ▸ hr)).trans (h.stopCs hr)

theorem firstFormat_rewritten (a : StartAnswers) : Rewritten s (s.firstFormat a) :=
  ⟨rfl, rfl, rfl, rfl, fun _ => rfl, fun _ => rfl⟩

theorem replyFormat_rewritten (a : StartAnswers) : Rewritten s (s.replyFormat a) := by
  unfold replyFormat
  dsimp only
  split
  next hreply => exact ⟨rfl, rfl, rfl, rfl, fun hn => absurd hreply (by simp [hn]), fun _ => rfl⟩
  next => exact .refl

theorem stopFormat_rewritten (a : StartAnswers) : Rewritten s (s.stopFormat a) := by
  unfold stopFormat
  split
  next hstop => exact ⟨rfl, rfl, rfl, rfl, fun _ => rfl, fun hn => absurd hstop (by simp [hn])⟩
  next => exact .refl

/-- Whatever the outcome, only control structures have been written. -/
theorem selectAntennas_spec (a : StartAnswers) {t : TxSystem}
    (h : s.selectAntennas a = .error t ∨ s.selectAntennas a = .ok t) : Rewritten s t := by
  unfold selectAntennas at h
  split at h
  · obtain h | h := h
    · cases h
      exact .refl
    · cases h
  split at h
  · obtain h | h := h
    · cases h
      exact firstFormat_rewritten a
    · cases h
  have hreply := (firstFormat_rewritten (s := s) a).trans (replyFormat_rewritten a)
  split at h
  · obtain h | h := h
    · cases h
      exact hreply
    · cases h
  · obtain h | h := h
    · cases h
    · cases h
      exact hreply.trans (stopFormat_rewritten a)

theorem Storage.Lent.writeCs {v : Storage} (h : v.Lent home) (hout : v.out = true)
    (cs : CsBlock) (followup : Bool) : Storage.Lent home { v with cs, followup } :=
  { h with cs := h.cs.write hout cs }

theorem Rewritten.lent {t : TxSystem} (h : Rewritten s t) (hout : s.tx.storageSet = true)
    (hlent : s.storage.Lent home) : t.storage.Lent home := by
  have hstorage : t.storage = { s.storage with
      cs := t.mem.cs, replyCs := t.mem.replyCs, stopCs := t.mem.stopCs } := by
    unfold storage
    rw [h.tx, h.payloads, h.mem]
  rw [hstorage]
  refine ⟨hlent.cs.write hout _, ?_, ?_, hlent.descriptor, hlent.repeatDescriptor, hlent.payload⟩
  · cases hreply : s.tx.prequeuedReply with
    | true => exact hlent.replyCs.write ⟨hout, hreply⟩ _
    | false =>
        have hsame := h.replyCs hreply
        simp only [hsame]
        exact hlent.replyCs
  · cases hstop : s.tx.repeatPayload with
    | true => exact hlent.stopCs.write ⟨hout, hstop⟩ _
    | false =>
        have hsame := h.stopCs hstop
        simp only [hsame]
        exact hlent.stopCs

/-- A follow-up only rewrites the control structure of the event. -/
theorem layFollowup_storage (arb program : TxSpan) (alarmHs : UInt32) :
    (s.layFollowup arb program alarmHs).storage =
      { s.storage with cs := followupCs s.tx s.mem.cs, followup := true } :=
  rfl

theorem queueFollowup_lent (a : FrameAnswers) (hout : s.tx.storageSet = true)
    (h : s.storage.Lent home) : (s.queueFollowup a).storage.Lent home := by
  unfold queueFollowup
  dsimp only
  split
  · exact h
  · exact h
  · exact h
  next arb program alarmHs _ =>
    have hlaid := h.writeCs hout
      (followupCs (s.onTx fun tx => { tx with followupPending := false }).tx s.mem.cs) true
    split
    · show (arbInsert _ _).storage.Lent home
      rw [arbInsert_storage]
      exact hlaid
    · exact hlaid

theorem singleEnded_lent (reason : UInt8) (a : FrameAnswers) (hout : s.tx.storageSet = true)
    (h : s.storage.Lent home) : (s.singleEnded reason a).storage.Lent home := by
  have hsame := singleClosed_storage (s := s) reason a
  have hset : (s.singleClosed reason a).tx.storageSet = true :=
    (congrArg Storage.out hsame).trans hout
  rw [← hsame] at h
  unfold singleEnded
  dsimp only
  split
  · exact queueFollowup_lent a hset h
  · exact h

theorem programEnded_lent (role : TxRole) (reason : UInt8) (a : FrameAnswers)
    (hout : s.tx.storageSet = true) (h : s.storage.Lent home) :
    (s.programEnded role reason a).storage.Lent home := by
  have hset : (if reason ≠ 4 then s.receiveOwned (roleActivity role) a.rx else s).storage =
      s.storage := by
    split <;> rfl
  unfold programEnded
  dsimp only
  generalize (if reason ≠ 4 then s.receiveOwned (roleActivity role) a.rx else s) = t at hset ⊢
  rw [← hset] at h
  split
  · rw [prequeuedEnded_storage]
    exact h
  · exact singleEnded_lent reason a ((congrArg Storage.out hset).trans hout) h

theorem frameDone_lent (hs : UInt32) (context : TxContext) (reason : UInt8) (a : FrameAnswers)
    (hout : s.tx.storageSet = true) (h : s.storage.Lent home) :
    (s.frameDone hs context reason a).storage.Lent home := by
  unfold frameDone
  dsimp only
  split
  · exact h
  split
  · split <;> exact h
  split
  · exact h
  split
  · rw [packetReceived_storage]
    exact h
  split
  · exact h
  split
  · exact h
  · exact programEnded_lent _ reason a hout h

@[simp] theorem begun_storage (a : StartAnswers) : (s.begun B a).storage = s.storage := by
  have hpushed : (((s.setGlobals B).activated).pushPrograms a).storage = s.storage :=
    pushPrograms_storage a
  unfold begun
  dsimp only
  split
  · exact hpushed
  · exact hpushed

theorem startable_queued (h : s.startable = true) : s.tx.result.phase = .queued := by
  simp only [startable, Bool.and_eq_true, beq_iff_eq] at h
  tauto

theorem started_lent (a : StartAnswers)
    (hstored : s.tx.result.phase ≠ .idle → s.tx.storageSet = true) (h : s.storage.Lent home) :
    (s.started B a).storage.Lent home := by
  unfold started
  split
  · rw [refuse_storage]
    exact h
  next hstart =>
  have hphase := startable_queued (s := s) (by simpa using hstart)
  have hout : s.tx.storageSet = true := hstored (by rw [hphase]; decide)
  split
  · rw [refuse_storage]
    exact h
  dsimp only
  split
  · rw [setPhase_storage, arbRemoveActive_storage]
    exact h
  split
  next t ht =>
    rw [refuse_storage]
    exact (selectAntennas_spec a (.inl ht)).lent hout h
  next t ht =>
    rw [begun_storage]
    exact (selectAntennas_spec a (.inr ht)).lent hout h

/-- Released and cleared, everything is back in its place. -/
theorem released_lent (h : s.storage.Lent home) : s.releaseStorage.cleared.storage.Lent home := by
  have hnot : ¬(false = true) := Bool.false_ne_true
  have hneither (p : Prop) : ¬(false = true ∧ p) := fun hp => hnot hp.1
  unfold releaseStorage
  split
  next hout =>
    refine ⟨h.cs.giveBack hout hnot _, ?_, ?_, h.descriptor.giveBack hout hnot _, ?_, ?_⟩
    · refine .settled (hneither _) ?_
      show (if s.tx.prequeuedReply then s.tx.savedReplyCs else s.mem.replyCs) = home.replyCs
      split
      next hreply => exact h.replyCs.kept ⟨hout, hreply⟩
      next hreply => exact h.replyCs.home fun hp => hreply hp.2
    · refine .settled (hneither _) ?_
      show (if s.tx.repeatPayload then s.tx.savedStopCs else s.mem.stopCs) = home.stopCs
      split
      next hstop => exact h.stopCs.kept ⟨hout, hstop⟩
      next hstop => exact h.stopCs.home fun hp => hstop hp.2
    · refine .settled (hneither _) ?_
      show (if s.tx.repeatPayload then s.tx.savedRepeatDescriptor else s.mem.repeatDescriptor) =
        home.repeatDescriptor
      split
      next hstop => exact h.repeatDescriptor.kept ⟨hout, hstop⟩
      next hstop => exact h.repeatDescriptor.home fun hp => hstop hp.2
    · exact outstanding_given (h.held_one hout)
  next hout =>
    have hall (p : Prop) : ¬(s.tx.storageSet = true ∧ p) := fun hp => hout hp.1
    refine ⟨h.cs.forget hout hnot _, h.replyCs.forget (hall _) (hneither _) _,
      h.stopCs.forget (hall _) (hneither _) _, h.descriptor.forget hout hnot _,
      h.repeatDescriptor.forget (hall _) (hneither _) _,
      h.held_none (Bool.eq_false_of_not_eq_true hout)⟩

/-- What an accepted request takes is kept aside before it is written. -/
theorem laidOut_lent (r : RadioTxRequest) (payload : UInt16) (hout : s.tx.storageSet = false)
    (h : s.storage.Lent home) :
    Storage.Lent home (storage { s with
      payloads := .taken payload :: s.payloads
      tx := requestTx r payload s.rom s.mem
      mem := layout B r payload s.mem }) := by
  have hnot : ¬(s.tx.storageSet = true) := by simp [hout]
  have hneither (p : Prop) : ¬(s.tx.storageSet = true ∧ p) := fun hp => hnot hp.1
  refine ⟨h.cs.take hnot rfl _, h.replyCs.takeIf (hneither _) _ ?_ _ _,
    h.stopCs.takeIf (hneither _) _ ?_ _ _, h.descriptor.take hnot rfl _,
    h.repeatDescriptor.takeIf (hneither _) _ ?_ _ _, ?_⟩
  · simp [storage, requestTx]
  · simp [storage, requestTx]
  · simp [storage, requestTx]
  · exact outstanding_taken (h.held_none hout) payload

theorem submit_lent (r : RadioTxRequest) (a : SubmitAnswers)
    (hstored : s.tx.result.phase = .idle → s.tx.storageSet = false) (h : s.storage.Lent home) :
    (s.submit B r a).2.storage.Lent home := by
  unfold submit
  split
  · exact h
  split
  · exact h
  next hidle =>
  have hout : s.tx.storageSet = false := by
    apply hstored
    by_contra hphase
    exact hidle (.inl hphase)
  have hlaid := laidOut_lent (B := B) r a.payload hout h
  split
  · exact h
  dsimp only
  split
  · exact h
  split
  · exact h
  split
  · exact released_lent hlaid
  · rw [arbInsert_storage]
    exact hlaid

theorem reclaim_lent (h : s.storage.Lent home) : s.reclaim.2.storage.Lent home := by
  unfold reclaim
  split
  · exact h
  · exact released_lent h

@[simp] theorem stopLate_storage (a : CollectAnswers) : (s.stopLate a).storage = s.storage := by
  unfold stopLate
  split
  · exact abortActive_storage
  · rfl

theorem settle_lent (a : CollectAnswers) (h : s.storage.Lent home) :
    (s.settle a).2.storage.Lent home := by
  unfold settle
  split
  · split
    · exact h
    split
    · exact h
    · apply reclaim_lent
      rw [arbRemoveActive_storage, restoreGlobals_storage]
      exact h
  · exact reclaim_lent h

theorem collect_lent (a : CollectAnswers) (h : s.storage.Lent home) :
    (s.collect a).2.storage.Lent home := by
  unfold collect
  split
  · exact h
  · apply settle_lent
    rw [stopLate_storage]
    exact h

theorem unused_of_not {out used : Bool} (h : ¬(out = true ∧ used = true)) :
    out = false ∨ used = false := by
  cases out with
  | false => exact .inl rfl
  | true => exact .inr (by simpa using h)

/-- The radio counts and marks only what is out. -/
theorem beside_lent (rom : Scheduler) (mem : RadioMemory) (hmem : s.MemoryBeside mem)
    (h : s.storage.Lent home) : (storage { s with rom, mem }).Lent home where
  cs := h.cs.moved fun hn => hmem.csHome (Bool.eq_false_of_not_eq_true hn)
  replyCs := h.replyCs.moved fun hn => hmem.replyHome (unused_of_not hn)
  stopCs := h.stopCs.moved fun hn => hmem.stopHome (unused_of_not hn)
  descriptor := h.descriptor.moved fun hn =>
    hmem.descriptorHome (Bool.eq_false_of_not_eq_true hn)
  repeatDescriptor := h.repeatDescriptor.moved fun hn => hmem.repeatHome (unused_of_not hn)
  payload := h.payload

end TxSystem

end UllReceiver.Radio
