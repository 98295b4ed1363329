import UllReceiver.Radio.TransmitterSafe

/-!
# What is on the air is what was asked for

From the submission of a request to the return of its buffer, the control structures, descriptors
and the buffer hold what the request says; only the channel, the window and the direction of the
event change, and only when the follow-up is laid out.
-/

namespace UllReceiver.Radio

open Library

namespace TxSystem

variable {home : RadioMemory} {s t : TxSystem} {B : TxBuild} {act : Action}

/-! ## Words of a control structure -/

theorem csWord_putWords (words : List (Nat × UInt16)) (cs : CsBlock) {offset : Nat}
    (h : offset / 2 < 45) :
    csWord (putWords words cs) offset =
      (lastWrite (words.map fun word => (word.1 / 2, word.2)) (offset / 2)).getD
        (csWord cs offset) := by
  unfold csWord putWords
  rw [Vector.getElem?_eq_getElem h, Vector.getElem?_eq_getElem h, overlay_get _ _ h]
  rfl

/-- The control structure holds these words under their byte offsets. -/
def Reads (cs : CsBlock) (words : List (Nat × UInt16)) : Prop :=
  ∀ word ∈ words, csWord cs word.1 = word.2

theorem reads_cons {cs : CsBlock} {word : Nat × UInt16} {words : List (Nat × UInt16)} :
    Reads cs (word :: words) ↔ csWord cs word.1 = word.2 ∧ Reads cs words :=
  List.forall_mem_cons

theorem reads_nil {cs : CsBlock} : Reads cs [] ↔ True :=
  iff_of_true (fun _ hword => nomatch hword) trivial

/-- The offsets of the words that say what is sent and received. -/
def planOffsets : List Nat :=
  [2, 4, 12, 14, 16, 18, 22, 26, 28, 30, 32, 34, 36, 38, 40, 42]

/-- Link label, rates, access address and CRC, channel, window, descriptors and channel map. -/
def planWords (label : UInt16) (r : RadioTxRequest) (rate : UInt16) (channel : UInt8)
    (window descriptor : UInt16) : List (Nat × UInt16) :=
  [(2, 0x0800 ||| label), (4, rate), (12, r.accessAddress.toUInt16),
    (14, (r.accessAddress >>> 16).toUInt16), (16, r.crcInit.toUInt16),
    (18, (r.crcInit >>> 16).toUInt16), (22, channelWord channel), (26, window), (28, descriptor),
    (30, 0), (32, 0), (34, 0xffff), (36, 0xffff), (38, 0x001f), (40, 251), (42, 0)]

/-- The rate of the event's own packet and answer. -/
def eventRate (r : RadioTxRequest) : UInt16 :=
  if r.receiveUs ≠ 0 then receiveRate r.phy else transmitRate r.phy

def eventWindow (B : TxBuild) (r : RadioTxRequest) : UInt16 :=
  let window := if r.receiveUs ≠ 0 then r.receiveUs else r.txReceiveUs
  if window ≠ 0 then (window + 1) / 2 else B.syncWindow.toUInt16

/-- The channel and the window of a follow-up. -/
def followupTarget (r : RadioTxRequest) : UInt8 × UInt16 :=
  if r.followupDelayUs ≠ 0 then (r.followupChannel, r.followupWindowUs) else (0, 0)

/-- The first control structure, for the packet itself or for its follow-up. -/
def firstPlan (B : TxBuild) (r : RadioTxRequest) (followup : Bool) : List (Nat × UInt16) :=
  if followup then
    planWords 1 r (receiveRate r.phy) (followupTarget r).1 (((followupTarget r).2 + 1) / 2)
      descOffset
  else planWords 1 r (eventRate r) r.channel (eventWindow B r) descOffset

theorem firstPlan_words (B : TxBuild) (r : RadioTxRequest) (followup : Bool) :
    ∃ rate channel window,
      firstPlan B r followup = planWords 1 r rate channel window descOffset := by
  cases followup with
  | false => exact ⟨_, _, _, rfl⟩
  | true => exact ⟨_, _, _, rfl⟩

def replyPlan (r : RadioTxRequest) : List (Nat × UInt16) :=
  planWords 2 r (if r.repeatPayload ≠ 0 then eventRate r else receiveRate r.phy) r.followupChannel
    ((r.followupWindowUs + 1) / 2) (if r.repeatPayload ≠ 0 then repeatDescOffset else descOffset)

def stopPlan (r : RadioTxRequest) : List (Nat × UInt16) :=
  planWords 3 r (receiveRate r.phy) r.followupChannel 10 0

theorem plan_offset {label : UInt16} {r : RadioTxRequest} {rate : UInt16} {channel : UInt8}
    {window descriptor : UInt16} {word : Nat × UInt16}
    (h : word ∈ planWords label r rate channel window descriptor) : word.1 ∈ planOffsets := by
  have hmap : (planWords label r rate channel window descriptor).map Prod.fst = planOffsets := rfl
  rw [← hmap]
  exact List.mem_map_of_mem h

/-- Words outside the plan may be written at any time. -/
theorem Reads.beside {cs : CsBlock} {label : UInt16} {r : RadioTxRequest} {rate : UInt16}
    {channel : UInt8} {window descriptor : UInt16}
    (h : Reads cs (planWords label r rate channel window descriptor))
    {other : List (Nat × UInt16)}
    (hother : ∀ write ∈ other, ∀ offset ∈ planOffsets, write.1 / 2 ≠ offset / 2) :
    Reads (putWords other cs) (planWords label r rate channel window descriptor) := by
  intro word hword
  have hoffset := plan_offset hword
  have hbound : ∀ offset ∈ planOffsets, offset / 2 < 45 := by decide
  rw [csWord_putWords _ _ (hbound _ hoffset), lastWrite_eq_none]
  · exact h word hword
  · intro write hwrite
    obtain ⟨w, hw, rfl⟩ := List.mem_map.mp hwrite
    exact hother w hw word.1 hoffset

/-- Format and power are chosen at the start of an event. -/
theorem Reads.format {cs : CsBlock} {label : UInt16} {r : RadioTxRequest} {rate : UInt16}
    {channel : UInt8} {window descriptor : UInt16}
    (h : Reads cs (planWords label r rate channel window descriptor)) (format power : UInt16) :
    Reads (putWords [(0, format), (24, power)] cs)
      (planWords label r rate channel window descriptor) := by
  apply h.beside
  have hapart : ∀ offset ∈ planOffsets, 0 / 2 ≠ offset / 2 ∧ 24 / 2 ≠ offset / 2 := by decide
  intro write hwrite offset hoffset
  obtain ⟨hfirst, hsecond⟩ := hapart offset hoffset
  simp only [List.mem_cons, List.not_mem_nil, or_false] at hwrite
  obtain rfl | rfl := hwrite
  · exact hfirst
  · exact hsecond

/-- What the radio counts in a control structure is outside the plan. -/
theorem Reads.counted {before after : CsBlock} {label : UInt16} {r : RadioTxRequest}
    {rate : UInt16} {channel : UInt8} {window descriptor : UInt16}
    (h : Reads before (planWords label r rate channel window descriptor))
    (hsame : SameFields before after) :
    Reads after (planWords label r rate channel window descriptor) := by
  intro word hword
  have hbound : ∀ offset ∈ planOffsets, offset / 2 < 34 := by decide
  have hfield := hsame (word.1 / 2) (.inl (hbound _ (plan_offset hword)))
  rw [← h word hword]
  unfold csWord
  rw [hfield]

/-! ## The layout of a request -/

theorem layout_cs (r : RadioTxRequest) (cs : CsBlock) :
    Reads (putWords (csWords B r) cs) (firstPlan B r false) := by
  have hplan : firstPlan B r false =
      planWords 1 r (eventRate r) r.channel (eventWindow B r) descOffset := rfl
  rw [hplan]
  simp only [planWords, reads_cons, reads_nil, and_true]
  refine ⟨?_, ?_, ?_, ?_, ?_, ?_, ?_, ?_, ?_, ?_, ?_, ?_, ?_, ?_, ?_, ?_⟩ <;>
    (rw [csWord_putWords _ _ (by decide)]
     simp [csWords, lastWrite, counterOffsets, eventRate, eventWindow])

theorem layout_reply (r : RadioTxRequest) (cs : CsBlock) {first : CsBlock}
    (h : Reads first (firstPlan B r false)) :
    Reads (putWords (replyWords r first) cs) (replyPlan r) := by
  have hplan : firstPlan B r false =
      planWords 1 r (eventRate r) r.channel (eventWindow B r) descOffset := rfl
  rw [hplan] at h
  simp only [planWords, reads_cons, reads_nil, and_true] at h
  unfold replyPlan
  simp only [planWords, reads_cons, reads_nil, and_true]
  by_cases hrepeat : r.repeatPayload = 0
  · refine ⟨?_, ?_, ?_, ?_, ?_, ?_, ?_, ?_, ?_, ?_, ?_, ?_, ?_, ?_, ?_, ?_⟩ <;>
      (rw [csWord_putWords _ _ (by decide)]
       simp [replyWords, shared, sharedOffsets, lastWrite, hrepeat, h])
  · refine ⟨?_, ?_, ?_, ?_, ?_, ?_, ?_, ?_, ?_, ?_, ?_, ?_, ?_, ?_, ?_, ?_⟩ <;>
      (rw [csWord_putWords _ _ (by decide)]
       simp [replyWords, shared, sharedOffsets, lastWrite, hrepeat, h])

theorem layout_stop (r : RadioTxRequest) (cs : CsBlock) {first : CsBlock}
    (h : Reads first (firstPlan B r false)) :
    Reads (putWords (stopWords r first) cs) (stopPlan r) := by
  have hplan : firstPlan B r false =
      planWords 1 r (eventRate r) r.channel (eventWindow B r) descOffset := rfl
  rw [hplan] at h
  simp only [planWords, reads_cons, reads_nil, and_true] at h
  unfold stopPlan
  simp only [planWords, reads_cons, reads_nil, and_true]
  refine ⟨?_, ?_, ?_, ?_, ?_, ?_, ?_, ?_, ?_, ?_, ?_, ?_, ?_, ?_, ?_, ?_⟩ <;>
    (rw [csWord_putWords _ _ (by decide)]
     simp [stopWords, shared, sharedOffsets, lastWrite, h])

/-- The follow-up listens on its own channel; the rest of the plan stays. -/
theorem followup_cs (tx : Tx) (r : RadioTxRequest) {cs : CsBlock} {followup : Bool}
    (hphy : tx.phy = r.phy) (hchannel : tx.followupChannel = (followupTarget r).1)
    (hwindow : tx.followupWindowUs = (followupTarget r).2)
    (h : Reads cs (firstPlan B r followup)) :
    Reads (followupCs tx cs) (firstPlan B r true) := by
  have hafter : firstPlan B r true =
      planWords 1 r (receiveRate r.phy) (followupTarget r).1 (((followupTarget r).2 + 1) / 2)
        descOffset := rfl
  obtain ⟨rate, channel, window, hplan⟩ := firstPlan_words B r followup
  rw [hplan] at h
  rw [hafter]
  unfold followupCs
  simp only [planWords, reads_cons, reads_nil, and_true] at h ⊢
  refine ⟨?_, ?_, ?_, ?_, ?_, ?_, ?_, ?_, ?_, ?_, ?_, ?_, ?_, ?_, ?_, ?_⟩ <;>
    (rw [csWord_putWords _ _ (by decide)]
     simp [lastWrite, counterOffsets, hphy, hchannel, hwindow, h])

/-! ## The layout in every state -/

/-- The event of an accepted request as it stands in exchange memory. -/
structure Storage.Holds (B : TxBuild) (r : RadioTxRequest) (payload : UInt16) (v : Storage) :
    Prop where
  out : v.out = true
  offset : v.offset = payload
  prequeued : v.prequeued = decide (r.prequeuedReply ≠ 0)
  repeated : v.repeated = decide (r.repeatPayload ≠ 0)
  phy : v.phy = r.phy
  channel : v.followupChannel = (followupTarget r).1
  window : v.followupWindowUs = (followupTarget r).2
  bytes : v.payload = r.payload
  descriptor : SameContent (requestDescriptor r payload) v.descriptor
  repeatDescriptor : v.repeated = true → SameContent (requestDescriptor r payload) v.repeatDescriptor
  cs : Reads v.cs (firstPlan B r v.followup)
  replyCs : v.prequeued = true → Reads v.replyCs (replyPlan r)
  stopCs : v.repeated = true → Reads v.stopCs (stopPlan r)

/-- The event in exchange memory is the one that was asked for. -/
def InFlight (B : TxBuild) (r : RadioTxRequest) (payload : UInt16) (s : TxSystem) : Prop :=
  s.storage.Holds B r payload

variable {r : RadioTxRequest} {payload : UInt16}

theorem InFlight.of_storage (h : s.InFlight B r payload) (hsame : t.storage = s.storage) :
    t.InFlight B r payload := by
  unfold InFlight
  rw [hsame]
  exact h

/-- An accepted request is laid out. -/
theorem laidOut_inFlight (payload : UInt16) (rom : Scheduler) (mem : RadioMemory)
    (payloads : List (LedgerEntry UInt16)) :
    InFlight B r payload ⟨requestTx r payload rom mem, layout B r payload mem, rom, payloads⟩ := by
  have hcs := layout_cs (B := B) r mem.cs
  refine ⟨rfl, rfl, rfl, rfl, rfl, ?_, ?_, rfl, fun _ _ => rfl, fun hr => ?_, hcs, fun hp => ?_,
    fun hr => ?_⟩
  · unfold followupTarget
    split <;> simp_all [storage, requestTx]
  · unfold followupTarget
    split <;> simp_all [storage, requestTx]
  · have hrepeat : r.repeatPayload ≠ 0 := of_decide_eq_true hr
    show SameContent _ (if r.repeatPayload ≠ 0 then requestDescriptor r payload
      else mem.repeatDescriptor)
    rw [if_pos hrepeat]
    exact fun _ _ => rfl
  · have hprequeued : r.prequeuedReply ≠ 0 := of_decide_eq_true hp
    show Reads (if r.prequeuedReply ≠ 0 then putWords _ mem.replyCs else mem.replyCs) _
    rw [if_pos hprequeued]
    exact layout_reply r mem.replyCs hcs
  · have hrepeat : r.repeatPayload ≠ 0 := of_decide_eq_true hr
    show Reads (if r.repeatPayload ≠ 0 then putWords _ mem.stopCs else mem.stopCs) _
    rw [if_pos hrepeat]
    exact layout_stop r mem.stopCs hcs

/-! ## Steps -/

theorem InFlight.firstFormat (h : s.InFlight B r payload) (a : StartAnswers) :
    (s.firstFormat a).InFlight B r payload := by
  obtain ⟨rate, channel, window, hplan⟩ := firstPlan_words B r s.tx.followupActive
  have hcs : Reads s.mem.cs (firstPlan B r s.tx.followupActive) := h.cs
  refine { h with cs := ?_ }
  show Reads (putWords _ s.mem.cs) (firstPlan B r s.tx.followupActive)
  rw [hplan] at hcs ⊢
  exact hcs.format _ _

theorem InFlight.replyFormat (h : s.InFlight B r payload) (a : StartAnswers) :
    (s.replyFormat a).InFlight B r payload := by
  unfold TxSystem.replyFormat
  dsimp only
  split
  · exact { h with replyCs := fun hp => (h.replyCs hp).format _ _ }
  · exact h

theorem InFlight.stopFormat (h : s.InFlight B r payload) (a : StartAnswers) :
    (s.stopFormat a).InFlight B r payload := by
  unfold TxSystem.stopFormat
  split
  · exact { h with stopCs := fun hr => (h.stopCs hr).format _ _ }
  · exact h

theorem InFlight.selectAntennas (h : s.InFlight B r payload) (a : StartAnswers)
    (ht : s.selectAntennas a = .error t ∨ s.selectAntennas a = .ok t) :
    t.InFlight B r payload := by
  unfold TxSystem.selectAntennas at ht
  split at ht
  · obtain ht | ht := ht
    · cases ht
      exact h
    · cases ht
  split at ht
  · obtain ht | ht := ht
    · cases ht
      exact h.firstFormat a
    · cases ht
  split at ht
  · obtain ht | ht := ht
    · cases ht
      exact (h.firstFormat a).replyFormat a
    · cases ht
  · obtain ht | ht := ht
    · cases ht
    · cases ht
      exact ((h.firstFormat a).replyFormat a).stopFormat a

theorem InFlight.started (h : s.InFlight B r payload) (a : StartAnswers) :
    (s.started B a).InFlight B r payload := by
  unfold TxSystem.started
  split
  · exact h.of_storage (refuse_storage _)
  split
  · exact h.of_storage (refuse_storage _)
  dsimp only
  have hindexed : (s.onTx fun tx => { tx with programIndex := s.rom.producer }).InFlight B r
      payload := h.of_storage rfl
  split
  · exact h.of_storage (arbRemoveActive_storage _)
  split
  next t ht => exact (hindexed.selectAntennas a (.inl ht)).of_storage (refuse_storage _)
  next t ht => exact (hindexed.selectAntennas a (.inr ht)).of_storage (begun_storage _)

theorem InFlight.queueFollowup (h : s.InFlight B r payload) (a : FrameAnswers) :
    (s.queueFollowup a).InFlight B r payload := by
  have hdropped : (s.onTx fun tx => { tx with followupPending := false }).InFlight B r payload :=
    h.of_storage rfl
  unfold TxSystem.queueFollowup
  dsimp only
  generalize (s.onTx fun tx => { tx with followupPending := false }) = t at hdropped ⊢
  split
  · exact hdropped
  · exact hdropped
  · exact hdropped
  next arb program alarmHs _ =>
    have hlaid : (t.layFollowup arb program alarmHs).InFlight B r payload := by
      unfold InFlight
      rw [layFollowup_storage]
      exact { hdropped with
        cs := followup_cs t.tx r hdropped.phy hdropped.channel hdropped.window hdropped.cs }
    generalize t.layFollowup arb program alarmHs = u at hlaid ⊢
    split
    · exact hlaid.of_storage (arbInsert_storage _)
    · exact hlaid

theorem InFlight.frameDone (h : s.InFlight B r payload) (hs : UInt32) (context : TxContext)
    (reason : UInt8) (a : FrameAnswers) :
    (s.frameDone hs context reason a).InFlight B r payload := by
  -- the end of a single program may lay out the follow-up
  have hsingle (u : TxSystem) (hu : u.InFlight B r payload) :
      (u.singleEnded reason a).InFlight B r payload := by
    have hclosed := hu.of_storage (singleClosed_storage reason a)
    unfold singleEnded
    dsimp only
    generalize u.singleClosed reason a = v at hclosed ⊢
    split
    · apply InFlight.queueFollowup
      exact hclosed.of_storage rfl
    · exact hclosed
  unfold TxSystem.frameDone
  dsimp only
  split
  · exact h.of_storage rfl
  split
  · split
    · exact h
    · exact h.of_storage rfl
  split
  · exact h.of_storage rfl
  split
  · exact h.of_storage (packetReceived_storage _ _)
  split
  · exact h.of_storage rfl
  split
  · exact h
  have hreceived : (if reason ≠ 4 then s.receiveOwned (roleActivity (s.roleOf context)) a.rx
      else s).InFlight B r payload := by
    split
    · exact h.of_storage rfl
    · exact h
  unfold programEnded
  dsimp only
  generalize (if reason ≠ 4 then s.receiveOwned (roleActivity (s.roleOf context)) a.rx else s) = u
    at hreceived ⊢
  split
  · exact hreceived.of_storage (prequeuedEnded_storage _ _ _)
  · exact hsingle u hreceived

theorem SameContent.trans {a b c : TxDescriptor} (h : SameContent a b) (k : SameContent b c) :
    SameContent a c :=
  fun i hi => (k i hi).trans (h i hi)

theorem InFlight.beside (h : s.InFlight B r payload) (rom : Scheduler) (mem : RadioMemory)
    (hmem : s.MemoryBeside mem) : InFlight B r payload { s with rom, mem } := by
  obtain ⟨rate, channel, window, hplan⟩ := firstPlan_words B r s.tx.followupActive
  have hcs : Reads s.mem.cs (firstPlan B r s.tx.followupActive) := h.cs
  refine { h with
    bytes := hmem.payload.trans h.bytes
    descriptor := h.descriptor.trans hmem.descriptor
    repeatDescriptor := fun hr => (h.repeatDescriptor hr).trans hmem.repeatDescriptor
    cs := ?_
    replyCs := fun hp => (h.replyCs hp).counted hmem.replyCs
    stopCs := fun hr => (h.stopCs hr).counted hmem.stopCs }
  show Reads mem.cs (firstPlan B r s.tx.followupActive)
  rw [hplan] at hcs ⊢
  exact hcs.counted hmem.cs

/-! ## Until the storage is given back -/

/-- Unless it gives the storage back, a collection leaves it as it is. -/
theorem reclaim_kept (h : s.reclaim.2.tx.storageSet = true) :
    s.reclaim.2.storage = s.storage := by
  revert h
  unfold reclaim
  split
  · exact fun _ => rfl
  · exact fun h => absurd h Bool.false_ne_true

theorem collect_kept (a : CollectAnswers) (h : (s.collect a).2.tx.storageSet = true) :
    (s.collect a).2.storage = s.storage := by
  have hlate := stopLate_storage (s := s) a
  revert h
  unfold collect
  split
  · exact fun _ => rfl
  rw [← hlate]
  generalize s.stopLate a = u
  unfold settle
  split
  · split
    · exact fun _ => rfl
    split
    · exact fun _ => rfl
    · intro h
      rw [reclaim_kept h, arbRemoveActive_storage, restoreGlobals_storage]
  · exact reclaim_kept

/-- A step after which the transmitter still has its storage. -/
def HeldStep (B : TxBuild) (s : TxSystem) (act : Action) (t : TxSystem) : Prop :=
  Step B s act t ∧ t.tx.storageSet = true

theorem InFlight.step (h : s.InFlight B r payload) (hengaged : s.Engaged)
    (hstep : HeldStep B s act t) : t.InFlight B r payload := by
  obtain ⟨hstep, hheld⟩ := hstep
  cases hstep with
  | submit r' a =>
      have hout : s.tx.storageSet = true := h.out
      have hphase : s.tx.result.phase ≠ .idle := fun hp => by
        have hnone : s.tx.storageSet = false := hengaged.stored.mpr hp
        rw [hout] at hnone
        cases hnone
      rw [(submit_busy r' a hphase).2]
      exact h
  | cancel removed => exact h.of_storage (cancel_storage removed)
  | collect a => exact h.of_storage (collect_kept a hheld)
  | start a _ _ => exact InFlight.started (s := s.popped) h a
  | cancelled _ => exact h.of_storage cancelled_storage
  | stopped => exact h.of_storage stopped_storage
  | frame i reason a retired _ _ =>
      have hcalled := h.frameDone (s.rom.entries i).hs (s.rom.entries i).context reason a
      split
      · exact hcalled.of_storage rfl
      · exact hcalled
  | retire i => exact h.of_storage rfl
  | alarm now _ => exact h.of_storage (deadline_storage now)
  | beside rom mem _ hmem => exact h.beside rom mem hmem

theorem submit_inFlight {a : SubmitAnswers} (h : (s.submit B r a).1 = 0) :
    (s.submit B r a).2.InFlight B r a.payload := by
  have hinvalid : (0x12 : UInt8) ≠ 0 := by decide
  have hbusy : (0x0c : UInt8) ≠ 0 := by decide
  have hfull : (0x07 : UInt8) ≠ 0 := by decide
  have hexpired : timeExpired ≠ 0 := by decide
  have hconflict : scheduleConflict ≠ 0 := by decide
  have hlaid := laidOut_inFlight (B := B) (r := r) a.payload s.rom s.mem
    (.taken a.payload :: s.payloads)
  revert h
  unfold submit
  split
  · exact fun h => absurd h hinvalid
  split
  · exact fun h => absurd h hbusy
  split
  · exact fun h => absurd h hbusy
  dsimp only
  split
  · exact fun h => absurd h hexpired
  split
  · exact fun h => absurd h hfull
  split
  · exact fun h => absurd h hconflict
  · exact fun _ => hlaid.of_storage (arbInsert_storage _)

/-- From its acceptance until the storage is given back, whatever happens in between, the buffer
and the descriptors of the event hold the packet that was asked for, and its control structures
the link, the rates, the channels and the windows; the follow-up only changes the first of them,
to its own channel and window. -/
theorem in_flight {boot : TxSystem} {trace rest : List Action} (hboot : Boot boot)
    (hrun : Run (Step B) boot trace s) {a : SubmitAnswers} (haccepted : (s.submit B r a).1 = 0)
    (hrest : Run (HeldStep B) (s.submit B r a).2 rest t) : t.InFlight B r a.payload := by
  have hengaged := (hboot.sound_run hrun).engaged.submit (B := B) r a
  exact (hrest.invariant_of_invariant Engaged (InFlight B r a.payload) hengaged
    (fun _ _ _ hu hstep => hu.step hstep.1) (submit_inFlight haccepted)
    fun _ _ _ hu hflight hstep => hflight.step hu hstep).2

/-- All three programs have ended, and the storage is still out. -/
theorem in_flight_repeated :
    repeatEnded.InFlight (.stock 0) repeatRequest plainAnswers.payload :=
  in_flight quiet_boot .nil (by decide +kernel)
    ((((Run.single ⟨repeat_start, by decide +kernel⟩).snoc ⟨repeat_first, by decide +kernel⟩).snoc
      ⟨repeat_reply, by decide +kernel⟩).snoc ⟨repeat_stop, by decide +kernel⟩)

end TxSystem

end UllReceiver.Radio
