import UllReceiver.Library.Runs
import UllReceiver.Radio.Transmitter

/-!
# The transmitter under the ROM's scheduler

What the ROM may do with the element, the programs and the alarm that the transmitter hands it, in
any order with the calls of the controller task, and what holds in every state this leads to.
-/

namespace UllReceiver.Radio

open Library

namespace TxSystem

inductive Action
  | submit (r : RadioTxRequest) (a : SubmitAnswers)
  | cancel (removed : UInt8)
  | collect (a : CollectAnswers)
  /-- The arbiter starts our element. -/
  | start (a : StartAnswers)
  /-- The arbiter gives up our element before its start. -/
  | cancelled
  /-- The arbiter asks for the end of our event. -/
  | stopped
  /-- A callback for an entry; `retired` once the entry is no longer used when it returns. -/
  | frame (i : Fin 16) (reason : UInt8) (a : FrameAnswers) (retired : Bool)
  | retire (i : Fin 16)
  | alarm (now : RadioTime)
  /-- The rest of the controller and the radio itself. -/
  | beside (rom : Scheduler) (mem : RadioMemory)

/-- A control structure of which at most the counters differ. -/
def SameFields (before after : CsBlock) : Prop :=
  ∀ i : Nat, i < 34 ∨ 39 < i → after[i]? = before[i]?

/-- A descriptor of which at most the link word differs, which the radio marks as done. -/
def SameContent (before after : TxDescriptor) : Prop :=
  ∀ i : Nat, 0 < i → after[i]? = before[i]?

/-- What others do to exchange memory and registers.  The radio counts in the control structures
of an event and marks its descriptors, and it ends the abort it was told to make.  Nobody else
writes what the transmitter reserves. -/
structure MemoryBeside (s : TxSystem) (mem : RadioMemory) : Prop where
  cs : SameFields s.mem.cs mem.cs
  csHome : s.tx.storageSet = false → mem.cs = s.mem.cs
  replyCs : SameFields s.mem.replyCs mem.replyCs
  replyHome : s.tx.storageSet = false ∨ s.tx.prequeuedReply = false → mem.replyCs = s.mem.replyCs
  stopCs : SameFields s.mem.stopCs mem.stopCs
  stopHome : s.tx.storageSet = false ∨ s.tx.repeatPayload = false → mem.stopCs = s.mem.stopCs
  descriptor : SameContent s.mem.descriptor mem.descriptor
  descriptorHome : s.tx.storageSet = false → mem.descriptor = s.mem.descriptor
  repeatDescriptor : SameContent s.mem.repeatDescriptor mem.repeatDescriptor
  repeatHome : s.tx.storageSet = false ∨ s.tx.repeatPayload = false →
    mem.repeatDescriptor = s.mem.repeatDescriptor
  payload : mem.payload = s.mem.payload
  rxTiming : mem.rxTiming = s.mem.rxTiming
  test : mem.testControl &&& testBits = s.mem.testControl &&& testBits
  enable : mem.radioControl &&& testEnable = s.mem.radioControl &&& testEnable
  sequence : mem.radioControl &&& airSequenceBypassMask =
    s.mem.radioControl &&& airSequenceBypassMask
  abort : mem.radioControl &&& radioAbort = s.mem.radioControl &&& radioAbort ∨
    s.tx.globalsSet = true ∧ mem.radioControl &&& radioAbort = 0

/-- What others do to the scheduler: our element, our alarm and our entries are left alone, and
no other entry calls back into the transmitter. -/
structure SchedulerBeside (s : TxSystem) (rom : Scheduler) : Prop where
  queued : rom.queued = s.rom.queued
  alarm : rom.alarm = s.rom.alarm
  active : rom.active = .ours → s.rom.active = .ours
  entries : ∀ i, (s.rom.entries i).live → rom.entries i = s.rom.entries i
  others : ∀ i, ¬(s.rom.entries i).live → ¬(rom.entries i).live

/-- The entry is no longer used. -/
def retire (i : Fin 16) (s : TxSystem) : TxSystem :=
  s.onRom fun rom => { rom with
    entries := Function.update rom.entries i { rom.entries i with used := false } }

/-- The state after the ROM has made the element of the arbiter its active one. -/
def popped (s : TxSystem) : TxSystem :=
  s.onRom fun rom => { rom with queued := false, active := .ours }

/-- The state after the ROM has taken the element off its arbiter. -/
def unlinked (s : TxSystem) : TxSystem :=
  s.onRom fun rom => { rom with queued := false }

/-- The state after the ROM has removed the alarm that is due. -/
def alarmed (s : TxSystem) : TxSystem :=
  s.onRom fun rom => { rom with alarm := false }

/-- The callback of entry `i`. -/
def called (i : Fin 16) (reason : UInt8) (a : FrameAnswers) (s : TxSystem) : TxSystem :=
  s.frameDone (s.rom.entries i).hs (s.rom.entries i).context reason a

/-- One call of the task, one callback of the ROM, or one step of the others.  Callbacks are made
for what was handed over and is still out; an entry whose callback lays out the follow-up has
retired when the callback returns. -/
inductive Step (B : TxBuild) (s : TxSystem) : Action → TxSystem → Prop
  | submit (r a) : Step B s (.submit r a) (s.submit B r a).2
  | cancel (removed) : Step B s (.cancel removed) (s.cancel removed)
  | collect (a) : Step B s (.collect a) (s.collect a).2
  | start (a) : s.rom.queued = true → s.rom.active = .none →
      Step B s (.start a) (s.popped.started B a)
  | cancelled : s.rom.queued = true → Step B s .cancelled s.unlinked.cancelled
  | stopped : Step B s .stopped s.stopped
  | frame (i reason a retired) : (s.rom.entries i).live →
      ((s.called i reason a).tx.followupActive = true → s.tx.followupActive = false →
        retired = true) →
      Step B s (.frame i reason a retired)
        (if retired then (s.called i reason a).retire i else s.called i reason a)
  | retire (i) : Step B s (.retire i) (s.retire i)
  | alarm (now) : s.rom.alarm = true → Step B s (.alarm now) (s.alarmed.deadline now)
  | beside (rom mem) : s.SchedulerBeside rom → s.MemoryBeside mem →
      Step B s (.beside rom mem) { s with rom, mem }

/-- At boot: nothing has been handed over. -/
structure Boot (s : TxSystem) : Prop where
  tx : s.tx = .zero
  payloads : s.payloads = []
  queued : s.rom.queued = false
  active : s.rom.active ≠ .ours
  alarm : s.rom.alarm = false
  entries : ∀ i, ¬(s.rom.entries i).live

/-- What the transmitter reserves is as it was in `home`, no buffer is out, and nothing of the
transmitter is left in the scheduler. -/
structure Restored (home : RadioMemory) (s : TxSystem) : Prop where
  cs : s.mem.cs = home.cs
  replyCs : s.mem.replyCs = home.replyCs
  stopCs : s.mem.stopCs = home.stopCs
  descriptor : s.mem.descriptor = home.descriptor
  repeatDescriptor : s.mem.repeatDescriptor = home.repeatDescriptor
  rxTiming : s.mem.rxTiming = home.rxTiming
  test : s.mem.testControl &&& testBits = home.testControl &&& testBits
  enable : s.mem.radioControl &&& (testEnable ||| radioAbort) =
    home.radioControl &&& (testEnable ||| radioAbort)
  sequence : s.mem.radioControl &&& airSequenceBypassMask =
    home.radioControl &&& airSequenceBypassMask
  payloads : ∀ offset, s.payloads.count (.taken offset) = s.payloads.count (.given offset)
  queued : s.rom.queued = false
  active : s.rom.active ≠ .ours
  alarm : s.rom.alarm = false
  entries : ∀ i, ¬(s.rom.entries i).live

/-! ## Short runs -/

/-- The registers and exchange memory after the controller's own start. -/
def quietMemory : RadioMemory where
  cs := Vector.replicate 45 0
  replyCs := Vector.replicate 45 0
  stopCs := Vector.replicate 45 0
  descriptor := Vector.replicate 7 0
  repeatDescriptor := Vector.replicate 7 0
  payload := []
  rxTiming := 0x00020407
  testControl := 0
  radioControl := 0

/-- A scheduler with nothing in it, and the three activities ready. -/
def quietScheduler : Scheduler where
  queued := false
  active := .none
  entries := fun _ => { hs := 0, callback := .null, context := .none, used := false }
  consumer := 0
  producer := 0
  count := 0
  alarm := false
  parameters := fun _ => some 0x3fc90000
  progDelay := 3

def quiet : TxSystem where
  tx := .zero
  mem := quietMemory
  rom := quietScheduler
  payloads := []

def plainRequest : RadioTxRequest where
  startHs := 40
  startHus := 0
  accessAddress := 0x71764129
  crcInit := 0x555555
  payload := [1, 2, 3]
  channel := 7
  header := 1
  phy := 2
  receiveUs := 0
  txReceiveUs := 0
  followupDelayUs := 0
  followupWindowUs := 0
  followupChannel := 0
  prequeuedReply := 0
  repeatPayload := 0

def plainAnswers : SubmitAnswers where
  tablesKnown := true
  now := ⟨10, 0⟩
  payload := 0x3000
  inserted := 0

def plainStart : StartAnswers where
  antenna := fun _ => (0, 0)
  power := fun _ => 0
  push := fun _ => ⟨true, 1, 1⟩
  due := false

def plainFrame : FrameAnswers where
  firstEnd := ⟨41, 0⟩
  endTime := ⟨41, 0⟩
  now := ⟨41, 0⟩
  rx := ⟨true, 64, []⟩
  due := false
  inserted := 0

def plainQueued : TxSystem :=
  (quiet.submit (.stock 0) plainRequest plainAnswers).2

def plainActive : TxSystem :=
  plainQueued.popped.started (.stock 0) plainStart

/-- A stereo packet, sent twice and with the reply queued. -/
def repeatRequest : RadioTxRequest :=
  { plainRequest with
    payload := List.replicate 203 7, header := 0x30, followupDelayUs := 1420
    followupWindowUs := 150, followupChannel := 9, prequeuedReply := 1, repeatPayload := 1 }

/-- The three programs take the first entries. -/
def repeatStart : StartAnswers :=
  { plainStart with
    push := fun i => ⟨true, UInt8.ofNat (i.val + 1), UInt8.ofNat (i.val + 1)⟩ }

def repeatQueued : TxSystem :=
  (quiet.submit (.stock 0) repeatRequest plainAnswers).2

def repeatActive : TxSystem :=
  repeatQueued.popped.started (.stock 0) repeatStart

section

local instance twoContexts : NeZero 2 :=
  ⟨by decide⟩

/-- The first packet is sent, and its entry retired. -/
def repeatFirst : TxSystem :=
  (repeatActive.called 0 0 plainFrame).retire 0

def repeatReplied : TxSystem :=
  (repeatFirst.called 1 0 plainFrame).retire 1

/-- All three programs have ended, with their entries retired. -/
def repeatEnded : TxSystem :=
  (repeatReplied.called 2 0 plainFrame).retire 2

end

def plainCollect : CollectAnswers where
  now := ⟨50, 0⟩
  stopState := 0
  due := false

theorem quiet_boot : Boot quiet :=
  ⟨rfl, rfl, rfl, by decide, rfl, fun _ h => absurd h.1 Bool.false_ne_true⟩

theorem plain_active_run : Run (Step (.stock 0)) quiet
    [.submit plainRequest plainAnswers, .start plainStart] plainActive :=
  Run.snoc (Run.single (.submit plainRequest plainAnswers))
    (.start plainStart (by rfl) (by rfl))

theorem repeat_start : Step (.stock 0) repeatQueued (.start repeatStart) repeatActive :=
  .start repeatStart (by decide +kernel) (by decide +kernel)

theorem repeat_first : Step (.stock 0) repeatActive (.frame 0 0 plainFrame true) repeatFirst :=
  .frame 0 0 plainFrame true (by decide +kernel) fun _ _ => rfl

theorem repeat_reply : Step (.stock 0) repeatFirst (.frame 1 0 plainFrame true) repeatReplied :=
  .frame 1 0 plainFrame true (by decide +kernel) fun _ _ => rfl

theorem repeat_stop : Step (.stock 0) repeatReplied (.frame 2 0 plainFrame true) repeatEnded :=
  .frame 2 0 plainFrame true (by decide +kernel) fun _ _ => rfl

theorem repeat_rest : Run (Step (.stock 0)) repeatQueued
    [.start repeatStart, .frame 0 0 plainFrame true, .frame 1 0 plainFrame true,
      .frame 2 0 plainFrame true] repeatEnded :=
  (((Run.single repeat_start).snoc repeat_first).snoc repeat_reply).snoc repeat_stop

theorem repeat_run : Run (Step (.stock 0)) quiet
    [.submit repeatRequest plainAnswers, .start repeatStart, .frame 0 0 plainFrame true,
      .frame 1 0 plainFrame true, .frame 2 0 plainFrame true] repeatEnded :=
  (Run.single (.submit repeatRequest plainAnswers)).append repeat_rest

end TxSystem

end UllReceiver.Radio
