import UllReceiver.Radio.TransmitterRegisters

/-!
# What the transmitter has in the scheduler

What a phase promises about the element, the alarm and the registers; and that, short of a fault,
each entry that calls back into the transmitter is one that it still knows to be its own.
-/

namespace UllReceiver.Radio

open Library

/-- The entry holds this program. -/
def ProgramEntry.Holds (e : ProgramEntry) (p : TxProgram) : Prop :=
  e.used = true ∧ e.callback = p.callback ∧ e.context = p.context ∧ e.hs = p.span.hs

/-- Every live entry holds one of the programs, at the index that goes with it. -/
def Covered (roles : List (UInt8 × TxProgram)) (entries : Fin 16 → ProgramEntry) : Prop :=
  ∀ i, (entries i).live → ∃ role ∈ roles, role.1.toNat = i.val ∧ (entries i).Holds role.2

theorem Covered.mono {roles more : List (UInt8 × TxProgram)} {entries : Fin 16 → ProgramEntry}
    (h : Covered roles entries) (hsub : ∀ role ∈ roles, role ∈ more) : Covered more entries := by
  intro i hlive
  obtain ⟨role, hrole, hheld⟩ := h i hlive
  exact ⟨role, hsub role hrole, hheld⟩

/-- A pushed program covers the one entry it may have been written to. -/
theorem Covered.push {roles : List (UInt8 × TxProgram)} {entries : Fin 16 → ProgramEntry}
    (h : Covered roles entries) (written : Bool) (index : UInt8) (p : TxProgram) :
    Covered ((index, p) :: roles) fun i =>
      if written ∧ i.val = index.toNat then
        { hs := p.span.hs, callback := p.callback, context := p.context, used := true }
      else entries i := by
  intro i hlive
  by_cases hi : written ∧ i.val = index.toNat
  · refine ⟨(index, p), List.mem_cons_self, hi.2.symm, ?_⟩
    simp only [if_pos hi]
    exact ⟨rfl, rfl, rfl, rfl⟩
  · simp only [if_neg hi] at hlive ⊢
    obtain ⟨role, hrole, hheld⟩ := h i hlive
    exact ⟨role, List.mem_cons_of_mem _ hrole, hheld⟩

/-- Nothing new calls back where live entries stay as they are. -/
theorem Covered.moved {roles : List (UInt8 × TxProgram)} {entries after : Fin 16 → ProgramEntry}
    (h : Covered roles entries) (hlive : ∀ i, (entries i).live → after i = entries i)
    (hothers : ∀ i, ¬(entries i).live → ¬(after i).live) : Covered roles after := by
  intro i hi
  have hbefore : (entries i).live := by
    by_contra hn
    exact hothers i hn hi
  rw [hlive i hbefore]
  exact h i hbefore

theorem live_of_retired {entries : Fin 16 → ProgramEntry} {i j : Fin 16}
    (h : (Function.update entries i { entries i with used := false } j).live) :
    j ≠ i ∧ (entries j).live := by
  by_cases hij : j = i
  · subst hij
    rw [Function.update_self] at h
    exact absurd h.1 Bool.false_ne_true
  · rw [Function.update_of_ne hij] at h
    exact ⟨hij, h⟩

theorem Covered.retire {roles : List (UInt8 × TxProgram)} {entries : Fin 16 → ProgramEntry}
    (h : Covered roles entries) (i : Fin 16) :
    Covered roles (Function.update entries i { entries i with used := false }) := by
  intro j hj
  obtain ⟨hij, hlive⟩ := live_of_retired hj
  rw [Function.update_of_ne hij]
  exact h j hlive

namespace TxSystem

variable {s : TxSystem} {B : TxBuild}

structure Wiring where
  stored : Bool
  out : Bool
  alarmSet : Bool
  firstEnded : Bool
  replyEnded : Bool
  stopEnded : Bool
  prequeued : Bool
  repeated : Bool
  pending : Bool
  followup : Bool
  program : TxProgram
  replyProgram : TxProgram
  stopProgram : TxProgram
  programIndex : UInt8
  replyIndex : UInt8
  stopIndex : UInt8
  queued : Bool
  alarm : Bool
  active : ArbSlot
  entries : Fin 16 → ProgramEntry

def wiring (s : TxSystem) : Wiring where
  stored := s.tx.storageSet
  out := s.tx.globalsSet
  alarmSet := s.tx.alarmSet
  firstEnded := s.tx.firstEnded
  replyEnded := s.tx.replyEnded
  stopEnded := s.tx.stopEnded
  prequeued := s.tx.prequeuedReply
  repeated := s.tx.repeatPayload
  pending := s.tx.followupPending
  followup := s.tx.followupActive
  program := s.tx.program
  replyProgram := s.tx.replyProgram
  stopProgram := s.tx.stopProgram
  programIndex := s.tx.programIndex
  replyIndex := s.tx.replyIndex
  stopIndex := s.tx.stopIndex
  queued := s.rom.queued
  alarm := s.rom.alarm
  active := s.rom.active
  entries := s.rom.entries

namespace Wiring

/-- The programs of the event, each with the entry it was pushed to. -/
def roles (w : Wiring) : List (UInt8 × TxProgram) :=
  (w.programIndex, w.program) ::
    ((if w.prequeued then [(w.replyIndex, w.replyProgram)] else []) ++
      if w.repeated then [(w.stopIndex, w.stopProgram)] else [])

theorem first_role (w : Wiring) : (w.programIndex, w.program) ∈ w.roles :=
  List.mem_cons_self

theorem reply_role {w : Wiring} (h : w.prequeued = true) :
    (w.replyIndex, w.replyProgram) ∈ w.roles := by
  unfold roles
  rw [h]
  simp

theorem stop_role {w : Wiring} (h : w.repeated = true) :
    (w.stopIndex, w.stopProgram) ∈ w.roles := by
  unfold roles
  rw [h]
  simp

/-- What the phase promises. -/
structure Settled (phase : RadioTxPhase) (w : Wiring) : Prop where
  queued : w.queued = true → phase = .queued
  stored : w.stored = false ↔ phase = .idle
  waiting : phase = .idle ∨ phase = .queued →
    w.out = false ∧ w.firstEnded = false ∧ w.alarmSet = false ∧ ∀ i, ¬(w.entries i).live
  engaging : phase = .active ∨ phase = .aborting → w.out = true
  ended : w.prequeued = true → w.firstEnded = true → w.replyEnded = true →
    (w.repeated = true → w.stopEnded = true) → phase = .ended ∨ phase = .fault
  slot : phase = .idle → w.active ≠ .ours
  alarm : w.alarm = w.alarmSet
  repeats : w.repeated = true → w.prequeued = true
  single : w.prequeued = false → w.firstEnded = false
  followup : w.followup = true → w.pending = false

structure Engaged (phase : RadioTxPhase) (w : Wiring) : Prop extends w.Settled phase where
  covered : phase ≠ .fault → Covered w.roles w.entries

end Wiring

def Engaged (s : TxSystem) : Prop :=
  s.wiring.Engaged s.tx.result.phase

/-! ## Moves between phases -/

/-- A fault is reached from any phase in which something is out. -/
theorem Wiring.Settled.fault {phase : RadioTxPhase} {w : Wiring} (h : w.Settled phase)
    (hidle : phase ≠ .idle) (hqueued : w.queued = false) : w.Engaged .fault where
  queued := fun hq => absurd hq (by simp [hqueued])
  stored := ⟨fun hs => absurd (h.stored.mp hs) hidle, fun hn => nomatch hn⟩
  waiting := fun hw => by simp at hw
  engaging := fun ha => by simp at ha
  ended := fun _ _ _ _ => .inr rfl
  slot := fun hn => nomatch hn
  alarm := h.alarm
  repeats := h.repeats
  single := h.single
  followup := h.followup
  covered := fun hn => absurd rfl hn

namespace Wiring.Engaged

variable {phase next : RadioTxPhase} {w : Wiring}

theorem fault (h : w.Engaged phase) (hidle : phase ≠ .idle) (hqueued : w.queued = false) :
    w.Engaged .fault :=
  h.toSettled.fault hidle hqueued

theorem unqueued (h : w.Engaged phase) (hphase : phase ≠ .queued) : w.queued = false :=
  Bool.eq_false_of_not_eq_true fun hq => hphase (h.queued hq)

/-- An event that is not under way any more. -/
theorem settled (h : w.Engaged phase) (hidle : phase ≠ .idle) (hfault : phase ≠ .fault)
    (hqueued : w.queued = false) (hnext : next = .ended ∨ next = .cancelled ∨ next = .refused)
    (hended : w.firstEnded = false ∨ next = .ended) : w.Engaged next where
  queued := fun hq => absurd hq (by simp [hqueued])
  stored := ⟨fun hs => absurd (h.stored.mp hs) hidle, by rintro rfl; simp at hnext⟩
  waiting := by rintro (rfl | rfl) <;> simp at hnext
  engaging := by rintro (rfl | rfl) <;> simp at hnext
  ended := fun _ hfirst _ _ => by
    obtain hf | rfl := hended
    · rw [hf] at hfirst
      cases hfirst
    · exact .inl rfl
  slot := by rintro rfl; simp at hnext
  alarm := h.alarm
  repeats := h.repeats
  single := h.single
  followup := h.followup
  covered := fun _ => h.covered hfault

theorem aborting (h : w.Engaged phase) (hphase : phase = .active ∨ phase = .aborting) :
    w.Engaged .aborting := by
  have hidle : phase ≠ .idle := by rintro rfl; simp at hphase
  have hqueued : phase ≠ .queued := by rintro rfl; simp at hphase
  have hfault : phase ≠ .fault := by rintro rfl; simp at hphase
  refine { h with
    queued := fun hq => absurd (h.queued hq) hqueued
    stored := ⟨fun hs => absurd (h.stored.mp hs) hidle, fun hn => nomatch hn⟩
    waiting := fun hw => by simp at hw
    engaging := fun _ => h.engaging hphase
    ended := fun hp hf hr hs => ?_
    slot := fun hn => nomatch hn
    covered := fun _ => h.covered hfault }
  obtain rfl | rfl := hphase <;> simpa using h.ended hp hf hr hs

/-- One more program has ended, but not the last. -/
theorem noted (h : w.Engaged phase) (hphase : phase ≠ .idle ∧ phase ≠ .queued)
    (hprequeued : w.prequeued = true) (first reply stop : Bool)
    (hpending : ¬(first = true ∧ reply = true ∧ (w.repeated = true → stop = true))) :
    Engaged phase { w with firstEnded := first, replyEnded := reply, stopEnded := stop } :=
  { h with
    waiting := fun hw => absurd hw (by simp [hphase])
    ended := fun _ hf hr hs => absurd ⟨hf, hr, hs⟩ hpending
    single := fun hs => absurd hprequeued (by rw [hs]; exact Bool.false_ne_true) }

theorem alarmCleared (h : w.Engaged phase) :
    Engaged phase { w with alarmSet := false, alarm := false } :=
  { h with
    waiting := fun hw => ⟨(h.waiting hw).1, (h.waiting hw).2.1, rfl, (h.waiting hw).2.2.2⟩
    alarm := rfl }

/-- The end of the event, whatever has been given back by then. -/
theorem closed (h : w.Engaged phase) (hphase : phase ≠ .idle ∧ phase ≠ .queued)
    (first reply stop out : Bool) (active : ArbSlot) (hsingle : w.prequeued = false → first = false) :
    Engaged (if phase ≠ .fault then .ended else .fault) { w with
      firstEnded := first, replyEnded := reply, stopEnded := stop, out, active
      alarmSet := false, alarm := false } := by
  have hidle : (if phase ≠ .fault then RadioTxPhase.ended else .fault) ≠ .idle := by
    split <;> simp
  refine ⟨⟨fun hq => absurd (h.queued hq) hphase.2, ?_, fun hw => ?_, fun ha => ?_, fun _ _ _ _ => ?_,
    fun hp => absurd hp hidle, rfl, h.repeats, hsingle, h.followup⟩, fun hf => ?_⟩
  · exact ⟨fun hs => absurd (h.stored.mp hs) hphase.1, fun hp => absurd hp hidle⟩
  · split at hw <;> simp at hw
  · split at ha <;> simp at ha
  · split <;> simp
  · apply h.covered
    rintro rfl
    simp at hf

theorem slotMoved (h : w.Engaged phase) (active : ArbSlot)
    (hactive : active = .ours → w.active = .ours ∨ phase ≠ .idle) :
    Engaged phase { w with active } :=
  { h with
    slot := fun hidle ha => (hactive ha).elim (h.slot hidle) (absurd hidle) }

theorem retired (h : w.Engaged phase) (i : Fin 16) :
    Engaged phase { w with
      entries := Function.update w.entries i { w.entries i with used := false } } :=
  { h with
    waiting := fun hw => by
      obtain ⟨hout, hfirst, halarm, hnone⟩ := h.waiting hw
      exact ⟨hout, hfirst, halarm, fun j hj => hnone j (live_of_retired hj).2⟩
    covered := fun hfault => (h.covered hfault).retire i }

theorem live_phase (h : w.Engaged phase) {i : Fin 16} (hlive : (w.entries i).live) :
    phase ≠ .idle ∧ phase ≠ .queued :=
  ⟨fun hp => (h.waiting (.inl hp)).2.2.2 i hlive, fun hp => (h.waiting (.inr hp)).2.2.2 i hlive⟩

end Wiring.Engaged

/-! ## Small calls -/

theorem Engaged.abortActive (h : s.Engaged) : s.abortActive.Engaged := by
  obtain ⟨-, he⟩ | ⟨hphase, -, he⟩ | ⟨hphase, -, he⟩ := abortActive_cases (s := s)
  · rw [he]
    exact h
  · rw [he]
    have hidle : s.tx.result.phase ≠ .idle := by obtain hp | hp := hphase <;> simp [hp]
    have hqueued : s.tx.result.phase ≠ .queued := by obtain hp | hp := hphase <;> simp [hp]
    exact h.fault hidle (h.unqueued hqueued)
  · rw [he]
    exact h.aborting hphase

theorem Engaged.faulted (h : s.Engaged) (detail : UInt8)
    (hphase : s.tx.result.phase ≠ .idle ∧ s.tx.result.phase ≠ .queued) :
    (s.faulted detail).Engaged :=
  Wiring.Engaged.fault h hphase.1 (Wiring.Engaged.unqueued h hphase.2)

theorem Engaged.reported {t : TxSystem} (h : s.Engaged) (ht : Reported s t) : t.Engaged := by
  have hwiring : t.wiring = { s.wiring with pending := t.tx.followupPending } := by
    unfold wiring
    rw [ht.tx, ht.rom]
  unfold Engaged
  rw [hwiring, ht.phase]
  refine { h with followup := fun hf => ?_ }
  refine Bool.eq_false_of_not_eq_true fun hp => ?_
  have hbefore : s.tx.followupPending = false := h.followup hf
  rw [ht.pending hp] at hbefore
  cases hbefore

theorem clearAlarm_wiring (h : s.rom.alarm = s.tx.alarmSet) :
    s.clearAlarm.wiring = { s.wiring with alarmSet := false, alarm := false } := by
  unfold clearAlarm
  split
  · rfl
  next hset =>
    have hoff : s.tx.alarmSet = false := Bool.eq_false_of_not_eq_true hset
    unfold wiring
    rw [h, hoff]

theorem arbRemoveActive_wiring (due : Bool) :
    ∃ active, active ≠ .ours ∧ (s.arbRemoveActive due).wiring = { s.wiring with active } := by
  unfold arbRemoveActive
  split
  · refine ⟨if due then .foreign else .none, ?_, rfl⟩
    cases due <;> simp
  next hours =>
    refine ⟨s.rom.active, ?_, rfl⟩
    simpa [activeIsOurs] using hours

theorem restoreGlobals_wiring : s.restoreGlobals.wiring = { s.wiring with out := false } := by
  unfold restoreGlobals
  split
  · rfl
  next hset =>
    have hoff : s.tx.globalsSet = false := Bool.eq_false_of_not_eq_true hset
    unfold wiring
    rw [hoff]

/-! ## The end of an event -/

@[simp] theorem clearAlarm_phase : s.clearAlarm.tx.result = s.tx.result := by
  unfold clearAlarm
  split <;> rfl

@[simp] theorem restoreGlobals_phase : s.restoreGlobals.tx.result = s.tx.result := by
  unfold restoreGlobals
  split <;> rfl

@[simp] theorem arbRemoveActive_phase (due : Bool) :
    (s.arbRemoveActive due).tx.result = s.tx.result := by
  unfold arbRemoveActive
  split <;> rfl

@[simp] theorem noteEnded_phase (role : TxRole) (reason : UInt8) (a : FrameAnswers) :
    (s.noteEnded role reason a).tx.result.phase = s.tx.result.phase := by
  cases role <;> rfl

theorem noteEnded_wiring (role : TxRole) (reason : UInt8) (a : FrameAnswers) :
    (s.noteEnded role reason a).wiring = { s.wiring with
      firstEnded := (s.noteEnded role reason a).tx.firstEnded
      replyEnded := (s.noteEnded role reason a).tx.replyEnded
      stopEnded := (s.noteEnded role reason a).tx.stopEnded } := by
  cases role <;> rfl

theorem Engaged.prequeuedEnded (h : s.Engaged) (role : TxRole) (reason : UInt8) (a : FrameAnswers)
    (hphase : s.tx.result.phase ≠ .idle ∧ s.tx.result.phase ≠ .queued)
    (hprequeued : s.tx.prequeuedReply = true) : (s.prequeuedEnded role reason a).Engaged := by
  have hwiring := noteEnded_wiring (s := s) role reason a
  have hnoted := noteEnded_phase (s := s) role reason a
  unfold TxSystem.prequeuedEnded
  dsimp only
  generalize s.noteEnded role reason a = t at hwiring hnoted ⊢
  split
  next hpending =>
    unfold Engaged
    rw [hwiring, hnoted]
    refine Wiring.Engaged.noted h hphase hprequeued _ _ _ fun hall => ?_
    have hrepeat : t.tx.repeatPayload = s.tx.repeatPayload := congrArg Wiring.repeated hwiring
    have hstop : s.tx.repeatPayload = true → t.tx.stopEnded = true := hall.2.2
    simp only [hall.1, hall.2.1, hrepeat, Bool.not_true, Bool.false_or, Bool.and_eq_true,
      Bool.not_eq_true'] at hpending
    rw [hstop hpending.1] at hpending
    cases hpending.2
  next =>
    have halarm : t.rom.alarm = t.tx.alarmSet := by
      have hbefore : s.rom.alarm = s.tx.alarmSet := h.alarm
      exact (congrArg Wiring.alarm hwiring).trans
        (hbefore.trans (congrArg Wiring.alarmSet hwiring).symm)
    have hcleared := clearAlarm_wiring halarm
    rw [hwiring] at hcleared
    have hclosed := Wiring.Engaged.closed h hphase t.tx.firstEnded t.tx.replyEnded t.tx.stopEnded
      s.tx.globalsSet s.rom.active fun hs => absurd hprequeued (by
        have hs' : s.tx.prequeuedReply = false := hs
        simp [hs'])
    have hend : (t.clearAlarm.closed reason a).tx.result.phase =
        if s.tx.result.phase ≠ .fault then .ended else .fault := by
      show (if t.clearAlarm.tx.result.phase ≠ .fault then RadioTxPhase.ended else .fault) = _
      rw [clearAlarm_phase, hnoted]
    unfold Engaged
    rw [hend]
    show Wiring.Engaged _ t.clearAlarm.wiring
    rw [hcleared]
    exact hclosed

theorem singleClosed_phase (reason : UInt8) (a : FrameAnswers) :
    (s.singleClosed reason a).tx.result.phase =
      if s.tx.result.phase ≠ .fault then .ended else .fault := by
  unfold singleClosed
  show (if (arbRemoveActive _ _).tx.result.phase ≠ .fault then RadioTxPhase.ended else .fault) = _
  rw [arbRemoveActive_phase, restoreGlobals_phase]
  show (if s.clearAlarm.tx.result.phase ≠ .fault then RadioTxPhase.ended else .fault) = _
  rw [clearAlarm_phase]

theorem singleClosed_wiring (reason : UInt8) (a : FrameAnswers)
    (halarm : s.rom.alarm = s.tx.alarmSet) :
    ∃ active, active ≠ .ours ∧ (s.singleClosed reason a).wiring = { s.wiring with
      out := false, active, alarmSet := false, alarm := false } := by
  unfold singleClosed
  dsimp only
  obtain ⟨active, hactive, he⟩ := arbRemoveActive_wiring (s := restoreGlobals _) a.due
  refine ⟨active, hactive, ?_⟩
  show (arbRemoveActive _ _).wiring = _
  rw [he, restoreGlobals_wiring]
  show { s.clearAlarm.wiring with out := false, active } = _
  rw [clearAlarm_wiring halarm]

/-! ## The follow-up -/

/-- The follow-up laid out over the event, and entry `i` retired. -/
def Wiring.followed (w : Wiring) (program : TxProgram) (inserted : Bool) (i : Fin 16) : Wiring :=
  { w with
    pending := false, followup := true, program, programIndex := 255, queued := inserted
    entries := Function.update w.entries i { w.entries i with used := false } }

/-- The follow-up's element is in the arbiter, or was refused; the entry of the first packet, which
is about to retire, is the last one left. -/
theorem Wiring.Engaged.after_followed {phase : RadioTxPhase} {w : Wiring} (h : w.Engaged phase)
    (hphase : phase = .ended) (hout : w.out = false) (halarm : w.alarmSet = false)
    (hsingle : w.prequeued = false) {i : Fin 16} (hlive : (w.entries i).live)
    (program : TxProgram) (inserted : Bool) :
    (w.followed program inserted i).Engaged (if inserted then .queued else .ended) := by
  subst hphase
  have hrepeated : w.repeated = false := Bool.eq_false_of_not_eq_true fun hr => by
    rw [h.repeats hr] at hsingle
    cases hsingle
  have honly (j : Fin 16) (hj : (w.entries j).live) : j.val = w.programIndex.toNat := by
    obtain ⟨role, hrole, hindex, -⟩ := h.covered (by simp) j hj
    simp only [roles, hsingle, hrepeated, Bool.false_eq_true, if_false, List.append_nil,
      List.mem_singleton] at hrole
    rw [hrole] at hindex
    exact hindex.symm
  have hnone (j : Fin 16) :
      ¬(Function.update w.entries i { w.entries i with used := false } j).live := fun hj => by
    obtain ⟨hij, hj'⟩ := live_of_retired hj
    exact hij (Fin.ext ((honly j hj').trans (honly i hlive).symm))
  refine ⟨⟨fun hq => ?_, ?_, fun _ => ⟨hout, h.single hsingle, halarm, hnone⟩, fun ha => ?_,
    fun hp => ?_, fun hp => ?_, h.alarm, h.repeats, h.single, fun _ => rfl⟩,
    fun _ j hj => absurd hj (hnone j)⟩
  · have hinserted : inserted = true := hq
    rw [if_pos hinserted]
  · have hstored : w.stored = true := by simpa using h.stored
    cases inserted <;> simp [Wiring.followed, hstored]
  · cases inserted <;> simp at ha
  · exact absurd (hsingle.symm.trans hp) Bool.false_ne_true
  · cases inserted <;> simp at hp

theorem layFollowup_wiring (arb program : TxSpan) (alarmHs : UInt32) :
    (s.layFollowup arb program alarmHs).wiring = { s.wiring with
      followup := true, program := { s.tx.program with span := program }, programIndex := 255 } := by
  unfold layFollowup wiring
  rfl

/-- Either nothing is laid out, or the entry that called back is about to retire. -/
theorem Engaged.queueFollowup (h : s.Engaged) (a : FrameAnswers)
    (hphase : s.tx.result.phase = .ended) (hout : s.tx.globalsSet = false)
    (halarm : s.tx.alarmSet = false) (hsingle : s.tx.prequeuedReply = false) {i : Fin 16}
    (hlive : (s.rom.entries i).live) :
    (s.queueFollowup a).Engaged ∨
      (s.queueFollowup a).tx.followupActive = true ∧ ((s.queueFollowup a).retire i).Engaged := by
  have hdropped : (s.onTx fun tx => { tx with followupPending := false }).Engaged :=
    h.reported ⟨rfl, rfl, rfl, rfl, rfl, fun hp => absurd hp Bool.false_ne_true⟩
  unfold TxSystem.queueFollowup
  dsimp only
  split
  · exact .inl (hdropped.faulted 2 (by
      show s.tx.result.phase ≠ .idle ∧ s.tx.result.phase ≠ .queued
      simp [hphase]))
  · exact .inl hdropped
  · exact .inl hdropped
  next arb program alarmHs _ =>
    right
    have hlaid : ((s.onTx fun tx => { tx with followupPending := false }).layFollowup arb program
        alarmHs).wiring = { s.wiring with
          pending := false, followup := true
          program := { s.tx.program with span := program }, programIndex := 255 } :=
      layFollowup_wiring arb program alarmHs
    generalize (s.onTx fun tx => { tx with followupPending := false }).layFollowup arb program
      alarmHs = t at hlaid ⊢
    have hfollowed := Wiring.Engaged.after_followed h hphase hout halarm hsingle hlive
      { s.tx.program with span := program }
    have hactive : t.tx.followupActive = true := congrArg Wiring.followup hlaid
    have hentries : t.rom.entries = s.rom.entries := congrArg Wiring.entries hlaid
    have hqueued : s.wiring.queued = false := Wiring.Engaged.unqueued h (by rw [hphase]; simp)
    split
    next hinserted =>
      rw [arbInsert, if_pos hinserted]
      refine ⟨hactive, ?_⟩
      have hwiring : ((((t.setPhase .queued).onRom fun rom =>
          { rom with queued := true }).followupStatus 1).retire i).wiring =
          s.wiring.followed { s.tx.program with span := program } true i := by
        show { t.wiring with
          queued := true
          entries := Function.update t.rom.entries i { t.rom.entries i with used := false } } = _
        rw [hlaid, hentries]
        rfl
      unfold Engaged
      rw [hwiring]
      exact hfollowed true
    next =>
      refine ⟨hactive, ?_⟩
      have hwiring : (((t.followupStatus 5).setPhase .ended).retire i).wiring =
          s.wiring.followed { s.tx.program with span := program } false i := by
        show { t.wiring with
          entries := Function.update t.rom.entries i { t.rom.entries i with used := false } } = _
        rw [hlaid, hentries]
        unfold Wiring.followed
        rw [← hqueued]
        rfl
      unfold Engaged
      rw [hwiring]
      exact hfollowed false

theorem Engaged.singleEnded (h : s.Engaged) (reason : UInt8) (a : FrameAnswers) {i : Fin 16}
    (hlive : (s.rom.entries i).live) (hsingle : s.tx.prequeuedReply = false) :
    (s.singleEnded reason a).Engaged ∨ s.tx.followupActive = false ∧
      (s.singleEnded reason a).tx.followupActive = true ∧
      ((s.singleEnded reason a).retire i).Engaged := by
  have hphase := Wiring.Engaged.live_phase h hlive
  obtain ⟨active, -, hwiring⟩ := singleClosed_wiring (s := s) reason a h.alarm
  have hend := singleClosed_phase (s := s) reason a
  have hclosed : (s.singleClosed reason a).Engaged := by
    unfold Engaged
    rw [hwiring, hend]
    exact Wiring.Engaged.closed h hphase _ _ _ false active h.single
  unfold TxSystem.singleEnded
  dsimp only
  generalize s.singleClosed reason a = t at hwiring hend hclosed ⊢
  split
  next hwanted =>
    have hpending : s.tx.followupPending = true :=
      (congrArg Wiring.pending hwiring).symm.trans hwanted.1
    have hfollowup : s.tx.followupActive = false := Bool.eq_false_of_not_eq_true fun hf => by
      have hnone : s.tx.followupPending = false := h.followup hf
      rw [hnone] at hpending
      cases hpending
    have hentries : t.rom.entries = s.rom.entries := congrArg Wiring.entries hwiring
    have hreported : Reported t (t.onResult fun r => { r with
        firstEndHs := a.firstEnd.hs, firstEndHus := a.firstEnd.hus.toUInt16 }) :=
      ⟨rfl, rfl, rfl, rfl, rfl, id⟩
    obtain hqueued | hqueued := (hclosed.reported hreported).queueFollowup (i := i) a
      hwanted.2.2.1 (congrArg Wiring.out hwiring) (congrArg Wiring.alarmSet hwiring)
      ((congrArg Wiring.prequeued hwiring).trans hsingle) (by
        show (t.rom.entries i).live
        rw [hentries]
        exact hlive)
    · exact .inl hqueued
    · exact .inr ⟨hfollowup, hqueued⟩
  next => exact .inl hclosed

/-- A callback for an entry of ours: nothing is lost of what the transmitter has out, but the entry
is one that retires if the follow-up was laid out. -/
theorem Engaged.frameDone (h : s.Engaged) (hs : UInt32) (context : TxContext) (reason : UInt8)
    (a : FrameAnswers) {i : Fin 16} (hlive : (s.rom.entries i).live) :
    (s.frameDone hs context reason a).Engaged ∨ s.tx.followupActive = false ∧
      (s.frameDone hs context reason a).tx.followupActive = true ∧
      ((s.frameDone hs context reason a).retire i).Engaged := by
  have hphase := Wiring.Engaged.live_phase h hlive
  unfold TxSystem.frameDone
  dsimp only
  split
  · exact .inl (Wiring.Engaged.fault h hphase.1 (Wiring.Engaged.unqueued h hphase.2))
  split
  · split
    · exact .inl h
    · exact .inl (h.faulted _ hphase)
  split
  · exact .inl (h.faulted _ hphase)
  split
  · obtain ⟨t, ht, he | he⟩ := packetReceived_spec (s := s) (s.roleOf context) a
    · rw [he]
      exact .inl (h.reported ht)
    · rw [he]
      exact .inl (h.reported ht).abortActive
  split
  · exact .inl h
  split
  · exact .inl h
  have hreceived : Reported s (if reason ≠ 4 then
      s.receiveOwned (roleActivity (s.roleOf context)) a.rx else s) := by
    split
    · exact receiveOwned_reported _ _
    · exact ⟨rfl, rfl, rfl, rfl, rfl, id⟩
  unfold programEnded
  dsimp only
  generalize (if reason ≠ 4 then s.receiveOwned (roleActivity (s.roleOf context)) a.rx else s) = t
    at hreceived ⊢
  have hengaged := h.reported hreceived
  have hphase' : t.tx.result.phase ≠ .idle ∧ t.tx.result.phase ≠ .queued := by
    rw [hreceived.phase]
    exact hphase
  have hlive' : (t.rom.entries i).live := by
    rw [hreceived.rom]
    exact hlive
  have hfollowup : t.tx.followupActive = s.tx.followupActive := by
    rw [hreceived.tx]
  split
  next hprequeued => exact .inl (hengaged.prequeuedEnded _ _ _ hphase' hprequeued)
  next hsingle =>
    have hended := hengaged.singleEnded reason a hlive' (Bool.eq_false_of_not_eq_true hsingle)
    rw [hfollowup] at hended
    exact hended

/-! ## The start of an event -/

/-- Between the pushes: the event is under way, and these programs cover what has been pushed. -/
structure Pushing (s : TxSystem) (roles : List (UInt8 × TxProgram)) : Prop where
  phase : s.tx.result.phase = .active
  settled : s.wiring.Settled .active
  covered : Covered roles s.rom.entries

namespace Pushing

variable {roles : List (UInt8 × TxProgram)}

theorem engaged (h : s.Pushing roles) (hroles : ∀ role ∈ roles, role ∈ s.wiring.roles) :
    s.Engaged := by
  unfold Engaged
  rw [h.phase]
  exact ⟨h.settled, fun _ => h.covered.mono hroles⟩

theorem faulted (h : s.Pushing roles) (detail : UInt8) : (s.faulted detail).Engaged :=
  h.settled.fault (by simp)
    (Bool.eq_false_of_not_eq_true fun hq => absurd (h.settled.queued hq) (by simp))

/-- A program is pushed under the index it was told. -/
theorem push (h : s.Pushing roles) (a : PushAnswer) (p : TxProgram) :
    (s.progPush a p).Pushing ((s.rom.producer, p) :: roles) where
  phase := h.phase
  settled := { h.settled with waiting := fun hw => by simp at hw }
  covered := h.covered.push a.written s.rom.producer p

theorem replyIndex (h : s.Pushing roles) (index : UInt8) :
    (s.onTx fun tx => { tx with replyIndex := index }).Pushing roles :=
  ⟨h.phase, { h.settled with }, h.covered⟩

theorem stopIndex (h : s.Pushing roles) (index : UInt8) :
    (s.onTx fun tx => { tx with stopIndex := index }).Pushing roles :=
  ⟨h.phase, { h.settled with }, h.covered⟩

theorem followupStatus (h : s.Pushing roles) (status : UInt8) :
    (s.followupStatus status).Pushing roles :=
  ⟨h.phase, h.settled, h.covered⟩

end Pushing

theorem pushStop_engaged (a : StartAnswers) (hprequeued : s.tx.prequeuedReply = true)
    (hrepeated : s.tx.repeatPayload = true)
    (h : s.Pushing [(s.tx.replyIndex, s.tx.replyProgram), (s.tx.programIndex, s.tx.program)]) :
    (s.pushStop a).Engaged := by
  have hindexed := h.stopIndex s.rom.producer
  unfold pushStop
  dsimp only
  split
  · exact hindexed.faulted 9
  have hpushed := hindexed.push (a.push 2) s.tx.stopProgram
  split
  · exact hpushed.faulted 10
  · apply hpushed.engaged
    intro role hrole
    simp only [List.mem_cons, List.not_mem_nil, or_false] at hrole
    obtain rfl | rfl | rfl := hrole
    · exact Wiring.stop_role hrepeated
    · exact Wiring.reply_role hprequeued
    · exact Wiring.first_role _

theorem pushReply_engaged (a : StartAnswers) (hprequeued : s.tx.prequeuedReply = true)
    (h : s.Pushing [(s.tx.programIndex, s.tx.program)]) : (s.pushReply a).Engaged := by
  have hindexed := h.replyIndex s.rom.producer
  unfold pushReply
  dsimp only
  split
  · exact hindexed.faulted 6
  have hpushed := hindexed.push (a.push 1) s.tx.replyProgram
  split
  · exact hpushed.faulted 7
  split
  next hrepeated => exact pushStop_engaged a hprequeued hrepeated (hpushed.followupStatus 1)
  next =>
    apply (hpushed.followupStatus 1).engaged
    intro role hrole
    simp only [List.mem_cons, List.not_mem_nil, or_false] at hrole
    obtain rfl | rfl := hrole
    · exact Wiring.reply_role hprequeued
    · exact Wiring.first_role _

theorem pushPrograms_engaged (a : StartAnswers) (hindex : s.tx.programIndex = s.rom.producer)
    (h : s.Pushing []) : (s.pushPrograms a).Engaged := by
  have hpushed := h.push (a.push 0) s.tx.program
  rw [← hindex] at hpushed
  unfold pushPrograms
  dsimp only
  split
  · exact hpushed.faulted 5
  split
  next hprequeued => exact pushReply_engaged a hprequeued hpushed
  next =>
    apply hpushed.engaged
    intro role hrole
    rw [List.mem_singleton] at hrole
    rw [hrole]
    exact Wiring.first_role _

/-- Pushes end in a fault or leave the event under way. -/
theorem pushPrograms_phase (a : StartAnswers) (h : s.tx.result.phase = .active) :
    (s.pushPrograms a).tx.result.phase = .fault ∨
      (s.pushPrograms a).tx.result.phase = .active := by
  have hstop (t : TxSystem) (ht : t.tx.result.phase = .active) :
      (t.pushStop a).tx.result.phase = .fault ∨ (t.pushStop a).tx.result.phase = .active := by
    unfold pushStop
    dsimp only
    split
    · exact .inl rfl
    split
    · exact .inl rfl
    · exact .inr ht
  unfold pushPrograms
  dsimp only
  split
  · exact .inl rfl
  split
  · unfold pushReply
    dsimp only
    split
    · exact .inl rfl
    split
    · exact .inl rfl
    split
    · exact hstop _ h
    · exact .inr h
  · exact .inr h

theorem Engaged.setAlarm (h : s.Engaged) (hphase : s.tx.result.phase = .active) :
    s.setAlarm.Engaged :=
  { h with
    waiting := fun hw => by
      have hp : s.tx.result.phase = .idle ∨ s.tx.result.phase = .queued := hw
      simp [hphase] at hp
    alarm := rfl }

theorem Engaged.begun (h : s.Engaged) (hphase : s.tx.result.phase = .queued)
    (hunqueued : s.rom.queued = false) (a : StartAnswers)
    (hindex : s.tx.programIndex = s.rom.producer) : (s.begun B a).Engaged := by
  have hwaiting := h.waiting (.inr hphase)
  have hstored : s.tx.storageSet = true := Bool.eq_true_of_not_eq_false fun hs => by
    have hidle := h.stored.mp hs
    rw [hphase] at hidle
    cases hidle
  have hpushing : ((s.setGlobals B).activated).Pushing [] := by
    refine ⟨rfl, ?_, fun i hlive => absurd hlive (hwaiting.2.2.2 i)⟩
    refine { h with
      queued := fun hq => absurd hq (by
        show ¬(s.rom.queued = true)
        simp [hunqueued])
      stored := ⟨fun hs => absurd (hstored.symm.trans hs) (by simp), fun hn => nomatch hn⟩
      waiting := fun hw => by simp at hw
      engaging := fun _ => rfl
      ended := fun _ hf => absurd (hwaiting.2.1.symm.trans hf) (by simp)
      slot := fun hn => nomatch hn }
  have hpushed := pushPrograms_engaged (s := (s.setGlobals B).activated) a hindex hpushing
  have hend := pushPrograms_phase a hpushing.phase
  unfold TxSystem.begun
  dsimp only
  split
  · exact hpushed
  next hfault => exact hpushed.setAlarm (hend.resolve_left hfault)

theorem Engaged.refuse (h : s.Engaged) (hphase : s.tx.result.phase = .queued)
    (hunqueued : s.rom.queued = false) (due : Bool) : (s.refuse due).Engaged := by
  obtain ⟨active, hactive, hwiring⟩ := arbRemoveActive_wiring (s := s) due
  have hmoved := Wiring.Engaged.slotMoved h active fun ha => absurd ha hactive
  unfold Engaged TxSystem.refuse
  show Wiring.Engaged .refused (s.arbRemoveActive due).wiring
  rw [hwiring]
  have hidle : s.tx.result.phase ≠ .idle := by simp [hphase]
  have hfault : s.tx.result.phase ≠ .fault := by simp [hphase]
  exact hmoved.settled hidle hfault hunqueued (.inr (.inr rfl)) (.inl (h.waiting (.inr hphase)).2.1)

theorem Rewritten.wiring {t : TxSystem} (h : Rewritten s t) : t.wiring = s.wiring := by
  unfold TxSystem.wiring
  rw [h.tx, h.rom]

theorem Rewritten.engaged {t : TxSystem} (h : Rewritten s t) (hengaged : s.Engaged) :
    t.Engaged := by
  unfold Engaged
  rw [h.wiring, h.tx]
  exact hengaged

theorem Engaged.started (h : s.Engaged) (hphase : s.tx.result.phase = .queued)
    (hunqueued : s.rom.queued = false) (a : StartAnswers) : (s.started B a).Engaged := by
  have hnone := (h.waiting (.inr hphase)).2.2.2
  unfold TxSystem.started
  split
  · exact h.refuse hphase hunqueued _
  split
  · exact h.refuse hphase hunqueued _
  dsimp only
  have hindexed : (s.onTx fun tx => { tx with programIndex := s.rom.producer }).Engaged :=
    { h with covered := fun _ i hlive => absurd hlive (hnone i) }
  split
  · obtain ⟨active, hactive, hwiring⟩ := arbRemoveActive_wiring (s :=
      (s.onTx fun tx => { tx with programIndex := s.rom.producer }).onResult fun r =>
        { r with faultDetail := 4 }) a.due
    have hmoved := Wiring.Engaged.slotMoved hindexed active fun ha => absurd ha hactive
    have hidle : s.tx.result.phase ≠ .idle := by simp [hphase]
    unfold Engaged
    show Wiring.Engaged .fault (arbRemoveActive _ _).wiring
    rw [hwiring]
    exact hmoved.fault hidle hunqueued
  split
  next t ht =>
    have hspec := selectAntennas_spec a (.inl ht)
    apply (hspec.engaged hindexed).refuse
    · rw [hspec.tx]
      exact hphase
    · rw [hspec.rom]
      exact hunqueued
  next t ht =>
    have hspec := selectAntennas_spec a (.inr ht)
    apply (hspec.engaged hindexed).begun
    · rw [hspec.tx]
      exact hphase
    · rw [hspec.rom]
      exact hunqueued
    · rw [hspec.tx, hspec.rom]
      rfl

end TxSystem

end UllReceiver.Radio
