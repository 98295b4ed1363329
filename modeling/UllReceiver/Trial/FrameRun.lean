import UllReceiver.Trial.CacheRun

/-!
# Events over whole runs

Which frame is with the radio, in which order frames are submitted, and how they are accounted for.
-/

namespace UllReceiver.Trial

open Air Audio Parent Radio

variable {W : Type} {P : Platform W}

/-! ## The frame in flight -/

/-- Replies are dealt with under the frame that was transmitted. -/
def Attributed : List Call → Prop
  | [] => True
  | .control _ parent :: calls =>
      (∃ sub, lastSubmitted calls = some sub ∧ parent = sub.frame.parent) ∧ Attributed calls
  | .noteTx frame streamMask txSequence :: calls =>
      (∃ sub, lastSubmitted calls = some sub ∧ frame = sub.trial.nextFrame ∧
        streamMask = sub.frame.streamMask ∧ txSequence = sub.frame.txSequence) ∧ Attributed calls
  | _ :: calls => Attributed calls

/-- The slot of the active frame holds what the radio was given. -/
structure InFlight (s : TrialSystem W) (sub : Submission) : Prop where
  newest : lastSubmitted s.history.calls = some sub
  index : sub.trial.nextFrame = s.trial.activeFrame
  unchanged : s.trial.prepared (frameSlot s.trial.activeFrame) = sub.frame
  valid : sub.frame.valid = true
  frameIndex : sub.frame.index = s.trial.activeFrame
  request : FrameRequest sub.frame sub.request

/-- The radio owns an event or its storage. -/
def radioOwned : List Call → Bool
  | [] => false
  | .submit s :: calls => if s.status = 0 then true else radioOwned calls
  | .collected .. :: _ => false
  | _ :: calls => radioOwned calls

/-- The radio has taken the active frame and its result is not dealt with yet. -/
def Stage.busy (st : Stage) : Prop :=
  st = .sent ∨ st = .flying ∨ st = .settling ∨ st = .ending

/-- The radio may own an event. -/
def Stage.holds (st : Stage) : Prop :=
  st = .sent ∨ st = .flying

instance (st : Stage) : Decidable st.busy :=
  inferInstanceAs (Decidable (st = .sent ∨ st = .flying ∨ st = .settling ∨ st = .ending))

instance (st : Stage) : Decidable st.holds :=
  inferInstanceAs (Decidable (st = .sent ∨ st = .flying))

structure FlightInv (a : Stage × TrialSystem W) : Prop where
  ready : a.1 = .claimed ∨ a.1 = .fallback → a.2.Ready
  flight : a.1.busy → ∃ sub, InFlight a.2 sub
  attributed : Attributed a.2.history.calls
  free : ¬a.1.holds → a.2.trial.phase ≠ .fault → radioOwned a.2.history.calls = false
  key : a.1 = .rest → ¬Active a.2.trial.phase → a.2.trial.plan = planZero ∧ a.2.ccmKey = none

theorem frameSlot_succ (index : UInt32) : frameSlot (index + 1) ≠ frameSlot index :=
  latchSlot_succ_ne index

theorem InFlight.mono {s s' : TrialSystem W} {sub : Submission} (h : InFlight s sub)
    (hcalls : lastSubmitted s'.history.calls = lastSubmitted s.history.calls)
    (hactive : s'.trial.activeFrame = s.trial.activeFrame)
    (hslot : s'.trial.prepared (frameSlot s.trial.activeFrame) =
      s.trial.prepared (frameSlot s.trial.activeFrame)) : InFlight s' sub := by
  refine ⟨hcalls.trans h.newest, ?_, ?_, h.valid, ?_, h.request⟩
  · rw [hactive]
    exact h.index
  · rw [hactive, hslot]
    exact h.unchanged
  · rw [hactive]
    exact h.frameIndex

/-- A move that leaves the frame in flight and the record alone. -/
theorem FlightInv.same {st st' : Stage} {s s' : TrialSystem W} (h : FlightInv (st, s))
    (hready : st' = .claimed ∨ st' = .fallback → s'.Ready)
    (hbusy : st'.busy → st.busy) (hcalls : s'.history.calls = s.history.calls)
    (hactive : s'.trial.activeFrame = s.trial.activeFrame)
    (hslot : st'.busy → s'.trial.prepared (frameSlot s.trial.activeFrame) =
      s.trial.prepared (frameSlot s.trial.activeFrame))
    (hfree : ¬st'.holds → s'.trial.phase ≠ .fault → ¬st.holds ∧ s.trial.phase ≠ .fault)
    (hkey : st' = .rest → ¬Active s'.trial.phase →
      s'.trial.plan = planZero ∧ s'.ccmKey = none) : FlightInv (st', s') := by
  refine ⟨hready, fun hst => ?_, ?_, fun hst hphase => ?_, hkey⟩
  · obtain ⟨sub, hsub⟩ := h.flight (hbusy hst)
    exact ⟨sub, hsub.mono (by rw [hcalls]) hactive (hslot hst)⟩
  · simp only [hcalls]
    exact h.attributed
  · simp only [hcalls]
    obtain ⟨hst, hphase⟩ := hfree hst hphase
    exact h.free hst hphase

theorem FlightInv.aside {st : Stage} (hst : st = .rest ∨ st = .flying) {s s' : TrialSystem W}
    (h : Aside P s s') (hi : FlightInv (st, s)) : FlightInv (st, s') := by
  obtain ⟨hbounds, hprepared⟩ := h.same
  obtain ⟨_, hplan, _, _, _, hcalls⟩ := h.hears
  have hkey : s'.ccmKey = s.ccmKey := by
    cases h <;> rfl
  refine hi.same ?_ id hcalls hbounds.active (fun _ => by rw [hprepared]) ?_ ?_
  · rintro (hf | hf) <;> rcases hst with rfl | rfl <;> exact (nomatch hf)
  · rw [hbounds.phase]
    exact fun h1 h2 => ⟨h1, h2⟩
  · rw [hbounds.phase, hplan, hkey]
    exact hi.key

/-- A frame was submitted from its slot. -/
theorem FlightInv.accepted {st : Stage} {s s' : TrialSystem W} (h : FlightInv (st, s))
    (hst : st = .claimed ∨ st = .fallback) (hactive : s.trial.activeFrame = s.trial.nextFrame)
    {request : RadioTxRequest} (hrequest : FrameRequest s.nextPrepared request)
    (hsame : s' = { s.log (s.submission request 0) with retry := s'.retry }) :
    FlightInv (.sent, s') := by
  have hready := h.ready hst
  have htrial : s'.trial = s.trial := by rw [hsame]; rfl
  have hcalls : s'.history.calls = s.submission request 0 :: s.history.calls := by
    rw [hsame]
    rfl
  refine ⟨?_, fun _ => ⟨{ trial := s.trial, parent := s.history.parent, request, status := 0 }, ?_⟩,
    ?_, ?_, fun hf => (nomatch hf)⟩
  · rintro (hf | hf) <;> exact (nomatch hf)
  · refine ⟨?_, ?_, ?_, hready.valid, ?_, hrequest⟩
    · rw [hcalls]
      rfl
    · rw [htrial]
      exact hactive.symm
    · rw [htrial, hactive]
      rfl
    · rw [htrial, hactive]
      exact hready.same.index
  · simp only [hcalls]
    exact h.attributed
  · exact fun hf => absurd (.inl rfl) hf

/-- A refused submission changes nothing. -/
theorem FlightInv.refused {st : Stage} {s s' : TrialSystem W} (h : FlightInv (st, s))
    (hst : st = .claimed ∨ st = .fallback) {request : RadioTxRequest} {status : UInt8}
    (hstatus : status ≠ 0)
    (hsame : s' = { s.log (s.submission request status) with retry := s'.retry }) :
    FlightInv (.claimed, s') := by
  have hready := h.ready hst
  have hcalls : s'.history.calls = s.submission request status :: s.history.calls := by
    rw [hsame]
    rfl
  refine ⟨fun _ => ?_, ?_, ?_, fun _ hphase => ?_, fun hf => (nomatch hf)⟩
  · rw [hsame]
    exact ⟨hready.next, hready.valid, hready.same, hready.proper⟩
  · rintro (hf | hf | hf | hf) <;> exact (nomatch hf)
  · simp only [hcalls]
    exact h.attributed
  · simp only [hcalls]
    change (if status = 0 then true else radioOwned s.history.calls) = false
    rw [if_neg hstatus]
    apply h.free
    · rintro (hf | hf) <;> rcases hst with rfl | rfl <;> exact (nomatch hf)
    · rw [hsame] at hphase
      exact hphase

theorem FlightInv.finish {st : Stage} {s : TrialSystem W} (h : FlightInv (st, s))
    {phase : TrialPhase} (hphase : phase ≠ .fault → ¬st.holds ∧ s.trial.phase ≠ .fault)
    (reason : UInt8) :
    FlightInv (.rest, s.finish P phase reason) := by
  refine ⟨?_, ?_, h.attributed, fun _ hne => ?_, fun _ _ => ⟨rfl, rfl⟩⟩
  · rintro (hf | hf) <;> exact (nomatch hf)
  · rintro (hf | hf | hf | hf) <;> exact (nomatch hf)
  · obtain ⟨hst, hfault⟩ := hphase hne
    exact h.free hst hfault

/-- A reply is recorded under the frame in flight. -/
theorem FlightInv.reply {s s' : TrialSystem W} (h : FlightInv (.settling, s)) {c : Call}
    (hcalls : s'.history.calls = c :: s.history.calls)
    (hnewest : lastSubmitted (c :: s.history.calls) = lastSubmitted s.history.calls)
    (hattributed : Attributed (c :: s.history.calls))
    (howned : radioOwned (c :: s.history.calls) = radioOwned s.history.calls)
    (hsame : s'.trial.activeFrame = s.trial.activeFrame ∧ s'.trial.prepared = s.trial.prepared ∧
      s'.trial.phase = s.trial.phase) : FlightInv (.settling, s') := by
  obtain ⟨hactive, hprepared, hphase⟩ := hsame
  refine ⟨?_, fun _ => ?_, ?_, fun hst hfault => ?_, fun hf => (nomatch hf)⟩
  · rintro (hf | hf) <;> exact (nomatch hf)
  · obtain ⟨sub, hsub⟩ := h.flight (.inr (.inr (.inl rfl)))
    exact ⟨sub, hsub.mono (by rw [hcalls, hnewest]) hactive (by rw [hprepared])⟩
  · simp only [hcalls]
    exact hattributed
  · simp only [hcalls, howned]
    exact h.free hst (hphase ▸ hfault)

theorem Move.flightInv {a b : Stage × TrialSystem W} (h : Move P a b) (hb : Bounded a)
    (hi : FlightInv a) : FlightInv b := by
  have hnot {st : Stage} {Q : Prop} (h : st ≠ .claimed ∧ st ≠ .fallback) :
      st = .claimed ∨ st = .fallback → Q := fun hor => by
    rcases hor with hf | hf
    · exact absurd hf h.1
    · exact absurd hf h.2
  have hnofault {phase : TrialPhase} (h : Active phase) : phase ≠ .fault := by
    rintro rfl
    rcases h with hf | hf <;> exact (nomatch hf)
  have hidle {phase : TrialPhase} (h : phase = .idle) : ¬Active phase := by
    rw [h]
    exact not_active_idle
  cases h with
  | world | report =>
      exact hi.same (fun hst => ⟨(hi.ready hst).next, (hi.ready hst).valid, (hi.ready hst).same,
        (hi.ready hst).proper⟩) id rfl rfl (fun _ => rfl) (fun h1 h2 => ⟨h1, h2⟩) hi.key
  | asideRest h => exact hi.aside (.inl rfl) h
  | asideFlying h => exact hi.aside (.inr rfl) h
  | setAudioSource | continuous | rearmSource | confirm | takeLead =>
      exact hi.same (hnot (by decide)) id rfl rfl (fun _ => rfl) (fun h1 h2 => ⟨h1, h2⟩) hi.key
  | rearm hphase =>
      have hkey := hi.key rfl (not_active_over hphase)
      refine ⟨?_, ?_, trivial, fun _ _ => rfl, fun _ _ => ⟨rfl, hkey.2⟩⟩
      · rintro (hf | hf) <;> exact (nomatch hf)
      · rintro (hf | hf | hf | hf) <;> exact (nomatch hf)
  | «begin» hphase starts =>
      exact hi.same (hnot (by decide)) id rfl rfl (fun _ => rfl) (fun h1 h2 => ⟨h1, h2⟩)
        fun _ hne => ⟨(hi.key rfl (hidle hphase)).1, rfl⟩
  | plan hphase plan =>
      exact hi.same (hnot (by decide)) (by decide) rfl rfl (fun _ => rfl)
        (fun _ h2 => ⟨by decide, h2⟩) (fun hf => (nomatch hf))
  | crc crcInit =>
      exact hi.same (hnot (by decide)) id rfl rfl (fun _ => rfl) (fun h1 h2 => ⟨h1, h2⟩)
        (fun hf => (nomatch hf))
  | prepareFirst =>
      rename_i s
      obtain ⟨p, source, world, ccmKey, parent, hsame⟩ := prepareFrame_same P 0 s
      rw [hsame]
      exact hi.same (hnot (by decide)) id rfl rfl (fun hf => absurd hf (by decide))
        (fun h1 h2 => ⟨h1, h2⟩) (fun hf => (nomatch hf))
  | abandon prepared h =>
      exact hi.same (hnot (by decide)) (by decide) rfl rfl (fun hf => absurd hf (by decide))
        (fun _ h2 => ⟨by decide, h2⟩) (fun _ _ => ⟨rfl, rfl⟩)
  | commit now =>
      refine hi.same (hnot (by decide)) (by decide) rfl rfl (fun hf => absurd hf (by decide))
        (fun _ _ => ⟨by decide, ?_⟩) (fun _ hne => absurd (.inl rfl) hne)
      exact fun hf => (nomatch hb.1.symm.trans hf)
  | prepare hnext hphase =>
      rename_i s
      obtain ⟨p, source, world, ccmKey, parent, hsame⟩ :=
        prepareFrame_same P s.trial.nextFrame s
      rw [hsame]
      exact hi.same (hnot (by decide)) id rfl rfl (fun hf => absurd hf (by decide))
        (fun h1 h2 => ⟨h1, h2⟩) (fun _ hne => absurd hphase hne)
  | skip hnext hphase =>
      exact hi.same (hnot (by decide)) id rfl rfl (fun _ => rfl) (fun h1 h2 => ⟨h1, h2⟩)
        (fun _ hne => absurd hphase hne)
  | wait hphase =>
      exact hi.same (hnot (by decide)) id rfl rfl (fun _ => rfl)
        (fun h1 _ => ⟨h1, hnofault hphase⟩) (fun _ hne => absurd (.inl rfl) hne)
  | claim h hphase =>
      have hbusy : ¬Stage.claimed.busy := by decide
      have hholds : ¬Stage.rest.holds := by decide
      exact ⟨fun _ => ⟨h.next, h.valid, h.same, h.proper⟩, fun hf => absurd hf hbusy,
        hi.attributed, fun _ _ => hi.free hholds (hnofault hphase), fun hf => (nomatch hf)⟩
  | accepted request h => exact hi.accepted (.inl rfl) hb.2.1 h rfl
  | refused request h status hstatus => exact hi.refused (.inl rfl) hstatus rfl
  | fallback now status hstatus =>
      have hready := hi.ready (.inl rfl)
      exact hi.same (fun _ => ⟨hready.next, hready.valid, hready.same, hready.proper⟩)
        (by decide) rfl rfl (fun _ => rfl) (fun _ h2 => ⟨by decide, h2⟩) (fun hf => (nomatch hf))
  | fallbackSent request h => exact hi.accepted (.inr rfl) hb.2.1 h rfl
  | fallbackRejected request h status hstatus => exact hi.refused (.inr rfl) hstatus rfl
  | submitted now recorded repeated fallback =>
      exact hi.same (hnot (by decide)) id rfl rfl (fun _ => rfl) (fun h1 h2 => ⟨h1, h2⟩)
        (fun hf => (nomatch hf))
  | unsubmitted now status hstatus recorded repeated fallback hrecorded =>
      exact hi.same (hnot (by decide)) (by decide) rfl rfl (fun _ => rfl)
        (fun _ h2 => ⟨by decide, h2⟩) (fun _ hne => absurd hb.1 hne)
  | launch =>
      exact hi.same (hnot (by decide)) (by decide) rfl rfl (fun _ => rfl)
        (fun hf _ => absurd (.inr rfl) hf) (fun hf => (nomatch hf))
  | prepareNext index hindex =>
      rename_i s
      obtain ⟨p, source, world, ccmKey, parent, hsame⟩ := prepareFrame_same P index s
      rw [hsame]
      refine hi.same (hnot (by decide)) id rfl rfl (fun _ => ?_) (fun h1 h2 => ⟨h1, h2⟩)
        (fun hf => (nomatch hf))
      -- the next frame has the other slot
      exact Function.update_of_ne (hindex ▸ (frameSlot_succ _).symm) _ _
  | alternate index hindex =>
      rename_i s
      obtain ⟨alternate, gap, source, world, ccmKey, hsame⟩ := prepareAlternate_ahead P index s
      rw [hsame]
      exact hi.same (hnot (by decide)) id rfl rfl (fun _ => rfl) (fun h1 h2 => ⟨h1, h2⟩)
        (fun hf => (nomatch hf))
  | giveUp | lost =>
      exact hi.same (hnot (by decide)) id rfl rfl (fun _ => rfl) (fun h1 h2 => ⟨h1, h2⟩)
        (fun hf => (nomatch hf))
  | collected now result ended =>
      obtain ⟨sub, hsub⟩ := hi.flight (.inr (.inl rfl))
      refine ⟨?_, fun _ => ⟨sub, hsub.mono rfl rfl rfl⟩, hi.attributed, fun _ _ => rfl, ?_⟩
      · cases ended <;> rintro (hf | hf) <;> exact (nomatch hf)
      · cases ended <;> exact fun hf => (nomatch hf)
  | ordinary | heard | controlReceived =>
      exact hi.same (hnot (by decide)) id rfl rfl (fun _ => rfl) (fun h1 h2 => ⟨h1, h2⟩)
        (fun hf => (nomatch hf))
  | control rx =>
      obtain ⟨sub, hsub⟩ := hi.flight (.inr (.inr (.inl rfl)))
      refine hi.reply rfl rfl ⟨⟨sub, hsub.newest, ?_⟩, hi.attributed⟩ rfl ⟨rfl, rfl, rfl⟩
      rw [hsub.unchanged]
  | noteTx =>
      obtain ⟨sub, hsub⟩ := hi.flight (.inr (.inr (.inl rfl)))
      refine hi.reply rfl rfl ⟨⟨sub, hsub.newest, hsub.index.symm, ?_, ?_⟩, hi.attributed⟩ rfl
        ⟨rfl, rfl, rfl⟩ <;> rw [hsub.unchanged]
  | rewind | drop | settled =>
      exact hi.same (hnot (by decide)) (by decide) rfl rfl (fun _ => rfl)
        (fun _ h2 => ⟨by decide, h2⟩) (fun _ hne => absurd (.inr hb.1) hne)
  | finish phase reason hphase hst hactive =>
      refine hi.finish (fun _ => ⟨?_, hnofault hactive⟩) reason
      rcases hst with rfl | rfl | rfl <;> decide
  | fault reason => exact hi.finish (fun hf => absurd rfl hf) reason

theorem Moves.flightInv {a b : Stage × TrialSystem W} (h : Moves P a b) (hb : Bounded a)
    (hi : FlightInv a) : FlightInv b := by
  induction h with
  | refl => exact hi
  | tail hmoves hmove ih => exact hmove.flightInv (Moves.bounded hmoves hb) ih

theorem flightInv_init (world : W) : FlightInv (Stage.rest, TrialSystem.init world) := by
  refine ⟨?_, ?_, trivial, fun _ _ => rfl, fun _ _ => ⟨rfl, rfl⟩⟩
  · rintro (hf | hf) <;> exact (nomatch hf)
  · rintro (hf | hf | hf | hf) <;> exact (nomatch hf)

/-- While an event is in flight its slot holds the frame the radio was given, and every reply is
dealt with under the frame that was transmitted. -/
theorem reply_attributed {world : W} {trace : List (TrialAction W)} {s : TrialSystem W}
    (h : Library.Run (TrialSystem.Step P) (.init world) trace s) :
    (s.trial.phase = .transmitting → ∃ sub, InFlight s sub) ∧ Attributed s.history.calls := by
  have hi := Moves.flightInv (run_moves h) (bounded_init world) (flightInv_init world)
  refine ⟨fun hphase => hi.flight (.inr (.inl ?_)), hi.attributed⟩
  exact if_pos hphase

/-- A reply carried control data and acknowledged its frame; the next frame is in flight. -/
theorem reply_attributed_heard :
    (wheelRun.history.calls.any fun c => match c with
      | .control rx _ => rx.length != 0
      | _ => false) = true ∧
    (wheelRun.history.calls.any fun c => match c with
      | .noteTx frame _ _ => frame == 7
      | _ => false) = true ∧
    wheelRun.trial.activeFrame = 8 ∧ wheelRun.trial.phase = .transmitting ∧
    (wheelRun.trial.phase = .transmitting → ∃ sub, InFlight wheelRun sub) ∧
    Attributed wheelRun.history.calls :=
  ⟨by decide +kernel, by decide +kernel, by decide +kernel, by decide +kernel,
    reply_attributed wheel_steps⟩

/-- A trial that is over owns no event, and between sessions there is neither plan nor key. -/
theorem terminal_released {world : W} {trace : List (TrialAction W)} {s : TrialSystem W}
    (h : Library.Run (TrialSystem.Step P) (.init world) trace s) :
    (s.trial.phase = .finished ∨ s.trial.phase = .cancelled ∨ s.trial.phase = .failed →
      radioOwned s.history.calls = false) ∧
    (s.trial.phase ≠ .waitE2 → s.trial.phase ≠ .transmitting →
      s.trial.plan = planZero ∧ s.ccmKey = none) := by
  have hi := Moves.flightInv (run_moves h) (bounded_init world) (flightInv_init world)
  have hrest (hne : s.trial.phase ≠ .transmitting) : restStage s = .rest := if_neg hne
  constructor
  · intro hover
    have hne : s.trial.phase ≠ .transmitting := fun hf => not_active_over hover (.inr hf)
    have hfree := hi.free
    simp only [hrest hne] at hfree
    apply hfree (by decide)
    rcases hover with hf | hf | hf <;> rw [hf] <;> decide
  · intro hwait hne
    have hkey := hi.key
    simp only [hrest hne] at hkey
    apply hkey trivial
    rintro (hf | hf)
    · exact hwait hf
    · exact hne hf

/-- A trial is cancelled with an event in flight. -/
theorem terminal_released_cancelled :
    let s := (TrialSystem.init ()).run (.prompt (.reclaimed (silentResult .cancelled 0)))
      [.start, .step, .cancel]
    s.trial.phase = .cancelled ∧
      (s.trial.phase = .finished ∨ s.trial.phase = .cancelled ∨ s.trial.phase = .failed →
        radioOwned s.history.calls = false) ∧
      (s.trial.phase ≠ .waitE2 → s.trial.phase ≠ .transmitting →
        s.trial.plan = planZero ∧ s.ccmKey = none) := by
  intro s
  exact ⟨by decide +kernel, terminal_released (TrialSystem.run_steps _ _ _)⟩

/-! ## Order and accounting -/

/-- The newest result collected since the newest successful submission. -/
def collectedSince : List Call → Option (RadioTxPhase × UInt16)
  | [] => none
  | .collected phase txCount _ :: _ => some (phase, txCount)
  | .submit s :: calls => if s.status = 0 then none else collectedSince calls
  | _ :: calls => collectedSince calls

/-- Indices never decrease, and one is used again only after its reservation was cancelled unused. -/
def InOrder : List Call → Prop
  | [] => True
  | .submit s :: calls =>
      (s.status = 0 → ∀ old, lastSubmitted calls = some old →
        old.trial.nextFrame < s.trial.nextFrame ∨
          old.trial.nextFrame = s.trial.nextFrame ∧
            collectedSince calls = some (.cancelled, 0)) ∧ InOrder calls
  | _ :: calls => InOrder calls

/-- Events collected as cancelled without a transmission, by a step that went on. -/
def reservationsLost : List Call → UInt32
  | [] => 0
  | .collected phase txCount ended :: calls =>
      reservationsLost calls + if phase = .cancelled ∧ txCount = 0 ∧ ended = false then 1 else 0
  | _ :: calls => reservationsLost calls

/-- Where the next frame stands after the newest submission. -/
def Follows (s : TrialSystem W) : Prop :=
  ∀ old, lastSubmitted s.history.calls = some old →
    old.trial.nextFrame < s.trial.nextFrame ∨
      old.trial.nextFrame = s.trial.nextFrame ∧
        collectedSince s.history.calls = some (.cancelled, 0)

/-- One result is collected but not yet accounted for. -/
def owed (st : Stage) (calls : List Call) : UInt32 :=
  if st = .settling ∧ lastCollected calls = some (.cancelled, 0) then 1 else 0

theorem owed_zero {st : Stage} (h : st ≠ .settling) (calls : List Call) : owed st calls = 0 :=
  if_neg fun hf => h hf.1

structure OrderInv (a : Stage × TrialSystem W) : Prop where
  order : InOrder a.2.history.calls
  follows : a.1 = .claimed ∨ a.1 = .fallback ∨ (a.1 = .rest ∧ Active a.2.trial.phase) → Follows a.2
  collected : a.1 = .settling → collectedSince a.2.history.calls = lastCollected a.2.history.calls
  accounted : a.2.trial.nextFrame + reservationsLost a.2.history.calls =
    a.2.trial.submitted + a.2.trial.skipped + owed a.1 a.2.history.calls

/-- Neither the record nor a counter changes. -/
theorem OrderInv.same {st st' : Stage} {s s' : TrialSystem W} (h : OrderInv (st, s))
    (hcalls : s'.history.calls = s.history.calls)
    (hnext : s'.trial.nextFrame = s.trial.nextFrame)
    (hsubmitted : s'.trial.submitted = s.trial.submitted)
    (hskipped : s'.trial.skipped = s.trial.skipped)
    (hfollows : st' = .claimed ∨ st' = .fallback ∨ (st' = .rest ∧ Active s'.trial.phase) →
      Follows s)
    (hst : st' = .settling ↔ st = .settling) : OrderInv (st', s') := by
  refine ⟨?_, fun hor => ?_, fun hsettling => ?_, ?_⟩
  · simp only [hcalls]
    exact h.order
  · unfold Follows
    simp only [hcalls, hnext]
    exact hfollows hor
  · simp only [hcalls]
    exact h.collected (hst.mp hsettling)
  · have howed : owed st' s.history.calls = owed st s.history.calls := by
      unfold owed
      simp only [hst]
    change s'.trial.nextFrame + reservationsLost s'.history.calls =
      s'.trial.submitted + s'.trial.skipped + owed st' s'.history.calls
    rw [hcalls, hnext, hsubmitted, hskipped, howed]
    exact h.accounted

theorem lt_succ_of_lt {a limit : UInt32} (h : a < limit) : a < a + 1 := by
  have hlt := UInt32.lt_iff_toNat_lt.mp h
  have hbound := limit.toNat_lt
  rw [UInt32.lt_iff_toNat_lt, UInt32.toNat_add]
  change a.toNat < (a.toNat + 1) % 4294967296
  omega

/-- A frame later is past every frame submitted. -/
theorem Follows.past {s s' : TrialSystem W} (h : Follows s)
    (hnext : s'.trial.nextFrame = s.trial.nextFrame + 1)
    (hlt : s.trial.nextFrame < s.frameLimit) (hcalls : s'.history.calls = s.history.calls) :
    Follows s' := by
  intro old hold
  rw [hcalls] at hold
  rw [hnext]
  have hsucc := lt_succ_of_lt hlt
  rcases h old hold with hlt | ⟨heq, _⟩
  · exact .inl (UInt32.lt_trans hlt hsucc)
  · exact .inl (heq ▸ hsucc)

/-- The frame that was taken is behind the next one. -/
theorem InFlight.follows {s s' : TrialSystem W} {sub : Submission} (h : InFlight s sub)
    (hcalls : s'.history.calls = s.history.calls)
    (hnext : s'.trial.nextFrame = s.trial.activeFrame + 1)
    (hlt : s.trial.activeFrame < s.frameLimit) : Follows s' := by
  intro old hold
  rw [hcalls, h.newest, Option.some.injEq] at hold
  rw [← hold, h.index, hnext]
  exact .inl (lt_succ_of_lt hlt)

/-- A submission is recorded in order. -/
theorem OrderInv.submit {st st' : Stage} {s s' : TrialSystem W} (h : OrderInv (st, s))
    (hst : st = .claimed ∨ st = .fallback) {request : RadioTxRequest} {status : UInt8}
    (hst' : st' = .sent ∧ status = 0 ∨ st' = .claimed ∧ status ≠ 0)
    (hsame : s' = { s.log (s.submission request status) with retry := s'.retry }) :
    OrderInv (st', s') := by
  have htrial : s'.trial = s.trial := by rw [hsame]; rfl
  have hcalls : s'.history.calls = s.submission request status :: s.history.calls := by
    rw [hsame]
    rfl
  have hfollows : Follows s := h.follows (by tauto)
  refine ⟨?_, ?_, ?_, ?_⟩
  · simp only [hcalls]
    exact ⟨fun _ => hfollows, h.order⟩
  · intro hor
    rcases hst' with ⟨rfl, _⟩ | ⟨rfl, hstatus⟩
    · rcases hor with hf | hf | ⟨hf, _⟩ <;> exact (nomatch hf)
    · -- a refused submission is not the last one
      intro old hold
      rw [hcalls] at hold ⊢
      rw [htrial]
      change (if status = 0 then _ else lastSubmitted s.history.calls) = _ at hold
      rw [if_neg hstatus] at hold
      change _ ∨ _ ∧ (if status = 0 then none else collectedSince s.history.calls) = _
      rw [if_neg hstatus]
      exact hfollows old hold
  · intro hf
    rcases hst' with ⟨rfl, _⟩ | ⟨rfl, _⟩ <;> exact (nomatch hf)
  · have hst1 : st ≠ .settling := by rcases hst with rfl | rfl <;> decide
    have hst2 : st' ≠ .settling := by
      rcases hst' with ⟨rfl, _⟩ | ⟨rfl, _⟩ <;> decide
    have haccounted := h.accounted
    change s.trial.nextFrame + reservationsLost s.history.calls = _ + owed st s.history.calls
      at haccounted
    change s'.trial.nextFrame + reservationsLost s'.history.calls = _ + owed st' s'.history.calls
    rw [owed_zero hst1] at haccounted
    rw [owed_zero hst2, htrial, hcalls]
    exact haccounted

/-- A reply is recorded while a result is dealt with. -/
theorem OrderInv.reply {s s' : TrialSystem W} (h : OrderInv (.settling, s)) {c : Call}
    (hcalls : s'.history.calls = c :: s.history.calls)
    (hc : ∀ calls, InOrder (c :: calls) = InOrder calls ∧
      collectedSince (c :: calls) = collectedSince calls ∧
      lastCollected (c :: calls) = lastCollected calls ∧
      reservationsLost (c :: calls) = reservationsLost calls)
    (hnext : s'.trial.nextFrame = s.trial.nextFrame)
    (hsubmitted : s'.trial.submitted = s.trial.submitted)
    (hskipped : s'.trial.skipped = s.trial.skipped) : OrderInv (.settling, s') := by
  obtain ⟨horder, hsince, hlast, hlost⟩ := hc s.history.calls
  refine ⟨?_, ?_, fun _ => ?_, ?_⟩
  · simp only [hcalls, horder]
    exact h.order
  · rintro (hf | hf | ⟨hf, _⟩) <;> exact (nomatch hf)
  · simp only [hcalls, hsince, hlast]
    exact h.collected rfl
  · have howed : owed .settling (c :: s.history.calls) = owed .settling s.history.calls := by
      unfold owed
      rw [hlast]
    change s'.trial.nextFrame + reservationsLost s'.history.calls =
      s'.trial.submitted + s'.trial.skipped + owed .settling s'.history.calls
    rw [hcalls, hnext, hsubmitted, hskipped, hlost, howed]
    exact h.accounted

/-- A frame is passed over. -/
theorem OrderInv.skip {s : TrialSystem W} (h : OrderInv (.rest, s))
    (hnext : s.trial.nextFrame < s.frameLimit) (hphase : Active s.trial.phase) :
    OrderInv (.rest, s.skipFrame P) := by
  refine ⟨h.order, fun _ => (h.follows (.inr (.inr ⟨rfl, hphase⟩))).past rfl hnext rfl,
    fun hf => (nomatch hf), ?_⟩
  have haccounted : s.trial.nextFrame + reservationsLost s.history.calls =
    s.trial.submitted + s.trial.skipped + 0 := h.accounted
  change s.trial.nextFrame + 1 + reservationsLost s.history.calls =
    s.trial.submitted + (s.trial.skipped + 1) + 0
  generalize reservationsLost s.history.calls = lost at haccounted ⊢
  grind

/-- A frame is with the radio. -/
theorem OrderInv.launch {s : TrialSystem W} (h : OrderInv (.sent, s)) :
    OrderInv (.flying, s.onTrial fun t => { t with
      nextFrame := t.nextFrame + 1, submitted := t.submitted + 1, phase := .transmitting }) := by
  refine ⟨h.order, ?_, fun hf => (nomatch hf), ?_⟩
  · rintro (hf | hf | ⟨hf, _⟩) <;> exact (nomatch hf)
  · have haccounted : s.trial.nextFrame + reservationsLost s.history.calls =
      s.trial.submitted + s.trial.skipped + 0 := h.accounted
    change s.trial.nextFrame + 1 + reservationsLost s.history.calls =
      s.trial.submitted + 1 + s.trial.skipped + 0
    generalize reservationsLost s.history.calls = lost at haccounted ⊢
    grind

/-- A result is collected; a cancelled reservation is owed until it is dealt with. -/
theorem OrderInv.collect {s s' : TrialSystem W} (h : OrderInv (.flying, s))
    {phase : RadioTxPhase} {txCount : UInt16} {ended : Bool}
    (hcalls : s'.history.calls = .collected phase txCount ended :: s.history.calls)
    (hnext : s'.trial.nextFrame = s.trial.nextFrame)
    (hsubmitted : s'.trial.submitted = s.trial.submitted)
    (hskipped : s'.trial.skipped = s.trial.skipped) :
    OrderInv (if ended then .ending else .settling, s') := by
  have haccounted : s.trial.nextFrame + reservationsLost s.history.calls =
    s.trial.submitted + s.trial.skipped + 0 := h.accounted
  have hlost : reservationsLost s'.history.calls = reservationsLost s.history.calls +
      owed (if ended then .ending else .settling) s'.history.calls := by
    rw [hcalls]
    change reservationsLost s.history.calls + _ = _
    unfold owed lastCollected
    cases ended <;> simp
  refine ⟨?_, ?_, fun _ => ?_, ?_⟩
  · simp only [hcalls]
    exact h.order
  · cases ended <;> rintro (hf | hf | ⟨hf, _⟩) <;> exact (nomatch hf)
  · simp only [hcalls]
    rfl
  · simp only [hnext, hsubmitted, hskipped, hlost]
    generalize owed _ _ = due
    generalize reservationsLost s.history.calls = lost at haccounted ⊢
    grind

/-- A cancelled reservation is made again. -/
theorem OrderInv.rewind {s : TrialSystem W} (h : OrderInv (.settling, s))
    (hnext : s.trial.nextFrame = s.trial.activeFrame + 1) (hflight : ∃ sub, InFlight s sub)
    (hlast : lastCollected s.history.calls = some (.cancelled, 0)) :
    OrderInv (.rest, s.onTrial fun t => { t with nextFrame := t.activeFrame }) := by
  obtain ⟨sub, hsub⟩ := hflight
  refine ⟨h.order, fun _ old hold => .inr ⟨?_, (h.collected rfl).trans hlast⟩,
    fun hf => (nomatch hf), ?_⟩
  · have heq : sub = old := Option.some.inj (hsub.newest.symm.trans hold)
    rw [← heq]
    exact hsub.index
  · have haccounted : s.trial.nextFrame + reservationsLost s.history.calls =
      s.trial.submitted + s.trial.skipped + owed .settling s.history.calls := h.accounted
    rw [owed, if_pos ⟨rfl, hlast⟩, hnext] at haccounted
    change s.trial.activeFrame + reservationsLost s.history.calls =
      s.trial.submitted + s.trial.skipped + 0
    generalize reservationsLost s.history.calls = lost at haccounted ⊢
    grind

/-- A result is dealt with; a reservation that is not made again counts as skipped. -/
theorem OrderInv.settle {s s' : TrialSystem W} (h : OrderInv (.settling, s))
    (hb : Bounded (.settling, s)) (hflight : ∃ sub, InFlight s sub)
    (hcalls : s'.history.calls = s.history.calls)
    (hnext : s'.trial.nextFrame = s.trial.nextFrame)
    (hcounts : lastCollected s.history.calls ≠ some (.cancelled, 0) ∧
        s'.trial.submitted = s.trial.submitted ∧ s'.trial.skipped = s.trial.skipped ∨
      lastCollected s.history.calls = some (.cancelled, 0) ∧
        s'.trial.submitted = s.trial.submitted ∧ s'.trial.skipped = s.trial.skipped + 1) :
    OrderInv (.rest, s') := by
  obtain ⟨sub, hsub⟩ := hflight
  refine ⟨?_, fun _ => hsub.follows hcalls (hnext.trans hb.2.1) hb.2.2, fun hf => (nomatch hf), ?_⟩
  · simp only [hcalls]
    exact h.order
  · have haccounted : s.trial.nextFrame + reservationsLost s.history.calls =
      s.trial.submitted + s.trial.skipped + owed .settling s.history.calls := h.accounted
    change s'.trial.nextFrame + reservationsLost s'.history.calls =
      s'.trial.submitted + s'.trial.skipped + 0
    rw [hcalls, hnext, haccounted]
    unfold owed
    rcases hcounts with ⟨hlast, hsubmitted, hskipped⟩ | ⟨hlast, hsubmitted, hskipped⟩
    · rw [if_neg fun hf => hlast hf.2, hsubmitted, hskipped]
    · rw [if_pos ⟨rfl, hlast⟩, hsubmitted, hskipped]
      grind

theorem Move.orderInv {a b : Stage × TrialSystem W} (h : Move P a b) (hb : Bounded a)
    (hf : FlightInv a) (hc : CacheInv P a) (hi : OrderInv a) : OrderInv b := by
  -- at the other stages nothing is asked of the next frame
  have hnone {st : Stage} {Q R : Prop} (h : st ≠ .claimed ∧ st ≠ .fallback ∧ st ≠ .rest) :
      st = .claimed ∨ st = .fallback ∨ (st = .rest ∧ R) → Q := by
    rintro (hst | hst | ⟨hst, _⟩)
    · exact absurd hst h.1
    · exact absurd hst h.2.1
    · exact absurd hst h.2.2
  have hrest {s : TrialSystem W} {phase : TrialPhase}
      (h : Active phase → Follows s) :
      Stage.rest = .claimed ∨ Stage.rest = .fallback ∨ (Stage.rest = .rest ∧ Active phase) →
        Follows s := by
    rintro (hst | hst | ⟨_, hactive⟩)
    · exact (nomatch hst)
    · exact (nomatch hst)
    · exact h hactive
  have haside {st : Stage} {s s' : TrialSystem W} (h : Aside P s s') (hi : OrderInv (st, s)) :
      OrderInv (st, s') := by
    obtain ⟨hbounds, _⟩ := h.same
    obtain ⟨_, _, _, _, _, hcalls⟩ := h.hears
    have hcounts : s'.trial.submitted = s.trial.submitted ∧
        s'.trial.skipped = s.trial.skipped := by
      cases h with
      | joined t ht => constructor <;> rw [ht.same]
      | _ => exact ⟨rfl, rfl⟩
    refine hi.same hcalls hbounds.next hcounts.1 hcounts.2 ?_ .rfl
    rw [hbounds.phase]
    exact hi.follows
  cases h with
  | world | report => exact hi.same rfl rfl rfl rfl hi.follows .rfl
  | asideRest h => exact haside h hi
  | asideFlying h => exact haside h hi
  | setAudioSource | continuous | rearmSource | «begin» | confirm | takeLead =>
      exact hi.same rfl rfl rfl rfl hi.follows .rfl
  | rearm hphase =>
      exact ⟨trivial, hrest (fun hf => absurd hf not_active_idle), fun hf => (nomatch hf), rfl⟩
  | plan hidle plan => exact hi.same rfl rfl rfl rfl (hnone (by decide)) (by decide)
  | crc crcInit => exact hi.same rfl rfl rfl rfl (hnone (by decide)) .rfl
  | prepareFirst =>
      rename_i s
      obtain ⟨p, source, world, ccmKey, parent, hsame⟩ := prepareFrame_same P 0 s
      rw [hsame]
      exact hi.same rfl rfl rfl rfl (hnone (by decide)) .rfl
  | abandon prepared h =>
      refine hi.same rfl rfl rfl rfl (hrest fun hactive => ?_) (by decide)
      exact absurd (hb.1 ▸ hactive) not_active_idle
  | commit now =>
      refine hi.same rfl rfl rfl rfl (fun _ old hold => ?_) (by decide)
      exact absurd (lastSubmitted_mem hold) ((hc.idle (.inl rfl)).2 old)
  | prepare hnext hphase =>
      rename_i s
      obtain ⟨p, source, world, ccmKey, parent, hsame⟩ :=
        prepareFrame_same P s.trial.nextFrame s
      rw [hsame]
      exact hi.same rfl rfl rfl rfl hi.follows .rfl
  | skip hnext hphase => exact hi.skip hnext hphase
  | wait hphase =>
      exact hi.same rfl rfl rfl rfl (hrest fun _ => hi.follows (.inr (.inr ⟨rfl, hphase⟩))) .rfl
  | claim h hphase =>
      have hfollows := hi.follows (.inr (.inr ⟨rfl, hphase⟩))
      exact ⟨hi.order, fun _ => hfollows, fun hf => (nomatch hf), hi.accounted⟩
  | accepted request h => exact hi.submit (.inl rfl) (.inl ⟨rfl, rfl⟩) rfl
  | refused request h status hstatus => exact hi.submit (.inl rfl) (.inr ⟨rfl, hstatus⟩) rfl
  | fallback now status hstatus =>
      exact hi.same rfl rfl rfl rfl (fun _ => hi.follows (.inl rfl)) (by decide)
  | fallbackSent request h => exact hi.submit (.inr rfl) (.inl ⟨rfl, rfl⟩) rfl
  | fallbackRejected request h status hstatus =>
      exact hi.submit (.inr rfl) (.inr ⟨rfl, hstatus⟩) rfl
  | submitted => exact hi.same rfl rfl rfl rfl (hnone (by decide)) .rfl
  | unsubmitted =>
      exact hi.same rfl rfl rfl rfl (fun _ => hi.follows (.inl rfl)) (by decide)
  | launch => exact hi.launch
  | prepareNext index hindex =>
      rename_i s
      obtain ⟨p, source, world, ccmKey, parent, hsame⟩ := prepareFrame_same P index s
      rw [hsame]
      exact hi.same rfl rfl rfl rfl (hnone (by decide)) .rfl
  | alternate index hindex =>
      rename_i s
      obtain ⟨alternate, gap, source, world, ccmKey, hsame⟩ := prepareAlternate_ahead P index s
      rw [hsame]
      exact hi.same rfl rfl rfl rfl (hnone (by decide)) .rfl
  | giveUp | lost => exact hi.same rfl rfl rfl rfl (hnone (by decide)) .rfl
  | collected now result ended => exact hi.collect rfl rfl rfl rfl
  | ordinary | heard | controlReceived =>
      exact hi.same rfl rfl rfl rfl (hnone (by decide)) .rfl
  | control rx =>
      exact hi.reply rfl (fun _ => ⟨rfl, rfl, rfl, rfl⟩) rfl rfl rfl
  | noteTx => exact hi.reply rfl (fun _ => ⟨rfl, rfl, rfl, rfl⟩) rfl rfl rfl
  | rewind h => exact hi.rewind hb.2.1 (hf.flight (.inr (.inr (.inl rfl)))) h
  | drop now h =>
      exact hi.settle hb (hf.flight (.inr (.inr (.inl rfl)))) rfl rfl (.inr ⟨h, rfl, rfl⟩)
  | settled h =>
      exact hi.settle hb (hf.flight (.inr (.inr (.inl rfl)))) rfl rfl (.inl ⟨h, rfl, rfl⟩)
  | finish phase reason hphase hst hactive =>
      refine ⟨hi.order, hrest (fun hf => absurd hf (not_active_over hphase)), fun hf => (nomatch hf), ?_⟩
      have haccounted := hi.accounted
      rw [owed_zero] at haccounted
      · exact haccounted
      · rcases hst with rfl | rfl | rfl <;> exact fun hf => (nomatch hf)
  | fault reason =>
      refine hi.same rfl rfl rfl rfl (hrest fun hf => ?_) (by decide)
      rcases hf with hf | hf <;> exact (nomatch hf)

theorem Moves.orderInv {a b : Stage × TrialSystem W} (h : Moves P a b) (hb : Bounded a)
    (hf : FlightInv a) (hc : CacheInv P a) (hi : OrderInv a) : OrderInv b := by
  induction h with
  | refl => exact hi
  | tail hmoves hmove ih =>
      exact hmove.orderInv (Moves.bounded hmoves hb) (Moves.flightInv hmoves hb hf)
        (Moves.cacheInv hmoves hb hc) ih

theorem orderInv_init (world : W) : OrderInv (Stage.rest, TrialSystem.init world) :=
  ⟨trivial, fun _ _ hold => (nomatch hold), fun hf => (nomatch hf), rfl⟩

/-- The start of an event on the grid; polls and receive-only frames have a fixed shift. -/
def FrameKey.start (k : FrameKey) (hs : UInt32) (hus : UInt16) : UInt32 × UInt16 :=
  if k.poll then shiftTime (2 * pollTxShiftUs) hs hus
  else if receiveFrame k.index then shiftTime 1600 hs hus
  else (hs, hus)

theorem buildPacket_start {ccm : Ccm} {tone : UInt32 → Stereo} {plan : AirSessionPlan}
    {o : TonePacketOptions} {empty : Bool} {pollHeader : Option UInt8} {stereoAck : Bool}
    {control : List UInt8} {n : Nat} {audio : Option Stereo} {packet : TonePacket}
    (h : buildPacket ccm tone plan o empty pollHeader stereoAck control n audio = .ok packet) :
    sessionTime plan o.eventIndex 0 = some (packet.startHs, packet.startHus) := by
  unfold buildPacket at h
  split at h
  · exact (nomatch h)
  · split at h
    · rename_i hs hus _ _ htime _
      split at h
      · exact (nomatch h)
      · split at h
        · exact (nomatch h)
        · split at h
          · exact (nomatch h)
          · rw [← Except.ok.inj h]
            exact htime
    · exact (nomatch h)

theorem packet_start {ccm : Ccm} {tone : UInt32 → Stereo} {plan : AirSessionPlan} {k : FrameKey}
    {audio : FrameAudio} {packet : TonePacket} (h : k.packet ccm tone plan audio = .ok packet) :
    sessionTime plan k.index 0 = some (packet.startHs, packet.startHus) := by
  have hstart {empty : Bool} {pollHeader : Option UInt8} {stereoAck : Bool} {control : List UInt8}
      {n : Nat} {frames : Option Stereo} (h : buildPacket ccm tone plan k.options empty pollHeader
        stereoAck control n frames = .ok packet) :
      sessionTime plan k.index 0 = some (packet.startHs, packet.startHus) := by
    have htime := buildPacket_start h
    exact htime
  unfold FrameKey.packet emptyParentAckPacketBuild audioParentAckPacketBuild
    toneParentAckPacketBuild controlPacketBuild pollPacketBuild emptyPacketBuild audioPacketBuild
    tonePacketBuild at h
  split at h
  · split at h <;> exact hstart h
  · split at h
    · split at h
      · split at h
        · exact hstart h
        · exact (nomatch h)
      · exact hstart h
    · split at h <;> exact hstart h

theorem buildFrame_start {ccm : Ccm} {tone : UInt32 → Stereo} {plan : AirSessionPlan}
    {k : FrameKey} {audio : FrameAudio} {g : UInt32} {p : PreparedFrame}
    (h : buildFrame ccm tone plan k audio g = some p) :
    ∃ hs hus, sessionTime plan k.index 0 = some (hs, hus) ∧
      (p.outerHs, p.outerHus) = k.start hs hus := by
  unfold buildFrame at h
  split at h
  · exact (nomatch h)
  · split at h
    · exact (nomatch h)
    · rename_i packet hpacket
      split at h
      · exact (nomatch h)
      · obtain ⟨⟨hs, hus, channel⟩, hevent, rfl⟩ := Option.map_eq_some_iff.mp h
        refine ⟨packet.startHs, packet.startHus, packet_start hpacket, ?_⟩
        -- a poll and a frame that listens start later by their shift
        change (hs, hus) = _
        unfold FrameKey.event at hevent
        unfold FrameKey.start
        cases hpoll : k.poll with
        | true =>
            have hreceive : receiveFrame k.index = false := by
              unfold FrameKey.poll at hpoll
              simp only [Bool.and_eq_true, Bool.not_eq_true'] at hpoll
              exact hpoll.2
            simp only [hpoll, hreceive, receiveTimeShift] at hevent
            simp only [if_true, Bool.false_eq_true, if_false, Option.some.injEq,
              Prod.mk.injEq] at hevent ⊢
            rw [← hevent.1, ← hevent.2.1]
        | false =>
            cases hreceive : receiveFrame k.index with
            | true =>
                simp only [hpoll, hreceive, receiveTimeShift, if_true, Bool.false_eq_true, if_false]
                  at hevent ⊢
                obtain ⟨_, _, heq⟩ := Option.map_eq_some_iff.mp hevent
                simp only [Prod.mk.injEq] at heq
                rw [← heq.1, ← heq.2.1]
            | false =>
                simp only [hpoll, hreceive, receiveTimeShift, Bool.false_eq_true, if_false,
                  Option.some.injEq, Prod.mk.injEq] at hevent ⊢
                exact ⟨hevent.1.symm, hevent.2.1.symm⟩

/-- Frames are submitted in order and each once unless its reservation was cancelled unused; the
next frame, the frames submitted and those skipped account for each other; every event starts on the
grid of the plan. -/
theorem frames_accounted {world : W} {trace : List (TrialAction W)} {s : TrialSystem W}
    (h : Library.Run (TrialSystem.Step P) (.init world) trace s) :
    InOrder s.history.calls ∧
    s.trial.nextFrame + reservationsLost s.history.calls = s.trial.submitted + s.trial.skipped ∧
    ∀ sub, .submit sub ∈ s.history.calls → ∃ hs hus,
      sessionTime sub.trial.plan sub.trial.nextFrame 0 = some (hs, hus) ∧
        (sub.request.startHs, sub.request.startHus) = sub.key.start hs hus := by
  have hmoves := run_moves h
  have hc := Moves.cacheInv hmoves (bounded_init world) (cacheInv_init world)
  have hi := Moves.orderInv hmoves (bounded_init world) (flightInv_init world)
    (cacheInv_init world) (orderInv_init world)
  refine ⟨hi.order, ?_, fun sub hsub => ?_⟩
  · have hne : restStage s ≠ .settling := by
      rcases restStage_cases s with hr | hr <;> rw [hr] <;> decide
    have haccounted : s.trial.nextFrame + reservationsLost s.history.calls =
      s.trial.submitted + s.trial.skipped + owed (restStage s) s.history.calls := hi.accounted
    rw [haccounted, owed_zero hne]
    exact UInt32.add_zero _
  · obtain ⟨audio, built, _, hbuilt, _, hrequest⟩ := hc.fresh sub hsub
    obtain ⟨hs, hus, htime, hstart⟩ := buildFrame_start hbuilt
    refine ⟨hs, hus, htime, ?_⟩
    rw [hrequest.startHs, hrequest.startHus]
    exact hstart

/-- A reservation is cancelled unused and made again, then its frame ends. -/
theorem frames_accounted_again :
    let s := (TrialSystem.init ()).run (.prompt (.reclaimed (silentResult .cancelled 0)))
      [.start, .step, .step]
    s.trial.submitted = 2 ∧ s.trial.nextFrame = 1 ∧ reservationsLost s.history.calls = 1 ∧
      s.trial.nextFrame + reservationsLost s.history.calls =
        s.trial.submitted + s.trial.skipped := by
  intro s
  exact ⟨by decide +kernel, by decide +kernel, by decide +kernel,
    (frames_accounted (TrialSystem.run_steps _ _ _)).2.1⟩

/-- Every event collected as cancelled without a transmission. -/
def reservationsCancelled (calls : List Call) : UInt32 :=
  UInt32.ofNat (calls.countP fun c => match c with
    | .collected phase txCount _ => phase == .cancelled && txCount == 0
    | _ => false)

/-- The reservation cancelled with the trial itself is never given back. -/
theorem cancelled_reservation_unaccounted :
    let s := (TrialSystem.init ()).run (.prompt (.reclaimed (silentResult .cancelled 0)))
      [.start, .step, .cancel]
    s.trial.phase = .cancelled ∧ s.trial.nextFrame = 1 ∧ s.trial.submitted = 1 ∧
      s.trial.skipped = 0 ∧ reservationsCancelled s.history.calls = 1 ∧
      s.trial.nextFrame + reservationsCancelled s.history.calls ≠
        s.trial.submitted + s.trial.skipped := by
  decide +kernel

end UllReceiver.Trial
