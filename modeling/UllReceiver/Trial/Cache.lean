import UllReceiver.Trial.Prepare

/-!
# Cached frames

Which keys stand for the same packet, what a built frame says about its key, and what preparing a
frame leaves alone.
-/

namespace UllReceiver.Trial

open Air Audio Parent Radio

/-- What a parent PDU contributes to a packet. -/
def FrameKey.content (k : FrameKey) : UInt8 × UInt8 × List UInt8 :=
  if k.poll || k.parentAck then
    (k.parent.header, k.parent.length, k.parent.payload.toList.take k.parent.length.toNat)
  else (0, 0, [])

/-- Keys of the same packet. -/
structure FrameKey.Same (k k' : FrameKey) : Prop where
  index : k.index = k'.index
  streamMask : k.streamMask = k'.streamMask
  txSequence : k.txSequence = k'.txSequence
  ackSequence : k.ackSequence = k'.ackSequence
  parentAck : k.parentAck = k'.parentAck
  content : k.content = k'.content

/-- A frame without a parent PDU has no parent header. -/
def FrameKey.Proper (k : FrameKey) : Prop :=
  (k.poll || k.parentAck) = false → k.parent.header = 0

/-- What a built frame says about its key. -/
structure BuiltFor (k : FrameKey) (audio : FrameAudio) (p : PreparedFrame) : Prop where
  valid : p.valid = true
  index : p.index = k.index
  streamMask : p.streamMask = k.streamMask
  txSequence : p.txSequence = k.txSequence
  ackSequence : p.ackSequence = k.ackSequence
  parent : p.parent = if k.poll || k.parentAck then k.parent else .zero
  pollHeader : p.pollHeader = k.parent.header
  receive : p.receive = receiveFrame k.index
  stereoAudio : p.stereoAudio = (k.streamMask == 6 && !(audio matches .empty))

theorem buildFrame_fields {ccm : Ccm} {tone : UInt32 → Stereo} {plan : AirSessionPlan}
    {k : FrameKey} {audio : FrameAudio} {generation : UInt32} {p : PreparedFrame}
    (h : buildFrame ccm tone plan k audio generation = some p) : BuiltFor k audio p := by
  unfold buildFrame at h
  split at h
  · exact absurd h (by simp)
  · split at h
    · exact absurd h (by simp)
    · split at h
      · exact absurd h (by simp)
      · obtain ⟨_, _, rfl⟩ := Option.map_eq_some_iff.mp h
        exact ⟨rfl, rfl, rfl, rfl, rfl, rfl, rfl, rfl, rfl⟩

theorem BuiltFor.key_same {k : FrameKey} {audio : FrameAudio} {p : PreparedFrame}
    (h : BuiltFor k audio p) : p.key.Same k := by
  have hpoll : p.key.poll = k.poll := by
    unfold FrameKey.poll PreparedFrame.key
    rw [h.index, h.streamMask]
  have hack : p.key.parentAck = k.parentAck := by
    cases hparent : k.poll || k.parentAck with
    | true =>
        unfold FrameKey.parentAck PreparedFrame.key
        rw [h.index, h.streamMask, h.parent, if_pos hparent]
    | false =>
        rw [Bool.or_eq_false_iff] at hparent
        rw [hparent.2]
        unfold FrameKey.parentAck PreparedFrame.key
        rw [h.parent, hparent.1, hparent.2]
        simp [ParentPdu.zero]
  refine ⟨h.index, h.streamMask, h.txSequence, h.ackSequence, hack, ?_⟩
  unfold FrameKey.content
  rw [hpoll, hack]
  by_cases hparent : (k.poll || k.parentAck) = true
  · rw [if_pos hparent, if_pos hparent]
    change (p.parent.header, p.parent.length, p.parent.payload.toList.take
      p.parent.length.toNat) = _
    rw [h.parent, if_pos hparent]
  · rw [if_neg hparent, if_neg hparent]

/-- A match is for the same packet. -/
theorem frameMatches_same {p : PreparedFrame} {k : FrameKey} (h : frameMatches p k = true) :
    p.valid = true ∧ p.key.Same k := by
  unfold frameMatches at h
  simp only [Bool.and_eq_true, beq_iff_eq, decide_eq_true_eq] at h
  obtain ⟨⟨⟨⟨⟨⟨⟨⟨_, hvalid⟩, hindex⟩, hmask⟩, hheader⟩, hlength⟩, hpayload⟩, htx⟩, hack⟩ := h
  have hpoll : p.key.poll = k.poll := by
    unfold FrameKey.poll PreparedFrame.key
    rw [hindex, hmask]
  have hparentAck : p.key.parentAck = k.parentAck := by
    unfold FrameKey.parentAck PreparedFrame.key
    rw [hindex, hmask, hheader]
  refine ⟨hvalid, hindex, hmask, htx, hack, hparentAck, ?_⟩
  unfold FrameKey.content
  rw [hpoll, hparentAck]
  change (if _ then (p.parent.header, p.parent.length, p.parent.payload.toList.take
    p.parent.length.toNat) else _) = _
  rw [hheader, hlength, hpayload]

theorem cached_some {t : ToneTrial} {k : FrameKey} {p : PreparedFrame}
    (h : TrialSystem.cached t k = some p) :
    frameMatches p k = true ∧ (p = t.prepared (frameSlot k.index) ∨
      p = t.alternate (frameSlot k.index) ∨ p = t.gap (frameSlot k.index)) := by
  unfold TrialSystem.cached at h
  refine ⟨List.find?_some (p := fun p => frameMatches p k) h, ?_⟩
  have hmem := List.mem_of_find?_eq_some h
  simpa using hmem

/-! ## Frame conditions -/

variable {W : Type} (P : Platform W)

theorem parentPdu_same (index : UInt32) (s : TrialSystem W) :
    ∃ world, (s.parentPdu P index).2 = { s with world } := by
  unfold TrialSystem.parentPdu
  split
  · exact ⟨_, rfl⟩
  · split
    · exact ⟨_, rfl⟩
    · exact ⟨s.world, rfl⟩

theorem selectAudio_same (k : FrameKey) (s : TrialSystem W) :
    ∃ source world, (s.selectAudio P k).2 = { s with source, world } := by
  unfold TrialSystem.selectAudio
  split
  · exact ⟨s.source, s.world, rfl⟩
  · split
    · exact ⟨s.source, s.world, rfl⟩
    · simp only
      split
      · exact ⟨_, _, rfl⟩
      · split <;> exact ⟨_, _, rfl⟩

theorem buildPreparedFrame_same (k : FrameKey) (s : TrialSystem W) :
    ∃ source world ccmKey, (s.buildPreparedFrame P k).2 = { s with source, world, ccmKey } := by
  unfold TrialSystem.buildPreparedFrame
  split
  · exact ⟨s.source, s.world, s.ccmKey, rfl⟩
  · obtain ⟨source, world, h⟩ := selectAudio_same P k s
    generalize s.selectAudio P k = r at h
    obtain ⟨audio, s'⟩ := r
    change s' = _ at h
    subst h
    cases audio with
    | none => exact ⟨source, world, s.ccmKey, rfl⟩
    | some audio => exact ⟨source, world, _, rfl⟩

/-- Preparing a frame writes one slot of the cache. -/
theorem prepareKey_same (k : FrameKey) (s : TrialSystem W) :
    ∃ p source world ccmKey, (s.prepareKey P k).2 = { s with
      trial := { s.trial with
        prepared := Function.update s.trial.prepared (frameSlot k.index) p }
      source, world, ccmKey } := by
  unfold TrialSystem.prepareKey
  cases TrialSystem.cached s.trial k with
  | some p => exact ⟨_, s.source, s.world, s.ccmKey, rfl⟩
  | none =>
      obtain ⟨source, world, ccmKey, h⟩ := buildPreparedFrame_same P k s
      generalize s.buildPreparedFrame P k = r at h
      obtain ⟨built, s'⟩ := r
      change s' = _ at h
      subst h
      exact ⟨_, source, world, ccmKey, rfl⟩

theorem prepareFrame_same (index : UInt32) (s : TrialSystem W) :
    ∃ p source world ccmKey parent, (s.prepareFrame P index).2 = { s with
      trial := { s.trial with
        prepared := Function.update s.trial.prepared (frameSlot index) p }
      source, world, ccmKey, history := { s.history with parent } } := by
  have hself (world : W) : ∃ p source world' ccmKey parent, { s with world } = { s with
      trial := { s.trial with
        prepared := Function.update s.trial.prepared (frameSlot index) p }
      source, world := world', ccmKey, history := { s.history with parent } } := by
    refine ⟨s.trial.prepared (frameSlot index), s.source, world, s.ccmKey, s.history.parent, ?_⟩
    rw [Function.update_eq_self]
  unfold TrialSystem.prepareFrame
  split
  · exact hself s.world
  · obtain ⟨world, h⟩ := parentPdu_same P index s
    generalize s.parentPdu P index = r at h
    obtain ⟨parent, s'⟩ := r
    change s' = _ at h
    subst h
    cases parent with
    | none => exact hself world
    | some parent =>
        obtain ⟨p, source, world, ccmKey, h⟩ := prepareKey_same P (s.trial.frameKey index parent)
          { s with world, history := { s.history with parent } }
        exact ⟨p, source, world, ccmKey, parent, h⟩

/-- Only what is built ahead has changed, and what building reads or writes beside it. -/
def Ahead (s s' : TrialSystem W) : Prop :=
  ∃ alternate gap source world ccmKey, s' = { s with
    trial := { s.trial with alternate, gap }, source, world, ccmKey }

theorem Ahead.refl (s : TrialSystem W) : Ahead s s :=
  ⟨_, _, _, _, _, rfl⟩

theorem Ahead.trans {s s' s'' : TrialSystem W} (h : Ahead s s') (h' : Ahead s' s'') :
    Ahead s s'' := by
  obtain ⟨_, _, _, _, _, rfl⟩ := h
  obtain ⟨_, _, _, _, _, rfl⟩ := h'
  exact ⟨_, _, _, _, _, rfl⟩

theorem prepareGuess_ahead (k : FrameKey) (s : TrialSystem W) :
    Ahead s (s.prepareGuess P k).2 := by
  unfold TrialSystem.prepareGuess
  obtain ⟨source, world, ccmKey, h⟩ := buildPreparedFrame_same P k s
  generalize s.buildPreparedFrame P k = r at h
  obtain ⟨built, s'⟩ := r
  change s' = _ at h
  subst h
  exact ⟨_, _, source, world, ccmKey, rfl⟩

theorem prepareGap_ahead (k : FrameKey) (s : TrialSystem W) : Ahead s (s.prepareGap P k).2 := by
  unfold TrialSystem.prepareGap
  obtain ⟨source, world, ccmKey, h⟩ := buildPreparedFrame_same P k s
  generalize s.buildPreparedFrame P k = r at h
  obtain ⟨built, s'⟩ := r
  change s' = _ at h
  subst h
  exact ⟨_, _, source, world, ccmKey, rfl⟩

theorem prepareAlternate_ahead (index : UInt32) (s : TrialSystem W) :
    Ahead s (s.prepareAlternate P index).2 := by
  unfold TrialSystem.prepareAlternate
  split
  · exact Ahead.refl s
  · simp only
    generalize hs1 : s.onTrial _ = s1
    have h1 : Ahead s s1 := by
      rw [← hs1]
      exact ⟨_, _, _, _, _, rfl⟩
    split
    · exact h1
    · split
      · exact h1
      · generalize hk : FrameKey.mk _ _ _ _ _ = k
        have h2 := h1.trans (prepareGuess_ahead P k s1)
        generalize s1.prepareGuess P k = r at h2
        obtain ⟨built, s2⟩ := r
        cases built with
        | false => exact h2
        | true =>
            simp only
            split
            · exact h2
            · exact h2.trans (prepareGap_ahead P _ s2)

/-! ## A prepared frame is the one asked for -/

theorem parentPdu_proper {index : UInt32} {s s' : TrialSystem W} {parent : ParentPdu}
    (h : s.parentPdu P index = (some parent, s')) : (s.trial.frameKey index parent).Proper := by
  unfold TrialSystem.parentPdu at h
  unfold FrameKey.Proper FrameKey.poll FrameKey.parentAck ToneTrial.frameKey
  intro hneither
  simp only [Bool.or_eq_false_iff] at hneither
  split at h
  · rename_i hpoll
    rw [hpoll.1] at hneither
    simp at hneither hpoll
    rw [hpoll.2] at hneither
    exact absurd hneither (by simp)
  · split at h
    · rename_i hdue
      have hack := hneither.2
      rw [hdue.1] at hack
      simp only [Bool.and_eq_false_iff] at hack
      simpa [hdue.2.1] using hack
    · cases (Prod.mk.inj h).1
      rfl

theorem buildPreparedFrame_some {k : FrameKey} {s s' : TrialSystem W} {p : PreparedFrame}
    (h : s.buildPreparedFrame P k = (some p, s')) :
    ∃ audio s1, s.selectAudio P k = (some audio, s1) ∧
      buildFrame P.ccm P.tone s.trial.plan k audio s.trial.feedback.generation = some p := by
  obtain ⟨source, world, hsame⟩ := selectAudio_same P k s
  unfold TrialSystem.buildPreparedFrame at h
  split at h
  · exact absurd (Prod.mk.inj h).1 (by simp)
  · generalize hr : s.selectAudio P k = r at h hsame
    obtain ⟨audio, s1⟩ := r
    change s1 = _ at hsame
    cases audio with
    | none => exact absurd (Prod.mk.inj h).1 (by simp)
    | some audio =>
        refine ⟨audio, s1, rfl, ?_⟩
        have hbuilt := (Prod.mk.inj h).1
        subst hsame
        exact hbuilt

theorem prepareKey_ready {k : FrameKey} {s s' : TrialSystem W}
    (h : s.prepareKey P k = (true, s')) :
    (s'.trial.prepared (frameSlot k.index)).valid = true ∧
      (s'.trial.prepared (frameSlot k.index)).key.Same k := by
  unfold TrialSystem.prepareKey at h
  cases hc : TrialSystem.cached s.trial k with
  | some p =>
      rw [hc] at h
      rw [← (Prod.mk.inj h).2]
      simp only [TrialSystem.onTrial, TrialSystem.store, Function.update_self, Option.getD_some]
      exact frameMatches_same (cached_some hc).1
  | none =>
      rw [hc] at h
      generalize hr : s.buildPreparedFrame P k = r at h
      obtain ⟨built, s1⟩ := r
      simp only [Prod.mk.injEq, Option.isSome_iff_exists] at h
      obtain ⟨⟨p, rfl⟩, rfl⟩ := h
      obtain ⟨audio, _, _, hbuilt⟩ := buildPreparedFrame_some P hr
      have hfields := buildFrame_fields hbuilt
      simp only [TrialSystem.onTrial, TrialSystem.store, Function.update_self, Option.getD_some]
      exact ⟨hfields.valid, hfields.key_same⟩

/-- A frame that was prepared stands in its slot, for the feedback and the parent as they are. -/
theorem prepareFrame_ready {index : UInt32} {s s' : TrialSystem W} (hlimit : index < s.frameLimit)
    (h : s.prepareFrame P index = (true, s')) :
    (s'.trial.prepared (frameSlot index)).valid = true ∧
      (s'.trial.prepared (frameSlot index)).key.Same
        (s'.trial.frameKey index s'.history.parent) ∧
      (s'.trial.frameKey index s'.history.parent).Proper := by
  unfold TrialSystem.prepareFrame at h
  rw [if_neg (UInt32.not_le.mpr hlimit)] at h
  obtain ⟨world, hsame⟩ := parentPdu_same P index s
  generalize hr : s.parentPdu P index = r at h hsame
  obtain ⟨parent, s1⟩ := r
  change s1 = _ at hsame
  cases parent with
  | none => exact absurd (Prod.mk.inj h).1 (by simp)
  | some parent =>
      have hproper := parentPdu_proper P hr
      have hready := prepareKey_ready P h
      subst hsame
      obtain ⟨p, source, world', ccmKey, hframe⟩ := prepareKey_same P (s.trial.frameKey index parent)
        { s with world, history := { s.history with parent } }
      have hs' : s' = _ := (congrArg Prod.snd h).symm.trans hframe
      subst hs'
      exact ⟨hready.1, hready.2, hproper⟩

theorem prepareKey_failed {k : FrameKey} {s s' : TrialSystem W}
    (h : s.prepareKey P k = (false, s')) (i : Fin 2)
    (hvalid : (s'.trial.prepared i).valid = true) : (s.trial.prepared i).valid = true := by
  unfold TrialSystem.prepareKey at h
  cases hc : TrialSystem.cached s.trial k with
  | some p =>
      rw [hc] at h
      exact absurd (Prod.mk.inj h).1 (by simp)
  | none =>
      rw [hc] at h
      obtain ⟨source, world, ccmKey, hsame⟩ := buildPreparedFrame_same P k s
      generalize s.buildPreparedFrame P k = r at h hsame
      obtain ⟨built, s1⟩ := r
      change s1 = _ at hsame
      subst hsame
      simp only [Prod.mk.injEq, Option.isSome_eq_false_iff, Option.isNone_iff_eq_none] at h
      obtain ⟨rfl, rfl⟩ := h
      simp only [TrialSystem.onTrial, TrialSystem.store, Option.getD_none] at hvalid
      by_cases hi : i = frameSlot k.index
      · rw [hi, Function.update_self] at hvalid
        exact absurd hvalid (by simp)
      · rwa [Function.update_of_ne hi] at hvalid

/-- A frame that could not be prepared leaves nothing valid that was not valid before. -/
theorem prepareFrame_failed {index : UInt32} {s s' : TrialSystem W}
    (h : s.prepareFrame P index = (false, s')) (i : Fin 2)
    (hvalid : (s'.trial.prepared i).valid = true) : (s.trial.prepared i).valid = true := by
  unfold TrialSystem.prepareFrame at h
  split at h
  · exact absurd (Prod.mk.inj h).1 (by simp)
  obtain ⟨world, hsame⟩ := parentPdu_same P index s
  generalize s.parentPdu P index = r at h hsame
  obtain ⟨parent, s1⟩ := r
  change s1 = _ at hsame
  subst hsame
  cases parent with
  | none =>
      rw [← (Prod.mk.inj h).2] at hvalid
      exact hvalid
  | some parent => exact prepareKey_failed P h i hvalid

end UllReceiver.Trial
