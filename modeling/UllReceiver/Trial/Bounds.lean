import UllReceiver.Trial.Moves

/-!
# Bounds of the trial

Where the next and the active frame stand in each stage.
-/

namespace UllReceiver.Trial

open Air Audio Parent Radio

variable {W : Type}

def Bounded (a : Stage × TrialSystem W) : Prop :=
  match a.1 with
  | .rest =>
      (a.2.trial.phase = .idle →
        a.2.trial.nextFrame = 0 ∧ ∀ i, (a.2.trial.prepared i).valid = false) ∧
      (Active a.2.trial.phase → a.2.trial.nextFrame ≤ a.2.frameLimit)
  | .starting => a.2.trial.phase = .idle ∧ a.2.trial.nextFrame = 0
  | .claimed | .fallback | .sent =>
      Active a.2.trial.phase ∧ a.2.trial.activeFrame = a.2.trial.nextFrame ∧
        a.2.trial.nextFrame < a.2.frameLimit
  | .flying | .settling | .ending =>
      a.2.trial.phase = .transmitting ∧ a.2.trial.nextFrame = a.2.trial.activeFrame + 1 ∧
        a.2.trial.activeFrame < a.2.frameLimit

theorem not_active_idle : ¬Active .idle := by
  unfold Active
  simp

theorem not_active_over {phase : TrialPhase}
    (h : phase = .finished ∨ phase = .cancelled ∨ phase = .failed) : ¬Active phase := by
  rintro (hf | hf) <;> rw [hf] at h <;> rcases h with h | h | h <;> exact (nomatch h)

theorem bounded_init (world : W) : Bounded (Stage.rest, TrialSystem.init world) :=
  ⟨fun _ => ⟨rfl, fun _ => rfl⟩, fun hactive => absurd hactive not_active_idle⟩

/-- Nothing `Bounded` speaks of has changed. -/
structure SameBounds (s s' : TrialSystem W) : Prop where
  phase : s'.trial.phase = s.trial.phase
  next : s'.trial.nextFrame = s.trial.nextFrame
  active : s'.trial.activeFrame = s.trial.activeFrame
  limit : s'.frameLimit = s.frameLimit

theorem Bounded.flying {s s' : TrialSystem W} (h : SameBounds s s') (hb : Bounded (.flying, s)) :
    Bounded (.flying, s') := by
  unfold Bounded at hb ⊢
  simp only at hb ⊢
  rw [h.phase, h.next, h.active, h.limit]
  exact hb

theorem Bounded.rest {s s' : TrialSystem W} (h : SameBounds s s')
    (hprepared : s.trial.phase = .idle → s'.trial.prepared = s.trial.prepared)
    (hb : Bounded (.rest, s)) : Bounded (.rest, s') := by
  unfold Bounded at hb ⊢
  simp only at hb ⊢
  rw [h.phase, h.next, h.limit]
  refine ⟨fun hidle => ⟨(hb.1 hidle).1, fun i => ?_⟩, hb.2⟩
  rw [hprepared hidle]
  exact (hb.1 hidle).2 i

variable (P : Platform W)

theorem prepareFrame_bounds (index : UInt32) (s : TrialSystem W) :
    SameBounds s (s.prepareFrame P index).2 := by
  obtain ⟨p, source, world, ccmKey, parent, h⟩ := prepareFrame_same P index s
  rw [h]
  exact ⟨rfl, rfl, rfl, rfl⟩

theorem prepareAlternate_bounds (index : UInt32) (s : TrialSystem W) :
    SameBounds s (s.prepareAlternate P index).2 := by
  obtain ⟨alternate, gap, source, world, ccmKey, h⟩ := prepareAlternate_ahead P index s
  rw [h]
  exact ⟨rfl, rfl, rfl, rfl⟩

variable {P}

theorem Aside.same {s s' : TrialSystem W} (h : Aside P s s') :
    SameBounds s s' ∧ s'.trial.prepared = s.trial.prepared := by
  cases h with
  | joined t ht =>
      refine ⟨⟨?_, ?_, ?_, rfl⟩, ?_⟩ <;> rw [ht.same]
  | _ => exact ⟨⟨rfl, rfl, rfl, rfl⟩, rfl⟩

theorem le_succ_of_lt {a b : UInt32} (h : a < b) : a + 1 ≤ b := by
  have hlt := UInt32.lt_iff_toNat_lt.mp h
  have hbound := b.toNat_lt
  rw [UInt32.le_iff_toNat_le, UInt32.toNat_add]
  change (a.toNat + 1) % 4294967296 ≤ _
  omega

theorem Move.bounded {a b : Stage × TrialSystem W} (h : Move P a b) (hb : Bounded a) :
    Bounded b := by
  cases h with
  | world => exact hb
  | report => exact hb
  | asideRest h => exact hb.rest h.same.1 fun _ => h.same.2
  | asideFlying h => exact hb.flying h.same.1
  | setAudioSource on hidle =>
      exact ⟨hb.1, fun hactive => absurd (hidle ▸ hactive) not_active_idle⟩
  | continuous on hidle =>
      exact ⟨hb.1, fun hactive => absurd (hidle ▸ hactive) not_active_idle⟩
  | rearmSource paused hidle => exact hb
  | rearm hphase =>
      exact ⟨fun _ => ⟨rfl, fun _ => rfl⟩, fun hactive => absurd hactive not_active_idle⟩
  | «begin» hidle starts => exact hb
  | plan hidle plan => exact ⟨hidle, (hb.1 hidle).1⟩
  | crc => exact hb
  | prepareFirst =>
      rename_i s
      have hsame := prepareFrame_bounds P 0 s
      exact ⟨hsame.phase.trans hb.1, hsame.next.trans hb.2⟩
  | abandon prepared h =>
      exact ⟨fun _ => ⟨hb.2, h⟩, fun hactive => absurd (hb.1 ▸ hactive) not_active_idle⟩
  | commit now =>
      refine ⟨fun hidle => (nomatch hidle), fun _ => ?_⟩
      have hnext : _ = (0 : UInt32) := hb.2
      exact hnext ▸ UInt32.zero_le
  | confirm => exact hb
  | takeLead => exact hb
  | prepare hnext hphase =>
      exact hb.rest (prepareFrame_bounds P _ _) fun hidle => absurd (hidle ▸ hphase) not_active_idle
  | skip hnext hphase =>
      exact ⟨fun hidle => absurd (hidle ▸ hphase) not_active_idle, fun _ => le_succ_of_lt hnext⟩
  | wait hphase => exact ⟨fun hidle => (nomatch hidle), fun _ => hb.2 hphase⟩
  | claim h hphase => exact ⟨hphase, rfl, h.next⟩
  | accepted => exact hb
  | refused => exact hb
  | fallback => exact hb
  | fallbackSent => exact hb
  | fallbackRejected => exact hb
  | submitted => exact hb
  | unsubmitted =>
      exact ⟨fun hidle => absurd (hidle ▸ hb.1) not_active_idle,
        fun _ => UInt32.le_of_lt hb.2.2⟩
  | launch =>
      obtain ⟨_, hactive, hlimit⟩ := hb
      refine ⟨rfl, ?_, ?_⟩
      · exact congrArg (· + 1) hactive.symm
      · exact lt_of_eq_of_lt hactive hlimit
  | prepareNext => exact hb.flying (prepareFrame_bounds P _ _)
  | alternate => exact hb.flying (prepareAlternate_bounds P _ _)
  | giveUp => exact hb
  | lost => exact hb
  | collected now result ended =>
      cases ended <;> exact hb
  | ordinary => exact hb
  | heard => exact hb
  | controlReceived => exact hb
  | control => exact hb
  | noteTx => exact hb
  | rewind h =>
      exact ⟨fun hidle => absurd (hidle.symm.trans hb.1) (by decide),
        fun _ => UInt32.le_of_lt hb.2.2⟩
  | drop now h =>
      obtain ⟨htransmitting, hnext, hlimit⟩ := hb
      refine ⟨fun hidle => absurd (hidle.symm.trans htransmitting) (by decide), fun _ => ?_⟩
      exact hnext ▸ le_succ_of_lt hlimit
  | settled h =>
      obtain ⟨htransmitting, hnext, hlimit⟩ := hb
      refine ⟨fun hidle => absurd (hidle.symm.trans htransmitting) (by decide), fun _ => ?_⟩
      exact hnext ▸ le_succ_of_lt hlimit
  | finish phase reason hphase hst hactive =>
      refine ⟨fun hidle => ?_, fun hactive => absurd hactive (not_active_over hphase)⟩
      change phase = _ at hidle
      rcases hphase with rfl | rfl | rfl <;> exact (nomatch hidle)
  | fault reason =>
      exact ⟨fun hidle => (nomatch hidle), fun hactive => by
        rcases hactive with h | h <;> exact (nomatch h)⟩

theorem Moves.bounded {a b : Stage × TrialSystem W} (h : Moves P a b) (hb : Bounded a) :
    Bounded b := by
  induction h with
  | refl => exact hb
  | tail _ hmove ih => exact hmove.bounded ih

end UllReceiver.Trial
