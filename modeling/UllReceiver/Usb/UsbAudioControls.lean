import UllReceiver.Usb.UsbAudioSafe

/-!
# Volume, mute and rate of the USB audio device

What the host has set is what it reads back and what the samples show, until it sets it again; and
the rates the host is told.
-/

namespace UllReceiver.Usb

open Library

/-- The change that an action makes to a feature unit. -/
def UsbAction.changes : UsbAction → Option EntityChange
  | .setEntity r buf => entityChange r buf
  | _ => none

namespace EntityChange

/-- Both set the same control of the same unit. -/
def SameControl : EntityChange → EntityChange → Prop
  | .mute i _, .mute j _ => i = j
  | .volume i _, .volume j _ => i = j
  | _, _ => False

/-- The device has what the change has set. -/
def InForce (d : UsbAudio) : EntityChange → Prop
  | .mute true on => d.captureMute = on
  | .mute false on => d.playbackMute = on
  | .volume true v => d.captureVolume = v
  | .volume false v => d.playbackVolume = v

end EntityChange

/-- The settings of the feature units. -/
def UsbAudio.settings (d : UsbAudio) : Int16 × Int16 × Bool × Bool :=
  (d.playbackVolume, d.captureVolume, d.playbackMute, d.captureMute)

theorem EntityChange.InForce.congr {d d' : UsbAudio} {c : EntityChange} (h : c.InForce d)
    (hsame : d'.settings = d.settings) : c.InForce d' := by
  simp only [UsbAudio.settings, Prod.mk.injEq] at hsame
  obtain ⟨h1, h2, h3, h4⟩ := hsame
  match c with
  | .mute true on => exact h4.trans h
  | .mute false on => exact h3.trans h
  | .volume true v => exact h2.trans h
  | .volume false v => exact h1.trans h

namespace UsbAudio

variable {gainOf : Int16 → Int} {d d' : UsbAudio}

theorem inForce_change (gainOf : Int16 → Int) (d : UsbAudio) (c : EntityChange) :
    c.InForce (d.change gainOf c) := by
  match c with
  | .mute true _ | .mute false _ | .volume true _ | .volume false _ => rfl

/-- A change of another control. -/
theorem inForce_other {c c' : EntityChange} (h : c.InForce d) (hother : ¬ c.SameControl c') :
    c.InForce (d.change gainOf c') := by
  match c, c' with
  | .mute true _, .mute false _ | .mute false _, .mute true _ => exact h
  | .mute true _, .volume true _ | .mute true _, .volume false _ => exact h
  | .mute false _, .volume true _ | .mute false _, .volume false _ => exact h
  | .volume true _, .mute true _ | .volume true _, .mute false _ => exact h
  | .volume false _, .mute true _ | .volume false _, .mute false _ => exact h
  | .volume true _, .volume false _ | .volume false _, .volume true _ => exact h
  | .mute true _, .mute true _ | .mute false _, .mute false _ => exact absurd rfl hother
  | .volume true _, .volume true _ | .volume false _, .volume false _ => exact absurd rfl hother

/-! ## The other calls keep the settings, and whether a rate is due -/

theorem takePlayback_settings {out : List Int16} {n : Nat} {r : Nat × List Int16 × Int}
    (h : d.takePlayback out n = some (d', r)) :
    d'.settings = d.settings ∧ d'.feedbackSeedPending = d.feedbackSeedPending := by
  unfold takePlayback at h
  split at h
  · cases h
    exact ⟨rfl, rfl⟩
  · cases h

theorem readPlayback_settings {out : Option (List Int16)} {n : Nat}
    {r : Nat × Option (List Int16)} (h : d.readPlayback out n = some (d', r)) :
    d'.settings = d.settings ∧ d'.feedbackSeedPending = d.feedbackSeedPending := by
  cases out with
  | none =>
    cases h
    exact ⟨rfl, rfl⟩
  | some out =>
    obtain ⟨⟨d₁, got, popped, gain⟩, htake, h⟩ := Option.bind_eq_some_iff.mp h
    obtain ⟨scaled, -, h⟩ := Option.bind_eq_some_iff.mp h
    cases h
    exact takePlayback_settings htake

theorem writeCapture_settings {input : Option (List Int16)} {n written : Nat}
    (h : d.writeCapture input n = some (d', written)) :
    d'.settings = d.settings ∧ d'.feedbackSeedPending = d.feedbackSeedPending := by
  cases input with
  | none =>
    cases h
    exact ⟨rfl, rfl⟩
  | some input =>
    unfold writeCapture at h
    dsimp only at h
    split at h
    · cases h
      exact ⟨rfl, rfl⟩
    · obtain ⟨⟨capture, lost⟩, -, h⟩ := Option.bind_eq_some_iff.mp h
      cases h
      exact ⟨rfl, rfl⟩

theorem rxDone_settings {size got : Nat} {samples : List Int16} {rate : Option UInt32}
    (h : d.rxDone size got samples = some (d', rate)) :
    d'.settings = d.settings ∧ d'.feedbackSeedPending = d.feedbackSeedPending := by
  unfold rxDone at h
  dsimp only at h
  split at h
  · cases h
    exact ⟨rfl, rfl⟩
  · obtain ⟨counted, -, h⟩ := Option.bind_eq_some_iff.mp h
    obtain ⟨⟨playback, lost⟩, -, h⟩ := Option.bind_eq_some_iff.mp h
    dsimp only at h
    split at h
    · obtain ⟨⟨feedback, value⟩, -, h⟩ := Option.bind_eq_some_iff.mp h
      cases h
      exact ⟨rfl, rfl⟩
    · cases h
      exact ⟨rfl, rfl⟩

theorem preLoad_settings {samples : List Int16} (h : d.preLoad = some (d', samples)) :
    d'.settings = d.settings ∧ d'.feedbackSeedPending = d.feedbackSeedPending := by
  obtain ⟨⟨d₁, got, popped, gain⟩, htake, h⟩ := Option.bind_eq_some_iff.mp h
  obtain ⟨scaled, -, h⟩ := Option.bind_eq_some_iff.mp h
  cases h
  unfold takeCapture at htake
  split at htake
  · obtain ⟨missing, -, htake⟩ := Option.bind_eq_some_iff.mp htake
    cases htake
    exact ⟨rfl, rfl⟩
  · cases htake

theorem setItf_settings (itf alt : UInt8) : (d.setItf itf alt).1.settings = d.settings := by
  unfold setItf
  split
  · rfl
  · dsimp only
    split <;> split <;> rfl

end UsbAudio

variable {gainOf : Int16 → Int}

/-- Only a request to a feature unit changes settings, and only the control it names. -/
theorem UsbTrack.step_inForce {t t' : UsbTrack} {a : UsbAction} {c : EntityChange}
    (hstep : UsbTrack.Step gainOf t a t') (h : c.InForce t.device)
    (hother : ∀ c', a.changes = some c' → ¬ c.SameControl c') : c.InForce t'.device := by
  obtain ⟨hsound, hact⟩ := hstep
  -- only a request of the host changes a setting, and not the one in force
  cases a with
  | readPlayback out n =>
    cases out with
    | none =>
      cases hact
      exact h
    | some out =>
      obtain ⟨⟨_, got, popped, _⟩, -, hact⟩ := Option.bind_eq_some_iff.mp hact
      obtain ⟨⟨device, _, _⟩, hread, hact⟩ := Option.bind_eq_some_iff.mp hact
      cases hact
      exact h.congr (UsbAudio.readPlayback_settings hread).1
  | writeCapture input n =>
    cases input with
    | none =>
      cases hact
      exact h
    | some input =>
      obtain ⟨⟨device, _⟩, hwrite, hact⟩ := Option.bind_eq_some_iff.mp hact
      dsimp only at hact
      split at hact
      · obtain ⟨⟨_, lost⟩, -, hact⟩ := Option.bind_eq_some_iff.mp hact
        cases hact
        exact h.congr (UsbAudio.writeCapture_settings hwrite).1
      · cases hact
        exact h.congr (UsbAudio.writeCapture_settings hwrite).1
  | rxDone size got samples =>
    obtain ⟨⟨device, rate⟩, hrx, hact⟩ := Option.bind_eq_some_iff.mp hact
    dsimp only at hact
    split at hact
    · cases hact
      exact h.congr (UsbAudio.rxDone_settings hrx).1
    · obtain ⟨⟨_, lost⟩, -, hact⟩ := Option.bind_eq_some_iff.mp hact
      cases hact
      exact h.congr (UsbAudio.rxDone_settings hrx).1
  | preLoad =>
    obtain ⟨⟨_, got, popped, _⟩, -, hact⟩ := Option.bind_eq_some_iff.mp hact
    obtain ⟨⟨device, _⟩, hload, hact⟩ := Option.bind_eq_some_iff.mp hact
    cases hact
    exact h.congr (UsbAudio.preLoad_settings hload).1
  | setItf itf alt =>
    cases hact
    exact h.congr (UsbAudio.setItf_settings itf alt)
  | mount | umount | suspend | resume | feedbackService =>
    cases hact
    exact h.congr rfl
  | postLoad | setHeadsetMicMute =>
    cases hact
    exact h.congr rfl
  | setEntity r buf =>
    have heq : t.device.setEntity gainOf r buf = _ := t.device.setEntity_eq hsound
    obtain ⟨⟨device, accepted⟩, hset, hact⟩ := Option.bind_eq_some_iff.mp hact
    cases hact
    rw [heq] at hset
    cases hchange : entityChange r buf with
    | none =>
      rw [hchange] at hset
      cases hset
      exact h
    | some c' =>
      rw [hchange] at hset
      cases hset
      exact UsbAudio.inForce_other h (hother c' hchange)

/-! ## Reading back -/

/-- The bytes of a word that was joined from two. -/
theorem bytes16_join (low high : UInt8) :
    bytes16 (low.toUInt16 ||| high.toUInt16 <<< 8) = [low, high] := by
  have hlow : (low.toUInt16 ||| high.toUInt16 <<< 8).toUInt8 = low := by
    apply UInt8.eq_of_toBitVec_eq
    simp only [UInt16.toBitVec_toUInt8, UInt16.toBitVec_or, UInt16.toBitVec_shiftLeft,
      UInt8.toBitVec_toUInt16]
    change BitVec.setWidth 8 (BitVec.setWidth 16 low.toBitVec |||
      BitVec.setWidth 16 high.toBitVec <<< 8) = low.toBitVec
    apply BitVec.eq_of_getLsbD_eq
    intro i hi
    simp only [BitVec.getLsbD_setWidth, BitVec.getLsbD_or, BitVec.getLsbD_shiftLeft]
    grind
  have hhigh : ((low.toUInt16 ||| high.toUInt16 <<< 8) >>> 8).toUInt8 = high := by
    apply UInt8.eq_of_toBitVec_eq
    simp only [UInt16.toBitVec_toUInt8, UInt16.toBitVec_shiftRight, UInt16.toBitVec_or,
      UInt16.toBitVec_shiftLeft, UInt8.toBitVec_toUInt16]
    change BitVec.setWidth 8 ((BitVec.setWidth 16 low.toBitVec |||
      BitVec.setWidth 16 high.toBitVec <<< 8) >>> 8) = high.toBitVec
    apply BitVec.eq_of_getLsbD_eq
    intro i hi
    simp only [BitVec.getLsbD_setWidth, BitVec.getLsbD_ushiftRight, BitVec.getLsbD_or,
      BitVec.getLsbD_shiftLeft]
    have hpast : low.toBitVec.getLsbD (8 + i) = false := BitVec.getLsbD_of_ge _ _ (by omega)
    grind
  rw [bytes16, hlow, hhigh]

/-- The shape of a request that changes something. -/
theorem entityChange_cases {r : EntityRequest} {buf : List UInt8} {c : EntityChange}
    (h : entityChange r buf = some c) :
    r.interface = itfAudioControl ∧ r.channelNumber = 0 ∧ r.request = audioReqCur ∧
      (r.entityId = uacCaptureFeature ∨ r.entityId = uacPlaybackFeature) ∧
      ((∃ low rest, buf = low :: rest ∧ low ≤ 1 ∧ r.controlSelector = featureMute ∧
          r.length = 1 ∧ c = .mute (decide (r.entityId = uacCaptureFeature)) (low != 0)) ∨
        ∃ low high rest, buf = low :: high :: rest ∧ r.controlSelector = featureVolume ∧
          r.length = 2 ∧ c = .volume (decide (r.entityId = uacCaptureFeature))
            (low.toUInt16 ||| high.toUInt16 <<< 8).toInt16) := by
  unfold entityChange at h
  dsimp only at h
  split at h
  · next haddressed =>
    obtain ⟨h1, h2, h3, h4⟩ := haddressed
    refine ⟨h1, h2, h3, h4, ?_⟩
    split at h
    · cases h
    · next low rest =>
      split at h
      · next hmute =>
        cases h
        exact .inl ⟨low, rest, rfl, hmute.2.2, hmute.1, hmute.2.1, rfl⟩
      · split at h
        · cases h
        · next high rest =>
          split at h
          · next hvolume =>
            cases h
            exact .inr ⟨low, high, rest, rfl, hvolume.1, hvolume.2.1, rfl⟩
          · cases h
  · cases h

/-- What the device answers to the request that made the change, once the change is in force. -/
def EntityChange.answer (d : UsbAudio) (buf : List UInt8) : EntityChange → List UInt8
  | .mute true on => [if on || d.headsetMicMute then 1 else 0]
  | .mute false _ => buf.take 1
  | .volume _ _ => buf.take 2

theorem getEntity_inForce {d : UsbAudio} {r : EntityRequest} {buf : List UInt8} {c : EntityChange}
    (hchange : entityChange r buf = some c) (h : c.InForce d) :
    d.getEntity r = some (c.answer d buf) := by
  obtain ⟨h1, h2, h3, hunit, hshape⟩ := entityChange_cases hchange
  have hclock : ¬ (r.entityId = uacClock ∨ r.entityId = uacCaptureClock) := by
    rcases hunit with hunit | hunit <;> rw [hunit] <;> decide
  have hknown : ¬ (¬ r.entityId = uacCaptureFeature ∧ r.entityId ≠ uacPlaybackFeature) := by
    tauto
  unfold UsbAudio.getEntity
  dsimp only
  rw [if_neg (by simp [h1, h2]), if_neg hclock, if_neg hknown]
  rcases hshape with ⟨low, rest, rfl, hlow, hselector, -, rfl⟩ |
    ⟨low, high, rest, rfl, hselector, -, rfl⟩
  · -- a mute, which was accepted as a byte of 0 or 1
    rw [if_pos ⟨hselector, h3⟩]
    have hbit : low = 0 ∨ low = 1 := by
      have := UInt8.le_iff_toNat_le.mp hlow
      rw [← UInt8.toNat_inj, ← UInt8.toNat_inj]
      change low.toNat = 0 ∨ low.toNat = 1
      change low.toNat ≤ 1 at this
      omega
    by_cases hinput : r.entityId = uacCaptureFeature
    · rw [decide_eq_true hinput] at h ⊢
      change d.captureMute = _ at h
      simp only [hinput, if_true, h]
      rfl
    · rw [decide_eq_false hinput] at h ⊢
      change d.playbackMute = _ at h
      simp only [hinput, if_false, h]
      rcases hbit with rfl | rfl <;> rfl
  · -- a volume, stored as two bytes and read back as the same two
    have hmute : ¬ (r.controlSelector = featureMute ∧ r.request = audioReqCur) := by
      rw [hselector]
      exact fun hsame => absurd hsame.1 (by decide)
    rw [if_neg hmute, if_pos ⟨hselector, h3⟩]
    have hword : ∀ w : UInt16, w.toInt16.toUInt16 = w := fun w => rfl
    by_cases hinput : r.entityId = uacCaptureFeature
    · rw [decide_eq_true hinput] at h ⊢
      change d.captureVolume = _ at h
      simp only [hinput, if_true, h, hword, bytes16_join]
      rfl
    · rw [decide_eq_false hinput] at h ⊢
      change d.playbackVolume = _ at h
      simp only [hinput, if_false, h, hword, bytes16_join]
      rfl

/-- A volume or a mute that the host has set is what it reads back and what the samples show, over
any calls that do not set the same control again: reads are scaled by the gain of the volume and
never louder than what was played, and a muted side is silent. The host reads a muted microphone
also when the headset's own switch mutes it. -/
theorem usb_controls_read_back (hgain : GainTable gainOf) {trace : List UsbAction} {t : UsbTrack}
    (hrun : Run (UsbTrack.Step gainOf) .boot trace t) {r : EntityRequest} {buf : List UInt8}
    {c : EntityChange} (hchange : entityChange r buf = some c) {t₁ : UsbTrack}
    (hset : UsbTrack.Step gainOf t (.setEntity r buf) t₁) {trace' : List UsbAction} {t₂ : UsbTrack}
    (hrun' : Run (UsbTrack.Step gainOf) t₁ trace' t₂)
    (hkept : ∀ a ∈ trace', ∀ c', a.changes = some c' → ¬ c.SameControl c') :
    t₂.device.getEntity r = some (c.answer t₂.device buf) ∧
      (∀ out n, n * 2 ≤ out.length → ∃ d got gain,
        t₂.device.readPlayback (some out) n = some (d, got,
          some ((t₂.playback.held.take n).flatten.map (scaled gain) ++ out.drop (got * 2))) ∧
        (∀ x, (scaled gain x).toInt.natAbs ≤ x.toInt.natAbs) ∧
        (c = .mute false true → gain = 0) ∧
        (∀ v, c = .volume false v → t₂.device.playbackMute = false → gain = gainOf v)) ∧
      ∃ d got gain,
        t₂.device.preLoad = some (d, (t₂.capture.held.take 48).flatten.map (scaled gain) ++
          List.replicate (48 - got) 0) ∧
        (∀ x, (scaled gain x).toInt.natAbs ≤ x.toInt.natAbs) ∧
        (c = .mute true true ∨ t₂.device.headsetMicMute = true → gain = 0) ∧
        ∀ v, c = .volume true v → t₂.device.captureMute = false →
          t₂.device.headsetMicMute = false → gain = gainOf v := by
  have hgood₁ := (((UsbTrack.good_boot hgain).run hgain hrun).good.step hgain hset).good
  have hgood := (hgood₁.run hgain hrun').good
  have hs := hgood.streams
  have hstart : c.InForce t₁.device := by
    have heq : t.device.setEntity gainOf r buf = _ := t.device.setEntity_eq hset.1
    obtain ⟨⟨device, accepted⟩, hdevice, hact⟩ := Option.bind_eq_some_iff.mp hset.2
    cases hact
    rw [heq, hchange] at hdevice
    cases hdevice
    exact t.device.inForce_change gainOf c
  -- in force behind the request, and behind each later action that leaves the control alone
  have hforce := hrun'.history
    (fun (l : List UsbAction) (s : UsbTrack) =>
      (∀ a ∈ l, ∀ c', a.changes = some c' → ¬ c.SameControl c') → c.InForce s.device)
    (fun _ => hstart)
    (fun l s a s' ih hstep hall => UsbTrack.step_inForce hstep
      (ih fun b hb => hall b (List.mem_append_left _ hb))
      (hall a (List.mem_append_right _ List.mem_cons_self))) hkept
  refine ⟨getEntity_inForce hchange hforce, fun out n hout => ?_, ?_⟩
  · obtain ⟨playback, got, popped, stats, -, -, hread, -⟩ :=
      UsbAudio.readPlayback_ok hs.playback hgain hgood.levels hout
    have hbounds := hgain.bounds hgood.levels.playbackVolume t₂.device.playbackMute
    refine ⟨_, got, _, hread, fun x => (scaled_toInt hbounds.1 hbounds.2 x).2, ?_, ?_⟩
    · rintro rfl
      exact if_pos hforce
    · rintro v rfl hmute
      unfold UsbAudio.heardGain
      rw [hmute, if_neg Bool.false_ne_true]
      exact congrArg gainOf hforce
  · obtain ⟨capture, got, popped, stats, -, -, hload, -⟩ :=
      UsbAudio.preLoad_ok hs.capture hgain hgood.levels
    have hbounds := hgain.bounds hgood.levels.captureVolume
      (t₂.device.captureMute || t₂.device.headsetMicMute)
    refine ⟨_, got, _, hload, fun x => (scaled_toInt hbounds.1 hbounds.2 x).2, ?_, ?_⟩
    · intro hsilent
      unfold UsbAudio.spokenGain
      rcases hsilent with rfl | hheadset
      · change t₂.device.captureMute = true at hforce
        rw [hforce, Bool.true_or, if_pos rfl]
      · rw [hheadset, Bool.or_true, if_pos rfl]
    · rintro v rfl hmute hheadset
      unfold UsbAudio.spokenGain
      rw [hmute, hheadset, Bool.or_self, if_neg Bool.false_ne_true]
      exact congrArg gainOf hforce

/-- The host sets -6 dB, and the radio reads. -/
theorem usb_controls_read_back_quieter :
    ∃ t t₁ t₂, Run (UsbTrack.Step threeGains) .boot shortPlayback t ∧
      UsbTrack.Step threeGains t (.setEntity ⟨1, 0, 2, 0, 2, 2⟩ [0x00, 0xfa]) t₁ ∧
      Run (UsbTrack.Step threeGains) t₁ [.readPlayback (some [0, 0]) 1] t₂ ∧
      t₂.device.getEntity ⟨1, 0, 2, 0, 2, 2⟩ = some [0x00, 0xfa] := by
  have hboot := UsbTrack.good_boot threeGains_table
  obtain ⟨t, hrun⟩ := hboot.runs threeGains_table shortPlayback_sound
  have hgood := (hboot.run threeGains_table hrun).good
  have hchange : entityChange ⟨1, 0, 2, 0, 2, 2⟩ [0x00, 0xfa] = some (.volume false (-1536)) := by
    decide
  have hsound : (UsbAction.setEntity ⟨1, 0, 2, 0, 2, 2⟩ [0x00, 0xfa]).Sound := Nat.le_refl 2
  obtain ⟨t₁, hact, hkept⟩ := hgood.act threeGains_table hsound
  have hread : ∀ a ∈ [UsbAction.readPlayback (some [0, 0]) 1], a.Sound := by
    intro a ha
    rw [List.mem_singleton.mp ha]
    rintro b hb
    cases hb
    decide
  obtain ⟨t₂, hrun'⟩ := hkept.good.runs threeGains_table hread
  refine ⟨t, t₁, t₂, hrun, ⟨hsound, hact⟩, hrun', ?_⟩
  refine (usb_controls_read_back threeGains_table hrun hchange ⟨hsound, hact⟩ hrun' ?_).1
  intro a ha c' hc'
  rw [List.mem_singleton.mp ha] at hc'
  cases hc'

/-! ## Opening playback -/

/-- The action decides whether a rate is due without a packet. -/
def UsbAction.DecidesSeed : UsbAction → Prop
  | .mount | .umount | .suspend | .resume | .feedbackService => True
  | .setItf itf alt => itf = itfPlayback ∧ alt ≤ 1
  | _ => False

/-- The host selects the playing setting, or resumes with it selected. -/
def UsbAction.OpensPlayback (t : UsbTrack) : UsbAction → Prop
  | .setItf itf alt => itf = itfPlayback ∧ alt = 1
  | .resume => t.device.stats.playbackActive = true
  | _ => False

/-- An action that is not about playback leaves what is due. -/
def UsbAction.SeedStep (t t' : UsbTrack) (a : UsbAction) : Prop :=
  t'.device.feedbackSeedPending = t.device.feedbackSeedPending ∧ ¬ a.DecidesSeed ∨
    a.DecidesSeed ∧ (t'.device.feedbackSeedPending = true → a.OpensPlayback t)

theorem UsbAudio.setItf_seed (d : UsbAudio) (itf alt : UInt8) :
    (d.setItf itf alt).1.feedbackSeedPending =
      if itf = itfPlayback ∧ alt ≤ 1 then alt == 1 else d.feedbackSeedPending := by
  unfold UsbAudio.setItf
  by_cases halt : alt > 1
  · have hnot : ¬ (itf = itfPlayback ∧ alt ≤ 1) := fun h => absurd h.2 (UInt8.not_le.mpr halt)
    rw [if_pos halt, if_neg hnot]
  · have hle : alt ≤ 1 := UInt8.not_lt.mp halt
    rw [if_neg halt]
    by_cases hitf : itf = itfPlayback
    · have hboth : itf = itfPlayback ∧ alt ≤ 1 := ⟨hitf, hle⟩
      rw [if_pos hboth, if_pos hitf]
      dsimp only
      split
      · rfl
      · rfl
    · have hnot : ¬ (itf = itfPlayback ∧ alt ≤ 1) := fun h => hitf h.1
      rw [if_neg hnot, if_neg hitf]
      dsimp only
      split
      · rfl
      · rfl

/-- A rate comes to be due by the opening of playback alone. -/
theorem UsbTrack.step_seed {t t' : UsbTrack} {a : UsbAction}
    (hstep : UsbTrack.Step gainOf t a t') : a.SeedStep t t' := by
  obtain ⟨hsound, hact⟩ := hstep
  -- first the actions that leave what is due, then those that decide about it
  cases a with
  | readPlayback out n =>
    cases out with
    | none =>
      cases hact
      exact .inl ⟨rfl, id⟩
    | some out =>
      obtain ⟨⟨_, got, popped, _⟩, -, hact⟩ := Option.bind_eq_some_iff.mp hact
      obtain ⟨⟨device, _, _⟩, hread, hact⟩ := Option.bind_eq_some_iff.mp hact
      cases hact
      exact .inl ⟨(UsbAudio.readPlayback_settings hread).2, id⟩
  | writeCapture input n =>
    cases input with
    | none =>
      cases hact
      exact .inl ⟨rfl, id⟩
    | some input =>
      obtain ⟨⟨device, _⟩, hwrite, hact⟩ := Option.bind_eq_some_iff.mp hact
      have hsame := (UsbAudio.writeCapture_settings hwrite).2
      dsimp only at hact
      split at hact
      · obtain ⟨⟨_, lost⟩, -, hact⟩ := Option.bind_eq_some_iff.mp hact
        cases hact
        exact .inl ⟨hsame, id⟩
      · cases hact
        exact .inl ⟨hsame, id⟩
  | rxDone size got samples =>
    obtain ⟨⟨device, rate⟩, hrx, hact⟩ := Option.bind_eq_some_iff.mp hact
    have hsame := (UsbAudio.rxDone_settings hrx).2
    dsimp only at hact
    split at hact
    · cases hact
      exact .inl ⟨hsame, id⟩
    · obtain ⟨⟨_, lost⟩, -, hact⟩ := Option.bind_eq_some_iff.mp hact
      cases hact
      exact .inl ⟨hsame, id⟩
  | preLoad =>
    obtain ⟨⟨_, got, popped, _⟩, -, hact⟩ := Option.bind_eq_some_iff.mp hact
    obtain ⟨⟨device, _⟩, hload, hact⟩ := Option.bind_eq_some_iff.mp hact
    cases hact
    exact .inl ⟨(UsbAudio.preLoad_settings hload).2, id⟩
  | postLoad | setHeadsetMicMute =>
    cases hact
    exact .inl ⟨rfl, id⟩
  | setEntity r buf =>
    have heq : t.device.setEntity gainOf r buf = _ := t.device.setEntity_eq hsound
    obtain ⟨⟨device, accepted⟩, hset, hact⟩ := Option.bind_eq_some_iff.mp hact
    cases hact
    rw [heq] at hset
    cases hchange : entityChange r buf with
    | none =>
      rw [hchange] at hset
      cases hset
      exact .inl ⟨rfl, id⟩
    | some c =>
      rw [hchange] at hset
      cases hset
      refine .inl ⟨?_, id⟩
      match c with
      | .mute true _ | .mute false _ | .volume true _ | .volume false _ => rfl
  | mount | umount | suspend =>
    cases hact
    exact .inr ⟨trivial, fun h => Bool.noConfusion h⟩
  | resume =>
    cases hact
    exact .inr ⟨trivial, id⟩
  | feedbackService =>
    cases hact
    exact .inr ⟨trivial, fun h => Bool.noConfusion h⟩
  | setItf itf alt =>
    cases hact
    have hseed := t.device.setItf_seed itf alt
    by_cases hplayback : itf = itfPlayback ∧ alt ≤ 1
    · rw [if_pos hplayback] at hseed
      exact .inr ⟨hplayback, fun h => ⟨hplayback.1, beq_iff_eq.mp (hseed.symm.trans h)⟩⟩
    · rw [if_neg hplayback] at hseed
      exact .inl ⟨hseed, hplayback⟩

/-- Playback was opened in the run, and since then nothing has decided about its rate. -/
def OpenedLast (gainOf : Int16 → Int) (trace : List UsbAction) : Prop :=
  ∃ before opening after u, trace = before ++ opening :: after ∧
    Run (UsbTrack.Step gainOf) .boot before u ∧ opening.OpensPlayback u ∧
    ∀ a ∈ after, ¬ a.DecidesSeed

theorem seed_opened {trace : List UsbAction} {t : UsbTrack}
    (hrun : Run (UsbTrack.Step gainOf) .boot trace t)
    (hpending : t.device.feedbackSeedPending = true) : OpenedLast gainOf trace := by
  induction hrun with
  | nil => cases hpending
  | snoc hbefore hstep ih =>
    rename_i l u a v
    rcases UsbTrack.step_seed hstep with ⟨hsame, hother⟩ | ⟨-, hopens⟩
    · -- what is due was so before the last action
      obtain ⟨before, opening, after, w, rfl, hw, hopening, hafter⟩ := ih (hsame.symm.trans hpending)
      refine ⟨before, opening, after ++ [a], w, ?_, hw, hopening, ?_⟩
      · rw [List.append_assoc, List.cons_append]
      · intro b hb
        rcases List.mem_append.mp hb with hb | hb
        · exact hafter b hb
        · rw [List.mem_singleton.mp hb]
          exact hother
    · -- the last action itself has opened playback
      exact ⟨l, a, [], u, rfl, hbefore, hopens hpending, fun _ hb => absurd hb List.not_mem_nil⟩

/-! ## The rates -/

/-- A packet leads to a rate only while the host plays. -/
theorem rxDone_rate {d d' : UsbAudio} {size got : Nat} {samples : List Int16}
    {rate : Option UInt32} (h : d.rxDone size got samples = some (d', rate)) :
    rate = none ∨ d.stats.mounted = true ∧ d.stats.playbackActive = true := by
  unfold UsbAudio.rxDone at h
  dsimp only at h
  split at h
  · cases h
    exact .inl rfl
  · obtain ⟨counted, -, h⟩ := Option.bind_eq_some_iff.mp h
    obtain ⟨⟨playback, lost⟩, -, h⟩ := Option.bind_eq_some_iff.mp h
    dsimp only at h
    split at h
    · next hon => exact .inr (Bool.and_eq_true_iff.mp hon)
    · cases h
      exact .inl rfl

/-- The host is told a rate only while it is mounted and plays, and always one within 3146/65536 of
a sample of the nominal rate: by a valid packet that has just been queued, or by the service, once
for each time that the host has selected the playing setting or resumed with it. -/
theorem usb_rates_bounded (hgain : GainTable gainOf) {trace : List UsbAction} {t : UsbTrack}
    (hrun : Run (UsbTrack.Step gainOf) .boot trace t) :
    (∀ value ∈ t.rates, RateBound value) ∧
      ∀ a t', UsbTrack.Step gainOf t a t' → t'.rates = t.rates ∨
        t.device.stats.mounted = true ∧ t.device.stats.playbackActive = true ∧
          (∃ value, t'.rates = t.rates ++ [value]) ∧
          ((∃ got samples, a = .rxDone got got samples ∧ got % 4 = 0) ∨
            a = .feedbackService ∧ OpenedLast gainOf trace) := by
  have hgood := ((UsbTrack.good_boot hgain).run hgain hrun).good
  refine ⟨hgood.rates, fun a t' hstep => ?_⟩
  obtain ⟨hsound, hact⟩ := hstep
  -- a rate is added by the service and behind a received packet only
  cases a with
  | readPlayback out n =>
    cases out with
    | none =>
      cases hact
      exact .inl rfl
    | some out =>
      obtain ⟨_, -, hact⟩ := Option.bind_eq_some_iff.mp hact
      obtain ⟨_, -, hact⟩ := Option.bind_eq_some_iff.mp hact
      cases hact
      exact .inl rfl
  | writeCapture input n =>
    cases input with
    | none =>
      cases hact
      exact .inl rfl
    | some input =>
      obtain ⟨_, -, hact⟩ := Option.bind_eq_some_iff.mp hact
      dsimp only at hact
      split at hact
      · obtain ⟨_, -, hact⟩ := Option.bind_eq_some_iff.mp hact
        cases hact
        exact .inl rfl
      · cases hact
        exact .inl rfl
  | preLoad =>
    obtain ⟨_, -, hact⟩ := Option.bind_eq_some_iff.mp hact
    obtain ⟨_, -, hact⟩ := Option.bind_eq_some_iff.mp hact
    cases hact
    exact .inl rfl
  | setEntity r buf =>
    obtain ⟨_, -, hact⟩ := Option.bind_eq_some_iff.mp hact
    cases hact
    exact .inl rfl
  | mount | umount | suspend | resume | setItf | postLoad | setHeadsetMicMute =>
    cases hact
    exact .inl rfl
  | feedbackService =>
    cases hact
    show t.rates ++ t.device.feedbackService.2.toList = t.rates ∨ _
    unfold UsbAudio.feedbackService
    dsimp only
    split
    · next hseed =>
      simp only [Bool.and_eq_true] at hseed
      exact .inr ⟨hseed.1.2, hseed.2, ⟨_, rfl⟩, .inr ⟨rfl, seed_opened hrun hseed.1.1⟩⟩
    · exact .inl (List.append_nil _)
  | rxDone size got samples =>
    obtain ⟨⟨device, rate⟩, hrx, hact⟩ := Option.bind_eq_some_iff.mp hact
    dsimp only at hact
    split at hact
    · cases hact
      exact .inl rfl
    · next hvalid =>
      obtain ⟨_, -, hact⟩ := Option.bind_eq_some_iff.mp hact
      cases hact
      have hsize : size = got := not_not.mp (mt Or.inl hvalid)
      have hwhole : got % 4 = 0 := not_not.mp (mt Or.inr hvalid)
      subst hsize
      show t.rates ++ rate.toList = t.rates ∨ _
      cases rate with
      | none => exact .inl (List.append_nil _)
      | some value =>
        have hon := (rxDone_rate hrx).resolve_left (by simp)
        exact .inr ⟨hon.1, hon.2, ⟨value, rfl⟩, .inl ⟨size, samples, rfl, hwhole⟩⟩

/-- The service tells the nominal rate once playback is open. -/
theorem usb_rates_bounded_opened :
    ∃ t t', Run (UsbTrack.Step threeGains) .boot [.mount, .setItf itfPlayback 1] t ∧
      UsbTrack.Step threeGains t .feedbackService t' ∧
      t'.rates = t.rates ++ [UInt32.ofInt fbNominalQ16] ∧
      OpenedLast threeGains [.mount, .setItf itfPlayback 1] := by
  let u : UsbTrack := UsbTrack.boot.cleared (UsbTrack.boot.device.resetStreams true)
  let t : UsbTrack := { u with
    device := (u.device.setItf itfPlayback 1).1
    playback := u.playback.clear }
  let t' : UsbTrack := { t with
    device := t.device.feedbackService.1
    rates := t.rates ++ t.device.feedbackService.2.toList }
  have hmount : UsbTrack.Step threeGains .boot .mount u := ⟨trivial, rfl⟩
  have hopen : UsbTrack.Step threeGains u (.setItf itfPlayback 1) t := ⟨trivial, rfl⟩
  have hrun : Run (UsbTrack.Step threeGains) .boot [.mount, .setItf itfPlayback 1] t :=
    (Run.single hmount).snoc hopen
  have hstep : UsbTrack.Step threeGains t .feedbackService t' := ⟨trivial, rfl⟩
  refine ⟨t, t', hrun, hstep, by decide +kernel, ?_⟩
  rcases (usb_rates_bounded threeGains_table hrun).2 _ t' hstep with hsame | ⟨-, -, -, hwhy⟩
  · exact absurd hsame (by decide +kernel)
  · rcases hwhy with ⟨got, samples, ha, -⟩ | ⟨-, hopened⟩
    · cases ha
    · exact hopened

end UllReceiver.Usb
