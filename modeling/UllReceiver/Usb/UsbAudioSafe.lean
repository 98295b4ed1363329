import UllReceiver.Usb.UsbAudioRun

/-!
# The USB audio device accounts for every frame

The invariant of a run: the rings hold the last frames that were accepted, the counters count what
passed, volumes and gains belong together, and the feedback has been seeded before it is used.
-/

namespace UllReceiver.Usb

open Library

/-- The rings and the counters of what passed them. -/
structure Streams (t : UsbTrack) : Prop where
  playback : Carries t.device.playback t.playback 2
  capture : Carries t.device.capture t.capture 1
  playbackFrames : t.device.stats.playbackFrames = UInt32.ofNat t.playback.accepted.length
  playbackDropped : t.device.stats.playbackDroppedFrames = UInt32.ofNat t.playback.dropped
  radioPlayback : t.device.stats.radioPlaybackFrames = UInt32.ofNat t.playback.delivered.length
  radioCapture : t.device.stats.radioCaptureFrames = UInt32.ofNat t.capture.accepted.length
  captureDropped : t.device.stats.captureDroppedFrames = UInt32.ofNat t.capture.dropped
  loaded : t.capture.delivered.length ≤ 48 * t.loads
  underflow : t.device.stats.captureUnderflowFrames =
    UInt32.ofNat (48 * t.loads - t.capture.delivered.length)

/-- While the host plays, the feedback has been reset and stepped since. -/
def Seeded (d : UsbAudio) : Prop :=
  d.stats.playbackActive = true →
    ∃ seed ps, UsbFeedback.Tracks seed ps d.playbackFeedback

/-- Within 3146/65536 of the nominal 48 samples in a USB frame. -/
def RateBound (value : UInt32) : Prop :=
  fbNominalQ16 - 3146 ≤ value.toNat ∧ (value.toNat : Int) ≤ fbNominalQ16 + 3146

structure UsbTrack.Good (gainOf : Int16 → Int) (t : UsbTrack) : Prop where
  streams : Streams t
  levels : Levels gainOf t.device
  seeded : Seeded t.device
  rates : ∀ value ∈ t.rates, RateBound value

/-- A step to a good state, with nothing passing twice. -/
structure UsbTrack.Kept (gainOf : Int16 → Int) (t t' : UsbTrack) : Prop where
  good : t'.Good gainOf
  playback : t.playback.Onward t'.playback
  capture : t.capture.Onward t'.capture

theorem rateBound_of_tracks {seed : UInt32} {ps : List FeedbackPacket} {f : UsbFeedback}
    (h : UsbFeedback.Tracks seed ps f) : RateBound f.valueQ16 := by
  have hbounds := correctionOf_bounds f.averageQ8
  have hrate := rateOf_toNat f.averageQ8
  rw [← h.value] at hrate
  unfold RateBound fbNominalQ16
  omega

theorem ofNat_add_ofNat {a b c : Nat} (h : c = a + b) :
    UInt32.ofNat a + UInt32.ofNat b = UInt32.ofNat c := by
  rw [h, UInt32.ofNat_add]

/-! ## What the operations of the rings do -/

namespace UsbAudio

variable {gainOf : Int16 → Int} {d : UsbAudio} {p : Passage (List Int16)}

/-- The gain that goes with the samples of a read. -/
def heardGain (gainOf : Int16 → Int) (d : UsbAudio) : Int :=
  if d.playbackMute then 0 else gainOf d.playbackVolume

/-- The gain that goes with the samples for the host. -/
def spokenGain (gainOf : Int16 → Int) (d : UsbAudio) : Int :=
  if d.captureMute || d.headsetMicMute then 0 else gainOf d.captureVolume

/-- A read gives the oldest frames, scaled, and leaves the rest of the buffer as it was. -/
theorem readPlayback_ok (h : Carries d.playback p 2) (hgain : GainTable gainOf)
    (hlevels : Levels gainOf d) {out : List Int16} {n : Nat} (hout : n * 2 ≤ out.length) :
    ∃ playback got popped stats,
      d.takePlayback out n = some ({ d with playback, stats }, got, popped, heardGain gainOf d) ∧
      stats = { d.stats with
        radioPlaybackFrames := d.stats.radioPlaybackFrames + UInt32.ofNat got } ∧
      d.readPlayback (some out) n = some ({ d with playback, stats }, got,
        some ((p.held.take n).flatten.map (scaled (heardGain gainOf d)) ++ out.drop (got * 2))) ∧
      got = min n p.held.length ∧ framesOf 2 popped got = p.held.take n ∧
      Carries playback (p.deliver (framesOf 2 popped got)) 2 := by
  obtain ⟨playback, got, popped, hpop, hgot, hpopped, hframes, hcarries⟩ := h.pop hout
  have htaken : (p.held.take n).flatten.length = got * 2 := by
    rw [flatten_length fun f hf => h.frame_length f (List.mem_of_mem_take hf), List.length_take,
      hgot]
  have hbounds : 0 ≤ heardGain gainOf d ∧ heardGain gainOf d ≤ 32768 :=
    hgain.bounds hlevels.playbackVolume d.playbackMute
  have htake : d.takePlayback out n = some (
      { d with
        playback
        stats := { d.stats with
          radioPlaybackFrames := d.stats.radioPlaybackFrames + UInt32.ofNat got } },
      got, popped, heardGain gainOf d) := by
    unfold takePlayback heardGain
    rw [hpop, hlevels.playbackGain]
  refine ⟨playback, got, popped, _, htake, rfl, ?_, hgot, hframes, hcarries⟩
  show (d.takePlayback out n >>= fun r => pcmGain r.2.2.1 (r.2.1 * 2) r.2.2.2 >>= fun out =>
    some (r.1, r.2.1, some out)) = _
  rw [htake]
  show (pcmGain popped (got * 2) (heardGain gainOf d) >>= _) = _
  rw [pcmGain_ok (by rw [hpopped, List.length_append]; omega) hbounds.1 hbounds.2, hpopped,
    List.take_left' htaken, List.drop_left' htaken]
  rfl

/-- A packet for the host: the oldest frames, scaled, and silence for what is missing. -/
theorem preLoad_ok (h : Carries d.capture p 1) (hgain : GainTable gainOf)
    (hlevels : Levels gainOf d) :
    ∃ capture got popped stats,
      d.takeCapture = some ({ d with capture, stats }, got, popped, spokenGain gainOf d) ∧
      stats = { d.stats with
        captureUnderflowFrames := d.stats.captureUnderflowFrames + UInt32.ofNat (48 - got) } ∧
      d.preLoad = some ({ d with capture, stats },
        (p.held.take 48).flatten.map (scaled (spokenGain gainOf d)) ++
          List.replicate (48 - got) 0) ∧
      got = min 48 p.held.length ∧ framesOf 1 popped got = p.held.take 48 ∧
      Carries capture (p.deliver (framesOf 1 popped got)) 1 := by
  obtain ⟨capture, got, popped, hpop, hgot, hpopped, hframes, hcarries⟩ :=
    h.pop (s := List.replicate 48 0) (n := 48) (Nat.le_of_eq (by rw [List.length_replicate]))
  have htaken : (p.held.take 48).flatten.length = got := by
    rw [flatten_length fun f hf => h.frame_length f (List.mem_of_mem_take hf), List.length_take,
      hgot, Nat.mul_one]
  have hbounds : 0 ≤ spokenGain gainOf d ∧ spokenGain gainOf d ≤ 32768 :=
    hgain.bounds hlevels.captureVolume (d.captureMute || d.headsetMicMute)
  rw [List.drop_replicate, Nat.mul_one] at hpopped
  have hlength : popped.length = 48 := by
    rw [hpopped, List.length_append, htaken, List.length_replicate]
    omega
  have htake : d.takeCapture = some (
      { d with
        capture
        stats := { d.stats with
          captureUnderflowFrames := d.stats.captureUnderflowFrames + UInt32.ofNat (48 - got) } },
      got, popped, spokenGain gainOf d) := by
    unfold takeCapture spokenGain
    rw [hpop]
    dsimp only
    rw [sizeSub_of_le (by omega), hlevels.captureGain]
    rfl
  refine ⟨capture, got, popped, _, htake, rfl, ?_, hgot, hframes, hcarries⟩
  show (d.takeCapture >>= fun r => pcmGain r.2.2.1 48 r.2.2.2 >>= fun samples =>
    some (r.1, samples)) = _
  rw [htake]
  show (pcmGain popped 48 (spokenGain gainOf d) >>= _) = _
  have hsilence : scaled (spokenGain gainOf d) 0 = 0 := by
    rw [scaled, show (0 : Int16).toInt = 0 from rfl, Int.zero_mul]
    rfl
  rw [pcmGain_ok (Nat.le_of_eq hlength.symm) hbounds.1 hbounds.2,
    List.take_of_length_le (Nat.le_of_eq hlength),
    List.drop_of_length_le (Nat.le_of_eq hlength), List.append_nil, hpopped, List.map_append,
    List.map_replicate, hsilence]
  rfl

/-- Nothing is accepted for the host before it has opened the capture interface. -/
theorem writeCapture_closed (h : d.stats.captureActive = false ∨ d.stats.mounted = false)
    (input : Option (List Int16)) (n : Nat) : d.writeCapture input n = some (d, 0) := by
  cases input with
  | none => rfl
  | some input =>
    have hclosed : (!d.stats.captureActive || !d.stats.mounted) = true := by
      rcases h with h | h <;> rw [h]
      · rfl
      · rw [Bool.not_false, Bool.or_true]
    exact if_pos hclosed

theorem writeCapture_open (hactive : d.stats.captureActive = true) (hmounted : d.stats.mounted = true)
    (h : Carries d.capture p 1) {input : List Int16} {n : Nat} (hinput : n ≤ input.length) :
    ∃ capture lost stats,
      d.capture.push (some input) n = some (capture, lost) ∧
      d.writeCapture (some input) n = some ({ d with capture, stats }, n) ∧
      stats = { d.stats with
        captureDroppedFrames := d.stats.captureDroppedFrames + UInt32.ofNat lost
        radioCaptureFrames := d.stats.radioCaptureFrames + UInt32.ofNat n } ∧
      Carries capture (p.accept (framesOf 1 input n) lost) 1 := by
  obtain ⟨capture, lost, hpush, hcarries⟩ :=
    h.push (s := input) (n := n) (by rw [Nat.mul_one]; exact hinput)
  refine ⟨capture, lost, _, hpush, ?_, rfl, hcarries⟩
  simp only [writeCapture, hactive, hmounted, hpush, Bool.not_true, Bool.or_self,
    Bool.false_eq_true, if_false, Option.bind_eq_bind, Option.bind_some]

theorem rxDone_malformed {size got : Nat} (h : size ≠ got ∨ got % 4 ≠ 0) (samples : List Int16) :
    d.rxDone size got samples = some ({ d with stats := { d.stats with
      playbackPackets := d.stats.playbackPackets + 1
      malformedPlaybackPackets := d.stats.malformedPlaybackPackets + 1 } }, none) :=
  if_pos h

/-- The feedback after a valid packet, and the value for the host. -/
theorem feedback_ok (hseeded : Seeded d) (queued : UInt32) :
    ∃ feedback rate,
      (if d.stats.mounted && d.stats.playbackActive then
        (d.playbackFeedback.step queued d.stats.radioPlaybackFrames).map fun r =>
          (r.1, if r.2 ≠ 0 then some r.2 else none)
        else some (d.playbackFeedback, none)) = some (feedback, rate) ∧
      (d.stats.playbackActive = true → ∃ seed ps, UsbFeedback.Tracks seed ps feedback) ∧
      ∀ value ∈ rate, RateBound value := by
  split
  · next hon =>
    obtain ⟨seed, ps, htracks⟩ := hseeded (Bool.and_eq_true_iff.mp hon).2
    obtain ⟨feedback, hstep, htracks', -⟩ :=
      UsbFeedback.step_tracks htracks ⟨queued, d.stats.radioPlaybackFrames⟩
    refine ⟨feedback, _, by rw [hstep]; rfl, fun _ => ⟨seed, _, htracks'⟩, ?_⟩
    intro value hvalue
    split at hvalue
    · cases hvalue
      exact rateBound_of_tracks htracks'
    · cases hvalue
  · exact ⟨_, none, rfl, hseeded, fun _ h => nomatch h⟩

theorem rxDone_ok (h : Carries d.playback p 2) (hseeded : Seeded d) {got : Nat}
    (hgot : got % 4 = 0) (hfits : got ≤ 196) {samples : List Int16} (hsamples : samples.length = 98) :
    ∃ playback lost nonzero feedback stats rate,
      d.playback.push (some samples) (got / 4) = some (playback, lost) ∧
      d.rxDone got got samples = some ({ d with
        playback, playbackNonzero := nonzero, playbackFeedback := feedback, stats }, rate) ∧
      stats = { d.stats with
        playbackPackets := d.stats.playbackPackets + 1
        playbackFrames := d.stats.playbackFrames + UInt32.ofNat (got / 4)
        playbackDroppedFrames := d.stats.playbackDroppedFrames + UInt32.ofNat lost } ∧
      Carries playback (p.accept (framesOf 2 samples (got / 4)) lost) 2 ∧
      (d.stats.playbackActive = true → ∃ seed ps, UsbFeedback.Tracks seed ps feedback) ∧
      ∀ value ∈ rate, RateBound value := by
  obtain ⟨playback, lost, hpush, hcarries⟩ :=
    h.push (s := samples) (n := got / 4) (by omega)
  obtain ⟨feedback, rate, hfeedback, htracks, hrate⟩ :=
    feedback_ok hseeded (UInt32.ofNat playback.count)
  refine ⟨playback, lost, d.playbackNonzero + UInt32.ofNat
    (((samples.drop 0).take (got / 2)).countP (· ≠ 0)), feedback, _, rate, hpush, ?_, rfl,
    hcarries, htracks, hrate⟩
  unfold rxDone
  dsimp only
  rw [if_neg (by omega), loadSpan_of_le (by omega), hpush]
  simp only [Option.bind_eq_bind, Option.bind_some]
  -- the feedback is stepped only while the host plays
  split at hfeedback
  · next hon =>
    obtain ⟨r, hstep, hr⟩ := Option.map_eq_some_iff.mp hfeedback
    cases hr
    rw [if_pos hon, hstep]
    rfl
  · next hoff =>
    cases hfeedback
    rw [if_neg hoff]

end UsbAudio

/-! ## Requests to the entities -/

instance (v : Int16) : Decidable (AllowedVolume v) :=
  inferInstanceAs (Decidable (_ ∧ _ ∧ _))

/-- What a request to a feature unit can change. -/
inductive EntityChange
  | mute (input on : Bool)
  | volume (input : Bool) (v : Int16)
deriving DecidableEq

/-- The change that a request asks for, when it is one that the device makes. -/
def entityChange (r : EntityRequest) (buf : List UInt8) : Option EntityChange :=
  let input := decide (r.entityId = uacCaptureFeature)
  if r.interface = itfAudioControl ∧ r.channelNumber = 0 ∧ r.request = audioReqCur ∧
      (r.entityId = uacCaptureFeature ∨ r.entityId = uacPlaybackFeature) then
    match buf with
    | [] => none
    | low :: rest =>
      if r.controlSelector = featureMute ∧ r.length = 1 ∧ low ≤ 1 then some (.mute input (low != 0))
      else
        match rest with
        | [] => none
        | high :: _ =>
          let v := (low.toUInt16 ||| high.toUInt16 <<< 8).toInt16
          if r.controlSelector = featureVolume ∧ r.length = 2 ∧ AllowedVolume v then
            some (.volume input v)
          else none
  else none

theorem allowed_of_change {r : EntityRequest} {buf : List UInt8} {input : Bool} {v : Int16}
    (h : entityChange r buf = some (.volume input v)) : AllowedVolume v := by
  unfold entityChange at h
  dsimp only at h
  split at h
  · split at h
    · cases h
    · split at h
      · cases h
      · split at h
        · cases h
        · split at h
          · next hall =>
            cases h
            exact hall.2.2
          · cases h
  · cases h

namespace UsbAudio

variable {gainOf : Int16 → Int}

def change (gainOf : Int16 → Int) (d : UsbAudio) : EntityChange → UsbAudio
  | .mute true on => { d with captureMute := on }
  | .mute false on => { d with playbackMute := on }
  | .volume true v => { d with captureVolume := v, captureGain := gainOf v }
  | .volume false v => { d with playbackVolume := v, playbackGain := gainOf v }

/-- The device's own test of a volume. -/
theorem allowed_iff (v : Int16) :
    ¬ (v > 0 ∨ v < -60 * 256 ∨ v.toInt.tmod 256 ≠ 0) ↔ AllowedVolume v := by
  unfold AllowedVolume
  have h : (-60 * 256 : Int16) = -15360 := by decide
  rw [h]
  simp only [not_or, Int16.not_lt, gt_iff_lt, ne_eq, not_not]
  tauto

theorem setEntity_eq (d : UsbAudio) {r : EntityRequest} {buf : List UInt8}
    (hbuf : r.length.toNat ≤ buf.length) :
    d.setEntity gainOf r buf = some (match entityChange r buf with
      | some c => (d.change gainOf c, true)
      | none => (d, false)) := by
  unfold setEntity entityChange
  dsimp only
  by_cases haddressed : r.interface = itfAudioControl ∧ r.channelNumber = 0 ∧
      r.request = audioReqCur ∧
      (r.entityId = uacCaptureFeature ∨ r.entityId = uacPlaybackFeature)
  · rw [if_pos haddressed]
    obtain ⟨h1, h2, h3, h4⟩ := haddressed
    rw [if_neg (by simp [h1, h2, h3]), if_neg (by tauto)]
    split
    · next hmute =>
      obtain ⟨hsel, hlen⟩ := hmute
      rw [hlen] at hbuf
      match buf, hbuf with
      | low :: rest, _ =>
        show (if low ≤ 1 then _ else _) = _
        by_cases hlow : low ≤ 1
        · by_cases hin : r.entityId = uacCaptureFeature <;> simp [hsel, hlen, hlow, hin, change]
        · cases rest <;> simp [hsel, hlen, hlow]
    · next hmute =>
      have hmute' : ∀ low : UInt8, ¬ (r.controlSelector = featureMute ∧ r.length = 1 ∧ low ≤ 1) :=
        fun low h => hmute ⟨h.1, h.2.1⟩
      split
      · next hvolume =>
        obtain ⟨hsel, hlen⟩ := hvolume
        rw [hlen] at hbuf
        match buf, hbuf with
        | low :: high :: rest, _ =>
          dsimp only
          rw [if_neg (hmute' low), show load (low :: high :: rest) 0 = some low from rfl,
            show load (low :: high :: rest) 1 = some high from rfl]
          simp only [Option.bind_eq_bind, Option.bind_some]
          generalize (low.toUInt16 ||| high.toUInt16 <<< 8).toInt16 = v
          by_cases hv : AllowedVolume v
          · have hall : r.controlSelector = featureVolume ∧ r.length = 2 ∧ AllowedVolume v :=
              ⟨hsel, hlen, hv⟩
            rw [if_neg ((allowed_iff v).mpr hv), if_pos hall]
            by_cases hin : r.entityId = uacCaptureFeature <;> simp [hin, change]
          · rw [if_pos (not_not.mp (mt (allowed_iff v).mp hv)), if_neg (fun h => hv h.2.2)]
      · next hvolume =>
        match buf with
        | [] => rfl
        | [low] => dsimp only; rw [if_neg (hmute' low)]
        | low :: high :: rest =>
          dsimp only
          rw [if_neg (hmute' low), if_neg (fun h => hvolume ⟨h.1, h.2.1⟩)]
  · rw [if_neg haddressed]
    split
    · rfl
    · next h =>
      rw [if_pos (by tauto)]

end UsbAudio

/-! ## Steps -/

namespace UsbTrack

variable {gainOf : Int16 → Int} {t : UsbTrack}

/-- The rings and the counters of what passed them are the same. -/
structure SameStreams (d d' : UsbAudio) : Prop where
  playback : d'.playback = d.playback
  capture : d'.capture = d.capture
  playbackFrames : d'.stats.playbackFrames = d.stats.playbackFrames
  playbackDropped : d'.stats.playbackDroppedFrames = d.stats.playbackDroppedFrames
  radioPlayback : d'.stats.radioPlaybackFrames = d.stats.radioPlaybackFrames
  radioCapture : d'.stats.radioCaptureFrames = d.stats.radioCaptureFrames
  captureDropped : d'.stats.captureDroppedFrames = d.stats.captureDroppedFrames
  underflow : d'.stats.captureUnderflowFrames = d.stats.captureUnderflowFrames

/-- The state beside the streams may change while nothing passes. -/
theorem Good.beside (h : t.Good gainOf) {d : UsbAudio} (hsame : SameStreams t.device d)
    (hlevels : Levels gainOf d) (hseeded : Seeded d) {rates : List UInt32}
    (hrates : ∀ value ∈ rates, RateBound value) :
    t.Kept gainOf { t with device := d, rates := t.rates ++ rates } := by
  have hs := h.streams
  refine ⟨⟨⟨?_, ?_, ?_, ?_, ?_, ?_, ?_, hs.loaded, ?_⟩, hlevels, hseeded, ?_⟩, .refl _, .refl _⟩
  · exact (congrArg (Carries · t.playback 2) hsame.playback).mpr hs.playback
  · exact (congrArg (Carries · t.capture 1) hsame.capture).mpr hs.capture
  · exact hsame.playbackFrames.trans hs.playbackFrames
  · exact hsame.playbackDropped.trans hs.playbackDropped
  · exact hsame.radioPlayback.trans hs.radioPlayback
  · exact hsame.radioCapture.trans hs.radioCapture
  · exact hsame.captureDropped.trans hs.captureDropped
  · exact hsame.underflow.trans hs.underflow
  · intro value hvalue
    rcases List.mem_append.mp hvalue with hv | hv
    · exact h.rates value hv
    · exact hrates value hv

theorem Good.aside (h : t.Good gainOf) {d : UsbAudio} (hsame : SameStreams t.device d)
    (hlevels : Levels gainOf d) (hseeded : Seeded d) :
    t.Kept gainOf { t with device := d } := by
  have hnone : ∀ value ∈ ([] : List UInt32), RateBound value := fun _ hv => nomatch hv
  have hkept := h.beside hsame hlevels hseeded hnone
  rwa [List.append_nil] at hkept

theorem Good.kept_self (h : t.Good gainOf) : t.Kept gainOf t :=
  ⟨h, .refl _, .refl _⟩

theorem Good.readPlayback (h : t.Good gainOf) (hgain : GainTable gainOf) {out : List Int16}
    {n : Nat} (hout : n * 2 ≤ out.length) :
    ∃ t', t.act gainOf (.readPlayback (some out) n) = some t' ∧ t.Kept gainOf t' := by
  have hs := h.streams
  obtain ⟨playback, got, popped, stats, htake, rfl, hread, -, hframes, hcarries⟩ :=
    UsbAudio.readPlayback_ok hs.playback hgain h.levels hout
  have hact : t.act gainOf (.readPlayback (some out) n) = some { t with
      device := { t.device with
        playback
        stats := { t.device.stats with
          radioPlaybackFrames := t.device.stats.radioPlaybackFrames + UInt32.ofNat got } }
      playback := t.playback.deliver (framesOf 2 popped got) } := by
    simp only [act, htake, hread, Option.bind_eq_bind, Option.bind_some]
  refine ⟨_, hact, ⟨⟨hcarries, hs.capture, hs.playbackFrames, hs.playbackDropped, ?_,
    hs.radioCapture, hs.captureDropped, hs.loaded, hs.underflow⟩, { h.levels with }, h.seeded,
    h.rates⟩, t.playback.onward_deliver _, .refl _⟩
  show t.device.stats.radioPlaybackFrames + UInt32.ofNat got =
    UInt32.ofNat (t.playback.delivered ++ _).length
  rw [hs.radioPlayback, List.length_append]
  apply ofNat_add_ofNat
  rw [List.length_zip, List.length_range', Nat.min_self, framesOf_length]

theorem Good.writeCapture (h : t.Good gainOf) {input : List Int16} {n : Nat}
    (hinput : n ≤ input.length) :
    ∃ t', t.act gainOf (.writeCapture (some input) n) = some t' ∧ t.Kept gainOf t' := by
  have hs := h.streams
  by_cases hopen : t.device.stats.captureActive = true ∧ t.device.stats.mounted = true
  · obtain ⟨capture, lost, stats, hpush, hwrite, rfl, hcarries⟩ :=
      UsbAudio.writeCapture_open hopen.1 hopen.2 hs.capture hinput
    have hact : t.act gainOf (.writeCapture (some input) n) = some { t with
        device := { t.device with
          capture
          stats := { t.device.stats with
            captureDroppedFrames := t.device.stats.captureDroppedFrames + UInt32.ofNat lost
            radioCaptureFrames := t.device.stats.radioCaptureFrames + UInt32.ofNat n } }
        capture := t.capture.accept (framesOf 1 input n) lost } := by
      simp only [act, hwrite, hpush, hopen.1, hopen.2, Bool.and_self, if_true,
        Option.bind_eq_bind, Option.bind_some]
    refine ⟨_, hact, ⟨⟨hs.playback, hcarries, hs.playbackFrames, hs.playbackDropped,
      hs.radioPlayback, ?_, ?_, hs.loaded, hs.underflow⟩, { h.levels with }, h.seeded, h.rates⟩,
      .refl _, t.capture.onward_accept _ _⟩
    · show t.device.stats.radioCaptureFrames + UInt32.ofNat n =
        UInt32.ofNat (t.capture.accepted ++ _).length
      rw [hs.radioCapture, List.length_append, framesOf_length]
      exact ofNat_add_ofNat rfl
    · show t.device.stats.captureDroppedFrames + UInt32.ofNat lost = _
      rw [hs.captureDropped]
      exact ofNat_add_ofNat rfl
  · have hclosed : t.device.stats.captureActive = false ∨ t.device.stats.mounted = false := by
      rw [← Bool.not_eq_true, ← Bool.not_eq_true]
      exact not_and_or.mp hopen
    have hshut : (t.device.stats.captureActive && t.device.stats.mounted) = false := by
      rcases hclosed with hc | hc <;> rw [hc]
      · rfl
      · rw [Bool.and_false]
    refine ⟨t, ?_, h.kept_self⟩
    simp only [act, UsbAudio.writeCapture_closed hclosed, hshut, Bool.false_eq_true, if_false,
      Option.bind_eq_bind, Option.bind_some]

theorem Good.preLoad (h : t.Good gainOf) (hgain : GainTable gainOf) :
    ∃ t', t.act gainOf .preLoad = some t' ∧ t.Kept gainOf t' := by
  have hs := h.streams
  obtain ⟨capture, got, popped, stats, htake, rfl, hload, hgot, hframes, hcarries⟩ :=
    UsbAudio.preLoad_ok hs.capture hgain h.levels
  have hact : t.act gainOf .preLoad = some { t with
      device := { t.device with
        capture
        stats := { t.device.stats with captureUnderflowFrames :=
          t.device.stats.captureUnderflowFrames + UInt32.ofNat (48 - got) } }
      capture := t.capture.deliver (framesOf 1 popped got), loads := t.loads + 1 } := by
    simp only [act, htake, hload, Option.bind_eq_bind, Option.bind_some]
  have hloaded := hs.loaded
  have hmore : (t.capture.deliver (framesOf 1 popped got)).delivered.length =
      t.capture.delivered.length + got := by
    show (t.capture.delivered ++ _).length = _
    rw [List.length_append, List.length_zip, List.length_range', Nat.min_self, framesOf_length]
  refine ⟨_, hact, ⟨⟨hs.playback, hcarries, hs.playbackFrames, hs.playbackDropped,
    hs.radioPlayback, hs.radioCapture, hs.captureDropped, ?_, ?_⟩, { h.levels with }, h.seeded,
    h.rates⟩, .refl _, t.capture.onward_deliver _⟩
  · show (t.capture.deliver (framesOf 1 popped got)).delivered.length ≤ 48 * (t.loads + 1)
    omega
  · show t.device.stats.captureUnderflowFrames + UInt32.ofNat (48 - got) = UInt32.ofNat
      (48 * (t.loads + 1) - (t.capture.deliver (framesOf 1 popped got)).delivered.length)
    rw [hs.underflow]
    exact ofNat_add_ofNat (by omega)

theorem Good.rxDone (h : t.Good gainOf) {size got : Nat} {samples : List Int16}
    (hsamples : samples.length = 98) (hfits : got ≤ 196) :
    ∃ t', t.act gainOf (.rxDone size got samples) = some t' ∧ t.Kept gainOf t' := by
  have hs := h.streams
  by_cases hbad : size ≠ got ∨ got % 4 ≠ 0
  · have hact : t.act gainOf (.rxDone size got samples) = some { t with
        device := { t.device with stats := { t.device.stats with
          playbackPackets := t.device.stats.playbackPackets + 1
          malformedPlaybackPackets := t.device.stats.malformedPlaybackPackets + 1 } } } := by
      simp only [act, UsbAudio.rxDone_malformed hbad, if_pos hbad, Option.bind_eq_bind,
        Option.bind_some]
    refine ⟨_, hact, ⟨⟨hs.playback, hs.capture, hs.playbackFrames, hs.playbackDropped,
      hs.radioPlayback, hs.radioCapture, hs.captureDropped, hs.loaded, hs.underflow⟩,
      { h.levels with }, h.seeded, h.rates⟩, .refl _, .refl _⟩
  · have hsize : size = got := not_not.mp (mt Or.inl hbad)
    have hwhole : got % 4 = 0 := not_not.mp (mt Or.inr hbad)
    subst hsize
    obtain ⟨playback, lost, nonzero, feedback, stats, rate, hpush, hrx, rfl, hcarries, htracks,
      hrate⟩ := UsbAudio.rxDone_ok hs.playback h.seeded hwhole hfits hsamples
    have hact : t.act gainOf (.rxDone size size samples) = some { t with
        device := { t.device with
          playback, playbackNonzero := nonzero, playbackFeedback := feedback
          stats := { t.device.stats with
            playbackPackets := t.device.stats.playbackPackets + 1
            playbackFrames := t.device.stats.playbackFrames + UInt32.ofNat (size / 4)
            playbackDroppedFrames :=
              t.device.stats.playbackDroppedFrames + UInt32.ofNat lost } }
        playback := t.playback.accept (framesOf 2 samples (size / 4)) lost
        rates := t.rates ++ rate.toList } := by
      simp only [act, hrx, hpush, if_neg hbad, Option.bind_eq_bind, Option.bind_some]
    refine ⟨_, hact, ⟨⟨hcarries, hs.capture, ?_, ?_, hs.radioPlayback, hs.radioCapture,
      hs.captureDropped, hs.loaded, hs.underflow⟩, { h.levels with }, htracks, ?_⟩,
      t.playback.onward_accept _ _, .refl _⟩
    · show t.device.stats.playbackFrames + UInt32.ofNat (size / 4) =
        UInt32.ofNat (t.playback.accepted ++ _).length
      rw [hs.playbackFrames, List.length_append, framesOf_length]
      exact ofNat_add_ofNat rfl
    · show t.device.stats.playbackDroppedFrames + UInt32.ofNat lost = _
      rw [hs.playbackDropped]
      exact ofNat_add_ofNat rfl
    · intro value hvalue
      rcases List.mem_append.mp hvalue with hv | hv
      · exact h.rates value hv
      · exact hrate value (Option.mem_toList.mp hv)

/-- Both rings are reset, and the feedback is where a reset leaves it. -/
theorem Good.cleared (h : t.Good gainOf) {stats : UsbStats}
    (hstats : stats = { t.device.stats with
      mounted := stats.mounted, playbackActive := stats.playbackActive
      captureActive := stats.captureActive }) :
    t.Kept gainOf
      (t.cleared (({ t.device with stats }.seedFeedback false).resetRings)) := by
  have hs := h.streams
  rw [hstats]
  exact ⟨⟨⟨hs.playback.reset (by decide), hs.capture.reset (by decide), hs.playbackFrames,
    hs.playbackDropped, hs.radioPlayback, hs.radioCapture, hs.captureDropped, hs.loaded,
    hs.underflow⟩, { h.levels with }, fun _ => ⟨_, _, UsbFeedback.tracks_reset _⟩, h.rates⟩,
    hs.playback.sound.onward_clear, hs.capture.sound.onward_clear⟩

theorem Good.setItf (h : t.Good gainOf) (itf alt : UInt8) :
    ∃ t', t.act gainOf (.setItf itf alt) = some t' ∧ t.Kept gainOf t' := by
  have hs := h.streams
  refine ⟨_, rfl, ?_⟩
  by_cases hrefused : alt > 1
  · have hplayback : ¬ (itf = itfPlayback ∧ alt ≤ 1) := fun hc => UInt8.not_lt.mpr hc.2 hrefused
    have hcapture : ¬ (itf = itfCapture ∧ alt ≤ 1) := fun hc => UInt8.not_lt.mpr hc.2 hrefused
    unfold UsbAudio.setItf
    rw [if_pos hrefused, if_neg hplayback, if_neg hcapture]
    exact h.kept_self
  · have hle : alt ≤ 1 := UInt8.not_lt.mp hrefused
    unfold UsbAudio.setItf
    rw [if_neg hrefused]
    by_cases hplayback : itf = itfPlayback
    · have hcapture : itf ≠ itfCapture := by rw [hplayback]; decide
      simp only [hplayback, if_true, true_and, hle, show itfPlayback ≠ itfCapture by decide,
        if_false, false_and]
      exact ⟨⟨⟨hs.playback.reset (by decide), hs.capture, hs.playbackFrames, hs.playbackDropped,
        hs.radioPlayback, hs.radioCapture, hs.captureDropped, hs.loaded, hs.underflow⟩,
        { h.levels with }, fun _ => ⟨_, _, UsbFeedback.tracks_reset _⟩, h.rates⟩,
        hs.playback.sound.onward_clear, .refl _⟩
    · by_cases hcapture : itf = itfCapture
      · simp only [hcapture, if_true, if_false, true_and, false_and, hle,
          show itfCapture ≠ itfPlayback by decide]
        exact ⟨⟨⟨hs.playback, hs.capture.reset (by decide), hs.playbackFrames, hs.playbackDropped,
          hs.radioPlayback, hs.radioCapture, hs.captureDropped, hs.loaded, hs.underflow⟩,
          { h.levels with }, h.seeded, h.rates⟩, .refl _, hs.capture.sound.onward_clear⟩
      · simp only [hplayback, hcapture, if_false, false_and]
        exact h.kept_self

theorem Good.feedbackService (h : t.Good gainOf) :
    ∃ t', t.act gainOf .feedbackService = some t' ∧ t.Kept gainOf t' := by
  have hsame : SameStreams t.device t.device.feedbackService.1 :=
    ⟨rfl, rfl, rfl, rfl, rfl, rfl, rfl, rfl⟩
  suffices hrates : ∀ value ∈ t.device.feedbackService.2.toList, RateBound value by
    exact ⟨_, rfl, h.beside hsame { h.levels with } h.seeded hrates⟩
  intro value hvalue
  have hsent := Option.mem_toList.mp hvalue
  unfold UsbAudio.feedbackService at hsent
  dsimp only at hsent
  split at hsent
  · next hseed =>
    obtain ⟨seed, ps, htracks⟩ := h.seeded (Bool.and_eq_true_iff.mp hseed).2
    cases hsent
    exact rateBound_of_tracks htracks
  · cases hsent

theorem Good.setEntity (h : t.Good gainOf) {r : EntityRequest} {buf : List UInt8}
    (hbuf : r.length.toNat ≤ buf.length) :
    ∃ t', t.act gainOf (.setEntity r buf) = some t' ∧ t.Kept gainOf t' := by
  have hl := h.levels
  have heq : t.device.setEntity gainOf r buf = _ := t.device.setEntity_eq hbuf
  cases hchange : entityChange r buf with
  | none =>
    rw [hchange] at heq
    refine ⟨t, ?_, h.kept_self⟩
    simp only [act, heq, Option.bind_eq_bind, Option.bind_some]
  | some c =>
    rw [hchange] at heq
    refine ⟨{ t with device := t.device.change gainOf c }, ?_, ?_⟩
    · simp only [act, heq, Option.bind_eq_bind, Option.bind_some]
    · match c, hchange with
      | .mute true on, _ | .mute false on, _ =>
        exact h.aside ⟨rfl, rfl, rfl, rfl, rfl, rfl, rfl, rfl⟩ { hl with } h.seeded
      | .volume true v, hv =>
        exact h.aside ⟨rfl, rfl, rfl, rfl, rfl, rfl, rfl, rfl⟩
          ⟨hl.playbackVolume, allowed_of_change hv, hl.playbackGain, rfl⟩ h.seeded
      | .volume false v, hv =>
        exact h.aside ⟨rfl, rfl, rfl, rfl, rfl, rfl, rfl, rfl⟩
          ⟨allowed_of_change hv, hl.captureVolume, rfl, hl.captureGain⟩ h.seeded

/-- Every call finds its buffers and its arithmetic in bounds, and keeps the account. -/
theorem Good.act (h : t.Good gainOf) (hgain : GainTable gainOf) {a : UsbAction} (ha : a.Sound) :
    ∃ t', t.act gainOf a = some t' ∧ t.Kept gainOf t' := by
  cases a with
  | readPlayback out n =>
    cases out with
    | none => exact ⟨t, rfl, h.kept_self⟩
    | some out => exact h.readPlayback hgain (ha out rfl)
  | writeCapture input n =>
    cases input with
    | none => exact ⟨t, rfl, h.kept_self⟩
    | some input => exact h.writeCapture (ha input rfl)
  | mount => exact ⟨_, rfl, h.cleared rfl⟩
  | umount => exact ⟨_, rfl, h.cleared rfl⟩
  | suspend => exact ⟨_, rfl, h.cleared rfl⟩
  | resume =>
    exact ⟨_, rfl, h.aside ⟨rfl, rfl, rfl, rfl, rfl, rfl, rfl, rfl⟩ { h.levels with } h.seeded⟩
  | setItf itf alt => exact h.setItf itf alt
  | rxDone size got samples => exact h.rxDone ha.1 ha.2
  | feedbackService => exact h.feedbackService
  | preLoad => exact h.preLoad hgain
  | postLoad bytes =>
    exact ⟨_, rfl, h.aside ⟨rfl, rfl, rfl, rfl, rfl, rfl, rfl, rfl⟩ { h.levels with } h.seeded⟩
  | setEntity r buf => exact h.setEntity ha
  | setHeadsetMicMute muted =>
    exact ⟨_, rfl, h.aside ⟨rfl, rfl, rfl, rfl, rfl, rfl, rfl, rfl⟩ { h.levels with } h.seeded⟩

theorem Good.step (h : t.Good gainOf) (hgain : GainTable gainOf) {a : UsbAction} {t' : UsbTrack}
    (hstep : Step gainOf t a t') : t.Kept gainOf t' := by
  obtain ⟨t₁, hact, hkept⟩ := h.act hgain hstep.1
  rw [hstep.2] at hact
  cases hact
  exact hkept

theorem good_boot (hgain : GainTable gainOf) : boot.Good gainOf where
  streams :=
    { playback := ⟨Passage.sound_empty, .empty 2, .of_reset List.length_replicate (by decide), rfl,
        rfl⟩
      capture := ⟨Passage.sound_empty, .empty 1, .of_reset List.length_replicate (by decide), rfl,
        rfl⟩
      playbackFrames := rfl
      playbackDropped := rfl
      radioPlayback := rfl
      radioCapture := rfl
      captureDropped := rfl
      loaded := Nat.le_refl 0
      underflow := rfl }
  levels :=
    ⟨(by decide : AllowedVolume 0), (by decide : AllowedVolume 0), hgain.full.symm, hgain.full.symm⟩
  seeded := fun h => nomatch h
  rates := fun _ hv => nomatch hv

theorem Good.run (h : t.Good gainOf) (hgain : GainTable gainOf) {trace : List UsbAction}
    {t' : UsbTrack} (hrun : Run (Step gainOf) t trace t') : t.Kept gainOf t' := by
  refine hrun.invariant (fun t' => t.Kept gainOf t') h.kept_self fun t₁ a t₂ hkept hstep => ?_
  have hnext := hkept.good.step hgain hstep
  exact ⟨hnext.good, hkept.playback.trans hnext.playback, hkept.capture.trans hnext.capture⟩

end UsbTrack

/-- Any sound calls can be made one after the other. -/
theorem UsbTrack.Good.runs {gainOf : Int16 → Int} {t : UsbTrack} (h : t.Good gainOf)
    (hgain : GainTable gainOf) {as : List UsbAction} (hsound : ∀ a ∈ as, a.Sound) :
    ∃ t', Run (UsbTrack.Step gainOf) t as t' := by
  induction as generalizing t with
  | nil => exact ⟨t, .nil⟩
  | cons a as ih =>
    obtain ⟨t₁, hact, hkept⟩ := h.act hgain (hsound a List.mem_cons_self)
    obtain ⟨t', hrun⟩ := ih hkept.good fun b hb => hsound b (List.mem_cons_of_mem a hb)
    exact ⟨t', (Run.single (t := t₁) ⟨hsound a List.mem_cons_self, hact⟩).append hrun⟩

/-- The action resets the ring that goes with the interface. -/
def UsbAction.resets (itf : UInt8) : UsbAction → Prop
  | .mount | .umount | .suspend => True
  | .setItf i alt => i = itf ∧ alt ≤ 1
  | _ => False

theorem UsbTrack.step_resets {gainOf : Int16 → Int} {t t' : UsbTrack} {a : UsbAction}
    (hstep : UsbTrack.Step gainOf t a t') :
    (a.resets itfPlayback → t'.playback = t.playback.clear) ∧
      (a.resets itfCapture → t'.capture = t.capture.clear) := by
  obtain ⟨-, hact⟩ := hstep
  cases a with
  | mount | umount | suspend =>
    cases hact
    exact ⟨fun _ => rfl, fun _ => rfl⟩
  | setItf itf alt =>
    cases hact
    exact ⟨fun h => if_pos h, fun h => if_pos h⟩
  | resume | feedbackService | preLoad => exact ⟨False.elim, False.elim⟩
  | readPlayback | writeCapture | rxDone => exact ⟨False.elim, False.elim⟩
  | postLoad | setEntity | setHeadsetMicMute => exact ⟨False.elim, False.elim⟩

/-- In every run from start-up, whatever the order of the calls: the next sound call is carried out
without leaving a buffer or overflowing. Each frame of either direction that was accepted is still
in its ring, or was handed on once and in order, dropped for newer ones, or cleared by a reset; the
ring holds exactly the last ones, no more than 1920; and the snapshot counts them. -/
theorem usb_streams_accounted {gainOf : Int16 → Int} (hgain : GainTable gainOf)
    {trace : List UsbAction} {t : UsbTrack} (hrun : Run (UsbTrack.Step gainOf) .boot trace t) :
    (∀ a : UsbAction, a.Sound → ∃ t', UsbTrack.Step gainOf t a t') ∧
      t.playback.Sound ∧ t.device.playback.frames = t.playback.held ∧
      t.playback.held.length ≤ pcmRingFrames ∧
      t.capture.Sound ∧ t.device.capture.frames = t.capture.held ∧
      t.capture.held.length ≤ pcmRingFrames ∧
      ∀ nowMs, ∃ mounted playing capturing packets malformed rate active,
        t.device.diagnostics nowMs = [mounted, playing, capturing, packets,
          UInt32.ofNat t.playback.accepted.length, UInt32.ofNat t.playback.held.length,
          UInt32.ofNat t.playback.delivered.length, UInt32.ofNat t.playback.dropped, malformed,
          rate, active, UInt32.ofNat (48 * t.loads - t.capture.delivered.length),
          UInt32.ofNat t.capture.dropped, nowMs, 1] := by
  have hgood := ((UsbTrack.good_boot hgain).run hgain hrun).good
  have hs := hgood.streams
  refine ⟨fun a ha => ?_, hs.playback.sound, hs.playback.frames, hs.playback.held_le,
    hs.capture.sound, hs.capture.frames, hs.capture.held_le, fun nowMs => ?_⟩
  · obtain ⟨t', hact, -⟩ := hgood.act hgain ha
    exact ⟨t', ha, hact⟩
  · unfold UsbAudio.diagnostics
    rw [hs.playbackFrames, hs.playback.count, hs.radioPlayback, hs.playbackDropped, hs.underflow,
      hs.captureDropped]
    exact ⟨_, _, _, _, _, _, _, rfl⟩

/-- The gains of 0 dB, -6 dB and -60 dB. -/
def threeGains (v : Int16) : Int :=
  if v = 0 then 32768 else if v = -1536 then 16423 else 33

theorem threeGains_table : GainTable threeGains where
  full := rfl
  range v _ _ := by
    unfold threeGains
    split
    · decide
    · split <;> decide

/-- Two frames of the host, of which the radio takes one. -/
def shortPlayback : List UsbAction :=
  [.mount, .setItf itfPlayback 1, .rxDone 8 8 (List.replicate 98 7),
    .readPlayback (some (List.replicate 2 0)) 1]

theorem shortPlayback_sound : ∀ a ∈ shortPlayback, a.Sound := by
  intro a ha
  simp only [shortPlayback, List.mem_cons, List.not_mem_nil, or_false] at ha
  rcases ha with rfl | rfl | rfl | rfl
  · trivial
  · trivial
  · exact ⟨List.length_replicate, by decide⟩
  · rintro b hb
    cases hb
    decide

theorem usb_streams_accounted_short :
    ∃ t, Run (UsbTrack.Step threeGains) .boot shortPlayback t ∧ t.playback.Sound ∧
      t.device.playback.frames = t.playback.held := by
  obtain ⟨t, hrun⟩ :=
    (UsbTrack.good_boot threeGains_table).runs threeGains_table shortPlayback_sound
  obtain ⟨-, hsound, hframes, -⟩ := usb_streams_accounted threeGains_table hrun
  exact ⟨t, hrun, hsound, hframes⟩

/-- After the host has mounted, unmounted, suspended or selected a setting, nothing that was
accepted before reaches the other side: not the radio for playback, and not the host for capture. -/
theorem usb_reset_isolates {gainOf : Int16 → Int} (hgain : GainTable gainOf)
    {trace : List UsbAction} {t : UsbTrack} (hrun : Run (UsbTrack.Step gainOf) .boot trace t)
    {a : UsbAction} {t₁ : UsbTrack} (hstep : UsbTrack.Step gainOf t a t₁) {trace' : List UsbAction}
    {t₂ : UsbTrack} (hrun' : Run (UsbTrack.Step gainOf) t₁ trace' t₂) :
    (a.resets itfPlayback → ∃ later, t₂.playback.delivered = t.playback.delivered ++ later ∧
      ∀ d ∈ later, t.playback.accepted.length ≤ d.1) ∧
    (a.resets itfCapture → ∃ later, t₂.capture.delivered = t.capture.delivered ++ later ∧
      ∀ d ∈ later, t.capture.accepted.length ≤ d.1) := by
  have hgood := ((UsbTrack.good_boot hgain).run hgain hrun).good
  have hkept := (hgood.step hgain hstep).good.run hgain hrun'
  have hresets := UsbTrack.step_resets hstep
  refine ⟨fun ha => ?_, fun ha => ?_⟩
  · have honward := hkept.playback.delivered
    rw [hresets.1 ha] at honward
    exact honward
  · have honward := hkept.capture.delivered
    rw [hresets.2 ha] at honward
    exact honward

/-- A suspend behind the two frames: the one that was not taken never is. -/
theorem usb_reset_isolates_suspend :
    ∃ t t₁ t₂, Run (UsbTrack.Step threeGains) .boot shortPlayback t ∧
      UsbTrack.Step threeGains t .suspend t₁ ∧
      Run (UsbTrack.Step threeGains) t₁ [.resume, .readPlayback (some [0, 0]) 1] t₂ ∧
      ∃ later, t₂.playback.delivered = t.playback.delivered ++ later ∧
        ∀ d ∈ later, t.playback.accepted.length ≤ d.1 := by
  have hboot := UsbTrack.good_boot threeGains_table
  obtain ⟨t, hrun⟩ := hboot.runs threeGains_table shortPlayback_sound
  have hgood := (hboot.run threeGains_table hrun).good
  have hstep : UsbTrack.Step threeGains t .suspend (t.cleared t.device.suspend) := ⟨trivial, rfl⟩
  have hread : ∀ a ∈ [UsbAction.resume, .readPlayback (some [0, 0]) 1], a.Sound := by
    intro a ha
    simp only [List.mem_cons, List.not_mem_nil, or_false] at ha
    rcases ha with rfl | rfl
    · trivial
    · rintro b hb
      cases hb
      decide
  obtain ⟨t₂, hrun'⟩ := (hgood.step threeGains_table hstep).good.runs threeGains_table hread
  exact ⟨t, _, t₂, hrun, hstep, hrun',
    (usb_reset_isolates threeGains_table hrun hstep hrun').1 trivial⟩

end UllReceiver.Usb
