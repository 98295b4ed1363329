import UllReceiver.Usb.PcmRing
import UllReceiver.Usb.UsbFeedback

/-!
# The USB audio device

`usb_audio.c` without its console: the two PCM rings between the USB task and the radio's audio
tasks, the interface settings, volume and mute, and the rate feedback. Each operation is what one
call does inside `audio_lock`, so operations of different tasks come in any order. `gainOf` is the
library's `lroundf(32768.0f*powf(10.0f, volume/(256.0f*20.0f)))`; sizes and signed arithmetic are
as in the modules of the rings and of the feedback, and `none` is undefined behaviour.
-/

namespace UllReceiver.Usb

open Library

/-- `ITF_AUDIO_CONTROL` and the numbers after it. -/
def itfAudioControl : UInt8 := 0
def itfPlayback : UInt8 := 1
def itfCapture : UInt8 := 2

/-- `UAC_PLAYBACK_FEATURE`, `UAC_CLOCK`, `UAC_CAPTURE_FEATURE` and `UAC_CAPTURE_CLOCK` -/
def uacPlaybackFeature : UInt8 := 2
def uacClock : UInt8 := 4
def uacCaptureFeature : UInt8 := 0x12
def uacCaptureClock : UInt8 := 0x14

/-! The numbers of the USB audio class: requests, clock source controls, feature unit controls. -/

def audioReqCur : UInt8 := 1
def audioReqRange : UInt8 := 2
def clockSamFreq : UInt8 := 1
def clockValid : UInt8 := 2
def featureMute : UInt8 := 1
def featureVolume : UInt8 := 2

/-- `ull_usb_audio_stats_t`, less what only the console writes and what is filled in on a copy. -/
structure UsbStats where
  mounted : Bool
  playbackActive : Bool
  captureActive : Bool
  playbackPackets : UInt32
  playbackFrames : UInt32
  playbackDroppedFrames : UInt32
  capturePackets : UInt32
  captureFrames : UInt32
  captureUnderflowFrames : UInt32
  captureDroppedFrames : UInt32
  radioPlaybackFrames : UInt32
  radioCaptureFrames : UInt32
  malformedPlaybackPackets : UInt32

structure UsbAudio where
  playback : PcmRing
  capture : PcmRing
  stats : UsbStats
  playbackVolume : Int16
  captureVolume : Int16
  playbackMute : Bool
  captureMute : Bool
  headsetMicMute : Bool
  playbackGain : Int
  captureGain : Int
  playbackNonzero : UInt32
  playbackFeedback : UsbFeedback
  feedbackSeedPending : Bool

/-- The bytes of a control request to an entity. -/
structure EntityRequest where
  request : UInt8
  channelNumber : UInt8
  controlSelector : UInt8
  interface : UInt8
  entityId : UInt8
  length : UInt16

/-- `ull_pcm_gain` -/
def pcmGain (s : List Int16) (count : Nat) (gain : Int) : Option (List Int16) :=
  if gain = 32768 then some s
  else if gain = 0 then storeSpan s 0 (List.replicate count 0)
  else do
    let front ← loadSpan s 0 count
    let scaled ← front.mapM fun x => do
      let product ← int32 (x.toInt * gain)
      some (Int16.ofInt (product.tdiv 32768))
    storeSpan s 0 scaled

def bytes16 (x : UInt16) : List UInt8 :=
  [x.toUInt8, (x >>> 8).toUInt8]

def bytes32 (x : UInt32) : List UInt8 :=
  [x.toUInt8, (x >>> 8).toUInt8, (x >>> 16).toUInt8, (x >>> 24).toUInt8]

namespace UsbAudio

/-- The statics as they are loaded, after the two resets of `ull_usb_audio_init`. -/
def boot : UsbAudio where
  playback := PcmRing.reset ⟨List.replicate 3840 0, 0, 0, 0⟩ 2
  capture := PcmRing.reset ⟨List.replicate 3840 0, 0, 0, 0⟩ 1
  stats := ⟨false, false, false, 0, 0, 0, 0, 0, 0, 0, 0, 0, 0⟩
  playbackVolume := 0
  captureVolume := 0
  playbackMute := false
  captureMute := false
  headsetMicMute := false
  playbackGain := 32768
  captureGain := 32768
  playbackNonzero := 0
  playbackFeedback := ⟨0, 0, 0, 0, false⟩
  feedbackSeedPending := false

/-- The part of `ull_usb_audio_read_playback` inside the lock: the state, the frames got, the
buffer and the gain for it. -/
def takePlayback (d : UsbAudio) (out : List Int16) (frames : Nat) :
    Option (UsbAudio × Nat × List Int16 × Int) :=
  match d.playback.pop (some out) frames with
  | some (playback, got, some out) =>
    some ({ d with
        playback
        stats := { d.stats with
          radioPlaybackFrames := d.stats.radioPlaybackFrames + UInt32.ofNat got } },
      got, out, if d.playbackMute then 0 else d.playbackGain)
  | _ => none

/-- `ull_usb_audio_read_playback`; `out` is `none` for the null pointer. -/
def readPlayback (d : UsbAudio) (out : Option (List Int16)) (frames : Nat) :
    Option (UsbAudio × Nat × Option (List Int16)) :=
  match out with
  | none => some (d, 0, none)
  | some out => do
    let (d, got, out, gain) ← d.takePlayback out frames
    let out ← pcmGain out (got * 2) gain
    some (d, got, some out)

/-- `ull_usb_audio_write_capture` -/
def writeCapture (d : UsbAudio) (input : Option (List Int16)) (frames : Nat) :
    Option (UsbAudio × Nat) :=
  match input with
  | none => some (d, 0)
  | some input =>
    if !d.stats.captureActive || !d.stats.mounted then some (d, 0)
    else do
      let (capture, lost) ← d.capture.push (some input) frames
      some ({ d with
          capture
          stats := { d.stats with
            captureDroppedFrames := d.stats.captureDroppedFrames + UInt32.ofNat lost
            radioCaptureFrames := d.stats.radioCaptureFrames + UInt32.ofNat frames } }, frames)

/-- `ull_usb_feedback_reset` of the playback feedback. -/
def seedFeedback (d : UsbAudio) (pending : Bool) : UsbAudio :=
  { d with
    playbackFeedback := UsbFeedback.reset d.stats.radioPlaybackFrames, feedbackSeedPending := pending }

def resetRings (d : UsbAudio) : UsbAudio :=
  { d with playback := d.playback.reset 2, capture := d.capture.reset 1 }

/-- `reset_streams`: `tud_mount_cb` and `tud_umount_cb`. -/
def resetStreams (d : UsbAudio) (mounted : Bool) : UsbAudio :=
  ({ d with stats := { d.stats with
    mounted, playbackActive := false, captureActive := false } }.seedFeedback false).resetRings

/-- `tud_suspend_cb`: the alternate settings stay. -/
def suspend (d : UsbAudio) : UsbAudio :=
  ({ d with stats := { d.stats with mounted := false } }.seedFeedback false).resetRings

/-- `tud_resume_cb` -/
def resume (d : UsbAudio) : UsbAudio :=
  { d with
    stats := { d.stats with mounted := true }, feedbackSeedPending := d.stats.playbackActive }

/-- `tud_audio_set_itf_cb` -/
def setItf (d : UsbAudio) (itf alt : UInt8) : UsbAudio × Bool :=
  if alt > 1 then (d, false)
  else
    let d :=
      if itf = itfPlayback then
        { d with
          playback := d.playback.reset 2
          stats := { d.stats with playbackActive := alt == 1 } }.seedFeedback (alt == 1)
      else d
    let d :=
      if itf = itfCapture then
        { d with
          capture := d.capture.reset 1
          stats := { d.stats with captureActive := alt == 1 } }
      else d
    (d, true)

/-- `tud_audio_rx_done_post_read_cb` after it has read `got` bytes into `samples`, and the value it
gives to `tud_audio_fb_set`. -/
def rxDone (d : UsbAudio) (size got : Nat) (samples : List Int16) :
    Option (UsbAudio × Option UInt32) :=
  let d := { d with stats := { d.stats with playbackPackets := d.stats.playbackPackets + 1 } }
  if size ≠ got ∨ got % 4 ≠ 0 then
    some ({ d with stats := { d.stats with
      malformedPlaybackPackets := d.stats.malformedPlaybackPackets + 1 } }, none)
  else do
    let counted ← loadSpan samples 0 (got / 2)
    let (playback, lost) ← d.playback.push (some samples) (got / 4)
    let d := { d with
      playback
      playbackNonzero := d.playbackNonzero + UInt32.ofNat (counted.countP (· ≠ 0))
      stats := { d.stats with
        playbackFrames := d.stats.playbackFrames + UInt32.ofNat (got / 4)
        playbackDroppedFrames := d.stats.playbackDroppedFrames + UInt32.ofNat lost } }
    if d.stats.mounted && d.stats.playbackActive then
      let (feedback, value) ← d.playbackFeedback.step (UInt32.ofNat d.playback.count)
        d.stats.radioPlaybackFrames
      some ({ d with playbackFeedback := feedback }, if value ≠ 0 then some value else none)
    else some (d, none)

/-- `feedback_service` and the value it gives to `tud_audio_fb_set`. -/
def feedbackService (d : UsbAudio) : UsbAudio × Option UInt32 :=
  let seed := d.feedbackSeedPending && d.stats.mounted && d.stats.playbackActive
  ({ d with feedbackSeedPending := false }, if seed then some d.playbackFeedback.valueQ16 else none)

/-- The part of `tud_audio_tx_done_pre_load_cb` inside the lock. -/
def takeCapture (d : UsbAudio) : Option (UsbAudio × Nat × List Int16 × Int) :=
  match d.capture.pop (some (List.replicate 48 0)) 48 with
  | some (capture, got, some samples) => do
    let missing ← sizeSub 48 got
    some ({ d with
        capture
        stats := { d.stats with
          captureUnderflowFrames := d.stats.captureUnderflowFrames + UInt32.ofNat missing } },
      got, samples, if d.captureMute || d.headsetMicMute then 0 else d.captureGain)
  | _ => none

/-- `tud_audio_tx_done_pre_load_cb` and the samples it gives to `tud_audio_write`. -/
def preLoad (d : UsbAudio) : Option (UsbAudio × List Int16) := do
  let (d, _, samples, gain) ← d.takeCapture
  let samples ← pcmGain samples 48 gain
  some (d, samples)

/-- `tud_audio_tx_done_post_load_cb` -/
def postLoad (d : UsbAudio) (bytes : Nat) : UsbAudio :=
  { d with stats := { d.stats with
    capturePackets := d.stats.capturePackets + 1
    captureFrames := d.stats.captureFrames + UInt32.ofNat (bytes / 2) } }

/-- `tud_audio_get_req_entity_cb`: the bytes it replies with, or `none` when it returns false. -/
def getEntity (d : UsbAudio) (r : EntityRequest) : Option (List UInt8) :=
  if r.interface ≠ itfAudioControl ∨ r.channelNumber ≠ 0 then none
  else if r.entityId = uacClock ∨ r.entityId = uacCaptureClock then
    if r.controlSelector = clockSamFreq ∧ r.request = audioReqCur then some (bytes32 48000)
    else if r.controlSelector = clockSamFreq ∧ r.request = audioReqRange then
      some (bytes16 1 ++ bytes32 48000 ++ bytes32 48000 ++ bytes32 0)
    else if r.controlSelector = clockValid ∧ r.request = audioReqCur then some [1]
    else none
  else
    let input := r.entityId = uacCaptureFeature
    if ¬input ∧ r.entityId ≠ uacPlaybackFeature then none
    else if r.controlSelector = featureMute ∧ r.request = audioReqCur then
      some [if (if input then d.captureMute || d.headsetMicMute else d.playbackMute) then 1 else 0]
    else if r.controlSelector = featureVolume ∧ r.request = audioReqCur then
      some (bytes16 (if input then d.captureVolume else d.playbackVolume).toUInt16)
    else if r.controlSelector = featureVolume ∧ r.request = audioReqRange then
      some (bytes16 1 ++ bytes16 (Int16.toUInt16 (-60 * 256)) ++ bytes16 0 ++ bytes16 256)
    else none

/-- `tud_audio_set_req_entity_cb` -/
def setEntity (gainOf : Int16 → Int) (d : UsbAudio) (r : EntityRequest) (buf : List UInt8) :
    Option (UsbAudio × Bool) :=
  if r.interface ≠ itfAudioControl ∨ r.channelNumber ≠ 0 ∨ r.request ≠ audioReqCur then
    some (d, false)
  else
    let input := r.entityId = uacCaptureFeature
    if ¬input ∧ r.entityId ≠ uacPlaybackFeature then some (d, false)
    else if r.controlSelector = featureMute ∧ r.length = 1 then do
      let mute ← load buf 0
      if mute ≤ 1 then
        some (if input then { d with captureMute := mute != 0 }
          else { d with playbackMute := mute != 0 }, true)
      -- the test for a volume comes next, and this is not one
      else some (d, false)
    else if r.controlSelector = featureVolume ∧ r.length = 2 then do
      let low ← load buf 0
      let high ← load buf 1
      let volume := (low.toUInt16 ||| high.toUInt16 <<< 8).toInt16
      if volume > 0 ∨ volume < -60 * 256 ∨ volume.toInt.tmod 256 ≠ 0 then some (d, false)
      else
        some (if input then { d with captureVolume := volume, captureGain := gainOf volume }
          else { d with playbackVolume := volume, playbackGain := gainOf volume }, true)
    else some (d, false)

/-- `ull_usb_audio_set_headset_mic_mute` -/
def setHeadsetMicMute (d : UsbAudio) (muted : Bool) : UsbAudio :=
  { d with headsetMicMute := muted }

/-- `ull_usb_audio_diagnostics`, with the milliseconds of `esp_timer_get_time`. -/
def diagnostics (d : UsbAudio) (nowMs : UInt32) : List UInt32 :=
  [d.stats.mounted.toUInt32, d.stats.playbackActive.toUInt32, d.stats.captureActive.toUInt32,
    d.stats.playbackPackets, d.stats.playbackFrames, UInt32.ofNat d.playback.count,
    d.stats.radioPlaybackFrames, d.stats.playbackDroppedFrames, d.stats.malformedPlaybackPackets,
    d.playbackFeedback.valueQ16, d.playbackFeedback.active.toUInt32,
    d.stats.captureUnderflowFrames, d.stats.captureDroppedFrames, nowMs, 1]

end UsbAudio

end UllReceiver.Usb
