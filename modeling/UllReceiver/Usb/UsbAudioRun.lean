import UllReceiver.Library.Passage
import UllReceiver.Library.Runs
import UllReceiver.Usb.UsbAudio

/-!
# Runs of the USB audio device

What passes its two rings, over any order of the calls of the USB task and of the audio tasks.
-/

namespace UllReceiver.Usb

open Library

inductive UsbAction
  | readPlayback (out : Option (List Int16)) (frames : Nat)
  | writeCapture (input : Option (List Int16)) (frames : Nat)
  | mount
  | umount
  | suspend
  | resume
  | setItf (itf alt : UInt8)
  | rxDone (size got : Nat) (samples : List Int16)
  | feedbackService
  | preLoad
  | postLoad (bytes : Nat)
  | setEntity (r : EntityRequest) (buf : List UInt8)
  | setHeadsetMicMute (muted : Bool)

/-- Buffers have the frames, the samples and the bytes that the calls are told of. -/
def UsbAction.Sound : UsbAction → Prop
  | .readPlayback out frames => ∀ b ∈ out, frames * 2 ≤ b.length
  | .writeCapture input frames => ∀ b ∈ input, frames ≤ b.length
  | .rxDone _ got samples => samples.length = 98 ∧ got ≤ 196
  | .setEntity r buf => r.length.toNat ≤ buf.length
  | _ => True

/-- The device with what has passed its rings, the packets loaded for the host, and the rates it was
told. -/
structure UsbTrack where
  device : UsbAudio
  playback : Passage (List Int16)
  capture : Passage (List Int16)
  loads : Nat
  rates : List UInt32

namespace UsbTrack

def boot : UsbTrack :=
  ⟨.boot, .empty, .empty, 0, []⟩

/-- Both rings are reset. -/
def cleared (t : UsbTrack) (device : UsbAudio) : UsbTrack :=
  { t with device, playback := t.playback.clear, capture := t.capture.clear }

def act (gainOf : Int16 → Int) (t : UsbTrack) : UsbAction → Option UsbTrack
  | .readPlayback none _ => some t
  | .readPlayback (some out) frames => do
      let (_, got, popped, _) ← t.device.takePlayback out frames
      let (device, _, _) ← t.device.readPlayback (some out) frames
      some { t with device, playback := t.playback.deliver (framesOf 2 popped got) }
  | .writeCapture none _ => some t
  | .writeCapture (some input) frames => do
      let (device, _) ← t.device.writeCapture (some input) frames
      if t.device.stats.captureActive && t.device.stats.mounted then
        let (_, lost) ← t.device.capture.push (some input) frames
        some { t with device, capture := t.capture.accept (framesOf 1 input frames) lost }
      else some { t with device }
  | .mount => some (t.cleared (t.device.resetStreams true))
  | .umount => some (t.cleared (t.device.resetStreams false))
  | .suspend => some (t.cleared t.device.suspend)
  | .resume => some { t with device := t.device.resume }
  | .setItf itf alt =>
      some { t with
        device := (t.device.setItf itf alt).1
        playback := if itf = itfPlayback ∧ alt ≤ 1 then t.playback.clear else t.playback
        capture := if itf = itfCapture ∧ alt ≤ 1 then t.capture.clear else t.capture }
  | .rxDone size got samples => do
      let (device, rate) ← t.device.rxDone size got samples
      if size ≠ got ∨ got % 4 ≠ 0 then some { t with device }
      else
        let (_, lost) ← t.device.playback.push (some samples) (got / 4)
        some { t with
          device
          playback := t.playback.accept (framesOf 2 samples (got / 4)) lost
          rates := t.rates ++ rate.toList }
  | .feedbackService =>
      let (device, rate) := t.device.feedbackService
      some { t with device, rates := t.rates ++ rate.toList }
  | .preLoad => do
      let (_, got, popped, _) ← t.device.takeCapture
      let (device, _) ← t.device.preLoad
      some { t with
        device, capture := t.capture.deliver (framesOf 1 popped got), loads := t.loads + 1 }
  | .postLoad bytes => some { t with device := t.device.postLoad bytes }
  | .setEntity r buf => do
      let (device, _) ← t.device.setEntity gainOf r buf
      some { t with device }
  | .setHeadsetMicMute muted => some { t with device := t.device.setHeadsetMicMute muted }

def Step (gainOf : Int16 → Int) (t : UsbTrack) (a : UsbAction) (t' : UsbTrack) : Prop :=
  a.Sound ∧ t.act gainOf a = some t'

end UsbTrack

/-! ## The rings -/

/-- The ring holds what the passage still holds. -/
structure Carries (r : PcmRing) (p : Passage (List Int16)) (channels : Nat) : Prop where
  sound : p.Sound
  queue : ∃ q, Holds r q ∧ q.channels = channels ∧ q.frames = p.held

/-- The samples of frames that are all as wide as the channels. -/
theorem flatten_length {channels : Nat} {fs : List (List Int16)}
    (h : ∀ f ∈ fs, f.length = channels) : fs.flatten.length = fs.length * channels := by
  induction fs with
  | nil => rw [List.flatten_nil, List.length_nil, List.length_nil, Nat.zero_mul]
  | cons f fs ih =>
    rw [List.flatten_cons, List.length_append, ih fun g hg => h g (List.mem_cons_of_mem f hg),
      h f List.mem_cons_self, List.length_cons, Nat.succ_mul, Nat.add_comm]

theorem framesOf_flatten_append {channels : Nat} {fs : List (List Int16)}
    (h : ∀ f ∈ fs, f.length = channels) (rest : List Int16) :
    framesOf channels (fs.flatten ++ rest) fs.length = fs := by
  induction fs with
  | nil => rfl
  | cons f fs ih =>
    have hf : f.length = 1 * channels := by rw [Nat.one_mul, h f List.mem_cons_self]
    rw [List.flatten_cons, List.append_assoc, List.length_cons, Nat.add_comm,
      framesOf_append hf, ih fun g hg => h g (List.mem_cons_of_mem f hg)]
    show [(f.drop (0 * channels)).take channels] ++ fs = f :: fs
    rw [Nat.zero_mul, List.drop_zero, ← h f List.mem_cons_self, List.take_length]
    rfl

namespace Carries

variable {r : PcmRing} {p : Passage (List Int16)} {channels : Nat}

theorem frames (h : Carries r p channels) : r.frames = p.held := by
  obtain ⟨q, hq, -, hframes⟩ := h.queue
  exact hq.frames.trans hframes

theorem count (h : Carries r p channels) : r.count = p.held.length := by
  rw [← h.frames, r.frames_length]

theorem samples (h : Carries r p channels) : r.samples.length = 2 * pcmRingFrames := by
  obtain ⟨q, hq, -⟩ := h.queue
  exact hq.good.samples

theorem held_le (h : Carries r p channels) : p.held.length ≤ pcmRingFrames := by
  obtain ⟨q, hq, -⟩ := h.queue
  rw [← h.count]
  exact hq.good.count

theorem frame_length (h : Carries r p channels) : ∀ f ∈ p.held, f.length = channels := by
  obtain ⟨q, hq, hch, hframes⟩ := h.queue
  have hflat := hq.good.flat_length
  intro f hf
  rw [← hframes, ← hq.frames, hq.good.frames_eq] at hf
  obtain ⟨i, hi, rfl⟩ := List.mem_map.mp hf
  have hfit : (i + 1) * r.channels ≤ r.count * r.channels :=
    Nat.mul_le_mul_right _ (List.mem_range.mp hi)
  rw [Nat.succ_mul] at hfit
  rw [List.length_take, List.length_drop, hflat, ← hch, ← hq.channels]
  omega

theorem reset (h : Carries r p channels) (hch : 1 ≤ channels ∧ channels ≤ 2) :
    Carries (r.reset channels) p.clear channels :=
  ⟨h.sound.clear, .empty channels, .of_reset h.samples hch, rfl, p.held_clear.symm⟩

theorem push (h : Carries r p channels) {s : List Int16} {n : Nat}
    (hs : n * channels ≤ s.length) :
    ∃ r' lost, r.push (some s) n = some (r', lost) ∧
      Carries r' (p.accept (framesOf channels s n) lost) channels := by
  have hsound := h.sound
  obtain ⟨q, hq, hch, hframes⟩ := h.queue
  rw [← hch, ← hq.channels] at hs
  obtain ⟨r', hpush, hholds, -⟩ := hq.push hs
  rw [hch] at hpush hholds
  have hlost : (q.push (framesOf channels s n)).2 ≤
      p.held.length + (framesOf channels s n).length := by
    rw [← hframes]
    show (q.frames ++ framesOf channels s n).length - pcmRingFrames ≤ _
    rw [List.length_append]
    omega
  have hsame : (q.push (framesOf channels s n)).1.channels = channels := by
    simp only [FrameQueue.push, hch]
  refine ⟨r', _, hpush, hsound.accept hlost, _, hholds, hsame, ?_⟩
  rw [hsound.held_accept, FrameQueue.push_frames, hframes]

theorem pop (h : Carries r p channels) {s : List Int16} {n : Nat}
    (hs : n * channels ≤ s.length) :
    ∃ r' got s', r.pop (some s) n = some (r', got, some s') ∧ got = min n p.held.length ∧
      s' = (p.held.take n).flatten ++ s.drop (got * channels) ∧
      framesOf channels s' got = p.held.take n ∧
      Carries r' (p.deliver (framesOf channels s' got)) channels := by
  have hsound := h.sound
  have hwide := h.frame_length
  obtain ⟨q, hq, hch, hframes⟩ := h.queue
  rw [← hch, ← hq.channels] at hs
  obtain ⟨r', hpop, hholds, -⟩ := hq.pop hs
  have hgot : (q.pop n).2 = p.held.take n := by
    rw [← hframes]
    rfl
  have hlength : (p.held.take n).length = min n p.held.length := List.length_take
  have hflat : (p.held.take n).flatten.length = (p.held.take n).length * channels :=
    flatten_length fun f hf => hwide f (List.mem_of_mem_take hf)
  have hback : framesOf channels ((p.held.take n).flatten ++
      s.drop ((p.held.take n).length * channels)) (p.held.take n).length = p.held.take n :=
    framesOf_flatten_append (fun f hf => hwide f (List.mem_of_mem_take hf)) _
  rw [hgot, hflat] at hpop
  refine ⟨r', _, _, hpop, hlength, rfl, hback, ?_⟩
  rw [hback]
  refine ⟨hsound.deliver (List.take_prefix n _), _, hholds, hch, ?_⟩
  show q.frames.drop n = _
  rw [Passage.held_deliver, hframes, hlength]
  by_cases hn : n ≤ p.held.length
  · rw [Nat.min_eq_left hn]
  · rw [Nat.min_eq_right (by omega), List.drop_length, List.drop_of_length_le (by omega)]

end Carries

/-! ## Volume and mute -/

/-- What the library's functions give over the range of the volumes, full scale at 0 dB. -/
structure GainTable (gainOf : Int16 → Int) : Prop where
  full : gainOf 0 = 32768
  range : ∀ v : Int16, -15360 ≤ v → v ≤ 0 → 0 < gainOf v ∧ gainOf v ≤ 32768

/-- A sample with the gain applied. -/
def scaled (gain : Int) (x : Int16) : Int16 :=
  Int16.ofInt ((x.toInt * gain).tdiv 32768)

/-- Scaling takes a sample towards zero, by rounding too. -/
theorem scaled_toInt {gain : Int} (h0 : 0 ≤ gain) (h1 : gain ≤ 32768) (x : Int16) :
    (scaled gain x).toInt = (x.toInt * gain).tdiv 32768 ∧
      (scaled gain x).toInt.natAbs ≤ x.toInt.natAbs := by
  have hlo := x.le_toInt
  have hhi := x.toInt_lt
  have hpart := tdiv_cases (x.toInt * gain) (n := 32768)
  have hbound : ((x.toInt * gain).tdiv 32768).natAbs ≤ x.toInt.natAbs ∧
      (x.toInt ≤ 0 → (x.toInt * gain).tdiv 32768 ≤ 0) := by
    rcases Int.le_total 0 x.toInt with hx | hx
    · have hmul : x.toInt * gain ≤ x.toInt * 32768 := Int.mul_le_mul_of_nonneg_left h1 hx
      have hpos : 0 ≤ x.toInt * gain := Int.mul_nonneg hx h0
      omega
    · have hmul : x.toInt * 32768 ≤ x.toInt * gain := Int.mul_le_mul_of_nonpos_left hx h1
      have hneg : x.toInt * gain ≤ 0 := Int.mul_nonpos_of_nonpos_of_nonneg hx h0
      omega
  have hvalue : (scaled gain x).toInt = (x.toInt * gain).tdiv 32768 := by
    unfold scaled
    rw [Int16.toInt_ofInt]
    apply Int.bmod_eq_of_le
    · show -(65536 / 2 : Int) ≤ _
      omega
    · show _ < ((65536 + 1) / 2 : Int)
      omega
  exact ⟨hvalue, by rw [hvalue]; exact hbound.1⟩

theorem scaled_full (x : Int16) : scaled 32768 x = x := by
  rw [scaled, Int.mul_tdiv_cancel _ (by decide), Int16.ofInt_toInt]

theorem scaled_zero (x : Int16) : scaled 0 x = 0 := by
  rw [scaled, Int.mul_zero]
  rfl

theorem mapM_some {α β : Type} {f : α → Option β} {g : α → β} {xs : List α}
    (h : ∀ x ∈ xs, f x = some (g x)) : xs.mapM f = some (xs.map g) := by
  induction xs with
  | nil => rfl
  | cons x xs ih =>
    rw [List.mapM_cons, h x List.mem_cons_self, ih fun y hy => h y (List.mem_cons_of_mem x hy)]
    rfl

/-- The gain stage on the first samples of a buffer: no product overflows. -/
theorem pcmGain_ok {s : List Int16} {count : Nat} {gain : Int} (hs : count ≤ s.length)
    (h0 : 0 ≤ gain) (h1 : gain ≤ 32768) :
    pcmGain s count gain = some ((s.take count).map (scaled gain) ++ s.drop count) := by
  unfold pcmGain
  split
  · next hfull =>
    rw [hfull, List.map_congr_left fun x _ => scaled_full x, List.map_id', List.take_append_drop]
  · split
    · next hzero =>
      rw [hzero, List.map_congr_left fun x _ => scaled_zero x, List.map_const',
        storeSpan_front (by rw [List.length_replicate]; exact hs), List.length_replicate,
        List.length_take, Nat.min_eq_left hs]
    · have hproducts : ∀ x ∈ s.take count, (do
          let product ← int32 (x.toInt * gain)
          some (Int16.ofInt (product.tdiv 32768))) = some (scaled gain x) := by
        intro x _
        have hlo := x.le_toInt
        have hhi := x.toInt_lt
        have hup : x.toInt * gain ≤ 32767 * gain := Int.mul_le_mul_of_nonneg_right (by omega) h0
        have hdown : -32768 * gain ≤ x.toInt * gain := Int.mul_le_mul_of_nonneg_right (by omega) h0
        rw [int32_of_mem (by omega) (by omega)]
        rfl
      rw [loadSpan_of_le (by omega), List.drop_zero]
      show ((s.take count).mapM _ >>= fun scaled => storeSpan s 0 scaled) = _
      rw [mapM_some hproducts, Option.bind_eq_bind, Option.bind_some,
        storeSpan_front (by rw [List.length_map, List.length_take]; omega), List.length_map,
        List.length_take, Nat.min_eq_left hs]

/-- A volume of the announced range, in steps of 1 dB. -/
def AllowedVolume (v : Int16) : Prop :=
  -15360 ≤ v ∧ v ≤ 0 ∧ v.toInt.tmod 256 = 0

/-- The stored volumes are allowed, and the gains are theirs. -/
structure Levels (gainOf : Int16 → Int) (d : UsbAudio) : Prop where
  playbackVolume : AllowedVolume d.playbackVolume
  captureVolume : AllowedVolume d.captureVolume
  playbackGain : d.playbackGain = gainOf d.playbackVolume
  captureGain : d.captureGain = gainOf d.captureVolume

theorem GainTable.bounds {gainOf : Int16 → Int} (hgain : GainTable gainOf) {v : Int16}
    (hv : AllowedVolume v) (muted : Bool) :
    0 ≤ (if muted then 0 else gainOf v) ∧ (if muted then 0 else gainOf v) ≤ 32768 := by
  have h := hgain.range v hv.1 hv.2.1
  split <;> omega

end UllReceiver.Usb
