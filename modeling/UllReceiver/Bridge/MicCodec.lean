import UllReceiver.Bridge.CodecSlave

/-!
# Microphone decoder

`mic_codec.c` over the LC3plus decoder.  The arena handed to `mic_codec_init` is aligned and large
enough, and its pointers are never null.
-/

namespace UllReceiver.Bridge

/-- The calls of the LC3plus library, on a decoder state `L`, with the status each returns. -/
structure Lc3plus (L : Type) where
  /-- The state as `memset` leaves it. -/
  zero : L
  /-- `lc3plus_dec_init` for one channel at 32 kHz. -/
  init : L → Int × L
  setFrameDms : L → Int × L
  setEpEnabled : L → Int × L
  outputSamples : L → Int
  freeMemory : L → Int × L
  /-- `lc3plus_dec16` of a packet, or of none for concealment, with the samples it leaves. -/
  dec16 : L → Option MicPayload → Int × Vector Int16 160 × L
  /-- `LC3PLUS_DECODE_ERROR`. -/
  decodeError : Int

/-- `struct mic_codec`. -/
structure MicCodec (L : Type) where
  decoder : L
  previous : Int16
  initialized : Bool

variable {L E : Type}

/-- `mic_codec_init`: the status and the arena. -/
def micCodecInit (lc : Lc3plus L) : Int × MicCodec L :=
  let (rc, decoder) := lc.init lc.zero
  let (rc, decoder) := if rc = 0 then lc.setFrameDms decoder else (rc, decoder)
  let (rc, decoder) := if rc = 0 then lc.setEpEnabled decoder else (rc, decoder)
  let rc := if rc = 0 ∧ lc.outputSamples decoder ≠ 160 then -2 else rc
  (rc, { decoder, previous := 0, initialized := decide (rc = 0) })

/-- The 3:2 conversion to 240 samples, continuous with the last sample of the frame before. -/
def micResample (previous : Int16) (decoded : Vector Int16 160) : MicPcm :=
  Vector.ofFn fun j =>
    let i := j.val * 2 / 3
    let fraction : Int := (j.val * 2 % 3 : Nat)
    let before := if i = 0 then previous else decoded.toList.getD (i - 1) 0
    let current := decoded.toList.getD i 0
    Int16.ofInt ((before.toInt * (3 - fraction) + current.toInt * fraction).tdiv 3)

/-- `mic_codec_decode`. -/
def micCodecDecode (lc : Lc3plus L) (s : MicCodec L) (frame : Option MicPayload) (out : MicPcm) :
    Int × MicPcm × MicCodec L :=
  if !s.initialized then (-1, out, s)
  else
    let (rc, decoded, decoder) := lc.dec16 s.decoder frame
    if rc ≠ 0 ∧ rc ≠ lc.decodeError then (rc, out, { s with decoder })
    else (rc, micResample s.previous decoded, { s with decoder, previous := decoded[159] })

/-- `mic_codec_reset`. -/
def micCodecReset (lc : Lc3plus L) (s : MicCodec L) : Int × MicCodec L :=
  if !s.initialized then (-1, s)
  else
    let (rc, decoder) := lc.freeMemory s.decoder
    if rc ≠ 0 then (rc, { s with decoder, initialized := false })
    else micCodecInit lc

/-- A reset that succeeds leaves what initialisation leaves. -/
theorem micCodecReset_fresh {lc : Lc3plus L} {s : MicCodec L}
    (h : (micCodecReset lc s).1 = 0) : micCodecReset lc s = micCodecInit lc := by
  unfold micCodecReset at h ⊢
  split at h
  · exact absurd h (show (-1 : Int) ≠ 0 by decide)
  next hinit =>
    rw [if_neg hinit]
    simp only at h ⊢
    split at h
    next hfail => exact absurd h hfail
    next hfree => rw [if_neg hfree]

/-- The codec board's codecs with this decoder. -/
def micCodecs (lc : Lc3plus L) (encode : E → PcmBlock → Int × Packet × E) :
    Codecs E (MicCodec L) where
  encode
  reset := micCodecReset lc
  decode := micCodecDecode lc

end UllReceiver.Bridge
