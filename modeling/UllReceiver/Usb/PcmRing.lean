import UllReceiver.Library.SpanRing

/-!
# The USB PCM ring

`usb_pcm.c`: 1920 frames of one or two channels in a flat array of samples, read and written by two
copies each. Sizes are natural numbers, since no product of them exceeds the samples of a buffer
that exists; a copy past an array or an unsigned difference below zero is `none`.
-/

namespace UllReceiver.Usb

open Library

/-- `ULL_PCM_RING_FRAMES` -/
def pcmRingFrames : Nat := 1920

structure PcmRing where
  samples : List Int16
  read : Nat
  count : Nat
  channels : Nat

namespace PcmRing

/-- `ull_pcm_reset` -/
def reset (r : PcmRing) (channels : Nat) : PcmRing :=
  { r with read := 0, count := 0, channels := channels }

/-- What of a push is too much even for an empty ring: the samples to pass over, the frames that
remain and the frames lost. -/
def oversize (channels frames : Nat) : Nat × Nat × Nat :=
  if frames > pcmRingFrames then
    ((frames - pcmRingFrames) * channels, frames - (frames - pcmRingFrames),
      frames - pcmRingFrames)
  else (0, frames, 0)

/-- The oldest frames give way to the new ones. -/
def evict (r : PcmRing) (frames dropped : Nat) : Option (PcmRing × Nat) :=
  if r.count + frames > pcmRingFrames then do
    let drop := r.count + frames - pcmRingFrames
    let count ← sizeSub r.count drop
    some ({ r with read := (r.read + drop) % pcmRingFrames, count := count }, dropped + drop)
  else some (r, dropped)

/-- The two copies of a push, from the samples of `s` after the first `skip`. -/
def copyIn (r : PcmRing) (s : List Int16) (skip frames : Nat) : Option (List Int16) := do
  let write := (r.read + r.count) % pcmRingFrames
  let first ← sizeSub pcmRingFrames write
  let first := if first > frames then frames else first
  let front ← loadSpan s skip (first * r.channels)
  let samples ← storeSpan r.samples (write * r.channels) front
  let back ← loadSpan s (skip + first * r.channels) ((frames - first) * r.channels)
  storeSpan samples 0 back

/-- `ull_pcm_push`; `s` is `none` for the null pointer. -/
def push (r : PcmRing) (s : Option (List Int16)) (frames : Nat) : Option (PcmRing × Nat) :=
  match s with
  | none => some (r, 0)
  | some s =>
      if frames = 0 ∨ r.channels = 0 ∨ r.channels > 2 then some (r, 0)
      else do
        let (skip, frames, dropped) := oversize r.channels frames
        let (r, dropped) ← r.evict frames dropped
        let samples ← r.copyIn s skip frames
        some ({ r with samples := samples, count := r.count + frames }, dropped)

/-- The two copies of a pop, to the beginning of `s`. -/
def copyOut (r : PcmRing) (s : List Int16) (frames : Nat) : Option (List Int16) := do
  let first ← sizeSub pcmRingFrames r.read
  let first := if first > frames then frames else first
  let front ← loadSpan r.samples (r.read * r.channels) (first * r.channels)
  let s ← storeSpan s 0 front
  let back ← loadSpan r.samples 0 ((frames - first) * r.channels)
  storeSpan s (first * r.channels) back

/-- `ull_pcm_pop` with the buffer it leaves behind. -/
def pop (r : PcmRing) (s : Option (List Int16)) (frames : Nat) :
    Option (PcmRing × Nat × Option (List Int16)) :=
  match s with
  | none => some (r, 0, none)
  | some s =>
      if r.channels = 0 ∨ r.channels > 2 then some (r, 0, some s)
      else do
        let frames := if frames > r.count then r.count else frames
        let s ← r.copyOut s frames
        let count ← sizeSub r.count frames
        some ({ r with read := (r.read + frames) % pcmRingFrames, count := count }, frames, some s)

end PcmRing

inductive PcmCall
  | reset (channels : Nat)
  | push (s : Option (List Int16)) (frames : Nat)
  | pop (s : Option (List Int16)) (frames : Nat)

/-- What a call gives back. -/
inductive PcmReply
  | none
  | lost (frames : Nat)
  | got (frames : Nat) (s : Option (List Int16))
deriving DecidableEq

def PcmRing.call (r : PcmRing) : PcmCall → Option (PcmRing × PcmReply)
  | .reset channels => some (r.reset channels, .none)
  | .push s frames => (r.push s frames).map fun (r, lost) => (r, .lost lost)
  | .pop s frames => (r.pop s frames).map fun (r, got, s) => (r, .got got s)

def PcmRing.calls (r : PcmRing) : List PcmCall → Option (PcmRing × List PcmReply)
  | [] => some (r, [])
  | c :: cs => do
      let (r, reply) ← r.call c
      let (r, replies) ← r.calls cs
      some (r, reply :: replies)

/-- The first `n` frames of a flat buffer. -/
def framesOf (channels : Nat) (s : List Int16) (n : Nat) : List (List Int16) :=
  (List.range n).map fun i => (s.drop (i * channels)).take channels

/-- The frames in the ring, oldest first: frame `i` is where `read + i` wraps to. -/
def PcmRing.frames (r : PcmRing) : List (List Int16) :=
  (List.range r.count).map fun i =>
    (r.samples.drop ((r.read + i) % pcmRingFrames * r.channels)).take r.channels

/-- What the ring is for: a queue of the latest frames, with an account of what went through it
since the last reset. -/
structure FrameQueue where
  channels : Nat
  frames : List (List Int16)
  pushed : Nat
  popped : Nat
  dropped : Nat

namespace FrameQueue

def empty (channels : Nat) : FrameQueue :=
  ⟨channels, [], 0, 0, 0⟩

/-- The plain list with the new frames, less what does not fit, from its front. -/
def push (q : FrameQueue) (new : List (List Int16)) : FrameQueue × Nat :=
  let all := q.frames ++ new
  let lost := all.length - pcmRingFrames
  ({ q with
      frames := all.drop lost, pushed := q.pushed + new.length, dropped := q.dropped + lost }, lost)

def pop (q : FrameQueue) (n : Nat) : FrameQueue × List (List Int16) :=
  ({ q with
      frames := q.frames.drop n, popped := q.popped + (q.frames.take n).length }, q.frames.take n)

def call (q : FrameQueue) : PcmCall → FrameQueue × PcmReply
  | .reset channels => (empty channels, .none)
  | .push none _ => (q, .lost 0)
  | .push (some s) n =>
      let (q, lost) := q.push (framesOf q.channels s n)
      (q, .lost lost)
  | .pop none _ => (q, .got 0 none)
  | .pop (some s) n =>
      let (q, got) := q.pop n
      (q, .got got.length (some (got.flatten ++ s.drop got.flatten.length)))

def calls (q : FrameQueue) : List PcmCall → FrameQueue × List PcmReply
  | [] => (q, [])
  | c :: cs =>
      let (q, reply) := q.call c
      let (q, replies) := q.calls cs
      (q, reply :: replies)

end FrameQueue

/-- Calls a caller can make: one or two channels, and buffers of the frames they are said to have. -/
def PcmCall.Sound (channels : Nat) : PcmCall → Prop
  | .reset n => 1 ≤ n ∧ n ≤ 2
  | .push s frames => ∀ b ∈ s, frames * channels ≤ b.length
  | .pop s frames => ∀ b ∈ s, frames * channels ≤ b.length

def PcmCall.channelsAfter (channels : Nat) : PcmCall → Nat
  | .reset n => n
  | _ => channels

def SoundCalls (channels : Nat) : List PcmCall → Prop
  | [] => True
  | c :: cs => c.Sound channels ∧ SoundCalls (c.channelsAfter channels) cs

/-- The ring of the array that is in use. -/
structure PcmRing.Good (r : PcmRing) : Prop where
  samples : r.samples.length = 2 * pcmRingFrames
  read : r.read < pcmRingFrames
  count : r.count ≤ pcmRingFrames
  channels : r.channels = 1 ∨ r.channels = 2

namespace PcmRing

/-- The contents of the ring as samples. -/
def flat (r : PcmRing) : List Int16 :=
  ringSpan r.samples (pcmRingFrames * r.channels) (r.read * r.channels) (r.count * r.channels)

variable {r : PcmRing}

theorem Good.read_lt (h : r.Good) :
    r.read * r.channels < pcmRingFrames * r.channels := by
  have hread := h.read
  rcases h.channels with hc | hc <;> rw [hc] <;> omega

theorem Good.count_le (h : r.Good) :
    r.count * r.channels ≤ pcmRingFrames * r.channels :=
  Nat.mul_le_mul_right _ h.count

theorem Good.fits (h : r.Good) : pcmRingFrames * r.channels ≤ r.samples.length := by
  rw [h.samples]
  rcases h.channels with hc | hc <;> rw [hc] <;> omega

theorem Good.flat_length (h : r.Good) : r.flat.length = r.count * r.channels :=
  ringSpan_length h.read_lt h.count_le h.fits

/-- An index wraps to the same frame whether it counts frames or samples. -/
theorem wrap_scale (i n c : Nat) : i % n * c = i * c % (n * c) :=
  (Nat.mul_mod_mul_right c i n).symm

theorem Good.frames_eq (h : r.Good) : r.frames = framesOf r.channels r.flat r.count := by
  have hlen := h.flat_length
  apply List.map_congr_left
  intro i hi
  rw [List.mem_range] at hi
  have hcount := h.count
  apply List.ext_getElem?
  intro k
  by_cases hk : k < r.channels
  · have hcell : i * r.channels + k < r.count * r.channels := by
      rcases h.channels with hc | hc <;> rw [hc] at hk ⊢ <;> omega
    have hplace : (r.read * r.channels + (i * r.channels + k)) % (pcmRingFrames * r.channels) =
        (r.read + i) % pcmRingFrames * r.channels + k := by
      rw [ringIndex h.read_lt (Nat.le_of_lt (Nat.lt_of_lt_of_le hcell h.count_le)),
        ringIndex h.read (by omega)]
      rcases h.channels with hc | hc <;> rw [hc] at hk ⊢ <;> split <;> split <;> omega
    rw [List.getElem?_take_of_lt hk, List.getElem?_take_of_lt hk, List.getElem?_drop,
      List.getElem?_drop, flat, ringSpan_getElem? h.read_lt h.count_le h.fits hcell, hplace]
  · rw [List.getElem?_eq_none (by rw [List.length_take]; omega),
      List.getElem?_eq_none (by rw [List.length_take]; omega)]

end PcmRing

section Frames

variable {channels : Nat} {s t : List Int16}

theorem framesOf_length (n : Nat) : (framesOf channels s n).length = n := by
  rw [framesOf, List.length_map, List.length_range]

/-- The frames of a buffer followed by those of another one. -/
theorem framesOf_append {n m : Nat} (hs : s.length = n * channels) :
    framesOf channels (s ++ t) (n + m) = framesOf channels s n ++ framesOf channels t m := by
  unfold framesOf
  rw [List.range_add, List.map_append, List.map_map]
  congr 1
  · apply List.map_congr_left
    intro i hi
    have hfit : (i + 1) * channels ≤ n * channels :=
      Nat.mul_le_mul_right _ (List.mem_range.mp hi)
    rw [Nat.succ_mul] at hfit
    rw [List.drop_append_of_le_length (by omega), List.take_append_of_le_length]
    rw [List.length_drop]
    omega
  · apply List.map_congr_left
    intro i _
    rw [Function.comp_apply, Nat.add_mul, ← hs, List.drop_length_add_append]

theorem framesOf_drop {n d : Nat} (hd : d ≤ n) :
    framesOf channels (s.drop (d * channels)) (n - d) = (framesOf channels s n).drop d := by
  obtain ⟨m, rfl⟩ : ∃ m, n = d + m := ⟨n - d, by omega⟩
  unfold framesOf
  rw [Nat.add_sub_cancel_left, ← List.map_drop, List.range_add,
    List.drop_left' (List.length_range), List.map_map]
  apply List.map_congr_left
  intro i _
  rw [List.drop_drop, Function.comp_apply, Nat.add_mul]

/-- Only the samples of the frames count. -/
theorem framesOf_take {n m : Nat} (hm : m ≤ n) :
    framesOf channels (s.take (n * channels)) m = framesOf channels s m := by
  apply List.map_congr_left
  intro i hi
  have hfit : (i + 1) * channels ≤ n * channels :=
    Nat.mul_le_mul_right _ (Nat.le_trans (List.mem_range.mp hi) hm)
  rw [Nat.succ_mul] at hfit
  rw [List.drop_take, List.take_take, Nat.min_eq_left (by omega)]

theorem framesOf_take_frames {n m : Nat} (hm : m ≤ n) :
    (framesOf channels s n).take m = framesOf channels s m := by
  rw [framesOf, ← List.map_take, List.take_range, Nat.min_eq_left hm]
  rfl

theorem framesOf_flatten {n : Nat} (hs : s.length = n * channels) :
    (framesOf channels s n).flatten = s := by
  induction n generalizing s with
  | zero =>
    rw [Nat.zero_mul, List.length_eq_zero_iff] at hs
    rw [hs]
    rfl
  | succ n ih =>
    have hsplit := List.take_append_drop (n * channels) s
    rw [Nat.succ_mul] at hs
    have hfront : (s.take (n * channels)).length = n * channels := by
      rw [List.length_take]
      omega
    have hback : (s.drop (n * channels)).length = channels := by
      rw [List.length_drop]
      omega
    conv => lhs; rw [← hsplit]
    rw [framesOf_append hfront, List.flatten_append, ih hfront]
    simp only [framesOf, List.range_one, List.map_cons, List.map_nil, Nat.zero_mul, List.drop_zero,
      List.flatten_cons, List.flatten_nil, List.append_nil]
    rw [List.take_of_length_le (Nat.le_of_eq hback)]
    exact hsplit

end Frames

namespace PcmRing

variable {r : PcmRing}

theorem evict_ok (h : r.Good) {frames : Nat} (hframes : frames ≤ pcmRingFrames) (dropped : Nat) :
    ∃ r', r.evict frames dropped = some (r', dropped + (r.count + frames - pcmRingFrames)) ∧
      r'.Good ∧ r'.channels = r.channels ∧
      r'.count = r.count - (r.count + frames - pcmRingFrames) ∧
      r'.flat = r.flat.drop ((r.count + frames - pcmRingFrames) * r.channels) := by
  have hcount := h.count
  unfold evict
  split
  · next hfull =>
    dsimp only
    rw [sizeSub_of_le (by omega)]
    refine ⟨_, rfl, ⟨h.samples, Nat.mod_lt _ (by decide),
      Nat.le_trans (Nat.sub_le _ _) hcount, h.channels⟩, rfl, rfl, ?_⟩
    have hd : (r.count + frames - pcmRingFrames) * r.channels ≤ r.count * r.channels :=
      Nat.mul_le_mul_right _ (by omega)
    have hspan := ringSpan_drop h.read_lt h.count_le h.fits hd
    rw [← Nat.sub_mul, ← Nat.add_mul, ← wrap_scale] at hspan
    exact hspan
  · next hroom =>
    have hnone : r.count + frames - pcmRingFrames = 0 := by
      omega
    rw [hnone]
    exact ⟨r, rfl, h, rfl, rfl, by rw [Nat.zero_mul, List.drop_zero]⟩

/-- Halves of a transfer of `frames` frames from frame `at` of the ring on. -/
theorem beforeWrap_scale (start frames : Nat) (h : r.channels = 1 ∨ r.channels = 2) :
    (if pcmRingFrames - start > frames then frames else pcmRingFrames - start) * r.channels =
      beforeWrap (pcmRingFrames * r.channels) (start * r.channels) (frames * r.channels) := by
  unfold beforeWrap
  rw [← Nat.sub_mul]
  rcases h with hc | hc <;> rw [hc] <;> split <;> split <;> omega

/-- The two copies of a push are those of a ring of samples. -/
theorem copyIn_eq (h : r.Good) {s : List Int16} {skip frames : Nat}
    (hfit : skip + frames * r.channels ≤ s.length) :
    r.copyIn s skip frames =
      ringStore r.samples (pcmRingFrames * r.channels)
        ((r.read + r.count) % pcmRingFrames * r.channels)
        ((s.drop skip).take (frames * r.channels)) := by
  have hwrite : (r.read + r.count) % pcmRingFrames < pcmRingFrames := Nat.mod_lt _ (by decide)
  have hlen : ((s.drop skip).take (frames * r.channels)).length = frames * r.channels := by
    rw [List.length_take, List.length_drop]
    omega
  have hfirst := beforeWrap_scale ((r.read + r.count) % pcmRingFrames) frames h.channels
  have hle := beforeWrap_le (pcmRingFrames * r.channels)
    ((r.read + r.count) % pcmRingFrames * r.channels) (frames * r.channels)
  unfold copyIn ringStore
  dsimp only
  rw [sizeSub_of_le (Nat.le_of_lt hwrite), hlen]
  simp only [Option.bind_eq_bind, Option.bind_some, Nat.sub_mul, hfirst]
  rw [loadSpan_of_le (by omega), loadSpan_of_le (by omega), List.take_take,
    Nat.min_eq_left hle, List.drop_take, List.drop_drop]
  rfl

theorem copyIn_ok (h : r.Good) (s : List Int16) (skip frames : Nat)
    (hfit : skip + frames * r.channels ≤ s.length) (hroom : r.count + frames ≤ pcmRingFrames) :
    ∃ samples, r.copyIn s skip frames = some samples ∧ samples.length = r.samples.length ∧
      ringSpan samples (pcmRingFrames * r.channels) (r.read * r.channels)
        ((r.count + frames) * r.channels) =
        r.flat ++ (s.drop skip).take (frames * r.channels) := by
  have hlen : ((s.drop skip).take (frames * r.channels)).length = frames * r.channels := by
    rw [List.length_take, List.length_drop]
    omega
  have hfull : (r.count + frames) * r.channels ≤ pcmRingFrames * r.channels :=
    Nat.mul_le_mul_right _ hroom
  rw [Nat.add_mul] at hfull
  have hwrite : (r.read + r.count) % pcmRingFrames * r.channels <
      pcmRingFrames * r.channels := by
    rw [wrap_scale]
    exact Nat.mod_lt _ (Nat.lt_of_le_of_lt (Nat.zero_le _) h.read_lt)
  obtain ⟨samples, hstore, hsame⟩ := @ringStore_ok _ _ _ _
    ((s.drop skip).take (frames * r.channels))
    hwrite (by omega) h.fits
  refine ⟨samples, (copyIn_eq h hfit).trans hstore, hsame, ?_⟩
  rw [wrap_scale, Nat.add_mul] at hstore
  have hspan := ringStore_append hstore h.read_lt (by omega) h.fits hsame
  rw [hlen, ← Nat.add_mul] at hspan
  exact hspan

theorem oversize_eq (channels frames : Nat) :
    oversize channels frames =
      ((frames - pcmRingFrames) * channels, min frames pcmRingFrames, frames - pcmRingFrames) := by
  unfold oversize
  split
  · next h => rw [Nat.min_eq_right (Nat.le_of_lt h), show frames - (frames - pcmRingFrames) =
      pcmRingFrames by omega]
  · next h => rw [Nat.min_eq_left (by omega), show frames - pcmRingFrames = 0 by omega,
      Nat.zero_mul]

/-- Evicting first and passing over what is too much comes to appending all and keeping the end. -/
theorem kept_append {old s : List Int16} {c n frames : Nat} (hold : old.length = n * c)
    (hn : n ≤ pcmRingFrames) :
    old.drop ((n + min frames pcmRingFrames - pcmRingFrames) * c) ++
        (s.drop ((frames - pcmRingFrames) * c)).take (min frames pcmRingFrames * c) =
      (old ++ s.take (frames * c)).drop ((n + frames - pcmRingFrames) * c) := by
  by_cases hfit : frames ≤ pcmRingFrames
  · have hd : (n + frames - pcmRingFrames) * c ≤ n * c := Nat.mul_le_mul_right _ (by omega)
    rw [Nat.min_eq_left hfit, Nat.sub_eq_zero_of_le hfit, Nat.zero_mul, List.drop_zero,
      List.drop_append_of_le_length (by omega)]
  · rw [Nat.min_eq_right (by omega), Nat.add_sub_cancel, ← hold, List.drop_length,
      List.nil_append, show n + frames - pcmRingFrames = n + (frames - pcmRingFrames) by omega,
      Nat.add_mul, ← hold, List.drop_length_add_append, List.drop_take, ← Nat.sub_mul,
      show frames - (frames - pcmRingFrames) = pcmRingFrames by omega]

/-- A push of a buffer that has its frames: they are appended, and what no longer fits is lost from
the front. -/
theorem push_ok (h : r.Good) {s : List Int16} {frames : Nat}
    (hs : frames * r.channels ≤ s.length) :
    ∃ r', r.push (some s) frames = some (r', r.count + frames - pcmRingFrames) ∧ r'.Good ∧
      r'.channels = r.channels ∧ r'.count = min (r.count + frames) pcmRingFrames ∧
      r'.flat = (r.flat ++ s.take (frames * r.channels)).drop
        ((r.count + frames - pcmRingFrames) * r.channels) := by
  have hcount := h.count
  have hflat := h.flat_length
  have hused : ¬ (r.channels = 0 ∨ r.channels > 2) := by
    rcases h.channels with hc | hc <;> omega
  by_cases hempty : frames = 0
  · refine ⟨r, ?_, h, rfl, by rw [hempty]; omega, ?_⟩
    · simp only [push, hempty, true_or, if_true]
      rw [show r.count + 0 - pcmRingFrames = 0 by omega]
    · rw [hempty, show r.count + 0 - pcmRingFrames = 0 by omega, Nat.zero_mul, List.take_zero,
        List.append_nil, List.drop_zero]
  -- of more frames than the ring holds only the last ones are copied
  have hskip : (frames - pcmRingFrames) * r.channels + min frames pcmRingFrames * r.channels =
      frames * r.channels := by
    rw [← Nat.add_mul, show frames - pcmRingFrames + min frames pcmRingFrames = frames by omega]
  obtain ⟨e, hevict, hgood, hch, hecount, heflat⟩ :=
    evict_ok h (Nat.min_le_right frames pcmRingFrames) (frames - pcmRingFrames)
  obtain ⟨samples, hcopy, hlen, hspan⟩ := copyIn_ok hgood s
    ((frames - pcmRingFrames) * r.channels) (min frames pcmRingFrames)
    (by rw [hch]; omega) (by omega)
  have hpush : r.push (some s) frames =
      some ({ e with samples := samples, count := e.count + min frames pcmRingFrames },
        frames - pcmRingFrames + (r.count + min frames pcmRingFrames - pcmRingFrames)) := by
    simp only [push, hempty, hused, false_or, if_false, oversize_eq, hevict, hcopy,
      Option.bind_eq_bind, Option.bind_some]
  refine ⟨{ e with samples := samples, count := e.count + min frames pcmRingFrames }, ?_,
    ⟨hlen.trans hgood.samples, hgood.read, ?_, hgood.channels⟩, hch, ?_, ?_⟩
  · rw [hpush, show frames - pcmRingFrames + (r.count + min frames pcmRingFrames - pcmRingFrames) =
      r.count + frames - pcmRingFrames by omega]
  · show e.count + min frames pcmRingFrames ≤ pcmRingFrames
    omega
  · show e.count + min frames pcmRingFrames = min (r.count + frames) pcmRingFrames
    omega
  · refine hspan.trans ?_
    rw [heflat, hch]
    exact kept_append hflat hcount

/-- The two copies of a pop. -/
theorem copyOut_ok (h : r.Good) {s : List Int16} {frames : Nat} (hframes : frames ≤ r.count)
    (hs : frames * r.channels ≤ s.length) :
    r.copyOut s frames =
      some (r.flat.take (frames * r.channels) ++ s.drop (frames * r.channels)) := by
  have hread := h.read
  have hcount : frames * r.channels ≤ r.count * r.channels := Nat.mul_le_mul_right _ hframes
  have hfirst := beforeWrap_scale r.read frames h.channels
  have hle := beforeWrap_le (pcmRingFrames * r.channels) (r.read * r.channels)
    (frames * r.channels)
  have hfits := beforeWrap_fits (frames * r.channels) (Nat.le_of_lt h.read_lt)
  have harray := h.fits
  have hmost := h.count_le
  have hfront : ((r.samples.drop (r.read * r.channels)).take
      (beforeWrap (pcmRingFrames * r.channels) (r.read * r.channels)
        (frames * r.channels))).length =
      beforeWrap (pcmRingFrames * r.channels) (r.read * r.channels) (frames * r.channels) := by
    rw [List.length_take, List.length_drop]
    omega
  have hback : (r.samples.take (frames * r.channels -
      beforeWrap (pcmRingFrames * r.channels) (r.read * r.channels)
        (frames * r.channels))).length = frames * r.channels -
      beforeWrap (pcmRingFrames * r.channels) (r.read * r.channels) (frames * r.channels) := by
    rw [List.length_take]
    omega
  -- up to the end of the array, and then from its beginning
  unfold copyOut
  rw [sizeSub_of_le (Nat.le_of_lt hread)]
  simp only [Option.bind_eq_bind, Option.bind_some, Nat.sub_mul, hfirst]
  rw [loadSpan_of_le (by omega), Option.bind_some, storeSpan_front (by omega), Option.bind_some,
    loadSpan_of_le (by omega), Option.bind_some, List.drop_zero, hfront]
  have hstore := @storeSpan_append _
    ((r.samples.drop (r.read * r.channels)).take
      (beforeWrap (pcmRingFrames * r.channels) (r.read * r.channels) (frames * r.channels)))
    (s.drop
      (beforeWrap (pcmRingFrames * r.channels) (r.read * r.channels) (frames * r.channels)))
    (r.samples.take (frames * r.channels -
      beforeWrap (pcmRingFrames * r.channels) (r.read * r.channels) (frames * r.channels)))
    (by rw [hback, List.length_drop]; omega)
  rw [hfront, hback, List.drop_drop, Nat.add_sub_cancel' hle] at hstore
  rw [hstore, flat, ← ringSpan_take h.read_lt hmost harray hcount]
  rfl

/-- A pop into a buffer that has room for its frames. -/
theorem pop_ok (h : r.Good) {s : List Int16} {frames : Nat}
    (hs : frames * r.channels ≤ s.length) :
    ∃ r', r.pop (some s) frames = some (r', min frames r.count,
        some (r.flat.take (min frames r.count * r.channels) ++
          s.drop (min frames r.count * r.channels))) ∧
      r'.Good ∧ r'.channels = r.channels ∧ r'.count = r.count - frames ∧
      r'.flat = r.flat.drop (min frames r.count * r.channels) := by
  have hcount := h.count
  have hused : ¬ (r.channels = 0 ∨ r.channels > 2) := by
    rcases h.channels with hc | hc <;> omega
  have hn : (if frames > r.count then r.count else frames) = min frames r.count := by
    split <;> omega
  have hle : min frames r.count * r.channels ≤ frames * r.channels :=
    Nat.mul_le_mul_right _ (Nat.min_le_left _ _)
  have hpop : r.pop (some s) frames =
      some ({ r with
          read := (r.read + min frames r.count) % pcmRingFrames
          count := r.count - min frames r.count }, min frames r.count,
        some (r.flat.take (min frames r.count * r.channels) ++
          s.drop (min frames r.count * r.channels))) := by
    simp only [pop, hused, if_false, hn, copyOut_ok h (Nat.min_le_right _ _) (Nat.le_trans hle hs),
      sizeSub_of_le (Nat.min_le_right frames r.count), Option.bind_eq_bind, Option.bind_some]
  refine ⟨_, hpop, ⟨h.samples, Nat.mod_lt _ (by decide), Nat.le_trans (Nat.sub_le _ _) hcount,
    h.channels⟩, rfl, by show r.count - _ = _; omega, ?_⟩
  have hd : min frames r.count * r.channels ≤ r.count * r.channels :=
    Nat.mul_le_mul_right _ (Nat.min_le_right _ _)
  have hspan := ringSpan_drop h.read_lt h.count_le h.fits hd
  rw [← Nat.sub_mul, ← Nat.add_mul, ← wrap_scale] at hspan
  exact hspan

end PcmRing

/-- The ring holds what the queue holds, and the account of the queue is right. -/
structure Holds (r : PcmRing) (q : FrameQueue) : Prop where
  good : r.Good
  channels : r.channels = q.channels
  frames : r.frames = q.frames
  account : q.pushed = q.popped + q.dropped + r.count

theorem PcmRing.frames_length (r : PcmRing) : r.frames.length = r.count := by
  rw [frames, List.length_map, List.length_range]

variable {r : PcmRing} {q : FrameQueue}

theorem Holds.of_reset (hsamples : r.samples.length = 2 * pcmRingFrames) {n : Nat}
    (hn : 1 ≤ n ∧ n ≤ 2) : Holds (r.reset n) (.empty n) where
  good := ⟨hsamples, Nat.zero_lt_succ _, Nat.zero_le _, by show n = 1 ∨ n = 2; omega⟩
  channels := rfl
  frames := rfl
  account := rfl

theorem FrameQueue.push_frames (new : List (List Int16)) :
    (q.push new).1.frames = (q.frames ++ new).drop (q.push new).2 := by
  simp only [FrameQueue.push]

theorem FrameQueue.push_account (new : List (List Int16)) :
    (q.push new).1.pushed = q.pushed + new.length ∧ (q.push new).1.popped = q.popped ∧
      (q.push new).1.dropped = q.dropped + (q.push new).2 := by
  simp only [FrameQueue.push, and_self]

theorem Holds.push (h : Holds r q) {s : List Int16} {n : Nat} (hs : n * r.channels ≤ s.length) :
    ∃ r', r.push (some s) n = some (r', (q.push (framesOf q.channels s n)).2) ∧
      Holds r' (q.push (framesOf q.channels s n)).1 ∧ r'.channels = r.channels := by
  obtain ⟨r', hpush, hgood, hch, hcount, hflat⟩ := PcmRing.push_ok h.good hs
  have hall : q.frames ++ framesOf q.channels s n =
      framesOf r.channels (r.flat ++ s.take (n * r.channels)) (r.count + n) := by
    rw [framesOf_append h.good.flat_length, framesOf_take (Nat.le_refl n), ← h.good.frames_eq,
      h.frames, h.channels]
  have hlost : (q.push (framesOf q.channels s n)).2 = r.count + n - pcmRingFrames := by
    simp only [FrameQueue.push]
    rw [hall, framesOf_length]
  have hfull := h.good.count
  have hsame : r'.channels = (q.push (framesOf q.channels s n)).1.channels := by
    rw [hch, h.channels, FrameQueue.push]
  refine ⟨r', by rw [hpush, hlost], ⟨hgood, hsame, ?_, ?_⟩, hch⟩
  · rw [FrameQueue.push_frames, hlost, hall, hgood.frames_eq, hch, hflat, hcount,
      ← framesOf_drop (by omega), show r.count + n - (r.count + n - pcmRingFrames) =
      min (r.count + n) pcmRingFrames by omega]
  · obtain ⟨hpushed, hpopped, hdropped⟩ := FrameQueue.push_account (q := q)
      (framesOf q.channels s n)
    rw [hpushed, hpopped, hdropped, framesOf_length, hlost, hcount, h.account]
    omega

theorem Holds.pop (h : Holds r q) {s : List Int16} {n : Nat} (hs : n * r.channels ≤ s.length) :
    ∃ r', r.pop (some s) n = some (r', (q.pop n).2.length,
        some ((q.pop n).2.flatten ++ s.drop (q.pop n).2.flatten.length)) ∧
      Holds r' (q.pop n).1 ∧ r'.channels = r.channels := by
  obtain ⟨r', hpop, hgood, hch, hcount, hflat⟩ := PcmRing.pop_ok h.good hs
  have hlen := h.good.flat_length
  have htaken : min n r.count * r.channels ≤ r.count * r.channels :=
    Nat.mul_le_mul_right _ (Nat.min_le_right _ _)
  have htake : (r.flat.take (min n r.count * r.channels)).length =
      min n r.count * r.channels := by
    rw [List.length_take]
    omega
  have hgot : (q.pop n).2 =
      framesOf r.channels (r.flat.take (min n r.count * r.channels)) (min n r.count) := by
    show q.frames.take n = _
    rw [framesOf_take (Nat.le_refl _), ← framesOf_take_frames (Nat.min_le_right n r.count),
      ← h.good.frames_eq, h.frames, ← List.take_take, ← r.frames_length, h.frames,
      List.take_length]
  have hgotlen : (q.pop n).2.length = min n r.count := by
    rw [hgot, framesOf_length]
  refine ⟨r', ?_, ⟨hgood, hch.trans h.channels, ?_, ?_⟩, hch⟩
  · rw [hpop, hgotlen, hgot, framesOf_flatten htake, htake]
  · show r'.frames = q.frames.drop n
    rw [hgood.frames_eq, hch, hflat, hcount, ← h.frames, h.good.frames_eq,
      show r.count - n = r.count - min n r.count by omega, framesOf_drop (Nat.min_le_right _ _)]
    by_cases hn : n ≤ r.count
    · rw [Nat.min_eq_left hn]
    · rw [Nat.min_eq_right (by omega),
        List.drop_of_length_le (Nat.le_trans (Nat.le_of_eq (framesOf_length _)) (by omega)),
        List.drop_of_length_le (Nat.le_trans (Nat.le_of_eq (framesOf_length _)) (by omega))]
  · show q.pushed = q.popped + (q.pop n).2.length + q.dropped + r'.count
    rw [hgotlen, hcount, h.account]
    omega

theorem Holds.call (h : Holds r q) {c : PcmCall} (hc : c.Sound r.channels) :
    ∃ r', r.call c = some (r', (q.call c).2) ∧ Holds r' (q.call c).1 ∧
      r'.channels = c.channelsAfter r.channels := by
  cases c with
  | reset n => exact ⟨r.reset n, rfl, .of_reset h.good.samples hc, rfl⟩
  | push s n =>
    cases s with
    | none => exact ⟨r, rfl, h, rfl⟩
    | some s =>
      obtain ⟨r', hpush, hholds, hch⟩ := h.push (hc s rfl)
      exact ⟨r', by rw [PcmRing.call, hpush]; rfl, hholds, hch⟩
  | pop s n =>
    cases s with
    | none => exact ⟨r, rfl, h, rfl⟩
    | some s =>
      obtain ⟨r', hpop, hholds, hch⟩ := h.pop (hc s rfl)
      exact ⟨r', by rw [PcmRing.call, hpop]; rfl, hholds, hch⟩

theorem Holds.calls (h : Holds r q) {cs : List PcmCall} (hcs : SoundCalls r.channels cs) :
    ∃ r', r.calls cs = some (r', (q.calls cs).2) ∧ Holds r' (q.calls cs).1 := by
  induction cs generalizing r q with
  | nil => exact ⟨r, rfl, h⟩
  | cons c cs ih =>
    obtain ⟨hc, hrest⟩ := hcs
    obtain ⟨r₁, hcall, h₁, hch⟩ := h.call hc
    rw [← hch] at hrest
    obtain ⟨r₂, hcalls, h₂⟩ := ih h₁ hrest
    refine ⟨r₂, ?_, h₂⟩
    simp only [PcmRing.calls, hcall, hcalls, Option.bind_eq_bind, Option.bind_some]
    rfl

/-- From a reset on, the ring is the queue of the latest frames: no copy leaves an array, every
call gives back what the queue gives back, and nothing is lost that the account does not name. -/
theorem ring_latest (r : PcmRing) (hsamples : r.samples.length = 2 * pcmRingFrames)
    (channels : Nat) (hchannels : 1 ≤ channels ∧ channels ≤ 2) (cs : List PcmCall)
    (hcs : SoundCalls channels cs) :
    ∃ r', (r.reset channels).calls cs = some (r', ((FrameQueue.empty channels).calls cs).2) ∧
      r'.read < pcmRingFrames ∧ r'.count ≤ pcmRingFrames ∧
      r'.frames = ((FrameQueue.empty channels).calls cs).1.frames ∧
      ((FrameQueue.empty channels).calls cs).1.pushed =
        ((FrameQueue.empty channels).calls cs).1.popped +
          ((FrameQueue.empty channels).calls cs).1.dropped + r'.count := by
  obtain ⟨r', hcalls, h⟩ := (Holds.of_reset hsamples hchannels).calls hcs
  exact ⟨r', hcalls, h.good.read, h.good.count, h.frames, h.account⟩

/-- Three frames are pushed where one is left to the end of the array: two of the oldest give way,
and the new ones go round. -/
def wrappingCalls : List PcmCall :=
  [.push (some (List.replicate 3838 0)) 1919, .push (some [1, -1, 2, -2, 3, -3]) 3,
    .pop (some [9, 9]) 1]

theorem ring_latest_wrapped :
    ∃ r', (PcmRing.reset ⟨List.replicate 3840 0, 7, 8, 0⟩ 2).calls wrappingCalls =
        some (r', [.lost 0, .lost 2, .got 1 (some [0, 0])]) ∧
      r'.frames.length = 1919 ∧ r'.frames.drop 1916 = [[1, -1], [2, -2], [3, -3]] := by
  have hsound : SoundCalls 2 wrappingCalls := by
    refine ⟨fun b hb => ?_, fun b hb => ?_, fun b hb => ?_, trivial⟩
    · cases hb
      rw [List.length_replicate]
    · cases hb
      decide
    · cases hb
      decide
  obtain ⟨r', hcalls, -, -, hframes, -⟩ := ring_latest ⟨List.replicate 3840 0, 7, 8, 0⟩
    List.length_replicate 2 (by decide) wrappingCalls hsound
  have hreplies : ((FrameQueue.empty 2).calls wrappingCalls).2 =
      [.lost 0, .lost 2, .got 1 (some [0, 0])] := by
    decide +kernel
  refine ⟨r', hreplies ▸ hcalls, ?_, ?_⟩
  · rw [hframes]
    decide +kernel
  · rw [hframes]
    decide +kernel

end UllReceiver.Usb
