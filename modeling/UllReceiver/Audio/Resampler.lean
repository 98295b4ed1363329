import Mathlib
import UllReceiver.Library.Buffer
import UllReceiver.Library.DelayLine

/-!
# The 2x resampler

`resample_2x.c`, with exact numbers in place of `float`.  An access outside an array and a
conversion to an integer that does not fit have no result.
-/

namespace UllReceiver.Audio

open Library

/-- `halfband_even_f32` -/
def taps : List ℚ :=
  [0,
   0x1596f000000000 / 2 ^ (52 + 14),
   -0x182a4c00000000 / 2 ^ (52 + 12),
   0x1f35c200000000 / 2 ^ (52 + 11),
   -0x10345580000000 / 2 ^ (52 + 9),
   0x1ddf4c00000000 / 2 ^ (52 + 9),
   -0x197a8080000000 / 2 ^ (52 + 8),
   0x148cf100000000 / 2 ^ (52 + 7),
   -0x1fca2740000000 / 2 ^ (52 + 7),
   0x17d6a040000000 / 2 ^ (52 + 6),
   -0x1184e7e0000000 / 2 ^ (52 + 5),
   0x1991a820000000 / 2 ^ (52 + 5),
   -0x12e4ae60000000 / 2 ^ (52 + 4),
   0x1d51a120000000 / 2 ^ (52 + 4),
   -0x1a267020000000 / 2 ^ (52 + 3),
   0x144946c0000000 / 2 ^ (52 + 1)]

/-- Truncation toward zero. -/
def truncate (q : ℚ) : ℤ :=
  if 0 ≤ q then ⌊q⌋ else ⌈q⌉

/-- The conversion to a signed integer of `width` bits. -/
def convert (width : Nat) (q : ℚ) : Option ℤ :=
  if -2 ^ (width - 1) ≤ truncate q ∧ truncate q < 2 ^ (width - 1) then some (truncate q) else none

def roundClip (value : ℚ) (clips : UInt64) : Option (Int16 × UInt64) := do
  let rounded ← convert 32 (if value ≥ 0 then value + 1 / 2 else value - 1 / 2)
  if rounded > 32767 then some (32767, clips + 1)
  else if rounded < -32768 then some (-32768, clips + 1)
  else some (Int16.ofInt rounded, clips)

/-- `resample_2x_t` -/
structure Resample2x where
  left : List ℚ
  right : List ℚ
  newest : Nat
  clips : UInt64

/-- `early`, `late` and `sum` in the loop over the taps. -/
structure TapScan where
  early : Nat
  late : Nat
  sum : ℚ

def tapStep (history : List ℚ) (s : TapScan) (k : Nat) : Option TapScan := do
  let before ← load history s.early
  let behind ← load history s.late
  let tap ← load taps k
  some { early := s.early - 1, late := s.late + 1, sum := s.sum + tap * (before + behind) }

/-- What one channel of one frame comes to. -/
structure ChannelReply where
  history : List ℚ
  even : Int16
  odd : Int16
  clips : UInt64

def resampleChannel (history : List ℚ) (newest : Nat) (sample : ℚ) (clips : UInt64) :
    Option ChannelReply := do
  let history ← store history newest sample
  let history ← store history (newest + 32) sample
  let scan ← (List.range' 1 15).foldlM (tapStep history)
    ⟨newest + 32 - 1, newest + 32 - 30, 0⟩
  let (even, clips) ← roundClip scan.sum clips
  let delayed ← load history (newest + 32 - 15)
  let odd ← convert 16 delayed
  some ⟨history, even, Int16.ofInt odd, clips⟩

/-- `in[i]`, or zero without input. -/
def inputSample (input : Option (List Int16)) (i : Nat) : Option ℚ :=
  match input with
  | none => some 0
  | some samples => (load samples i).map fun s => (s.toInt : ℚ)

/-- The output arrays as far as they are written. -/
structure Planar where
  left : List Int16
  right : List Int16

def resampleFrame (input : Option (List Int16)) (s : Resample2x × Planar) (n : Nat) :
    Option (Resample2x × Planar) := do
  let newest := (s.1.newest + 1) &&& 31
  let sample ← inputSample input (2 * n)
  let l ← resampleChannel s.1.left newest sample s.1.clips
  let sample ← inputSample input (2 * n + 1)
  let r ← resampleChannel s.1.right newest sample l.clips
  some (⟨l.history, r.history, newest, r.clips⟩,
    ⟨s.2.left ++ [l.even, l.odd], s.2.right ++ [r.even, r.odd]⟩)

def resample2xProcess (s : Resample2x) (input : Option (List Int16)) (frames : Nat) :
    Option (Resample2x × Planar) :=
  (List.range frames).foldlM (resampleFrame input) (s, ⟨[], []⟩)

/-- The state that is all zeros. -/
def Resample2x.zero : Resample2x :=
  ⟨List.replicate 64 0, List.replicate 64 0, 0, 0⟩

/-- The arguments of a call: `in` holds a sample of both channels for each frame. -/
structure Chunk where
  frames : Nat
  input : Option (List Int16)
  fits : ∀ samples, input = some samples → samples.length = 2 * frames

/-- Calls one after another, and all they put out. -/
def processAll : Resample2x → List Chunk → Option (Resample2x × Planar)
  | s, [] => some (s, ⟨[], []⟩)
  | s, chunk :: chunks => do
      let (s, out) ← resample2xProcess s chunk.input chunk.frames
      let (s, later) ← processAll s chunks
      some (s, ⟨out.left ++ later.left, out.right ++ later.right⟩)

/-! ## The filter -/

/-- The samples a call is handed, both channels of each. -/
def Chunk.stream (chunk : Chunk) : List (Int16 × Int16) :=
  (List.range chunk.frames).map fun n =>
    match chunk.input with
    | none => (0, 0)
    | some samples => (samples.getD (2 * n) 0, samples.getD (2 * n + 1) 0)

/-- The sample `back` before sample `n`, with zeros before the first. -/
def past (x : List Int16) (n back : Nat) : Int16 :=
  if back ≤ n then x.getD (n - back) 0 else 0

/-- The sum of the filter at sample `n`. -/
def filtered (x : List Int16) (n : Nat) : ℚ :=
  ((List.range' 1 15).map fun k =>
    taps.getD k 0 * (((past x n k).toInt : ℚ) + ((past x n (31 - k)).toInt : ℚ))).sum

/-- Rounding to the nearest integer, halves away from zero. -/
def rounded (value : ℚ) : ℤ :=
  truncate (if value ≥ 0 then value + 1 / 2 else value - 1 / 2)

def clipped (value : ℚ) : Int16 :=
  Int16.ofInt (max (-32768) (min 32767 (rounded value)))

def outOfRange (value : ℚ) : Bool :=
  rounded value > 32767 || rounded value < -32768

/-- The filtered stream at twice its rate. -/
def resampled (x : List Int16) : List Int16 :=
  (List.range x.length).flatMap fun n => [clipped (filtered x n), past x n 15]

/-- How many sums are out of range. -/
def clipCount (x : List Int16) : Nat :=
  ((List.range x.length).filter fun n => outOfRange (filtered x n)).length

/-! ## The range of the sums -/

section Range

theorem tap_sum : (taps.map fun tap => |tap| * 65536).sum < 77000 := by
  norm_num [taps, abs_of_pos, abs_of_neg]

theorem abs_sum_le {ι : Type} (f g : ι → ℚ) (bound : ℚ) (hg : ∀ k, |g k| ≤ bound)
    (ks : List ι) :
    |(ks.map fun k => f k * g k).sum| ≤ (ks.map fun k => |f k| * bound).sum := by
  induction ks with
  | nil => simp
  | cons k ks ih =>
      rw [List.map_cons, List.sum_cons, List.map_cons, List.sum_cons]
      have hterm : |f k * g k| ≤ |f k| * bound := by
        rw [abs_mul]
        exact mul_le_mul_of_nonneg_left (hg k) (abs_nonneg _)
      exact (abs_add_le _ _).trans (add_le_add hterm ih)

theorem abs_sample_le (s : Int16) : |(s.toInt : ℚ)| ≤ 32768 := by
  have hlow := s.minValue_le_toInt
  have hhigh := s.toInt_lt
  change -2 ^ 15 ≤ _ at hlow
  rw [← Int.cast_abs]
  have habs : |s.toInt| ≤ 32768 := abs_le.mpr ⟨by omega, by omega⟩
  exact_mod_cast habs

/-- No sum of the filter comes near what 32 bits hold. -/
theorem abs_filtered_lt (x : List Int16) (n : Nat) : |filtered x n| < 77000 := by
  have hpair : ∀ k, |((past x n k).toInt : ℚ) + ((past x n (31 - k)).toInt : ℚ)| ≤ 65536 := by
    intro k
    have hfirst := abs_sample_le (past x n k)
    have hsecond := abs_sample_le (past x n (31 - k))
    have hsum := abs_add_le ((past x n k).toInt : ℚ) ((past x n (31 - k)).toInt : ℚ)
    linarith
  have hsum := abs_sum_le (fun k => taps.getD k 0) _ 65536 hpair (List.range' 1 15)
  have htaps : ((List.range' 1 15).map fun k => |taps.getD k 0| * 65536).sum =
      (taps.map fun tap => |tap| * 65536).sum := by
    simp [taps, List.range']
  rw [htaps] at hsum
  exact lt_of_le_of_lt hsum tap_sum

theorem truncate_intCast (n : ℤ) : truncate n = n := by
  unfold truncate
  split
  · exact Int.floor_intCast n
  · exact Int.ceil_intCast n

theorem convert_sample (s : Int16) : convert 16 (s.toInt : ℚ) = some s.toInt := by
  have hlow := s.minValue_le_toInt
  have hhigh := s.toInt_lt
  change -2 ^ 15 ≤ _ at hlow
  unfold convert
  rw [truncate_intCast, if_pos ⟨hlow, hhigh⟩]

theorem rounded_bound {value : ℚ} (h : |value| < 77000) :
    -77001 ≤ rounded value ∧ rounded value ≤ 77001 := by
  obtain ⟨hlow, hhigh⟩ := abs_lt.mp h
  unfold rounded truncate
  split
  next hsign =>
    rw [if_pos (by linarith : (0 : ℚ) ≤ value + 1 / 2)]
    have hfloor : (0 : ℤ) ≤ ⌊value + 1 / 2⌋ := Int.floor_nonneg.mpr (by linarith)
    have hle : ⌊value + 1 / 2⌋ ≤ 77001 := by
      apply Int.cast_le (R := ℚ) |>.mp
      have := Int.floor_le (value + 1 / 2)
      push_cast
      linarith
    omega
  next hsign =>
    rw [if_neg (by push Not at hsign ⊢; linarith)]
    have hceil : ⌈value - 1 / 2⌉ ≤ 0 := Int.ceil_le.mpr (by push_cast; linarith)
    have hge : -77001 ≤ ⌈value - 1 / 2⌉ := by
      apply Int.cast_le (R := ℚ) |>.mp
      have := Int.le_ceil (value - 1 / 2)
      push_cast
      linarith
    omega

/-- The conversion of a sum is defined, and only sums out of range are counted. -/
theorem roundClip_eq {value : ℚ} (h : |value| < 77000) (clips : UInt64) :
    roundClip value clips =
      some (clipped value, clips + UInt64.ofNat (if outOfRange value then 1 else 0)) := by
  obtain ⟨hlow, hhigh⟩ := rounded_bound h
  have hconvert : convert 32 (if value ≥ 0 then value + 1 / 2 else value - 1 / 2) =
      some (rounded value) := by
    unfold rounded at hlow hhigh
    unfold convert
    exact if_pos ⟨by omega, by omega⟩
  unfold roundClip clipped outOfRange
  rw [hconvert, Option.bind_eq_bind, Option.bind_some]
  by_cases habove : rounded value > 32767
  · rw [if_pos habove, min_eq_left (by omega), max_eq_right (by omega), decide_eq_true habove]
    rfl
  · rw [if_neg habove, min_eq_right (by omega), decide_eq_false habove, Bool.false_or]
    by_cases hbelow : rounded value < -32768
    · rw [if_pos hbelow, max_eq_left (by omega), decide_eq_true hbelow]
      rfl
    · rw [if_neg hbelow, max_eq_right (by omega), decide_eq_false hbelow]
      show some (_, clips) = some (_, clips + 0)
      rw [UInt64.add_zero]

end Range

/-! ## One sample of a channel -/

section Channel

/-- What a channel remembers of the samples so far. -/
def remembered (x : List Int16) : List ℚ :=
  mirrored 0 32 (x.length % 32) (x.map fun s => (s.toInt : ℚ))

theorem aged_remembered (x : List Int16) (age : Nat) :
    aged (0 : ℚ) (x.map fun s => (s.toInt : ℚ)) age = ((aged (0 : Int16) x age).toInt : ℚ) :=
  @aged_map _ 0 x _ (fun s => (s.toInt : ℚ)) age

/-- The samples before the newest one. -/
theorem aged_eq_past (x : List Int16) (a : Int16) (age : Nat) :
    aged 0 (x ++ [a]) age = past (x ++ [a]) x.length age := by
  rw [aged_eq, List.length_append, List.length_singleton, Nat.add_sub_cancel]
  unfold past
  by_cases h : age ≤ x.length
  · rw [if_pos (by omega), if_pos h]
  · rw [if_neg (by omega), if_neg h]

/-- The loop over the taps, `n` turns of it. -/
theorem tapLoop {history : List ℚ} {newest : Nat} (hnewest : newest < 32) (y : List ℚ)
    (hhistory : history = mirrored 0 32 newest y) (n : Nat) (hn : n ≤ 15) :
    (List.range' 1 n).foldlM (tapStep history) ⟨newest + 32 - 1, newest + 32 - 30, 0⟩ =
      some ⟨newest + 31 - n, newest + 2 + n, ((List.range' 1 n).map fun k =>
        taps.getD k 0 * (aged 0 y k + aged 0 y (31 - k))).sum⟩ := by
  induction n with
  | zero => rfl
  | succ n ih =>
      have hbefore : load history (newest + 31 - n) = some (aged 0 y (n + 1)) := by
        rw [hhistory, show newest + 31 - n = newest + 32 - (n + 1) by omega]
        exact mirrored_window hnewest (by omega)
      have hbehind : load history (newest + 2 + n) = some (aged 0 y (30 - n)) := by
        rw [hhistory, show newest + 2 + n = newest + 32 - (30 - n) by omega]
        exact mirrored_window hnewest (by omega)
      have htap : load taps (1 + n) = some (taps.getD (1 + n) 0) := by
        have hlength : 1 + n < taps.length := by
          show 1 + n < 16
          omega
        unfold load
        rw [List.getD_eq_getElem?_getD, List.getElem?_eq_getElem hlength, Option.getD_some]
      rw [List.range'_concat, Nat.one_mul, List.foldlM_append, ih (by omega), Option.bind_eq_bind,
        Option.bind_some, List.foldlM_cons, List.map_append, List.sum_append]
      unfold tapStep
      rw [hbefore, hbehind, htap]
      apply congrArg some
      rw [List.map_singleton, List.sum_singleton, show 31 - (1 + n) = 30 - n by omega,
        Nat.add_comm 1 n]
      rfl

theorem resampleChannel_eq (x : List Int16) (a : Int16) (clips : UInt64) :
    resampleChannel (remembered x) ((x.length % 32 + 1) % 32) a.toInt clips =
      some
        { history := remembered (x ++ [a])
          even := clipped (filtered (x ++ [a]) x.length)
          odd := past (x ++ [a]) x.length 15
          clips := clips +
            UInt64.ofNat (if outOfRange (filtered (x ++ [a]) x.length) then 1 else 0) } := by
  have hnewest : x.length % 32 < 32 := Nat.mod_lt _ (by decide)
  have hnext : (x.length % 32 + 1) % 32 < 32 := Nat.mod_lt _ (by decide)
  have hlength : (remembered x).length = 64 := mirrored_length 32 _
  have hplace : (x ++ [a]).length % 32 = (x.length % 32 + 1) % 32 := by
    rw [List.length_append, List.length_singleton]
    omega
  have hpush : ((remembered x).set ((x.length % 32 + 1) % 32) (a.toInt : ℚ)).set
      ((x.length % 32 + 1) % 32 + 32) (a.toInt : ℚ) = remembered (x ++ [a]) := by
    unfold remembered
    rw [mirrored_push hnewest, hplace, List.map_append]
    rfl
  have hsum : ((List.range' 1 15).map fun k => taps.getD k 0 *
      (aged 0 ((x ++ [a]).map fun s => (s.toInt : ℚ)) k +
        aged 0 ((x ++ [a]).map fun s => (s.toInt : ℚ)) (31 - k))).sum =
      filtered (x ++ [a]) x.length := by
    unfold filtered
    simp only [aged_remembered, aged_eq_past]
  have hdelayed : load (remembered (x ++ [a])) ((x.length % 32 + 1) % 32 + 32 - 15) =
      some ((past (x ++ [a]) x.length 15).toInt : ℚ) := by
    unfold remembered load
    rw [hplace, mirrored_window hnext (by decide), aged_remembered, aged_eq_past]
  have hloop := tapLoop hnext ((x ++ [a]).map fun s => (s.toInt : ℚ))
    (by rw [← hplace]; rfl : remembered (x ++ [a]) = _) 15 (Nat.le_refl _)
  unfold resampleChannel store
  rw [if_pos (by omega), Option.bind_eq_bind, Option.bind_some,
    if_pos (by rw [List.length_set]; omega), Option.bind_some, hpush, hloop]
  show (roundClip _ clips).bind _ = _
  rw [hsum, roundClip_eq (abs_filtered_lt _ _), Option.bind_some]
  dsimp only
  rw [hdelayed, Option.bind_eq_bind, Option.bind_some, convert_sample, Option.bind_eq_bind,
    Option.bind_some, Int16.ofInt_toInt]

end Channel

/-! ## Calls in a row -/

section Stream

/-- A sample does not change what the filter makes of those before it. -/
theorem past_append {x : List Int16} (a : Int16) {n : Nat} (hn : n < x.length) (back : Nat) :
    past (x ++ [a]) n back = past x n back := by
  unfold past
  split
  · rw [List.getD_append _ _ _ _ (by omega)]
  · rfl

theorem filtered_append {x : List Int16} (a : Int16) {n : Nat} (hn : n < x.length) :
    filtered (x ++ [a]) n = filtered x n := by
  unfold filtered
  simp only [past_append a hn]

theorem resampled_append (x : List Int16) (a : Int16) :
    resampled (x ++ [a]) = resampled x ++
      [clipped (filtered (x ++ [a]) x.length), past (x ++ [a]) x.length 15] := by
  unfold resampled
  rw [List.length_append, List.length_singleton, List.range_succ, List.flatMap_append,
    List.flatMap_singleton]
  apply congrArg (· ++ _)
  apply List.flatMap_congr
  intro n hn
  rw [filtered_append a (List.mem_range.mp hn), past_append a (List.mem_range.mp hn)]

theorem clipCount_append (x : List Int16) (a : Int16) :
    clipCount (x ++ [a]) =
      clipCount x + if outOfRange (filtered (x ++ [a]) x.length) then 1 else 0 := by
  have hold : ((List.range x.length).filter fun n => outOfRange (filtered (x ++ [a]) n)) =
      (List.range x.length).filter fun n => outOfRange (filtered x n) := by
    apply List.filter_congr
    intro n hn
    rw [filtered_append a (List.mem_range.mp hn)]
  unfold clipCount
  rw [List.length_append, List.length_singleton, List.range_succ, List.filter_append,
    List.length_append, hold, List.filter_singleton]
  cases outOfRange (filtered (x ++ [a]) x.length) with
  | false => rfl
  | true => rfl

/-- The state after a stream. -/
def Resample2x.after (x : List (Int16 × Int16)) : Resample2x where
  left := remembered (x.map Prod.fst)
  right := remembered (x.map Prod.snd)
  newest := x.length % 32
  clips := UInt64.ofNat (clipCount (x.map Prod.fst) + clipCount (x.map Prod.snd))

/-- All that is put out for a stream. -/
def Planar.of (x : List (Int16 × Int16)) : Planar :=
  ⟨resampled (x.map Prod.fst), resampled (x.map Prod.snd)⟩

theorem after_nil : Resample2x.after [] = .zero := by
  have hzero : remembered [] = List.replicate 64 0 := mirrored_nil 32 _
  unfold Resample2x.after Resample2x.zero
  rw [List.map_nil, List.map_nil, hzero]
  rfl

/-- The outputs of one sample more, of either channel, behind those of the stream `x`. -/
def Planar.grow (out : Planar) (x : List (Int16 × Int16)) (a b : Int16) : Planar where
  left := out.left ++ [clipped (filtered (x.map Prod.fst ++ [a]) x.length),
    past (x.map Prod.fst ++ [a]) x.length 15]
  right := out.right ++ [clipped (filtered (x.map Prod.snd ++ [b]) x.length),
    past (x.map Prod.snd ++ [b]) x.length 15]

/-- One frame takes the stream one sample further. -/
theorem resampleFrame_eq {input : Option (List Int16)} {n : Nat} {a b : Int16}
    (hleft : inputSample input (2 * n) = some (a.toInt : ℚ))
    (hright : inputSample input (2 * n + 1) = some (b.toInt : ℚ)) (x : List (Int16 × Int16))
    (out : Planar) :
    resampleFrame input (.after x, out) n =
      some (.after (x ++ [(a, b)]), out.grow x a b) := by
  have hplace : (x.length % 32 + 1) &&& 31 = (x.length % 32 + 1) % 32 :=
    Nat.and_two_pow_sub_one_eq_mod _ 5
  have hnext : (x.length % 32 + 1) % 32 = (x.length + 1) % 32 := by omega
  have hclips : ∀ l r l' r' : Nat, UInt64.ofNat (l + r) + UInt64.ofNat l' + UInt64.ofNat r' =
      UInt64.ofNat (l + l' + (r + r')) := by
    intro l r l' r'
    rw [← UInt64.ofNat_add, ← UInt64.ofNat_add,
      show l + r + l' + r' = l + l' + (r + r') by omega]
  have hl := resampleChannel_eq (x.map Prod.fst) a
    (UInt64.ofNat (clipCount (x.map Prod.fst) + clipCount (x.map Prod.snd)))
  rw [List.length_map] at hl
  have hr := resampleChannel_eq (x.map Prod.snd) b
    (UInt64.ofNat (clipCount (x.map Prod.fst) + clipCount (x.map Prod.snd)) +
      UInt64.ofNat (if outOfRange (filtered (x.map Prod.fst ++ [a]) x.length) then 1 else 0))
  rw [List.length_map] at hr
  unfold resampleFrame Resample2x.after Planar.grow
  dsimp only
  rw [hplace, hleft, Option.bind_eq_bind, Option.bind_some, hl, Option.bind_eq_bind,
    Option.bind_some, hright, Option.bind_some, hr, Option.bind_some,
    List.map_append, List.map_append, List.map_singleton, List.map_singleton, clipCount_append,
    clipCount_append, List.length_append, List.length_singleton, List.length_map, List.length_map]
  rw [hnext, hclips]

/-- What is put out takes the resampled stream from `x` to `y`. -/
structure Planar.Extends (out : Planar) (x y : List (Int16 × Int16)) : Prop where
  left : resampled (x.map Prod.fst) ++ out.left = resampled (y.map Prod.fst)
  right : resampled (x.map Prod.snd) ++ out.right = resampled (y.map Prod.snd)

theorem stream_length (chunk : Chunk) : chunk.stream.length = chunk.frames := by
  unfold Chunk.stream
  rw [List.length_map, List.length_range]

/-- The samples of a frame are read inside the input. -/
theorem inputSample_stream (chunk : Chunk) {n : Nat} (hn : n < chunk.frames) :
    ∃ a b : Int16, chunk.stream[n]? = some (a, b) ∧
      inputSample chunk.input (2 * n) = some (a.toInt : ℚ) ∧
      inputSample chunk.input (2 * n + 1) = some (b.toInt : ℚ) := by
  obtain ⟨frames, input, hfits⟩ := chunk
  change n < frames at hn
  unfold Chunk.stream inputSample
  dsimp only
  rw [List.getElem?_map, List.getElem?_range hn]
  cases input with
  | none => exact ⟨0, 0, rfl, rfl, rfl⟩
  | some samples =>
      have hlength := hfits samples rfl
      have hload : ∀ i < samples.length, load samples i = some (samples.getD i 0) := by
        intro i hi
        unfold load
        rw [List.getD_eq_getElem?_getD, List.getElem?_eq_getElem hi, Option.getD_some]
      refine ⟨samples.getD (2 * n) 0, samples.getD (2 * n + 1) 0, rfl, ?_, ?_⟩
      · show (load samples (2 * n)).map _ = _
        rw [hload (2 * n) (by omega), Option.map_some]
      · show (load samples (2 * n + 1)).map _ = _
        rw [hload (2 * n + 1) (by omega), Option.map_some]

/-- The first frames of a chunk. -/
theorem process_frames (chunk : Chunk) (x : List (Int16 × Int16)) (n : Nat)
    (hn : n ≤ chunk.frames) :
    ∃ out : Planar, (List.range n).foldlM (resampleFrame chunk.input) (.after x, ⟨[], []⟩) =
        some (.after (x ++ chunk.stream.take n), out) ∧
      out.Extends x (x ++ chunk.stream.take n) := by
  induction n with
  | zero =>
      refine ⟨⟨[], []⟩, ?_, ?_, ?_⟩
      · rw [List.take_zero, List.append_nil]
        rfl
      · rw [List.take_zero, List.append_nil, List.append_nil]
      · rw [List.take_zero, List.append_nil, List.append_nil]
  | succ n ih =>
      obtain ⟨out, hrun, hleft, hright⟩ := ih (by omega)
      obtain ⟨a, b, hsample, ha, hb⟩ := inputSample_stream chunk (by omega : n < chunk.frames)
      have htake : chunk.stream.take (n + 1) = chunk.stream.take n ++ [(a, b)] := by
        rw [List.take_add_one, hsample]
        rfl
      have hframe := resampleFrame_eq ha hb (x ++ chunk.stream.take n) out
      rw [List.append_assoc, ← htake] at hframe
      refine ⟨out.grow (x ++ chunk.stream.take n) a b, ?_, ?_, ?_⟩
      · rw [List.range_succ, List.foldlM_append, hrun, Option.bind_eq_bind, Option.bind_some,
          List.foldlM_cons, hframe]
        rfl
      · rw [htake, ← List.append_assoc x, List.map_append, List.map_singleton, resampled_append,
          ← hleft, List.length_map, List.append_assoc]
        rfl
      · rw [htake, ← List.append_assoc x, List.map_append, List.map_singleton, resampled_append,
          ← hright, List.length_map, List.append_assoc]
        rfl

theorem process_chunk (chunk : Chunk) (x : List (Int16 × Int16)) :
    ∃ out : Planar, resample2xProcess (.after x) chunk.input chunk.frames =
        some (.after (x ++ chunk.stream), out) ∧ out.Extends x (x ++ chunk.stream) := by
  have hwhole : chunk.stream.take chunk.frames = chunk.stream :=
    List.take_of_length_le (Nat.le_of_eq (stream_length chunk))
  have hrun := process_frames chunk x chunk.frames (Nat.le_refl _)
  rwa [hwhole] at hrun

theorem processAll_after (chunks : List Chunk) : ∀ x : List (Int16 × Int16),
    ∃ out : Planar, processAll (.after x) chunks =
        some (.after (x ++ chunks.flatMap Chunk.stream), out) ∧
      out.Extends x (x ++ chunks.flatMap Chunk.stream) := by
  induction chunks with
  | nil =>
      intro x
      refine ⟨⟨[], []⟩, ?_, ?_, ?_⟩
      · rw [List.flatMap_nil, List.append_nil]
        rfl
      · rw [List.flatMap_nil, List.append_nil, List.append_nil]
      · rw [List.flatMap_nil, List.append_nil, List.append_nil]
  | cons chunk chunks ih =>
      intro x
      obtain ⟨out, hone, hleft, hright⟩ := process_chunk chunk x
      obtain ⟨later, hrest, hleft', hright'⟩ := ih (x ++ chunk.stream)
      rw [List.append_assoc] at hrest hleft' hright'
      refine ⟨⟨out.left ++ later.left, out.right ++ later.right⟩, ?_, ?_, ?_⟩
      · unfold processAll
        rw [hone, Option.bind_eq_bind, Option.bind_some]
        dsimp only
        rw [hrest]
        rfl
      · rw [List.flatMap_cons, ← List.append_assoc, hleft, hleft']
      · rw [List.flatMap_cons, ← List.append_assoc, hright, hright']

end Stream

/-- From the zeroed state, however a stream is cut into calls: no access leaves its array and every
conversion is defined; each channel is filtered and interleaved with its delayed samples; sums out
of range, and only those, are counted; the sums stay below 77000; and the outcome is that of the
whole stream. -/
theorem resampler_whole (chunks : List Chunk) :
    (∃ s out, processAll .zero chunks = some (s, out) ∧
      out.left = resampled ((chunks.flatMap Chunk.stream).map Prod.fst) ∧
      out.right = resampled ((chunks.flatMap Chunk.stream).map Prod.snd) ∧
      s.clips = UInt64.ofNat (clipCount ((chunks.flatMap Chunk.stream).map Prod.fst) +
        clipCount ((chunks.flatMap Chunk.stream).map Prod.snd))) ∧
    (∀ (x : List Int16) (n : Nat), |filtered x n| < 77000) ∧
    ∀ chunks' : List Chunk, chunks'.flatMap Chunk.stream = chunks.flatMap Chunk.stream →
      processAll .zero chunks' = processAll .zero chunks := by
  have hwhole : ∀ chunks : List Chunk, processAll .zero chunks =
      some (.after (chunks.flatMap Chunk.stream), .of (chunks.flatMap Chunk.stream)) := by
    intro chunks
    obtain ⟨out, hrun, hleft, hright⟩ := processAll_after chunks []
    rw [after_nil, List.nil_append] at hrun
    rw [hrun]
    obtain ⟨left, right⟩ := out
    change left = _ at hleft
    change right = _ at hright
    rw [hleft, hright]
    rfl
  refine ⟨⟨_, _, hwhole chunks, rfl, rfl, rfl⟩, abs_filtered_lt, ?_⟩
  intro chunks' hsame
  rw [hwhole, hwhole, hsame]

end UllReceiver.Audio
