import Mathlib
import UllReceiver.Bridge.MicCodec
import UllReceiver.Library.Buffer

/-!
# The microphone's signal

The 3:2 conversion of `mic_codec_decode` over any number of frames: one interpolation of the whole
signal.
-/

namespace UllReceiver.Bridge

open Library

/-! ## The interpolation -/

/-- Sample `i - 1` of a signal with `previous` before it. -/
def sampleBefore (previous : Int16) (x : List Int16) (i : Nat) : Int16 :=
  if i = 0 then previous else x.getD (i - 1) 0

/-- Sample `m` of the signal at three halves of its rate. -/
def interpolate (previous : Int16) (x : List Int16) (m : Nat) : Int :=
  let i := 2 * m / 3
  let f : Int := (2 * m % 3 : Nat)
  ((3 - f) * (sampleBefore previous x i).toInt + f * (x.getD i 0).toInt).tdiv 3

/-- A weighted mean, rounded toward zero, lies between what it is a mean of. -/
theorem mean_between {a b f : Int} (hlow : 0 ≤ f) (hhigh : f ≤ 3) :
    min a b ≤ ((3 - f) * a + f * b).tdiv 3 ∧ ((3 - f) * a + f * b).tdiv 3 ≤ max a b := by
  have hlower : 3 * min a b ≤ (3 - f) * a + f * b := by
    have ha : (3 - f) * min a b ≤ (3 - f) * a :=
      Int.mul_le_mul_of_nonneg_left (Int.min_le_left a b) (by omega)
    have hb : f * min a b ≤ f * b := Int.mul_le_mul_of_nonneg_left (Int.min_le_right a b) hlow
    have hsum : (3 - f) * min a b + f * min a b = 3 * min a b := by
      rw [← Int.add_mul, Int.sub_add_cancel]
    omega
  have hupper : (3 - f) * a + f * b ≤ 3 * max a b := by
    have ha : (3 - f) * a ≤ (3 - f) * max a b :=
      Int.mul_le_mul_of_nonneg_left (Int.le_max_left a b) (by omega)
    have hb : f * b ≤ f * max a b := Int.mul_le_mul_of_nonneg_left (Int.le_max_right a b) hlow
    have hsum : (3 - f) * max a b + f * max a b = 3 * max a b := by
      rw [← Int.add_mul, Int.sub_add_cancel]
    omega
  generalize (3 - f) * a + f * b = sum at hlower hupper
  rcases Int.le_total 0 sum with hsign | hsign
  · rw [Int.tdiv_eq_ediv_of_nonneg hsign]
    omega
  · have hneg : sum.tdiv 3 = -(-sum / 3) := by
      rw [← Int.tdiv_eq_ediv_of_nonneg (by omega : 0 ≤ -sum), Int.neg_tdiv, Int.neg_neg]
    rw [hneg]
    omega

/-- No sample of the interpolation leaves what 16 bits hold. -/
theorem interpolate_between (previous : Int16) (x : List Int16) (m : Nat) :
    min (sampleBefore previous x (2 * m / 3)).toInt (x.getD (2 * m / 3) 0).toInt ≤
        interpolate previous x m ∧
      interpolate previous x m ≤
        max (sampleBefore previous x (2 * m / 3)).toInt (x.getD (2 * m / 3) 0).toInt := by
  unfold interpolate
  exact mean_between (by omega) (by omega)

theorem interpolate_toInt (previous : Int16) (x : List Int16) (m : Nat) :
    (Int16.ofInt (interpolate previous x m)).toInt = interpolate previous x m := by
  obtain ⟨hlow, hhigh⟩ := interpolate_between previous x m
  have hbefore := (sampleBefore previous x (2 * m / 3)).minValue_le_toInt
  have hbefore' := (sampleBefore previous x (2 * m / 3)).toInt_lt
  have hcurrent := (x.getD (2 * m / 3) 0).minValue_le_toInt
  have hcurrent' := (x.getD (2 * m / 3) 0).toInt_lt
  change -2 ^ 15 ≤ _ at hbefore hcurrent
  exact Int16.toInt_ofInt_of_le (by omega) (by omega)

/-! ## The loop of a frame -/

/-- One turn of the conversion loop; `none` is an index outside an array. -/
def micStep (previous : Int16) (decoded out : List Int16) (j : Nat) : Option (List Int16) := do
  let i := j * 2 / 3
  let fraction : Int := (j * 2 % 3 : Nat)
  let before ← (if i ≠ 0 then load decoded (i - 1) else some previous)
  let current ← load decoded i
  store out j (Int16.ofInt ((before.toInt * (3 - fraction) + current.toInt * fraction).tdiv 3))

def micLoop (previous : Int16) (decoded out : List Int16) : Option (List Int16) :=
  (List.range 240).foldlM (micStep previous decoded) out

theorem micStep_eq {previous : Int16} {decoded out : List Int16} {j : Nat}
    (hdecoded : decoded.length = 160) (hout : out.length = 240) (hj : j < 240) :
    micStep previous decoded out j =
      some (out.set j (Int16.ofInt (interpolate previous decoded j))) := by
  have hi : j * 2 / 3 < decoded.length := by omega
  have hcurrent : load decoded (j * 2 / 3) = some (decoded.getD (j * 2 / 3) 0) := by
    unfold load
    rw [List.getD_eq_getElem?_getD, List.getElem?_eq_getElem hi, Option.getD_some]
  have hbefore : (if j * 2 / 3 ≠ 0 then load decoded (j * 2 / 3 - 1) else some previous) =
      some (sampleBefore previous decoded (j * 2 / 3)) := by
    unfold sampleBefore
    by_cases hzero : j * 2 / 3 = 0
    · rw [if_neg (not_not.mpr hzero), if_pos hzero]
    · rw [if_pos hzero, if_neg hzero]
      unfold load
      rw [List.getD_eq_getElem?_getD, List.getElem?_eq_getElem (by omega), Option.getD_some]
  unfold micStep interpolate
  dsimp only
  rw [hbefore, hcurrent, Nat.mul_comm 2 j]
  show store out j _ = _
  unfold store
  rw [if_pos (by omega), Int.mul_comm (_ - _), Int.mul_comm (Nat.cast _)]

/-- The loop after `n` turns. -/
theorem micLoop_turns {previous : Int16} {decoded out : List Int16}
    (hdecoded : decoded.length = 160) (hout : out.length = 240) (n : Nat) (hn : n ≤ 240) :
    (List.range n).foldlM (micStep previous decoded) out =
      some (((List.range n).map fun j => Int16.ofInt (interpolate previous decoded j)) ++
        out.drop n) := by
  induction n with
  | zero => rfl
  | succ n ih =>
      have hlength : (((List.range n).map fun j => Int16.ofInt (interpolate previous decoded j)) ++
          out.drop n).length = 240 := by
        rw [List.length_append, List.length_map, List.length_range, List.length_drop]
        omega
      rw [List.range_succ, List.foldlM_append, ih (by omega), Option.bind_eq_bind,
        Option.bind_some, List.foldlM_cons, micStep_eq hdecoded hlength (by omega)]
      show some _ = _
      congr 1
      rw [List.set_append_right _ _ (by rw [List.length_map, List.length_range]),
        List.length_map, List.length_range, Nat.sub_self,
        List.drop_eq_getElem_cons (by omega : n < out.length), List.set_cons_zero, List.map_append,
        List.append_assoc]
      rfl

/-- The whole loop stays inside its arrays, and leaves the interpolation of the frame. -/
theorem micLoop_eq {previous : Int16} {decoded out : List Int16}
    (hdecoded : decoded.length = 160) (hout : out.length = 240) :
    micLoop previous decoded out =
      some ((List.range 240).map fun j => Int16.ofInt (interpolate previous decoded j)) := by
  unfold micLoop
  rw [micLoop_turns hdecoded hout 240 (Nat.le_refl _), List.drop_eq_nil_of_le (by omega),
    List.append_nil]

theorem micResample_toList (previous : Int16) (decoded : Vector Int16 160) :
    (micResample previous decoded).toList =
      (List.range 240).map fun j => Int16.ofInt (interpolate previous decoded.toList j) := by
  unfold micResample
  rw [Vector.toList_ofFn]
  apply List.ext_getElem
  · rw [List.length_ofFn, List.length_map, List.length_range]
  · intro j hj _
    rw [List.getElem_ofFn, List.getElem_map, List.getElem_range]
    unfold interpolate sampleBefore
    dsimp only
    rw [Nat.mul_comm 2 j, Int.mul_comm (_ - _), Int.mul_comm (Nat.cast _)]

/-! ## Frames in a row -/

section Frames

variable {previous : Int16} {x rest : List Int16}

theorem sampleBefore_front {i : Nat} (hi : i < x.length) :
    sampleBefore previous (x ++ rest) i = sampleBefore previous x i := by
  unfold sampleBefore
  split
  · rfl
  · rw [List.getD_append _ _ _ _ (by omega)]

theorem interpolate_front {m : Nat} (hm : 2 * m / 3 < x.length) :
    interpolate previous (x ++ rest) m = interpolate previous x m := by
  unfold interpolate
  dsimp only
  rw [sampleBefore_front hm, List.getD_append _ _ _ _ hm]

/-- Behind a frame the signal goes on from the frame's last sample. -/
theorem interpolate_behind (hx : x.length = 160) (m : Nat) :
    interpolate previous (x ++ rest) (240 + m) = interpolate (x.getD 159 0) rest m := by
  have hindex : 2 * (240 + m) / 3 = 160 + 2 * m / 3 := by omega
  have hfraction : 2 * (240 + m) % 3 = 2 * m % 3 := by omega
  have hcurrent : (x ++ rest).getD (160 + 2 * m / 3) 0 = rest.getD (2 * m / 3) 0 := by
    rw [List.getD_append_right _ _ _ _ (by omega), hx, Nat.add_sub_cancel_left]
  have hbefore : sampleBefore previous (x ++ rest) (160 + 2 * m / 3) =
      sampleBefore (x.getD 159 0) rest (2 * m / 3) := by
    unfold sampleBefore
    rw [if_neg (by omega)]
    split
    next hzero =>
      rw [hzero, List.getD_append _ _ _ _ (by omega)]
    next hmore =>
      rw [List.getD_append_right _ _ _ _ (by omega), hx,
        show 160 + 2 * m / 3 - 1 - 160 = 2 * m / 3 - 1 by omega]
  unfold interpolate
  dsimp only
  rw [hindex, hfraction, hcurrent, hbefore]

theorem micLast_lt : 159 < 160 := by decide

/-- The conversion of frames one after another, each with the last sample of the one before. -/
def resampleAll : Int16 → List (Vector Int16 160) → List Int16
  | _, [] => []
  | previous, frame :: frames =>
      (micResample previous frame).toList ++ resampleAll (getElem frame 159 micLast_lt) frames

theorem resampleAll_eq (frames : List (Vector Int16 160)) : ∀ previous : Int16,
    resampleAll previous frames = (List.range (240 * frames.length)).map fun m =>
      Int16.ofInt (interpolate previous (frames.flatMap Vector.toList) m) := by
  induction frames with
  | nil => exact fun _ => rfl
  | cons frame frames ih =>
      intro previous
      have hlength : frame.toList.length = 160 := frame.length_toList
      have hlast : frame[159] = frame.toList.getD 159 0 := by
        rw [List.getD_eq_getElem?_getD, List.getElem?_eq_getElem (by omega), Option.getD_some,
          Vector.getElem_toList]
      rw [resampleAll, ih, micResample_toList, List.length_cons, Nat.mul_add, Nat.mul_one,
        Nat.add_comm (240 * frames.length), List.range_add, List.map_append, List.flatMap_cons,
        List.map_map]
      congr 1
      · apply List.map_congr_left
        intro m hm
        have hbound := List.mem_range.mp hm
        rw [interpolate_front (by omega)]
      · apply List.map_congr_left
        intro m _
        show _ = Int16.ofInt (interpolate previous (frame.toList ++ _) (240 + m))
        rw [interpolate_behind hlength, hlast]

end Frames

/-! ## Calls of the decoder -/

section Calls

variable {L : Type} (lc : Lc3plus L)

/-- The status is that of a decoded or a concealed frame. -/
def Lc3plus.soft (status : Int) : Bool :=
  status == 0 || status == lc.decodeError

/-- What the library makes of packets one after another: each status with its samples. -/
def Lc3plus.decodes : L → List (Option MicPayload) → List (Int × Vector Int16 160)
  | _, [] => []
  | decoder, frame :: frames =>
      let r := lc.dec16 decoder frame
      (r.1, r.2.1) :: Lc3plus.decodes r.2.2 frames

/-- The frames it has decoded or concealed. -/
def Lc3plus.framesOf (results : List (Int × Vector Int16 160)) : List (Vector Int16 160) :=
  (results.filter fun r => lc.soft r.1).map Prod.snd

/-- Calls of `mic_codec_decode`, each with its array: what they return and leave in it. -/
def micCodecDecodes : MicCodec L → List (Option MicPayload × MicPcm) → List (Int × MicPcm)
  | _, [] => []
  | s, (frame, out) :: calls =>
      let r := micCodecDecode lc s frame out
      (r.1, r.2.1) :: micCodecDecodes r.2.2 calls

/-- The samples of the calls that return no hard error. -/
def samplesOf (results : List (Int × MicPcm)) : List Int16 :=
  (results.filter fun r => lc.soft r.1).flatMap fun r => r.2.toList

variable {lc}

theorem framesOf_cons (status : Int) (frame : Vector Int16 160)
    (results : List (Int × Vector Int16 160)) : lc.framesOf ((status, frame) :: results) =
      if lc.soft status then frame :: lc.framesOf results else lc.framesOf results := by
  unfold Lc3plus.framesOf
  rw [List.filter_cons]
  split
  · rfl
  · rfl

theorem samplesOf_cons (status : Int) (out : MicPcm) (results : List (Int × MicPcm)) :
    samplesOf lc ((status, out) :: results) =
      if lc.soft status then out.toList ++ samplesOf lc results else samplesOf lc results := by
  unfold samplesOf
  rw [List.filter_cons]
  split
  · rfl
  · rfl

/-- A soft status of the library comes with 240 samples and a new last one; any other leaves both
as they were. -/
theorem micCodecDecode_eq {s : MicCodec L} (hinit : s.initialized = true)
    (frame : Option MicPayload) (out : MicPcm) :
    micCodecDecode lc s frame out =
      ((lc.dec16 s.decoder frame).1,
        if lc.soft (lc.dec16 s.decoder frame).1 then
          micResample s.previous (lc.dec16 s.decoder frame).2.1
        else out,
        { decoder := (lc.dec16 s.decoder frame).2.2
          previous := if lc.soft (lc.dec16 s.decoder frame).1 then
            getElem (lc.dec16 s.decoder frame).2.1 159 micLast_lt
          else s.previous
          initialized := true }) := by
  have hsoft : lc.soft (lc.dec16 s.decoder frame).1 = true ↔
      ¬ ((lc.dec16 s.decoder frame).1 ≠ 0 ∧ (lc.dec16 s.decoder frame).1 ≠ lc.decodeError) := by
    unfold Lc3plus.soft
    rw [Bool.or_eq_true, beq_iff_eq, beq_iff_eq, not_and_or, not_not, not_not]
  unfold micCodecDecode
  rw [hinit]
  simp only [Bool.not_true, Bool.false_eq_true, if_false]
  by_cases h : (lc.dec16 s.decoder frame).1 ≠ 0 ∧
      (lc.dec16 s.decoder frame).1 ≠ lc.decodeError
  · have hhard : ¬ lc.soft (lc.dec16 s.decoder frame).1 = true := fun hs => hsoft.mp hs h
    rw [if_pos h, if_neg hhard, if_neg hhard]
  · have hdecoded : lc.soft (lc.dec16 s.decoder frame).1 = true := hsoft.mpr h
    rw [if_neg h, if_pos hdecoded, if_pos hdecoded]

/-- Each call returns the status of the library. -/
theorem micCodecDecodes_status (calls : List (Option MicPayload × MicPcm)) : ∀ {s : MicCodec L},
    s.initialized = true → (micCodecDecodes lc s calls).map Prod.fst =
      (lc.decodes s.decoder (calls.map Prod.fst)).map Prod.fst := by
  induction calls with
  | nil => exact fun _ => rfl
  | cons call calls ih =>
      intro s hinit
      obtain ⟨frame, out⟩ := call
      simp only [micCodecDecodes, Lc3plus.decodes, List.map_cons, micCodecDecode_eq hinit]
      rw [ih rfl]

/-- The samples are the conversion of the frames, from the sample carried on. -/
theorem micCodecDecodes_samples (calls : List (Option MicPayload × MicPcm)) :
    ∀ {s : MicCodec L}, s.initialized = true → samplesOf lc (micCodecDecodes lc s calls) =
      resampleAll s.previous (lc.framesOf (lc.decodes s.decoder (calls.map Prod.fst))) := by
  induction calls with
  | nil => exact fun _ => rfl
  | cons call calls ih =>
      intro s hinit
      obtain ⟨frame, out⟩ := call
      simp only [micCodecDecodes, Lc3plus.decodes, List.map_cons, micCodecDecode_eq hinit]
      rw [samplesOf_cons, framesOf_cons, ih rfl]
      by_cases hsoft : lc.soft (lc.dec16 s.decoder frame).1 = true
      · rw [if_pos hsoft, if_pos hsoft, if_pos hsoft, if_pos hsoft]
        rfl
      · rw [if_neg hsoft, if_neg hsoft, if_neg hsoft]

/-- Without an initialised decoder every call is refused. -/
theorem micCodecDecodes_refused (calls : List (Option MicPayload × MicPcm)) {s : MicCodec L}
    (hinit : s.initialized = false) :
    micCodecDecodes lc s calls = calls.map fun call => (-1, call.2) := by
  induction calls with
  | nil => rfl
  | cons call calls ih =>
      obtain ⟨frame, out⟩ := call
      have hrefused : micCodecDecode lc s frame out = (-1, out, s) := by
        unfold micCodecDecode
        rw [hinit]
        rfl
      simp only [micCodecDecodes, hrefused, List.map_cons]
      rw [ih]

end Calls

/-- Over any number of calls after `mic_codec_init`: each returns the status of the library, and
the samples of those that return no hard error are one interpolation of the frames the library has
decoded or concealed, with zero before the first; without a decoder all are refused. The loop of
a call stays inside its arrays and every sample lies between its neighbours. A call of a decoder
in any state gives 240 converted samples with a soft status of the library, and with a hard one
leaves its array and the last sample carried as they were. -/
theorem mic_seamless {L : Type} (lc : Lc3plus L) (calls : List (Option MicPayload × MicPcm)) :
    let s := (micCodecInit lc).2
    let results := micCodecDecodes lc s calls
    let decoded := lc.decodes s.decoder (calls.map Prod.fst)
    let x := (lc.framesOf decoded).flatMap Vector.toList
    ((micCodecInit lc).1 = 0 → results.map Prod.fst = decoded.map Prod.fst ∧
      (samplesOf lc results).map Int16.toInt =
        (List.range (240 * (lc.framesOf decoded).length)).map (interpolate 0 x)) ∧
      ((micCodecInit lc).1 ≠ 0 → results = calls.map fun call => (-1, call.2)) ∧
      (∀ m, min (sampleBefore 0 x (2 * m / 3)).toInt (x.getD (2 * m / 3) 0).toInt ≤
          interpolate 0 x m ∧
        interpolate 0 x m ≤ max (sampleBefore 0 x (2 * m / 3)).toInt (x.getD (2 * m / 3) 0).toInt) ∧
      (∀ (previous : Int16) (decoded : Vector Int16 160) (out : MicPcm),
        micLoop previous decoded.toList out.toList = some (micResample previous decoded).toList) ∧
      ∀ (s : MicCodec L) (frame : Option MicPayload) (out : MicPcm), s.initialized = true →
        (micCodecDecode lc s frame out).1 = (lc.dec16 s.decoder frame).1 ∧
        (lc.soft (lc.dec16 s.decoder frame).1 = true →
          (micCodecDecode lc s frame out).2.1 =
            micResample s.previous (lc.dec16 s.decoder frame).2.1) ∧
        (lc.soft (lc.dec16 s.decoder frame).1 = false →
          (micCodecDecode lc s frame out).2.1 = out ∧
            (micCodecDecode lc s frame out).2.2.previous = s.previous) := by
  refine ⟨?_, ?_, interpolate_between 0 _, ?_, ?_⟩
  · intro hinit
    have hready : (micCodecInit lc).2.initialized = true := decide_eq_true hinit
    refine ⟨micCodecDecodes_status calls hready, ?_⟩
    rw [micCodecDecodes_samples calls hready]
    -- no interpolated value leaves the range of a sample
    show (resampleAll 0 _).map Int16.toInt = _
    rw [resampleAll_eq, List.map_map]
    apply List.map_congr_left
    intro m _
    exact interpolate_toInt 0 _ m
  · intro hinit
    exact micCodecDecodes_refused calls (decide_eq_false hinit)
  · intro previous decoded out
    rw [micLoop_eq decoded.length_toList out.length_toList, micResample_toList]
  · intro s frame out hinit
    rw [micCodecDecode_eq hinit]
    refine ⟨rfl, fun hsoft => if_pos hsoft, fun hhard => ?_⟩
    have hnot : ¬ lc.soft (lc.dec16 s.decoder frame).1 = true := by
      rw [hhard]
      exact Bool.false_ne_true
    exact ⟨if_neg hnot, if_neg hnot⟩

/-- A library whose samples rise from call to call: a packet decodes with the status in its first
byte, and what is missing is concealed. -/
def countingLibrary : Lc3plus Nat where
  zero := 0
  init n := (0, n)
  setFrameDms n := (0, n)
  setEpEnabled n := (0, n)
  outputSamples _ := 160
  freeMemory n := (0, n)
  dec16 n frame :=
    (match frame with
      | none => 3
      | some packet => (packet.head.toNat : Int),
      Vector.ofFn fun i => Int16.ofNat (300 * n + i.val), n + 1)
  decodeError := 3

/-- Two frames with a hard error between them, then a concealed one. -/
theorem mic_seamless_concealed :
    let calls : List (Option MicPayload × MicPcm) :=
      [some (Vector.replicate 40 0), some (Vector.replicate 40 7), some (Vector.replicate 40 0),
        none].map fun frame => (frame, Vector.replicate 240 9)
    let results := micCodecDecodes countingLibrary (micCodecInit countingLibrary).2 calls
    results.map Prod.fst = [0, 7, 0, 3] ∧
      results[1]? = some (7, Vector.replicate 240 9) ∧
      ((samplesOf countingLibrary results).map Int16.toInt).length = 720 ∧
      ((samplesOf countingLibrary results).map Int16.toInt)[240]? = some 159 ∧
      ((samplesOf countingLibrary results).map Int16.toInt)[241]? = some 453 := by
  intro calls results
  obtain ⟨⟨hstatus, hsamples⟩, -, -, -, -⟩ :=
    And.imp_left (fun h => h (by decide)) (mic_seamless countingLibrary calls)
  refine ⟨?_, by decide +kernel, ?_, ?_, ?_⟩
  · rw [hstatus]
    decide +kernel
  all_goals
    rw [hsamples]
    decide +kernel

end UllReceiver.Bridge
