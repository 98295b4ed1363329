import UllReceiver.Library.Runs
import Mathlib

/-!
# The USB rate feedback

`usb_feedback.c`: the average of the playback queue's depth in 256ths of a frame, and the rate the
host is asked for in samples per USB frame, unsigned 16.16. Signed arithmetic is on integers, and a
result outside 32 bits is `none`.
-/

namespace UllReceiver.Usb

open Library

/-- A value of an `int32_t`. -/
def int32 (i : Int) : Option Int :=
  if -2147483648 ≤ i ∧ i < 2147483648 then some i else none

/-- `(int32_t)` of an unsigned value. -/
def asInt32 (u : UInt32) : Int :=
  if u.toNat < 2147483648 then u.toNat else u.toNat - 4294967296

/-- `ULL_FB_NOMINAL_Q16` -/
def fbNominalQ16 : Int := 3145728

/-- `ULL_FB_TARGET_FRAMES` -/
def fbTargetFrames : Int := 960

structure UsbFeedback where
  averageQ8 : Int
  consumed : UInt32
  valueQ16 : UInt32
  idlePackets : UInt32
  active : Bool

namespace UsbFeedback

/-- `ull_usb_feedback_reset` -/
def reset (consumed : UInt32) : UsbFeedback where
  averageQ8 := fbTargetFrames * 256
  consumed := consumed
  valueQ16 := UInt32.ofInt fbNominalQ16
  idlePackets := 0
  active := false

/-- What a step notes of the consumption. -/
def observe (s : UsbFeedback) (consumed : UInt32) : UsbFeedback :=
  if consumed ≠ s.consumed then { s with consumed := consumed, idlePackets := 0, active := true }
  else if s.idlePackets < 100 then { s with idlePackets := s.idlePackets + 1 }
  else s

/-- The low-pass filter. -/
def filter (average : Int) (queued : UInt32) : Option Int := do
  let queued := if queued > 1920 then 1920 else queued
  let delta ← int32 (asInt32 (queued * 256) - average)
  let part ← int32 (delta.tdiv 64)
  int32 (average + part)

/-- The proportional correction, clamped to 3146 either way. -/
def correction (average : Int) : Option Int := do
  let target ← int32 (fbTargetFrames * 256)
  let error ← int32 (average - target)
  let scaled ← int32 (error * 64)
  let correction ← int32 (scaled.tdiv 1000)
  let correction := if correction > 3146 then 3146 else correction
  some (if correction < -3146 then -3146 else correction)

/-- `ull_usb_feedback_step`; the value it returns is the one it stores. -/
def step (s : UsbFeedback) (queued consumed : UInt32) : Option (UsbFeedback × UInt32) :=
  let s := s.observe consumed
  if !s.active || s.idlePackets ≥ 100 then
    let value := UInt32.ofInt fbNominalQ16
    some ({ s with active := false, averageQ8 := fbTargetFrames * 256, valueQ16 := value }, value)
  else do
    let average ← filter s.averageQ8 queued
    let correction ← correction average
    let value ← int32 (fbNominalQ16 - correction)
    some ({ s with averageQ8 := average, valueQ16 := UInt32.ofInt value }, UInt32.ofInt value)

end UsbFeedback

/-- What one valid playback packet tells the feedback. -/
structure FeedbackPacket where
  queued : UInt32
  consumed : UInt32

/-- The state after the packets, oldest first. -/
def UsbFeedback.run (s : UsbFeedback) : List FeedbackPacket → Option UsbFeedback
  | [] => some s
  | p :: ps => do
      let (s, _) ← s.step p.queued p.consumed
      s.run ps

/-- The consumption the packets end with. -/
def lastConsumed (seed : UInt32) : List FeedbackPacket → UInt32
  | [] => seed
  | p :: ps => lastConsumed p.consumed ps

/-- Consumption has not moved for the last `n` packets. -/
def Quiet (seed : UInt32) (ps : List FeedbackPacket) (n : Nat) : Prop :=
  ∃ older recent, ps = older ++ recent ∧ recent.length = n ∧
    ∀ p ∈ recent, p.consumed = lastConsumed seed older

/-- Consumption has not moved for 100 packets, or never. -/
def Still (seed : UInt32) (ps : List FeedbackPacket) : Prop :=
  (∀ p ∈ ps, p.consumed = seed) ∨ Quiet seed ps 100

section Quiet

variable {seed : UInt32} {ps : List FeedbackPacket} {p : FeedbackPacket}

theorem lastConsumed_append (ps qs : List FeedbackPacket) :
    lastConsumed seed (ps ++ qs) = lastConsumed (lastConsumed seed ps) qs := by
  induction ps generalizing seed with
  | nil => rfl
  | cons p ps ih => exact ih

theorem lastConsumed_same (h : ∀ p ∈ ps, p.consumed = seed) : lastConsumed seed ps = seed := by
  induction ps with
  | nil => rfl
  | cons p ps ih =>
    rw [lastConsumed, h p List.mem_cons_self]
    exact ih fun q hq => h q (List.mem_cons_of_mem p hq)

theorem quiet_zero (seed : UInt32) (ps : List FeedbackPacket) : Quiet seed ps 0 :=
  ⟨ps, [], (List.append_nil ps).symm, rfl, fun _ h => nomatch h⟩

/-- One more packet. -/
theorem quiet_snoc (n : Nat) :
    Quiet seed (ps ++ [p]) (n + 1) ↔ Quiet seed ps n ∧ p.consumed = lastConsumed seed ps := by
  constructor
  · rintro ⟨older, recent, hps, hlen, hsame⟩
    rcases List.eq_nil_or_concat recent with rfl | ⟨front, q, rfl⟩
    · cases hlen
    rw [List.concat_eq_append] at hps hlen hsame
    rw [← List.append_assoc] at hps
    obtain ⟨rfl, hq⟩ := List.append_inj' hps rfl
    cases hq
    have hfront : ∀ q ∈ front, q.consumed = lastConsumed seed older :=
      fun q hq => hsame q (List.mem_append_left _ hq)
    rw [List.length_append, List.length_singleton] at hlen
    refine ⟨⟨older, front, rfl, by omega, hfront⟩, ?_⟩
    rw [lastConsumed_append, lastConsumed_same hfront]
    exact hsame p (List.mem_append_right _ List.mem_cons_self)
  · rintro ⟨⟨older, recent, rfl, rfl, hsame⟩, hp⟩
    rw [lastConsumed_append, lastConsumed_same hsame] at hp
    refine ⟨older, recent ++ [p], List.append_assoc .., by rw [List.length_append]; rfl, ?_⟩
    intro q hq
    rcases List.mem_append.mp hq with hq | hq
    · exact hsame q hq
    · rw [List.mem_singleton.mp hq]
      exact hp

theorem Quiet.mono {n m : Nat} (h : Quiet seed ps n) (hm : m ≤ n) : Quiet seed ps m := by
  obtain ⟨older, recent, rfl, rfl, hsame⟩ := h
  have hfront : ∀ p ∈ recent.take (recent.length - m), p.consumed = lastConsumed seed older :=
    fun p hp => hsame p (List.mem_of_mem_take hp)
  refine ⟨older ++ recent.take (recent.length - m), recent.drop (recent.length - m), ?_, ?_, ?_⟩
  · rw [List.append_assoc, List.take_append_drop]
  · rw [List.length_drop]
    omega
  · intro p hp
    rw [lastConsumed_append, lastConsumed_same hfront]
    exact hsame p (List.mem_of_mem_drop hp)

/-- Consumption that has moved and not come to rest. -/
theorem not_still {n : Nat} (hmoved : ∃ p ∈ ps, p.consumed ≠ seed) (hn : n ≤ 100)
    (hquiet : ¬ Quiet seed ps n) : ¬ Still seed ps := by
  rintro (hsame | hrest)
  · obtain ⟨p, hp, hne⟩ := hmoved
    exact hne (hsame p hp)
  · exact hquiet (hrest.mono hn)

theorem Still.snoc (h : Still seed ps)
    (hp : p.consumed = lastConsumed seed ps) : Still seed (ps ++ [p]) := by
  rcases h with hsame | hrest
  · left
    intro q hq
    rcases List.mem_append.mp hq with hq | hq
    · exact hsame q hq
    · rw [List.mem_singleton.mp hq, hp, lastConsumed_same hsame]
  · exact .inr (((quiet_snoc 100).mpr ⟨hrest, hp⟩).mono (by decide))

theorem lastConsumed_snoc (p : FeedbackPacket) :
    lastConsumed seed (ps ++ [p]) = p.consumed := by
  rw [lastConsumed_append]
  rfl

end Quiet

section Arithmetic

theorem int32_of_mem {i : Int} (hlo : -2147483648 ≤ i) (hhi : i < 2147483648) :
    int32 i = some i :=
  if_pos ⟨hlo, hhi⟩

/-- Truncating division of a difference, from either side. -/
theorem tdiv_cases (d : Int) {n : Int} :
    (0 ≤ d ∧ d.tdiv n = d / n) ∨ (d ≤ 0 ∧ d.tdiv n = -(-d / n)) := by
  rcases Int.le_total 0 d with hd | hd
  · exact .inl ⟨hd, Int.tdiv_eq_ediv_of_nonneg hd⟩
  · right
    refine ⟨hd, ?_⟩
    rw [← Int.tdiv_eq_ediv_of_nonneg (a := -d) (by omega), Int.neg_tdiv, Int.neg_neg]

/-- The depth the filter sees, in 256ths of a frame. -/
def depthQ8 (queued : UInt32) : Int :=
  256 * min queued.toNat 1920

/-- From `a` to `b` on the way to `t`, neither back nor past it, and on the move while `t` is 64
away. -/
structure Toward (t a b : Int) : Prop where
  above : a ≤ t → a ≤ b ∧ b ≤ t
  below : t ≤ a → t ≤ b ∧ b ≤ a
  nearer : 64 ≤ (t - a).natAbs → (t - b).natAbs < (t - a).natAbs

theorem Toward.distance {t a b : Int} (h : Toward t a b) : (t - b).natAbs ≤ (t - a).natAbs := by
  rcases Int.le_total a t with hat | hat
  · have := h.above hat
    omega
  · have := h.below hat
    omega

theorem asInt32_depth (queued : UInt32) :
    asInt32 ((if queued > 1920 then 1920 else queued) * 256) = depthQ8 queued := by
  unfold asInt32 depthQ8
  split
  · next h =>
    have hq : 1920 < queued.toNat := UInt32.lt_iff_toNat_lt.mp h
    rw [Nat.min_eq_right (Nat.le_of_lt hq)]
    rfl
  · next h =>
    have hq : queued.toNat ≤ 1920 := by
      have := mt UInt32.lt_iff_toNat_lt.mpr h
      exact Nat.le_of_not_lt this
    rw [UInt32.toNat_mul, show (256 : UInt32).toNat = 256 from rfl,
      Nat.mod_eq_of_lt (by omega), if_pos (by omega), Nat.min_eq_left hq]
    omega

theorem filter_ok {a : Int} (h0 : 0 ≤ a) (h1 : a ≤ 491520) (queued : UInt32) :
    ∃ b, UsbFeedback.filter a queued = some b ∧ 0 ≤ b ∧ b ≤ 491520 ∧
      Toward (depthQ8 queued) a b := by
  have ht0 : 0 ≤ depthQ8 queued := by
    unfold depthQ8
    omega
  have ht1 : depthQ8 queued ≤ 491520 := by
    unfold depthQ8
    omega
  unfold UsbFeedback.filter
  dsimp only
  rw [asInt32_depth]
  generalize depthQ8 queued = t at ht0 ht1 ⊢
  have hpart := tdiv_cases (t - a) (n := 64)
  generalize hk : (t - a).tdiv 64 = k at hpart
  have hfilter : (do
      let delta ← int32 (t - a)
      let part ← int32 (delta.tdiv 64)
      int32 (a + part)) = some (a + k) := by
    rw [int32_of_mem (by omega) (by omega), Option.bind_eq_bind, Option.bind_some, hk,
      int32_of_mem (by omega) (by omega), Option.bind_some, int32_of_mem (by omega) (by omega)]
  refine ⟨a + k, hfilter, by omega, by omega, ⟨fun _ => by omega, fun _ => by omega, ?_⟩⟩
  intro hfar
  omega

/-- The correction as a number. -/
def correctionOf (average : Int) : Int :=
  max (-3146) (min 3146 (((average - 245760) * 64).tdiv 1000))

theorem correction_ok {a : Int} (h0 : 0 ≤ a) (h1 : a ≤ 491520) :
    UsbFeedback.correction a = some (correctionOf a) := by
  have hpart := tdiv_cases ((a - 245760) * 64) (n := 1000)
  unfold UsbFeedback.correction correctionOf
  rw [show fbTargetFrames * 256 = 245760 from rfl]
  generalize hk : ((a - 245760) * 64).tdiv 1000 = k at hpart ⊢
  rw [int32_of_mem (by omega) (by omega), Option.bind_eq_bind, Option.bind_some,
    int32_of_mem (by omega) (by omega), Option.bind_some,
    int32_of_mem (by omega) (by omega), Option.bind_some, hk,
    int32_of_mem (by omega) (by omega), Option.bind_some]
  dsimp only
  congr 1
  split <;> split <;> omega

theorem correctionOf_bounds (a : Int) : -3146 ≤ correctionOf a ∧ correctionOf a ≤ 3146 := by
  unfold correctionOf
  omega

theorem correctionOf_mono {a b : Int} (h : a ≤ b) : correctionOf a ≤ correctionOf b := by
  have hdiv : ((a - 245760) * 64).tdiv 1000 ≤ ((b - 245760) * 64).tdiv 1000 :=
    Int.tdiv_le_tdiv (by decide) (by omega)
  unfold correctionOf
  omega

/-- The rate that goes with an average. -/
def rateOf (average : Int) : UInt32 :=
  UInt32.ofInt (fbNominalQ16 - correctionOf average)

theorem rateOf_toNat (a : Int) : ((rateOf a).toNat : Int) = 3145728 - correctionOf a := by
  have h := correctionOf_bounds a
  rw [rateOf, fbNominalQ16, UInt32.ofInt, UInt32.toNat_ofNat']
  generalize correctionOf a = c at h
  omega

theorem rateOf_target : rateOf (fbTargetFrames * 256) = UInt32.ofInt fbNominalQ16 := by
  decide

theorem rateOf_anti {a b : Int} (h : a ≤ b) : rateOf b ≤ rateOf a := by
  have hc := correctionOf_mono h
  have ha := rateOf_toNat a
  have hb := rateOf_toNat b
  apply UInt32.le_iff_toNat_le.mpr
  omega

end Arithmetic

namespace UsbFeedback

variable {seed : UInt32} {ps : List FeedbackPacket}

/-- What the state says of the packets so far. -/
structure Tracks (seed : UInt32) (ps : List FeedbackPacket) (s : UsbFeedback) : Prop where
  low : 0 ≤ s.averageQ8
  high : s.averageQ8 ≤ 491520
  value : s.valueQ16 = rateOf s.averageQ8
  consumed : s.consumed = lastConsumed seed ps
  idle : s.idlePackets.toNat ≤ 100
  /-- The counter of idle packets is right while the filter runs. -/
  running : s.active = true → (∃ p ∈ ps, p.consumed ≠ seed) ∧ s.idlePackets.toNat < 100 ∧
    Quiet seed ps s.idlePackets.toNat ∧ ¬ Quiet seed ps (s.idlePackets.toNat + 1)
  resting : s.active = false → Still seed ps ∧ s.averageQ8 = fbTargetFrames * 256

theorem tracks_reset (seed : UInt32) : Tracks seed [] (reset seed) where
  low := (by decide : (0 : Int) ≤ fbTargetFrames * 256)
  high := (by decide : fbTargetFrames * 256 ≤ 491520)
  value := rateOf_target.symm
  consumed := rfl
  idle := (by decide : (0 : UInt32).toNat ≤ 100)
  running h := nomatch h
  resting _ := ⟨.inl (fun _ h => nomatch h), rfl⟩

/-- The filter runs exactly while consumption has moved and not come to rest. -/
theorem Tracks.active_iff {s : UsbFeedback} (h : Tracks seed ps s) :
    s.active = true ↔ ¬ Still seed ps := by
  constructor
  · intro hactive
    obtain ⟨hmoved, hidle, -, hquiet⟩ := h.running hactive
    exact not_still hmoved hidle hquiet
  · intro hmoving
    by_contra hrest
    exact hmoving (h.resting (Bool.eq_false_iff.mpr hrest)).1

/-- What a step has noted before it decides whether the filter runs. -/
structure Noted (seed : UInt32) (ps : List FeedbackPacket) (s : UsbFeedback) : Prop where
  consumed : s.consumed = lastConsumed seed ps
  idle : s.idlePackets.toNat ≤ 100
  running : s.active = true → s.idlePackets.toNat < 100 → (∃ p ∈ ps, p.consumed ≠ seed) ∧
    Quiet seed ps s.idlePackets.toNat ∧ ¬ Quiet seed ps (s.idlePackets.toNat + 1)
  resting : (s.active = false ∨ 100 ≤ s.idlePackets.toNat) → Still seed ps

theorem observe_noted {s : UsbFeedback} (h : Tracks seed ps s) (p : FeedbackPacket) :
    Noted seed (ps ++ [p]) (s.observe p.consumed) ∧
      (s.observe p.consumed).averageQ8 = s.averageQ8 := by
  have hlast : lastConsumed seed (ps ++ [p]) = p.consumed := lastConsumed_snoc p
  unfold observe
  split
  · next hmove =>
    refine ⟨⟨hlast.symm, (by decide : (0 : UInt32).toNat ≤ 100), ?_, ?_⟩, rfl⟩
    · intro _ _
      rw [h.consumed] at hmove
      refine ⟨?_, quiet_zero _ _, fun hquiet => hmove ((quiet_snoc 0).mp hquiet).2⟩
      -- either this packet leaves the seed, or an earlier one has left it
      by_cases hp : p.consumed = seed
      · by_contra hnone
        push Not at hnone
        rw [lastConsumed_same fun q hq => hnone q (List.mem_append_left _ hq)] at hmove
        exact hmove hp
      · exact ⟨p, List.mem_append_right _ List.mem_cons_self, hp⟩
    · rintro (hactive | hidle)
      · cases hactive
      · exact absurd hidle (by decide : ¬ 100 ≤ (0 : UInt32).toNat)
  · next hsame =>
    have hp : p.consumed = lastConsumed seed ps := by
      rw [← h.consumed]
      exact not_not.mp hsame
    split
    · next hroom =>
      have hidle : s.idlePackets.toNat < 100 := UInt32.lt_iff_toNat_lt.mp hroom
      have hnext : (s.idlePackets + 1).toNat = s.idlePackets.toNat + 1 := by
        rw [UInt32.toNat_add]
        exact Nat.mod_eq_of_lt (by show s.idlePackets.toNat + 1 < _; omega)
      refine ⟨⟨by show s.consumed = _; rw [hlast, hp, h.consumed], ?_, ?_, ?_⟩, rfl⟩
      · show (s.idlePackets + 1).toNat ≤ 100
        omega
      · intro hactive _
        obtain ⟨⟨q, hq, hne⟩, -, hquiet, hno⟩ := h.running hactive
        show _ ∧ Quiet _ _ (s.idlePackets + 1).toNat ∧ ¬ Quiet _ _ ((s.idlePackets + 1).toNat + 1)
        rw [hnext]
        exact ⟨⟨q, List.mem_append_left _ hq, hne⟩, (quiet_snoc _).mpr ⟨hquiet, hp⟩,
          fun h => hno ((quiet_snoc _).mp h).1⟩
      · rintro (hactive | hfull)
        · exact (h.resting hactive).1.snoc hp
        · change 100 ≤ (s.idlePackets + 1).toNat at hfull
          cases hactive : s.active with
          | false => exact (h.resting hactive).1.snoc hp
          | true =>
            obtain ⟨-, -, hquiet, -⟩ := h.running hactive
            right
            rw [show 100 = s.idlePackets.toNat + 1 by omega]
            exact (quiet_snoc _).mpr ⟨hquiet, hp⟩
    · next hfull =>
      have hidle : ¬ s.idlePackets.toNat < 100 := fun hlt => hfull (UInt32.lt_iff_toNat_lt.mpr hlt)
      refine ⟨⟨by rw [hlast, hp, h.consumed], h.idle, fun _ h => absurd h hidle, fun _ => ?_⟩, rfl⟩
      cases hactive : s.active with
      | false => exact (h.resting hactive).1.snoc hp
      | true => exact absurd (h.running hactive).2.1 hidle

/-- One step keeps the books, and moves the average towards the depth of the queue while the filter
runs. -/
theorem step_tracks {s : UsbFeedback} (h : Tracks seed ps s) (p : FeedbackPacket) :
    ∃ s', s.step p.queued p.consumed = some (s', s'.valueQ16) ∧ Tracks seed (ps ++ [p]) s' ∧
      (s'.active = true → Toward (depthQ8 p.queued) s.averageQ8 s'.averageQ8) := by
  obtain ⟨hnoted, haverage⟩ := observe_noted h p
  unfold step
  dsimp only
  generalize s.observe p.consumed = o at hnoted haverage
  split
  · next hrest =>
    have hstill : Still seed (ps ++ [p]) := by
      apply hnoted.resting
      rcases Bool.or_eq_true_iff.mp hrest with hactive | hidle
      · exact .inl (by simpa using hactive)
      · exact .inr (UInt32.le_iff_toNat_le.mp (of_decide_eq_true hidle))
    refine ⟨_, rfl, ⟨(by decide : (0 : Int) ≤ fbTargetFrames * 256),
      (by decide : fbTargetFrames * 256 ≤ 491520), rateOf_target.symm, hnoted.consumed, hnoted.idle,
      (fun h => nomatch h), fun _ => ⟨hstill, rfl⟩⟩, fun h => nomatch h⟩
  · next hrun =>
    have hactive : o.active = true := by
      by_contra hoff
      exact hrun (by rw [Bool.eq_false_iff.mpr hoff]; rfl)
    have hidle : o.idlePackets.toNat < 100 := by
      by_contra hfull
      have hge : o.idlePackets ≥ 100 := UInt32.le_iff_toNat_le.mpr (Nat.le_of_not_lt hfull)
      exact hrun (by rw [decide_eq_true hge, Bool.or_true])
    obtain ⟨b, hfilter, hlow, hhigh, htoward⟩ :=
      filter_ok (a := o.averageQ8) (by rw [haverage]; exact h.low)
        (by rw [haverage]; exact h.high) p.queued
    have hbound := correctionOf_bounds b
    rw [hfilter, Option.bind_eq_bind, Option.bind_some, correction_ok hlow hhigh,
      Option.bind_some, int32_of_mem (by unfold fbNominalQ16; omega)
      (by unfold fbNominalQ16; omega), Option.bind_some]
    rw [haverage] at htoward
    obtain ⟨hmoved, hquiet, hno⟩ := hnoted.running hactive hidle
    exact ⟨_, rfl, ⟨hlow, hhigh, rfl, hnoted.consumed, hnoted.idle,
      fun _ => ⟨hmoved, hidle, hquiet, hno⟩, (fun h => nomatch hactive.symm.trans h)⟩,
      fun _ => htoward⟩

theorem run_tracks {s : UsbFeedback} (h : Tracks seed ps s) (qs : List FeedbackPacket) :
    ∃ t, s.run qs = some t ∧ Tracks seed (ps ++ qs) t := by
  induction qs generalizing s ps with
  | nil => exact ⟨s, rfl, by rw [List.append_nil]; exact h⟩
  | cons p qs ih =>
    obtain ⟨s', hstep, htracks, -⟩ := step_tracks h p
    obtain ⟨t, hrun, ht⟩ := ih htracks
    refine ⟨t, ?_, by rw [List.append_assoc] at ht; exact ht⟩
    rw [run, hstep]
    exact hrun

end UsbFeedback

/-- After any packets, one more: no signed operation overflows, the average and the rate keep their
bounds, the rate is nominal at rest, a larger average has no larger rate, and the average closes in
on the depth of the queue without passing it. -/
theorem feedback_settles (seed : UInt32) (ps : List FeedbackPacket) (p : FeedbackPacket) :
    ∃ s s', (UsbFeedback.reset seed).run ps = some s ∧
      s.step p.queued p.consumed = some (s', s'.valueQ16) ∧
      (0 ≤ s'.averageQ8 ∧ s'.averageQ8 ≤ 1920 * 256) ∧
      (fbNominalQ16 - 3146 ≤ s'.valueQ16.toNat ∧ (s'.valueQ16.toNat : Int) ≤ fbNominalQ16 + 3146) ∧
      (Still seed (ps ++ [p]) → (s'.valueQ16.toNat : Int) = fbNominalQ16) ∧
      (∀ seed' qs t t' value (q : FeedbackPacket), (UsbFeedback.reset seed').run qs = some t →
        t.step q.queued q.consumed = some (t', value) → s'.averageQ8 ≤ t'.averageQ8 →
        value ≤ s'.valueQ16) ∧
      (¬ Still seed (ps ++ [p]) → p.queued ≤ 1920 →
        (256 * p.queued.toNat - s'.averageQ8).natAbs ≤
          (256 * p.queued.toNat - s.averageQ8).natAbs ∧
        (s.averageQ8 ≤ 256 * p.queued.toNat → s'.averageQ8 ≤ 256 * p.queued.toNat) ∧
        (256 * p.queued.toNat ≤ s.averageQ8 → 256 * p.queued.toNat ≤ s'.averageQ8) ∧
        (64 ≤ (256 * p.queued.toNat - s.averageQ8).natAbs →
          (256 * p.queued.toNat - s'.averageQ8).natAbs <
            (256 * p.queued.toNat - s.averageQ8).natAbs)) := by
  obtain ⟨s, hrun, hs⟩ := UsbFeedback.run_tracks (UsbFeedback.tracks_reset seed) ps
  obtain ⟨s', hstep, hs', htoward⟩ := UsbFeedback.step_tracks hs p
  have hbounds := correctionOf_bounds s'.averageQ8
  have hrate := rateOf_toNat s'.averageQ8
  rw [← hs'.value] at hrate
  refine ⟨s, s', hrun, hstep, ⟨hs'.low, hs'.high⟩, ?_, ?_, ?_, ?_⟩
  · unfold fbNominalQ16
    omega
  · intro hstill
    have hrest : s'.active = false := by
      apply Bool.eq_false_iff.mpr
      exact fun hactive => hs'.active_iff.mp hactive hstill
    rw [hs'.value, (hs'.resting hrest).2]
    decide
  · intro seed' qs t t' value q hrun' hstep' hle
    obtain ⟨u, hu, htracks⟩ := UsbFeedback.run_tracks (UsbFeedback.tracks_reset seed') qs
    cases hu.symm.trans hrun'
    obtain ⟨u', hu', htracks', -⟩ := UsbFeedback.step_tracks htracks q
    cases hu'.symm.trans hstep'
    rw [htracks'.value, hs'.value]
    exact rateOf_anti hle
  · intro hmoving hdepth
    have h := htoward (hs'.active_iff.mpr hmoving)
    have hq : depthQ8 p.queued = 256 * p.queued.toNat := by
      have hle : p.queued.toNat ≤ 1920 := UInt32.le_iff_toNat_le.mp hdepth
      rw [depthQ8, Nat.min_eq_left hle]
    rw [hq] at h
    exact ⟨h.distance, fun hat => (h.above hat).2, fun hta => (h.below hta).1, h.nearer⟩

end UllReceiver.Usb
