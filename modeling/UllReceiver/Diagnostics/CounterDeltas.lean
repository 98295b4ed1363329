import Mathlib

/-!
# Counter deltas

`compare` of `watch_receiver.py`: what two samples of the receiver's counters say of the time
between them.  A dictionary is a list of its items; a missing key that is read without a test ends
the call.  The rates returned for display are left out, and quotients are exact.
-/

namespace UllReceiver.Diagnostics

/-- The counters of one sample by name. -/
structure Sample where
  items : List (String × UInt32)
  distinct : (items.map Prod.fst).Nodup

namespace Sample

def names (s : Sample) : List String :=
  s.items.map Prod.fst

def get (s : Sample) (k : String) : Option UInt32 :=
  s.items.lookup k

end Sample

/-- `COUNTERS` and `EXTRA_COUNTERS`. -/
def counterNames : List String :=
  ["frame", "submitted", "skipped", "valid_rx", "rejected_rx",
   "audio_completed", "ack_left", "ack_right", "retry_attempted",
   "retry_completed", "retry_failures", "retry_skips",
   "source_underflows", "source_discarded", "spi_exchanges",
   "spi_timeouts", "spi_crc_errors", "spi_sequence_errors",
   "codec_errors", "playback_queue_drops", "codec_resets",
   "mic_received", "mic_decoded", "mic_dropped",
   "usb_playback_dropped_frames", "repeated_audio_frames",
   "first_reply_authenticated", "second_reply_authenticated",
   "first_window_stereo_ack", "second_window_new_stereo_ack",
   "no_stereo_ack", "fallback_attempted", "fallback_sent", "fallback_failed",
   "retry_schedule_conflicts", "retry_deadline_expired",
   "usb_playback_packets", "usb_playback_frames", "usb_consumed_frames",
   "usb_dropped_frames", "usb_malformed_packets",
   "usb_capture_underflows", "usb_capture_dropped_frames",
   "parent_accepted", "parent_duplicates", "parent_empty",
   "parent_acked", "parent_rejected", "parent_stale",
   "control_repeat_allowed", "control_repeat_held", "control_data_rx"]

def counterFamilies : List String :=
  ["ch_", "retry_failure_", "retry_cache_"]

/-- A name `compare` takes for a counter's. -/
def isCounter (k : String) : Bool :=
  counterNames.contains k || counterFamilies.any fun family => family.toList.isPrefixOf k.toList

/-- The counters of both samples. -/
def commonKeys (before after : Sample) : List String :=
  after.names.filter fun k => isCounter k && before.names.contains k

/-- The value of a key that is there. -/
def Sample.value (s : Sample) (k : String) : UInt32 :=
  (s.get k).getD 0

/-- `after[k] < before[k] < 0xf0000000` -/
def fell (before after : Sample) (k : String) : Bool :=
  after.value k < before.value k && before.value k < 0xf0000000

def resetKeys (before after : Sample) : List String :=
  (commonKeys before after).filter (fell before after)

/-- `continuous_uptime` -/
def continuousUptime (before after : Sample) : Bool :=
  before.names.contains "uptime_ms" && after.names.contains "uptime_ms" &&
    after.value "uptime_ms" > before.value "uptime_ms"

/-- The test for a restart; `none` is a missing key. -/
def uptimeFell (before after : Sample) : Option Bool :=
  if before.names.contains "uptime_ms" then do
    let later ← after.get "uptime_ms"
    some (later < before.value "uptime_ms" && before.value "uptime_ms" < 0xf0000000)
  else some false

/-- `delta` -/
def deltas (before after : Sample) : List (String × UInt32) :=
  let keys := (commonKeys before after).filter fun k => !(resetKeys before after).contains k
  (keys.insertionSort (· ≤ ·)).map fun k => (k, after.value k - before.value k)

/-- `round`, to an integer. -/
def roundHalfEven (q : ℚ) : ℤ :=
  if q - ⌊q⌋ < 1 / 2 then ⌊q⌋
  else if q - ⌊q⌋ > 1 / 2 then ⌊q⌋ + 1
  else if ⌊q⌋ % 2 = 0 then ⌊q⌋ else ⌊q⌋ + 1

/-- The anomalies of a receiver that plays. -/
def playbackAnomalies (after : Sample) (delta : List (String × UInt32)) (seconds : ℚ) :
    List String :=
  let count := fun k => ((delta.lookup k).getD 0).toNat
  let repeated := count "repeated_audio_frames"
  let losses := ["spi_timeouts", "spi_crc_errors", "spi_sequence_errors", "codec_errors",
    "playback_queue_drops", "codec_resets", "usb_dropped_frames", "usb_malformed_packets",
    "source_underflows", "skipped", "retry_deadline_expired", "retry_schedule_conflicts"].filter
      fun k => count k != 0
  -- the fraction is rounded to four digits
  let unconfirmed := roundHalfEven ((count "no_stereo_ack" : ℚ) / repeated * 10000)
  losses ++
    (if repeated ≥ 50 ∧ unconfirmed ≥ 500 then ["radio_stereo_reply_unconfirmed"] else []) ++
    (if (after.get "usb_buffered_frames").getD 960 < 240 then ["low_usb_playback_queue"] else []) ++
    (if seconds < 5 ∧ (count "usb_playback_packets" : ℚ) < seconds * 800 then
      ["usb_packet_rate_low"] else [])

/-- `compare`, with its `delta` and `anomalies`. -/
def compare (before after : Sample) (seconds : ℚ) :
    Option (List (String × UInt32) × List String) := do
  let restarted ← uptimeFell before after
  if restarted then some ([], ["receiver_counter_reset"])
  else if resetKeys before after ≠ [] ∧ ¬ continuousUptime before after then
    some ([], ["receiver_counter_reset"])
  else
    let delta := deltas before after
    let anomalies := if resetKeys before after ≠ [] then ["partial_counter_reset"] else []
    let active := (after.get "usb_mounted").getD 0 ≠ 0 ∧
      (after.get "usb_playback_active").getD 0 ≠ 0
    some (delta, anomalies ++ if active then playbackAnomalies after delta seconds else [])

/-! ## What it says of two samples -/

/-- Every counter, and the uptime, truly went up by less than 2^28. -/
structure Increased (before after : Sample) (d : String → Nat) : Prop where
  small : ∀ k, d k < 2 ^ 28
  counted : ∀ k, (isCounter k = true ∨ k = "uptime_ms") → ∀ x y, before.get k = some x →
    after.get k = some y → y.toNat = (x.toNat + d k) % 2 ^ 32

/-- Some counter went down, from below the values that a wrap comes from. -/
def SomeFell (before after : Sample) : Prop :=
  ∃ k x y, isCounter k = true ∧ before.get k = some x ∧ after.get k = some y ∧ y < x ∧
    x < 0xf0000000

/-- The uptime is there and went up. -/
def UptimeRose (before after : Sample) : Prop :=
  ∃ x y, before.get "uptime_ms" = some x ∧ after.get "uptime_ms" = some y ∧ x < y

/-- The deltas are those of the counters of both samples that `P` holds of, modulo 2^32. -/
def DeltasOf (before after : Sample) (P : UInt32 → UInt32 → Prop)
    (delta : List (String × UInt32)) : Prop :=
  ∀ k v, delta.lookup k = some v ↔ isCounter k = true ∧
    ∃ x y, before.get k = some x ∧ after.get k = some y ∧ P x y ∧ v = y - x

structure DeltasHonest (before after : Sample) (seconds : ℚ) : Prop where
  /-- The deltas are the true increases. -/
  wraps : ∀ d, Increased before after d → ∃ delta anomalies,
    compare before after seconds = some (delta, anomalies) ∧
    (∀ k n, (∃ v, delta.lookup k = some v ∧ v.toNat = n) ↔ isCounter k = true ∧
      (before.get k).isSome = true ∧ (after.get k).isSome = true ∧ n = d k) ∧
    "partial_counter_reset" ∉ anomalies ∧ "receiver_counter_reset" ∉ anomalies
  partly : SomeFell before after → UptimeRose before after → ∃ delta anomalies,
    compare before after seconds = some (delta, anomalies) ∧
    DeltasOf before after (fun x y => ¬ (y < x ∧ x < 0xf0000000)) delta ∧
    "partial_counter_reset" ∈ anomalies
  wholly : SomeFell before after → ¬ UptimeRose before after →
    compare before after seconds = some ([], ["receiver_counter_reset"])
  bounded : ∀ delta anomalies, compare before after seconds = some (delta, anomalies) →
    ∀ k v, (k, v) ∈ delta → ∃ y, after.get k = some y ∧ v.toNat ≤ y.toNat + 2 ^ 28

section Compare

variable {before after : Sample}

theorem lookup_isSome_iff (items : List (String × UInt32)) (k : String) :
    k ∈ items.map Prod.fst ↔ ∃ v, items.lookup k = some v := by
  induction items with
  | nil => exact ⟨fun h => absurd h List.not_mem_nil, fun ⟨_, h⟩ => nomatch h⟩
  | cons item items ih =>
      rw [List.map_cons, List.mem_cons, List.lookup_cons]
      by_cases hk : k = item.1
      · rw [beq_iff_eq.mpr hk]
        exact ⟨fun _ => ⟨_, rfl⟩, fun _ => .inl hk⟩
      · rw [beq_eq_false_iff_ne.mpr hk]
        exact ⟨fun h => ih.mp (h.resolve_left hk), fun h => .inr (ih.mpr h)⟩

theorem Sample.mem_names {s : Sample} {k : String} : k ∈ s.names ↔ ∃ x, s.get k = some x :=
  lookup_isSome_iff s.items k

theorem Sample.value_of_get {s : Sample} {k : String} {x : UInt32} (h : s.get k = some x) :
    s.value k = x := by
  unfold Sample.value
  rw [h, Option.getD_some]

theorem mem_commonKeys {k : String} : k ∈ commonKeys before after ↔
    isCounter k = true ∧ ∃ x y, before.get k = some x ∧ after.get k = some y := by
  unfold commonKeys
  rw [List.mem_filter, Bool.and_eq_true, List.contains_iff_mem, Sample.mem_names,
    Sample.mem_names]
  constructor
  · rintro ⟨⟨y, hy⟩, hk, x, hx⟩
    exact ⟨hk, x, y, hx, hy⟩
  · rintro ⟨hk, x, y, hx, hy⟩
    exact ⟨⟨y, hy⟩, hk, x, hx⟩

theorem mem_resetKeys {k : String} : k ∈ resetKeys before after ↔ isCounter k = true ∧
    ∃ x y, before.get k = some x ∧ after.get k = some y ∧ y < x ∧ x < 0xf0000000 := by
  unfold resetKeys
  rw [List.mem_filter, mem_commonKeys]
  constructor
  · rintro ⟨⟨hk, x, y, hx, hy⟩, hfell⟩
    unfold fell at hfell
    rw [Sample.value_of_get hx, Sample.value_of_get hy, Bool.and_eq_true, decide_eq_true_iff,
      decide_eq_true_iff] at hfell
    exact ⟨hk, x, y, hx, hy, hfell⟩
  · rintro ⟨hk, x, y, hx, hy, hlt, hbelow⟩
    refine ⟨⟨hk, x, y, hx, hy⟩, ?_⟩
    unfold fell
    rw [Sample.value_of_get hx, Sample.value_of_get hy, decide_eq_true hlt, decide_eq_true hbelow]
    rfl

theorem resetKeys_ne_nil : resetKeys before after ≠ [] ↔ SomeFell before after := by
  constructor
  · intro h
    obtain ⟨k, hk⟩ := List.exists_mem_of_ne_nil _ h
    obtain ⟨hcounter, x, y, hfell⟩ := mem_resetKeys.mp hk
    exact ⟨k, x, y, hcounter, hfell⟩
  · rintro ⟨k, x, y, hcounter, hfell⟩
    exact List.ne_nil_of_mem (mem_resetKeys.mpr ⟨hcounter, x, y, hfell⟩)

theorem continuousUptime_iff : continuousUptime before after = true ↔ UptimeRose before after := by
  unfold continuousUptime
  rw [Bool.and_eq_true, Bool.and_eq_true, List.contains_iff_mem, List.contains_iff_mem,
    Sample.mem_names, Sample.mem_names, decide_eq_true_iff]
  constructor
  · rintro ⟨⟨⟨x, hx⟩, y, hy⟩, hlt⟩
    rw [Sample.value_of_get hx, Sample.value_of_get hy] at hlt
    exact ⟨x, y, hx, hy, hlt⟩
  · rintro ⟨x, y, hx, hy, hlt⟩
    refine ⟨⟨⟨x, hx⟩, y, hy⟩, ?_⟩
    rw [Sample.value_of_get hx, Sample.value_of_get hy]
    exact hlt

theorem lookup_map_keys (f : String → UInt32) (keys : List String) (k : String) :
    (keys.map fun k => (k, f k)).lookup k = if k ∈ keys then some (f k) else none := by
  induction keys with
  | nil => rfl
  | cons key keys ih =>
      rw [List.map_cons, List.lookup_cons]
      by_cases hk : k = key
      · rw [beq_iff_eq.mpr hk, if_pos (hk ▸ List.mem_cons_self), hk]
      · rw [beq_eq_false_iff_ne.mpr hk]
        dsimp only
        rw [ih]
        simp only [List.mem_cons, hk, false_or]

theorem deltasOf_deltas :
    DeltasOf before after (fun x y => ¬ (y < x ∧ x < 0xf0000000)) (deltas before after) := by
  intro k v
  unfold deltas
  dsimp only
  rw [lookup_map_keys fun k => after.value k - before.value k]
  generalize hsorted : ((commonKeys before after).filter fun k =>
    !(resetKeys before after).contains k).insertionSort (· ≤ ·) = keys
  have hkeys : k ∈ keys ↔ k ∈ commonKeys before after ∧ k ∉ resetKeys before after := by
    rw [← hsorted, List.mem_insertionSort, List.mem_filter, Bool.not_eq_true', ← Bool.not_eq_true,
      List.contains_iff_mem]
  rw [mem_commonKeys, mem_resetKeys] at hkeys
  constructor
  · intro h
    split at h
    next hk =>
      obtain ⟨⟨hcounter, x, y, hx, hy⟩, hkept⟩ := hkeys.mp hk
      rw [Sample.value_of_get hx, Sample.value_of_get hy] at h
      exact ⟨hcounter, x, y, hx, hy, fun hfell => hkept ⟨hcounter, x, y, hx, hy, hfell⟩,
        (Option.some.inj h).symm⟩
    · cases h
  · rintro ⟨hcounter, x, y, hx, hy, hkept, rfl⟩
    rw [if_pos, Sample.value_of_get hx, Sample.value_of_get hy]
    refine hkeys.mpr ⟨⟨hcounter, x, y, hx, hy⟩, ?_⟩
    rintro ⟨-, x', y', hx', hy', hfell⟩
    rw [hx] at hx'
    rw [hy] at hy'
    cases hx'
    cases hy'
    exact hkept hfell

theorem mem_deltas {k : String} {v : UInt32} (h : (k, v) ∈ deltas before after) :
    (deltas before after).lookup k = some v := by
  unfold deltas at h ⊢
  obtain ⟨key, hkey, hpair⟩ := List.mem_map.mp h
  cases hpair
  rw [lookup_map_keys fun k => after.value k - before.value k, if_pos hkey]

/-! ## Words -/

theorem sub_of_increase {x y : UInt32} {d : Nat} (hd : d < 2 ^ 28)
    (h : y.toNat = (x.toNat + d) % 2 ^ 32) :
    (y - x).toNat = d ∧ ¬ (y < x ∧ x < 0xf0000000) := by
  have hx := x.toNat_lt
  constructor
  · rw [UInt32.toNat_sub, h]
    omega
  · rintro ⟨hlt, hbelow⟩
    rw [UInt32.lt_iff_toNat_lt] at hlt hbelow
    change x.toNat < 0xf0000000 at hbelow
    omega

theorem sub_le_of_kept {x y : UInt32} (h : ¬ (y < x ∧ x < 0xf0000000)) :
    (y - x).toNat ≤ y.toNat + 2 ^ 28 := by
  have hx := x.toNat_lt
  have hy := y.toNat_lt
  rw [UInt32.lt_iff_toNat_lt, UInt32.lt_iff_toNat_lt] at h
  change ¬ (y.toNat < x.toNat ∧ x.toNat < 0xf0000000) at h
  rw [UInt32.toNat_sub]
  omega

/-! ## The call -/

/-- The later sample lacks the uptime the earlier one has. -/
def UptimeLost (before after : Sample) : Prop :=
  "uptime_ms" ∈ before.names ∧ "uptime_ms" ∉ after.names

theorem uptimeFell_lost (h : UptimeLost before after) : uptimeFell before after = none := by
  unfold uptimeFell
  have hnone : after.get "uptime_ms" = none := by
    cases hget : after.get "uptime_ms" with
    | none => rfl
    | some y => exact absurd (Sample.mem_names.mpr ⟨y, hget⟩) h.2
  rw [if_pos (List.contains_iff_mem.mpr h.1), hnone]
  rfl

theorem compare_lost (seconds : ℚ) (h : UptimeLost before after) :
    compare before after seconds = none := by
  unfold compare
  rw [uptimeFell_lost h]
  rfl

/-- What the test for a restart finds when no key is missing. -/
theorem uptimeFell_some (h : ¬ UptimeLost before after) : ∃ restarted : Bool,
    uptimeFell before after = some restarted ∧ (restarted = true ↔
      ∃ x y, before.get "uptime_ms" = some x ∧ after.get "uptime_ms" = some y ∧ y < x ∧
        x < 0xf0000000) := by
  unfold uptimeFell
  by_cases hbefore : "uptime_ms" ∈ before.names
  · have hafter : "uptime_ms" ∈ after.names := by
      by_contra hno
      exact h ⟨hbefore, hno⟩
    obtain ⟨x, hx⟩ := Sample.mem_names.mp hbefore
    obtain ⟨y, hy⟩ := Sample.mem_names.mp hafter
    rw [if_pos (List.contains_iff_mem.mpr hbefore), hy, Sample.value_of_get hx]
    refine ⟨_, rfl, ?_⟩
    rw [Bool.and_eq_true, decide_eq_true_iff, decide_eq_true_iff]
    constructor
    · intro hfell
      exact ⟨x, y, hx, rfl, hfell⟩
    · rintro ⟨x', y', hx', hy', hfell⟩
      rw [hx] at hx'
      cases hx'
      cases hy'
      exact hfell
  · rw [if_neg (fun hc => hbefore (List.contains_iff_mem.mp hc))]
    refine ⟨false, rfl, (fun hc => nomatch hc), ?_⟩
    rintro ⟨x, y, hx, -⟩
    exact absurd (Sample.mem_names.mpr ⟨x, hx⟩) hbefore

/-- Neither reset is among the anomalies of a receiver that plays. -/
theorem playback_no_reset (delta : List (String × UInt32)) (seconds : ℚ) :
    "partial_counter_reset" ∉ playbackAnomalies after delta seconds ∧
      "receiver_counter_reset" ∉ playbackAnomalies after delta seconds := by
  unfold playbackAnomalies
  dsimp only
  simp only [List.mem_append, List.mem_filter, not_or]
  refine ⟨⟨⟨⟨?_, ?_⟩, ?_⟩, ?_⟩, ⟨⟨?_, ?_⟩, ?_⟩, ?_⟩
  · exact fun h => absurd h.1 (by decide)
  · split <;> decide
  · split <;> decide
  · split <;> decide
  · exact fun h => absurd h.1 (by decide)
  · split <;> decide
  · split <;> decide
  · split <;> decide

/-- What is returned when the receiver did not restart. -/
theorem compare_kept (seconds : ℚ) (hrestart : uptimeFell before after = some false)
    (hreset : SomeFell before after → UptimeRose before after) :
    ∃ rest, compare before after seconds = some (deltas before after,
      (if resetKeys before after ≠ [] then ["partial_counter_reset"] else []) ++ rest) ∧
      "partial_counter_reset" ∉ rest ∧ "receiver_counter_reset" ∉ rest := by
  have hgo : ¬ (resetKeys before after ≠ [] ∧ ¬ continuousUptime before after = true) := by
    rw [resetKeys_ne_nil, continuousUptime_iff]
    exact fun h => h.2 (hreset h.1)
  unfold compare
  rw [hrestart, Option.bind_eq_bind, Option.bind_some, if_neg Bool.false_ne_true, if_neg hgo]
  refine ⟨_, rfl, ?_⟩
  split
  · exact playback_no_reset _ seconds
  · exact ⟨List.not_mem_nil, List.not_mem_nil⟩

theorem compare_wholly (seconds : ℚ) (hlost : ¬ UptimeLost before after)
    (hfell : SomeFell before after) (hrose : ¬ UptimeRose before after) :
    compare before after seconds = some ([], ["receiver_counter_reset"]) := by
  obtain ⟨restarted, hrestart, -⟩ := uptimeFell_some hlost
  unfold compare
  rw [hrestart, Option.bind_eq_bind, Option.bind_some]
  split
  · rfl
  · rw [if_pos ⟨resetKeys_ne_nil.mpr hfell, fun h => hrose (continuousUptime_iff.mp h)⟩]

theorem uptimeFell_rose (h : UptimeRose before after) : uptimeFell before after = some false := by
  obtain ⟨x, y, hx, hy, hlt⟩ := h
  have hlost : ¬ UptimeLost before after := fun hl => hl.2 (Sample.mem_names.mpr ⟨y, hy⟩)
  obtain ⟨restarted, hrestart, hiff⟩ := uptimeFell_some hlost
  cases restarted with
  | false => exact hrestart
  | true =>
      obtain ⟨x', y', hx', hy', hfell, -⟩ := hiff.mp rfl
      rw [hx] at hx'
      rw [hy] at hy'
      cases hx'
      cases hy'
      exact absurd hlt (UInt32.lt_asymm hfell)

/-- Nothing fell that truly went up. -/
theorem Increased.kept {d : String → Nat} (h : Increased before after d) {k : String}
    (hk : isCounter k = true ∨ k = "uptime_ms") {x y : UInt32} (hx : before.get k = some x)
    (hy : after.get k = some y) : (y - x).toNat = d k ∧ ¬ (y < x ∧ x < 0xf0000000) :=
  sub_of_increase (h.small k) (h.counted k hk x y hx hy)

theorem compare_wraps (seconds : ℚ) (hlost : ¬ UptimeLost before after) {d : String → Nat}
    (h : Increased before after d) : ∃ delta anomalies,
      compare before after seconds = some (delta, anomalies) ∧
      (∀ k n, (∃ v, delta.lookup k = some v ∧ v.toNat = n) ↔ isCounter k = true ∧
        (before.get k).isSome = true ∧ (after.get k).isSome = true ∧ n = d k) ∧
      "partial_counter_reset" ∉ anomalies ∧ "receiver_counter_reset" ∉ anomalies := by
  have hnone : ¬ SomeFell before after := by
    rintro ⟨k, x, y, hcounter, hx, hy, hfell⟩
    exact (h.kept (.inl hcounter) hx hy).2 hfell
  have hrestart : uptimeFell before after = some false := by
    obtain ⟨restarted, hrestart, hiff⟩ := uptimeFell_some hlost
    cases restarted with
    | false => exact hrestart
    | true =>
        obtain ⟨x, y, hx, hy, hfell⟩ := hiff.mp rfl
        exact absurd hfell (h.kept (.inr rfl) hx hy).2
  obtain ⟨rest, hcompare, hrest⟩ := compare_kept seconds hrestart fun hs => absurd hs hnone
  rw [if_neg (fun hne => hnone (resetKeys_ne_nil.mp hne)), List.nil_append] at hcompare
  refine ⟨_, _, hcompare, ?_, hrest⟩
  intro k n
  constructor
  · rintro ⟨v, hv, rfl⟩
    obtain ⟨hcounter, x, y, hx, hy, -, rfl⟩ := (deltasOf_deltas k v).mp hv
    rw [hx, hy]
    exact ⟨hcounter, rfl, rfl, (h.kept (.inl hcounter) hx hy).1⟩
  · rintro ⟨hcounter, hbefore, hafter, rfl⟩
    obtain ⟨x, hx⟩ := Option.isSome_iff_exists.mp hbefore
    obtain ⟨y, hy⟩ := Option.isSome_iff_exists.mp hafter
    obtain ⟨htrue, hkept⟩ := h.kept (.inl hcounter) hx hy
    exact ⟨y - x, (deltasOf_deltas k _).mpr ⟨hcounter, x, y, hx, hy, hkept, rfl⟩, htrue⟩

theorem compare_partly (seconds : ℚ) (hfell : SomeFell before after)
    (hrose : UptimeRose before after) : ∃ delta anomalies,
      compare before after seconds = some (delta, anomalies) ∧
      DeltasOf before after (fun x y => ¬ (y < x ∧ x < 0xf0000000)) delta ∧
      "partial_counter_reset" ∈ anomalies := by
  obtain ⟨rest, hcompare, -⟩ := compare_kept seconds (uptimeFell_rose hrose) fun _ => hrose
  rw [if_pos (resetKeys_ne_nil.mpr hfell)] at hcompare
  exact ⟨_, _, hcompare, deltasOf_deltas, List.mem_append_left _ List.mem_cons_self⟩

theorem compare_bounded {seconds : ℚ} {delta : List (String × UInt32)} {anomalies : List String}
    (h : compare before after seconds = some (delta, anomalies)) {k : String} {v : UInt32}
    (hk : (k, v) ∈ delta) : ∃ y, after.get k = some y ∧ v.toNat ≤ y.toNat + 2 ^ 28 := by
  have hdelta : delta = [] ∨ delta = deltas before after := by
    obtain ⟨restarted, -, h⟩ := Option.bind_eq_some_iff.mp h
    split at h
    · cases h
      exact .inl rfl
    · split at h
      · cases h
        exact .inl rfl
      · cases h
        exact .inr rfl
  rcases hdelta with rfl | rfl
  · exact absurd hk List.not_mem_nil
  · obtain ⟨-, x, y, -, hy, hkept, rfl⟩ := (deltasOf_deltas k v).mp (mem_deltas hk)
    exact ⟨y, hy, sub_le_of_kept hkept⟩

end Compare

/-- `compare` keeps all it promises of two samples, except where the later one has lost the uptime
of the earlier one while every counter went up, or one fell: there it ends on the missing key. -/
theorem deltasHonest_iff (before after : Sample) (seconds : ℚ) :
    DeltasHonest before after seconds ↔
      ¬ (UptimeLost before after ∧
        ((∃ d, Increased before after d) ∨ SomeFell before after)) := by
  constructor
  · rintro h ⟨hlost, hpremise⟩
    have hnone := compare_lost seconds hlost
    rcases hpremise with ⟨d, hd⟩ | hfell
    · obtain ⟨_, _, hsome, -⟩ := h.wraps d hd
      rw [hnone] at hsome
      cases hsome
    · have hrose : ¬ UptimeRose before after := by
        rintro ⟨x, y, -, hy, -⟩
        exact hlost.2 (Sample.mem_names.mpr ⟨y, hy⟩)
      have hsome := h.wholly hfell hrose
      rw [hnone] at hsome
      cases hsome
  · intro h
    refine ⟨?_, fun hfell hrose => compare_partly seconds hfell hrose, ?_,
      fun _ _ hsome _ _ hk => compare_bounded hsome hk⟩
    · intro d hd
      exact compare_wraps seconds (fun hlost => h ⟨hlost, .inl ⟨d, hd⟩⟩) hd
    · intro hfell hrose
      exact compare_wholly seconds (fun hlost => h ⟨hlost, .inr hfell⟩) hfell hrose

/-- A later sample without the uptime: the counter that fell brings no fresh baseline. -/
theorem deltas_lost_uptime : ¬ DeltasHonest ⟨[("uptime_ms", 1000), ("frame", 5)], by decide⟩
    ⟨[("frame", 0)], by decide⟩ 1 := by
  intro h
  have hfell : SomeFell ⟨[("uptime_ms", 1000), ("frame", 5)], by decide⟩
      ⟨[("frame", 0)], by decide⟩ :=
    ⟨"frame", 5, 0, by decide, rfl, rfl, by decide, by decide⟩
  have hrose : ¬ UptimeRose ⟨[("uptime_ms", 1000), ("frame", 5)], by decide⟩
      ⟨[("frame", 0)], by decide⟩ := by
    rintro ⟨x, y, -, hy, -⟩
    cases hy
  have hlost : UptimeLost ⟨[("uptime_ms", 1000), ("frame", 5)], by decide⟩
      ⟨[("frame", 0)], by decide⟩ := ⟨by decide, by decide⟩
  have hsome := h.wholly hfell hrose
  rw [compare_lost 1 hlost] at hsome
  cases hsome

end UllReceiver.Diagnostics
