import Mathlib
import UllReceiver.Air.TonePacket
import UllReceiver.Library.Buffer
import UllReceiver.Library.ChannelSelection

/-!
# Hopping

`ull_ble_csa2_subevent` with its own arrays and widths: no access is out of bounds, the search for
the unmapped channel ends, and the channel is that of channel selection algorithm #2.
-/

namespace UllReceiver.Air

open Library

/-! ## The arrays -/

/-- `map[i / 8] & (1u << (i % 8))`. -/
def mapBitAt (map : List UInt8) (i : Nat) : Option Bool :=
  (load map (i / 8)).map fun byte => byte.toUInt32 &&& (1 : UInt32) <<< UInt32.ofNat (i % 8) != 0

/-- Channel `i` is looked at; the array has room for 37. -/
def csaEntryAt (map channels : List UInt8) (i : Nat) : Option (List UInt8) := do
  if ← mapBitAt map i then pushWithin 37 channels (UInt8.ofNat i) else some channels

/-- The used channels. -/
def csaTableAt (map : List UInt8) : Option (List UInt8) :=
  (List.range 37).foldlM (csaEntryAt map) []

/-- The search for `channel` among the entries written; `index` counts those behind it. -/
def csaFindAt (channel : UInt8) : List UInt8 → Nat → Option Nat
  | [], _ => none
  | c :: rest, index => if c != channel then csaFindAt channel rest (index + 1) else some index

def csaEventIndexAt (map channels : List UInt8) (eventPrn : UInt16) : Option Nat := do
  let unmapped := UInt8.ofNat (eventPrn.toNat % 37)
  if ← mapBitAt map unmapped.toNat then csaFindAt unmapped channels 0
  else (fits 32 (channels.length * eventPrn.toNat)).map (· >>> 16)

def csaDistanceAt (used : Nat) : Option Nat := do
  let a ← (if used > 5 then sizeSub used 5 else some 0)
  let b ← (if used > 10 then (sizeSub used 10).map (· / 2) else some 0)
  let a := if a > 3 then 3 else a
  let b := if b > 11 then 11 else b
  let distance := if a > 1 then a else 1
  some (if b > distance then b else distance)

/-- The loop over the subevents. -/
def csaStepsAt (id : UInt16) (used distance : Nat) : Nat → UInt16 → Nat → Option Nat
  | 0, _, index => some index
  | n + 1, prn, index => do
      let prn := csaNext id prn
      let width ← sizeSub (used + 1) (2 * distance)
      let product ← fits 32 (width * (prn ^^^ id).toNat)
      let sum ← fits 32 (index + distance + product >>> 16)
      csaStepsAt id used distance n prn (sum % used)

/-- The index chosen for a subevent. -/
def csaIndexAt (aa : UInt32) (counter : UInt16) (map channels : List UInt8) (subevent : UInt8) :
    Option Nat := do
  let id := (aa >>> 16 ^^^ aa).toUInt16
  let prn := csaNext id (csaNext id (csaNext id (counter ^^^ id)))
  let index ← csaEventIndexAt map channels (prn ^^^ id)
  let distance ← csaDistanceAt channels.length
  csaStepsAt id channels.length distance subevent.toNat prn index

/-- The index the call for `subevent` comes to. -/
def csaChosenAt (aa : UInt32) (counter : UInt16) (map : List UInt8) (subevent : UInt8) :
    Option Nat := do
  let channels ← csaTableAt map
  csaIndexAt aa counter map channels subevent

/-- `ull_ble_csa2_subevent`; the inner `none` is its value -1, the outer one a fault. -/
def csa2SubeventAt (aa : UInt32) (counter : UInt16) (map : List UInt8) (subevent : UInt8) :
    Option (Option UInt8) := do
  let high ← load map 4
  if high &&& 0xe0 ≠ 0 ∨ subevent > 3 then some none
  else
    let channels ← csaTableAt map
    if channels.length < 2 then some none
    else
      let index ← csaIndexAt aa counter map channels subevent
      let channel ← load channels index
      some (some channel)

/-! ## No fault -/

theorem channelUsed_eq (map : Vector UInt8 5) (i : Fin 37) :
    channelUsed map i = (map.get ⟨i.val / 8, map_byte i⟩).toNat.testBit (i.val % 8) := by
  have hshift : (UInt8.ofNat (i.val % 8)).toNat = i.val % 8 := by
    rw [UInt8.toNat_ofNat']
    omega
  unfold channelUsed
  rw [Bool.eq_iff_iff, beq_iff_eq, ← UInt8.toNat_inj, UInt8.toNat_and, UInt8.toNat_shiftRight,
    hshift, Nat.testBit_eq_decide_div_mod_eq, decide_eq_true_eq]
  change _ >>> (_ % 8 % 8) &&& 1 = 1 ↔ _
  rw [Nat.mod_mod, Nat.and_one_is_mod, Nat.shiftRight_eq_div_pow]

theorem mapBitAt_eq (map : Vector UInt8 5) (i : Fin 37) :
    mapBitAt map.toList i.val = some (channelUsed map i) := by
  have hbyte : load map.toList (i.val / 8) = some (map.get ⟨i.val / 8, by omega⟩) := by
    unfold load
    rw [List.getElem?_eq_getElem (by rw [Vector.length_toList]; omega), Vector.getElem_toList]
    rfl
  have hshift : (UInt32.ofNat (i.val % 8)).toNat = i.val % 8 := by
    rw [UInt32.toNat_ofNat']
    omega
  unfold mapBitAt
  rw [hbyte, channelUsed_eq, Option.map_some, Option.some_inj]
  generalize map.get ⟨i.val / 8, by omega⟩ = byte
  have hbit : i.val % 8 < 8 := Nat.mod_lt _ (by decide)
  have hmask : ((1 : UInt32) <<< UInt32.ofNat (i.val % 8)).toNat = 2 ^ (i.val % 8) := by
    rw [UInt32.toNat_shiftLeft, hshift]
    change 1 <<< (_ % 32) % 2 ^ 32 = _
    rw [Nat.mod_eq_of_lt (a := i.val % 8) (by omega), Nat.one_shiftLeft]
    exact Nat.mod_eq_of_lt (Nat.pow_lt_pow_right (by decide) (by omega))
  rw [Bool.eq_iff_iff, bne_iff_ne, ne_eq, ← UInt32.toNat_inj, UInt32.toNat_and, hmask,
    UInt8.toNat_toUInt32, Nat.and_two_pow]
  cases byte.toNat.testBit (i.val % 8) with
  | false => simp
  | true => simp

/-- The entries written once the channels of `l` were looked at. -/
theorem csaTable_fold (map : Vector UInt8 5) (l : List (Fin 37)) :
    ∀ channels : List UInt8, channels.length + l.length ≤ 37 →
      (l.map fun i => i.val).foldlM (csaEntryAt map.toList) channels =
      some (channels ++ (l.filter (channelUsed map)).map fun i => UInt8.ofNat i.val) := by
  induction l with
  | nil =>
      intro channels _
      rw [List.map_nil, List.foldlM_nil, List.filter_nil, List.map_nil, List.append_nil]
      rfl
  | cons i l ih =>
      intro channels hlength
      rw [List.length_cons] at hlength
      rw [List.map_cons, List.foldlM_cons, csaEntryAt, mapBitAt_eq, Option.bind_eq_bind,
        Option.bind_eq_bind, Option.bind_some]
      cases hused : channelUsed map i with
      | true =>
          rw [if_pos rfl, List.filter_cons_of_pos hused, List.map_cons]
          have hpush : pushWithin 37 channels (UInt8.ofNat i.val) =
              some (channels ++ [UInt8.ofNat i.val]) := if_pos (by omega)
          have hlength' : (channels ++ [UInt8.ofNat i.val]).length + l.length ≤ 37 := by
            rw [List.length_append, List.length_singleton]
            omega
          rw [hpush, Option.bind_some, ih _ hlength', List.append_assoc]
          rfl
      | false =>
          rw [if_neg (by decide), List.filter_cons_of_neg (by rw [hused]; decide),
            Option.bind_some]
          exact ih _ (by omega)

theorem csaTableAt_eq (map : Vector UInt8 5) :
    csaTableAt map.toList = some ((csaChannels map).map fun i => UInt8.ofNat i.val) := by
  have hrange : List.range 37 = (List.finRange 37).map fun i => i.val := by decide
  unfold csaTableAt
  rw [hrange, csaTable_fold map _ [] (by decide)]
  rfl

theorem csaFindAt_eq {channel : UInt8} {channels : List UInt8} (h : channel ∈ channels) :
    ∀ index, csaFindAt channel channels index = some (index + channels.idxOf channel) := by
  induction channels with
  | nil => exact absurd h List.not_mem_nil
  | cons c rest ih =>
      intro index
      unfold csaFindAt
      by_cases hc : c = channel
      · rw [if_neg (by rw [hc, bne_self_eq_false]; decide), hc, List.idxOf_cons_self,
          Nat.add_zero]
      · rw [if_pos (bne_iff_ne.mpr hc), ih ((List.mem_cons.mp h).resolve_left (Ne.symm hc)),
          List.idxOf_cons_ne _ hc]
        congr 1
        omega

theorem csaDistanceAt_eq (used : Nat) : csaDistanceAt used = some (csaDistance used) := by
  have ha : (if used > 5 then sizeSub used 5 else some 0) = some (used - 5) := by
    split
    · exact sizeSub_of_le (by omega)
    · congr 1
      omega
  have hb : (if used > 10 then (sizeSub used 10).map (· / 2) else some 0) =
      some ((used - 10) / 2) := by
    split
    · rw [sizeSub_of_le (by omega), Option.map_some]
    · congr 1
      omega
  have hmin (m n : Nat) : (if n > m then m else n) = min m n := by
    split <;> omega
  have hmax (m n : Nat) : (if n > m then n else m) = max m n := by
    split <;> omega
  unfold csaDistanceAt csaDistance
  simp only [ha, hb, Option.bind_eq_bind, Option.bind_some, hmin, hmax]

theorem csaDistance_bounds {used : Nat} (h : 2 ≤ used) :
    1 ≤ csaDistance used ∧ 2 * csaDistance used ≤ used := by
  unfold csaDistance
  omega

/-- A scaled 16-bit number is below what it is scaled to. -/
theorem scaled_lt {width : Nat} (hwidth : 0 < width) (x : UInt16) :
    width * x.toNat / 65536 < width := by
  apply Nat.div_lt_of_lt_mul
  rw [Nat.mul_comm 65536]
  exact Nat.mul_lt_mul_of_pos_left x.toNat_lt hwidth

theorem scaled_fits {width : Nat} (hwidth : width ≤ 37) (x : UInt16) :
    width * x.toNat < 2 ^ 32 := by
  calc width * x.toNat ≤ 37 * x.toNat := Nat.mul_le_mul_right _ hwidth
    _ < 2 ^ 32 := by
      have hx := x.toNat_lt
      omega

theorem csaStepsAt_eq (id : UInt16) {used : Nat} (hused : 2 ≤ used) (hmost : used ≤ 37) (n : Nat) :
    ∀ prn index, index < used → csaStepsAt id used (csaDistance used) n prn index =
      some (csaSubevents id used n (prn, index)).2 := by
  obtain ⟨hone, htwice⟩ := csaDistance_bounds hused
  induction n with
  | zero =>
      intro prn index _
      rfl
  | succ n ih =>
      intro prn index hindex
      have hwidth : 0 < used + 1 - 2 * csaDistance used := by omega
      have hscaled := scaled_lt hwidth (csaNext id prn ^^^ id)
      have hfits := scaled_fits (by omega : used + 1 - 2 * csaDistance used ≤ 37)
        (csaNext id prn ^^^ id)
      unfold csaStepsAt csaSubevents
      simp only [sizeSub_of_le (by omega : 2 * csaDistance used ≤ used + 1), Option.bind_eq_bind,
        Option.bind_some]
      rw [← Option.bind_eq_bind, fits_bind hfits]
      simp only [Nat.shiftRight_eq_div_pow]
      change (fits 32 (index + csaDistance used + _ / 65536) >>= _) = _
      rw [fits_bind (by omega)]
      exact ih _ _ (Nat.mod_lt _ (by omega))

theorem csaSubevents_lt (id : UInt16) {used : Nat} (hused : 0 < used) (n : Nat) :
    ∀ s : UInt16 × Nat, s.2 < used → (csaSubevents id used n s).2 < used := by
  induction n with
  | zero => exact fun _ h => h
  | succ n ih => exact fun s _ => ih _ (Nat.mod_lt _ hused)

/-- The numbers an event starts from. -/
def csaIdentifier (aa : UInt32) : UInt16 :=
  (aa >>> 16 ^^^ aa).toUInt16

def csaPrn (aa : UInt32) (counter : UInt16) : UInt16 :=
  csaNext (csaIdentifier aa) (csaNext (csaIdentifier aa)
    (csaNext (csaIdentifier aa) (counter ^^^ csaIdentifier aa)))

/-- The index of the event's channel, by the number of the event. -/
def csaEventIndex (map : Vector UInt8 5) (eventPrn : UInt16) : Nat :=
  let unmapped : Fin 37 := ⟨eventPrn.toNat % 37, Nat.mod_lt _ (by decide)⟩
  if channelUsed map unmapped then (csaChannels map).idxOf unmapped
  else (csaChannels map).length * eventPrn.toNat / 65536

def csaIndex (aa : UInt32) (counter : UInt16) (map : Vector UInt8 5) (n : Nat) : Nat :=
  (csaSubevents (csaIdentifier aa) (csaChannels map).length n
    (csaPrn aa counter, csaEventIndex map (csaPrn aa counter ^^^ csaIdentifier aa))).2

theorem csa2Subevent_eq (aa : UInt32) (counter : UInt16) (map : Vector UInt8 5)
    (subevent : UInt8) : csa2Subevent aa counter map subevent =
      if getElem map 4 map_top &&& 0xe0 ≠ 0 ∨ subevent > 3 ∨ (csaChannels map).length < 2 then none
      else ((csaChannels map)[csaIndex aa counter map subevent.toNat]?).map
        fun i => UInt8.ofNat i.val :=
  rfl

theorem csaChannels_length (map : Vector UInt8 5) : (csaChannels map).length ≤ 37 :=
  (List.length_filter_le _ _).trans_eq (by decide)

section Used

variable {map : Vector UInt8 5} (hused : 2 ≤ (csaChannels map).length)

include hused

theorem csaEventIndex_lt (eventPrn : UInt16) :
    csaEventIndex map eventPrn < (csaChannels map).length := by
  unfold csaEventIndex
  simp only
  split
  next hmem =>
    apply List.idxOf_lt_length_iff.mpr
    exact List.mem_filter.mpr ⟨List.mem_finRange _, hmem⟩
  · exact scaled_lt (by omega) eventPrn

theorem csaIndex_lt (aa : UInt32) (counter : UInt16) (n : Nat) :
    csaIndex aa counter map n < (csaChannels map).length :=
  csaSubevents_lt _ (by omega) n _ (csaEventIndex_lt hused _)

omit hused in
theorem channel_ofNat_inj (i j : Fin 37) :
    (UInt8.ofNat i.val == UInt8.ofNat j.val) = (i == j) := by
  rw [Bool.eq_iff_iff, beq_iff_eq, beq_iff_eq, ← UInt8.toNat_inj, UInt8.toNat_ofNat',
    UInt8.toNat_ofNat']
  omega

omit hused in
theorem csaEventIndexAt_eq (eventPrn : UInt16) :
    csaEventIndexAt map.toList ((csaChannels map).map fun i => UInt8.ofNat i.val) eventPrn =
      some (csaEventIndex map eventPrn) := by
  unfold csaEventIndexAt csaEventIndex
  simp only
  generalize hunmapped : (⟨eventPrn.toNat % 37, Nat.mod_lt _ (by decide)⟩ : Fin 37) = unmapped
  have hval : eventPrn.toNat % 37 = unmapped.val := by rw [← hunmapped]
  have hbyte : (UInt8.ofNat unmapped.val).toNat = unmapped.val := by
    rw [UInt8.toNat_ofNat']
    omega
  rw [hval, hbyte, mapBitAt_eq, Option.bind_eq_bind, Option.bind_some]
  cases hbit : channelUsed map unmapped with
  | true =>
      rw [if_pos rfl, if_pos rfl]
      have hmem : UInt8.ofNat unmapped.val ∈ (csaChannels map).map fun i => UInt8.ofNat i.val :=
        List.mem_map.mpr ⟨unmapped, List.mem_filter.mpr ⟨List.mem_finRange _, hbit⟩, rfl⟩
      rw [csaFindAt_eq hmem, Nat.zero_add, Option.some_inj]
      unfold List.idxOf
      rw [List.findIdx_map]
      congr 1
      funext i
      exact channel_ofNat_inj i unmapped
  | false =>
      rw [if_neg (by decide), if_neg (by decide), List.length_map]
      have hfits := scaled_fits (csaChannels_length map) eventPrn
      rw [fits, if_pos hfits, Option.map_some, Nat.shiftRight_eq_div_pow]

theorem csaIndexAt_eq (aa : UInt32) (counter : UInt16) (subevent : UInt8) :
    csaIndexAt aa counter map.toList ((csaChannels map).map fun i => UInt8.ofNat i.val) subevent =
      some (csaIndex aa counter map subevent.toNat) := by
  unfold csaIndexAt
  simp only [csaEventIndexAt_eq, csaDistanceAt_eq, List.length_map, Option.bind_eq_bind,
    Option.bind_some]
  exact csaStepsAt_eq _ hused (csaChannels_length map) _ _ _ (csaEventIndex_lt hused _)

end Used

/-- No access is out of bounds, no value too large and no difference negative, whatever the
arguments; and the loops end. -/
theorem csa2SubeventAt_eq (aa : UInt32) (counter : UInt16) (map : Vector UInt8 5)
    (subevent : UInt8) :
    csa2SubeventAt aa counter map.toList subevent = some (csa2Subevent aa counter map subevent) := by
  have hhigh : load map.toList 4 = some map[4] := by
    unfold load
    rw [List.getElem?_eq_getElem (by rw [Vector.length_toList]; decide), Vector.getElem_toList]
  unfold csa2SubeventAt
  rw [hhigh, csaTableAt_eq, csa2Subevent_eq, Option.bind_eq_bind, Option.bind_some]
  by_cases hargs : map[4] &&& 0xe0 ≠ 0 ∨ subevent > 3
  · rw [if_pos hargs, if_pos (by rw [← or_assoc]; exact .inl hargs)]
  · rw [if_neg hargs, Option.bind_eq_bind, Option.bind_some, List.length_map]
    by_cases hfew : (csaChannels map).length < 2
    · rw [if_pos hfew, if_pos (.inr (.inr hfew))]
    · rw [if_neg hfew, if_neg (by rw [← or_assoc]; exact not_or.mpr ⟨hargs, hfew⟩),
        csaIndexAt_eq (by omega), Option.bind_eq_bind, Option.bind_some]
      have hlt := csaIndex_lt (Nat.not_lt.mp hfew) aa counter subevent.toNat
      unfold load
      rw [List.getElem?_map, List.getElem?_eq_getElem hlt, Option.map_some]
      rfl

/-! ## Channel selection algorithm #2 -/

/-- The channel map as the number its five bytes are. -/
def mapValue (map : Vector UInt8 5) : Nat :=
  map[0].toNat + 2 ^ 8 * map[1].toNat + 2 ^ 16 * map[2].toNat + 2 ^ 24 * map[3].toNat +
    2 ^ 32 * (getElem map 4 map_top).toNat

/-- The inputs of the algorithm; bit `n` of the map stands for channel `n`. -/
def hopEvent (aa : UInt32) (counter : UInt16) (map : Vector UInt8 5) : HopEvent where
  channelIdentifier := channelIdentifier aa.toBitVec
  eventCounter := counter.toBitVec
  used := Finset.univ.filter fun c => (mapValue map).testBit c.val = true

theorem channelUsed_testBit (map : Vector UInt8 5) (i : Fin 37) :
    channelUsed map i = (mapValue map).testBit i.val := by
  have h0 := map[0].toNat_lt
  have h1 := map[1].toNat_lt
  have h2 := map[2].toNat_lt
  have h3 := map[3].toNat_lt
  rw [channelUsed_eq]
  obtain ⟨i, hi⟩ := i
  rw [Nat.testBit_eq_decide_div_mod_eq, Nat.testBit_eq_decide_div_mod_eq, decide_eq_decide]
  have hget (j : Nat) (hj : j < 5) : map.get ⟨j, hj⟩ = map[j] := rfl
  unfold mapValue
  interval_cases i <;> simp only [Nat.reduceDiv, Nat.reduceMod, Nat.reducePow, hget] <;> omega

theorem permute_eq (x : UInt16) : (permute x).toBitVec = perm x.toBitVec := by
  unfold permute
  simp only [UInt16.toBitVec_or, UInt16.toBitVec_and, UInt16.toBitVec_shiftRight,
    UInt16.toBitVec_shiftLeft, UInt16.toBitVec_ofNat]
  apply BitVec.eq_of_getLsbD_eq
  intro i hi
  rw [perm_getLsbD _ hi]
  interval_cases i <;> simp

theorem csaIdentifier_eq (aa : UInt32) :
    (csaIdentifier aa).toBitVec = channelIdentifier aa.toBitVec := by
  unfold csaIdentifier channelIdentifier
  apply BitVec.eq_of_getLsbD_eq
  intro i hi
  simp [hi]

section Algorithm

variable (aa : UInt32) (counter : UInt16) (map : Vector UInt8 5)

theorem csaNext_eq (x : UInt16) : (csaNext (csaIdentifier aa) x).toBitVec =
    (hopEvent aa counter map).round x.toBitVec := by
  unfold csaNext HopEvent.round mam hopEvent
  rw [← permute_eq, ← csaIdentifier_eq]
  apply BitVec.eq_of_toNat_eq
  rw [UInt16.toBitVec_add, UInt16.toBitVec_mul, BitVec.toNat_add, BitVec.toNat_mul,
    BitVec.toNat_ofNat]
  change ((17 * _) % 2 ^ 16 + _) % 2 ^ 16 = _
  rw [Nat.mod_add_mod]

theorem csaPrn_eq : (csaPrn aa counter).toBitVec = (hopEvent aa counter map).prnS := by
  unfold csaPrn HopEvent.prnS
  rw [csaNext_eq aa counter map, csaNext_eq aa counter map, csaNext_eq aa counter map,
    UInt16.toBitVec_xor, csaIdentifier_eq]
  rfl

theorem csaEventPrn_eq : (csaPrn aa counter ^^^ csaIdentifier aa).toNat =
    (hopEvent aa counter map).prnE.toNat := by
  unfold HopEvent.prnE
  rw [← csaPrn_eq]
  change _ = ((csaPrn aa counter).toBitVec ^^^ channelIdentifier aa.toBitVec).toNat
  rw [← csaIdentifier_eq, ← UInt16.toBitVec_xor]
  rfl

theorem mem_hopEvent_used (i : Fin 37) :
    i ∈ (hopEvent aa counter map).used ↔ channelUsed map i = true := by
  rw [channelUsed_testBit]
  exact Finset.mem_filter.trans (and_iff_right (Finset.mem_univ i))

theorem remappingTable_eq : (hopEvent aa counter map).remappingTable = csaChannels map := by
  have hsorted : (csaChannels map).SortedLT :=
    ((List.sortedLT_finRange 37).pairwise.filter _).sortedLT
  apply (hopEvent aa counter map).used.sortedLT_sort.eq_of_mem_iff hsorted
  intro i
  rw [Finset.mem_sort, mem_hopEvent_used, csaChannels, List.mem_filter]
  exact (and_iff_right (List.mem_finRange i)).symm

theorem count_eq : (hopEvent aa counter map).count = (csaChannels map).length := by
  rw [← remappingTable_eq aa counter map]
  exact (Finset.length_sort _).symm

theorem csaEventIndex_eq :
    csaEventIndex map (csaPrn aa counter ^^^ csaIdentifier aa) =
      (hopEvent aa counter map).eventIndex := by
  unfold csaEventIndex HopEvent.eventIndex HopEvent.remappingIndex
  rw [remappingTable_eq, count_eq, ← csaEventPrn_eq]
  have hunmapped : (hopEvent aa counter map).unmapped =
      ⟨(csaPrn aa counter ^^^ csaIdentifier aa).toNat % 37, Nat.mod_lt _ (by decide)⟩ := by
    unfold HopEvent.unmapped
    simp only [csaEventPrn_eq aa counter map]
  simp only [mem_hopEvent_used, hunmapped, Nat.reducePow]

theorem csaDistance_eq : (csaDistance (csaChannels map).length : Int) =
    (hopEvent aa counter map).distance := by
  unfold csaDistance HopEvent.distance
  rw [count_eq]
  omega

/-- One more subevent is one more step at the end. -/
theorem csaSubevents_succ (id : UInt16) (used n : Nat) : ∀ s : UInt16 × Nat,
    csaSubevents id used (n + 1) s = csaSubevents id used 1 (csaSubevents id used n s) := by
  induction n with
  | zero => exact fun _ => rfl
  | succ n ih => exact fun s => ih (csaSubevents id used 1 s)

/-- The loop keeps the last random number and the last index of the algorithm. -/
theorem csaSubevents_eq (hused : 2 ≤ (csaChannels map).length) (n : Nat) :
    (csaSubevents (csaIdentifier aa) (csaChannels map).length n
      (csaPrn aa counter, csaEventIndex map (csaPrn aa counter ^^^ csaIdentifier aa))).1.toBitVec =
        ((hopEvent aa counter map).subevent n).1 ∧
    (csaIndex aa counter map n : Int) = ((hopEvent aa counter map).subevent n).2 := by
  unfold csaIndex
  induction n with
  | zero =>
      constructor
      · exact csaPrn_eq aa counter map
      · change ((csaEventIndex map (csaPrn aa counter ^^^ csaIdentifier aa) : Nat) : Int) =
          (hopEvent aa counter map).eventIndex
        rw [csaEventIndex_eq]
  | succ n ih =>
      obtain ⟨_, htwice⟩ := csaDistance_bounds hused
      obtain ⟨hprn, hindex⟩ := ih
      rw [csaSubevents_succ, HopEvent.subevent]
      generalize csaSubevents (csaIdentifier aa) (csaChannels map).length n
        (csaPrn aa counter, csaEventIndex map (csaPrn aa counter ^^^ csaIdentifier aa)) = last
        at hprn hindex
      have hnext : (csaNext (csaIdentifier aa) last.1).toBitVec =
          (hopEvent aa counter map).round ((hopEvent aa counter map).subevent n).1 := by
        rw [csaNext_eq aa counter map, hprn]
      refine ⟨hnext, ?_⟩
      have hrandom : (csaNext (csaIdentifier aa) last.1 ^^^ csaIdentifier aa).toNat =
          ((hopEvent aa counter map).round ((hopEvent aa counter map).subevent n).1 ^^^
            (hopEvent aa counter map).channelIdentifier).toNat := by
        change _ = (_ ^^^ channelIdentifier aa.toBitVec).toNat
        rw [← hnext, ← csaIdentifier_eq, ← UInt16.toBitVec_xor]
        rfl
      change (((last.2 + csaDistance (csaChannels map).length +
        ((csaChannels map).length + 1 - 2 * csaDistance (csaChannels map).length) *
          (csaNext (csaIdentifier aa) last.1 ^^^ csaIdentifier aa).toNat / 65536) %
            (csaChannels map).length : Nat) : Int) = _
      have hwidth : (((csaChannels map).length + 1 -
          2 * csaDistance (csaChannels map).length : Nat) : Int) =
          (csaChannels map).length - 2 * csaDistance (csaChannels map).length + 1 := by
        omega
      simp only
      rw [← hrandom, ← hindex, count_eq, ← csaDistance_eq, Int.natCast_emod, Int.natCast_add,
        Int.natCast_add, Int.natCast_ediv, Int.natCast_mul, hwidth, Int.mul_comm]
      rfl

theorem csaIndex_channel (hused : 2 ≤ (csaChannels map).length) (n : Nat) :
    (csaChannels map)[csaIndex aa counter map n]? = (hopEvent aa counter map).channel n := by
  unfold HopEvent.channel
  rw [remappingTable_eq, ← (csaSubevents_eq aa counter map hused n).2, Int.toNat_natCast]

end Algorithm

theorem csaChosenAt_eq {map : Vector UInt8 5} (hused : 2 ≤ (csaChannels map).length) (aa : UInt32)
    (counter : UInt16) (subevent : UInt8) : csaChosenAt aa counter map.toList subevent =
      some (csaIndex aa counter map subevent.toNat) := by
  unfold csaChosenAt
  rw [csaTableAt_eq, Option.bind_eq_bind, Option.bind_some, csaIndexAt_eq hused]

/-- The call for a subevent finds the channel the algorithm selects, a used one. -/
theorem csa2SubeventAt_channel {map : Vector UInt8 5} (hmap : getElem map 4 map_top &&& 0xe0 = 0)
    (hused : 2 ≤ (csaChannels map).length) (aa : UInt32) (counter : UInt16) {subevent : UInt8}
    (hsub : subevent ≤ 3) : ∃ c : Fin 37, channelUsed map c = true ∧
      csa2SubeventAt aa counter map.toList subevent = some (some (UInt8.ofNat c.val)) ∧
      (hopEvent aa counter map).channel subevent.toNat = some c := by
  have hcount : 2 ≤ (hopEvent aa counter map).count := by rwa [count_eq]
  obtain ⟨c, hc, hchannel⟩ := HopEvent.channel_used hcount subevent.toNat
  refine ⟨c, (mem_hopEvent_used aa counter map c).mp hc, ?_, hchannel⟩
  rw [csa2SubeventAt_eq, csa2Subevent_eq, if_neg, csaIndex_channel _ _ _ hused, hchannel]
  · rfl
  · rintro (h | h | h)
    · exact h hmap
    · exact absurd hsub (UInt8.not_le.mpr h)
    · omega

/-- Channel selection ends without fault in a used channel, the one the algorithm selects, and the
index of each subevent keeps its distance from the one before. -/
theorem csa2_hops (aa : UInt32) (counter : UInt16) (map : Vector UInt8 5)
    (hmap : getElem map 4 map_top &&& 0xe0 = 0) (hused : 2 ≤ (csaChannels map).length) :
    (∀ subevent : UInt8, subevent ≤ 3 → ∃ c : Fin 37, channelUsed map c = true ∧
      csa2SubeventAt aa counter map.toList subevent = some (some (UInt8.ofNat c.val)) ∧
      (hopEvent aa counter map).channel subevent.toNat = some c) ∧
    ∃ d : Int, d = max 1 (max (min 3 (((csaChannels map).length : Int) - 5))
        (min 11 ((((csaChannels map).length : Int) - 10) / 2))) ∧
      csaDistanceAt (csaChannels map).length = some d.toNat ∧
      0 < (csaChannels map).length + 1 - 2 * d ∧
      ∀ k : UInt8, k < 3 →
        csa2SubeventAt aa counter map.toList (k + 1) ≠ csa2SubeventAt aa counter map.toList k ∧
        ∃ (i j : Nat) (step : Int), csaChosenAt aa counter map.toList k = some i ∧
          csaChosenAt aa counter map.toList (k + 1) = some j ∧
          d ≤ step ∧ step ≤ (csaChannels map).length - d ∧
          (j : Int) = (i + step) % (csaChannels map).length := by
  have hcount : 2 ≤ (hopEvent aa counter map).count := by rwa [count_eq]
  have hdistance := csaDistance_eq aa counter map
  refine ⟨fun subevent hsub => csa2SubeventAt_channel hmap hused aa counter hsub,
    (hopEvent aa counter map).distance, ?_, ?_, ?_, fun k hk => ?_⟩
  · rw [← count_eq aa counter map]
    rfl
  · rw [csaDistanceAt_eq, ← hdistance, Int.toNat_natCast]
  · have hbounds := HopEvent.distance_bounds hcount
    rw [count_eq] at hbounds
    omega
  · have hlt := UInt8.lt_iff_toNat_lt.mp hk
    change k.toNat < 3 at hlt
    have hsucc : (k + 1).toNat = k.toNat + 1 := by
      rw [UInt8.toNat_add]
      change (_ + 1) % 2 ^ 8 = _
      omega
    have hnext : k + 1 ≤ 3 := by
      rw [UInt8.le_iff_toNat_le, hsucc]
      change _ ≤ 3
      omega
    constructor
    · obtain ⟨c, _, hc, hchannel⟩ := csa2SubeventAt_channel hmap hused aa counter
        (UInt8.le_of_lt hk)
      obtain ⟨c', _, hc', hchannel'⟩ := csa2SubeventAt_channel hmap hused aa counter hnext
      rw [hc, hc']
      intro heq
      have hsame : (UInt8.ofNat c'.val == UInt8.ofNat c.val) = true :=
        beq_iff_eq.mpr (Option.some.inj (Option.some.inj heq))
      rw [channel_ofNat_inj, beq_iff_eq] at hsame
      rw [hsucc] at hchannel'
      exact HopEvent.channel_succ_ne hcount k.toNat (by rw [hchannel, hchannel', hsame])
    · obtain ⟨step, hlow, hhigh, hstep⟩ := HopEvent.subevent_step hcount k.toNat
      refine ⟨_, _, step, csaChosenAt_eq hused aa counter k,
        csaChosenAt_eq hused aa counter (k + 1), hlow, ?_, ?_⟩
      · rwa [count_eq] at hhigh
      · rw [hsucc, (csaSubevents_eq aa counter map hused _).2, hstep, count_eq,
          (csaSubevents_eq aa counter map hused _).2]

theorem csa2_hops_two_channels :
    ∃ c : Fin 37, channelUsed #v[0x03, 0, 0, 0, 0] c = true ∧
      csa2SubeventAt 0x8e89bed6 1 (#v[0x03, 0, 0, 0, 0] : Vector UInt8 5).toList 3 =
        some (some (UInt8.ofNat c.val)) ∧
      (hopEvent 0x8e89bed6 1 #v[0x03, 0, 0, 0, 0]).channel 3 = some c :=
  (csa2_hops 0x8e89bed6 1 #v[0x03, 0, 0, 0, 0] (by decide) (by decide)).1 3 (by decide)

end UllReceiver.Air
