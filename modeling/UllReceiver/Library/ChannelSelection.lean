import Mathlib

/-!
# Channel selection algorithm #2

Bluetooth Core, Vol 6, Part B, 4.5.8.3: the channels of an event and of its subevents, from the
access address, the event counter and the channel map.
-/

namespace UllReceiver.Library

/-- The inputs of the algorithm for one event. -/
structure HopEvent where
  channelIdentifier : BitVec 16
  eventCounter : BitVec 16
  used : Finset (Fin 37)

/-- The 16-bit identifier of an access address: its halves, xored. -/
def channelIdentifier (accessAddress : BitVec 32) : BitVec 16 :=
  accessAddress.extractLsb' 16 16 ^^^ accessAddress.extractLsb' 0 16

/-- PERM: each byte has its bits reversed. -/
def perm (x : BitVec 16) : BitVec 16 :=
  (x.extractLsb' 8 8).reverse ++ (x.extractLsb' 0 8).reverse

/-- MAM: multiply, add and modulo. -/
def mam (a b : BitVec 16) : BitVec 16 :=
  BitVec.ofNat 16 (17 * a.toNat + b.toNat)

/-- Bit `i` of PERM comes from the mirrored place of its byte. -/
theorem perm_getLsbD (x : BitVec 16) {i : Nat} (hi : i < 16) :
    (perm x).getLsbD i = x.getLsbD (if i < 8 then 7 - i else 23 - i) := by
  unfold perm
  rw [BitVec.getLsbD_append, BitVec.getLsbD_reverse, BitVec.getLsbD_reverse,
    BitVec.getMsbD_eq_getLsbD, BitVec.getMsbD_eq_getLsbD, BitVec.getLsbD_extractLsb',
    BitVec.getLsbD_extractLsb']
  by_cases hlow : i < 8
  · rw [if_pos hlow, if_pos hlow]
    simp only [hlow, decide_true, Bool.true_and, Nat.zero_add, show 8 - 1 - i < 8 by omega]
  · rw [if_neg hlow, if_neg hlow]
    simp only [show i - 8 < 8 by omega, show 8 - 1 - (i - 8) < 8 by omega, decide_true,
      Bool.true_and]
    congr 1
    omega

namespace HopEvent

variable (e : HopEvent)

def round (x : BitVec 16) : BitVec 16 :=
  mam (perm x) e.channelIdentifier

def prnS : BitVec 16 :=
  e.round (e.round (e.round (e.eventCounter ^^^ e.channelIdentifier)))

def prnE : BitVec 16 :=
  e.prnS ^^^ e.channelIdentifier

/-- The used channels in ascending order. -/
def remappingTable : List (Fin 37) :=
  e.used.sort

/-- The number of used channels. -/
def count : Nat :=
  e.used.card

def unmapped : Fin 37 :=
  ⟨e.prnE.toNat % 37, Nat.mod_lt _ (by decide)⟩

def remappingIndex : Nat :=
  e.count * e.prnE.toNat / 2 ^ 16

/-- The place of the event's channel in the table. -/
def eventIndex : Nat :=
  if e.unmapped ∈ e.used then e.remappingTable.idxOf e.unmapped else e.remappingIndex

/-- The least distance of the channels of consecutive subevents. -/
def distance : Int :=
  max 1 (max (min 3 ((e.count : Int) - 5)) (min 11 (((e.count : Int) - 10) / 2)))

/-- The last used random number and the index of the last used channel in subevent `n`. -/
def subevent : Nat → BitVec 16 × Int
  | 0 => (e.prnS, e.eventIndex)
  | n + 1 =>
      let prnSubevent := e.round (subevent n).1
      (prnSubevent,
        ((subevent n).2 + e.distance + (prnSubevent ^^^ e.channelIdentifier).toNat *
          (e.count - 2 * e.distance + 1) / 2 ^ 16) % e.count)

/-- The channel of subevent `n`. -/
def channel (n : Nat) : Option (Fin 37) :=
  e.remappingTable[(e.subevent n).2.toNat]?

/-! ## Distances -/

/-- A scaled random number is below what it is scaled to. -/
theorem scaled_lt {width : Int} (hwidth : 0 < width) (x : BitVec 16) :
    0 ≤ x.toNat * width / 2 ^ 16 ∧ x.toNat * width / 2 ^ 16 < width := by
  have hx := x.isLt
  constructor
  · exact Int.ediv_nonneg (Int.mul_nonneg (Int.natCast_nonneg _) hwidth.le) (by decide)
  · apply Int.ediv_lt_of_lt_mul (by decide)
    rw [Int.mul_comm]
    exact Int.mul_lt_mul_of_pos_left (by omega) hwidth

variable {e} (hcount : 2 ≤ e.count)

include hcount

/-- There is at least one step to choose from. -/
theorem distance_bounds : 1 ≤ e.distance ∧ 2 * e.distance ≤ e.count := by
  unfold distance
  omega

/-- A step of a subevent goes forward by at least the distance, and stops as far before the turn. -/
theorem subevent_step (n : Nat) : ∃ step : Int, e.distance ≤ step ∧ step ≤ e.count - e.distance ∧
    (e.subevent (n + 1)).2 = ((e.subevent n).2 + step) % e.count := by
  obtain ⟨_, htwice⟩ := distance_bounds hcount
  have hwidth : 0 < (e.count : Int) - 2 * e.distance + 1 := by omega
  obtain ⟨hlow, hhigh⟩ := scaled_lt hwidth
    (e.round (e.subevent n).1 ^^^ e.channelIdentifier)
  refine ⟨_, ?_, ?_, by rw [subevent, Int.add_assoc]⟩
  · omega
  · omega

theorem eventIndex_lt : e.eventIndex < e.count := by
  unfold eventIndex
  split
  next hmem =>
    rw [count, ← Finset.length_sort (· ≤ ·) (s := e.used)]
    exact List.idxOf_lt_length_iff.mpr ((Finset.mem_sort _).mpr hmem)
  · unfold remappingIndex
    apply Nat.div_lt_of_lt_mul
    have hprn := e.prnE.isLt
    rw [Nat.mul_comm (2 ^ 16)]
    exact Nat.mul_lt_mul_of_pos_left hprn (by omega)

theorem subevent_range (n : Nat) : 0 ≤ (e.subevent n).2 ∧ (e.subevent n).2 < e.count := by
  cases n with
  | zero => exact ⟨Int.natCast_nonneg _, Int.ofNat_lt.mpr (eventIndex_lt hcount)⟩
  | succ n =>
      have hpos : (0 : Int) < e.count := by omega
      exact ⟨Int.emod_nonneg _ hpos.ne', Int.emod_lt_of_pos _ hpos⟩

/-- The channel of a subevent is a used one. -/
theorem channel_used (n : Nat) : ∃ c ∈ e.used, e.channel n = some c := by
  obtain ⟨hlow, hhigh⟩ := subevent_range hcount n
  have hlt : (e.subevent n).2.toNat < e.remappingTable.length := by
    rw [remappingTable, Finset.length_sort]
    change _ < e.count
    omega
  refine ⟨e.remappingTable[(e.subevent n).2.toNat], ?_, List.getElem?_eq_getElem hlt⟩
  exact (Finset.mem_sort (· ≤ ·)).mp (List.getElem_mem hlt)

theorem subevent_succ_ne (n : Nat) : (e.subevent (n + 1)).2 ≠ (e.subevent n).2 := by
  obtain ⟨step, hlow, hhigh, hstep⟩ := subevent_step hcount n
  obtain ⟨hone, _⟩ := distance_bounds hcount
  obtain ⟨hzero, hlt⟩ := subevent_range hcount n
  intro heq
  rw [heq] at hstep
  have hdvd : (e.count : Int) ∣ step := by
    have hsub := Int.dvd_self_sub_emod (x := (e.subevent n).2 + step) (m := e.count)
    rw [← hstep] at hsub
    rwa [show (e.subevent n).2 + step - (e.subevent n).2 = step by omega] at hsub
  have hle := Int.le_of_dvd (by omega) hdvd
  omega

/-- Consecutive subevents never share a channel. -/
theorem channel_succ_ne (n : Nat) : e.channel (n + 1) ≠ e.channel n := by
  obtain ⟨hzero, hlt⟩ := subevent_range hcount n
  obtain ⟨hzero', hlt'⟩ := subevent_range hcount (n + 1)
  have hne := subevent_succ_ne hcount n
  have hnodup : e.remappingTable.Nodup := Finset.sort_nodup _ _
  have hlength : e.remappingTable.length = e.count := Finset.length_sort _
  intro heq
  have hindex := (List.getElem?_inj (by omega) hnodup).mp heq
  omega

end HopEvent

end UllReceiver.Library
