import Mathlib
import UllReceiver.Host.ConsoleRun

/-!
# Packets from the console

A packet reaches the controller exactly when a complete line spells it in hexadecimal, its length
fields describe it, the manual owner holds the radio, the guard lets it pass and the controller takes
it within the allowed tries.
-/

namespace UllReceiver.Host

open Library

/-! ## Hexadecimal lines -/

/-- The digit of a number below 16, as a small or a capital letter from ten on. -/
def IsDigit (c : UInt8) (n : Nat) : Prop :=
  (ascii "0123456789abcdef")[n]? = some c ∨ (ascii "0123456789ABCDEF")[n]? = some c

instance (c : UInt8) (n : Nat) : Decidable (IsDigit c n) :=
  inferInstanceAs (Decidable (_ ∨ _))

/-- `line` writes each byte of `data` as two digits. -/
inductive Spells : List UInt8 → List UInt8 → Prop
  | nil : Spells [] []
  | cons {high low byte : UInt8} {line data : List UInt8} :
      IsDigit high (byte.toNat / 16) → IsDigit low (byte.toNat % 16) → Spells line data →
      Spells (high :: low :: line) (byte :: data)

theorem nibble_digits : ∀ k < 256, ∀ n, nibble (UInt8.ofNat k) = some n →
    n.toNat < 16 ∧ IsDigit (UInt8.ofNat k) n.toNat := by
  -- asked of the digit found alone: a bound variable would be tried at all 256 bytes
  have hall : ∀ k < 256, (nibble (UInt8.ofNat k)).all (fun n =>
      decide (n.toNat < 16 ∧ IsDigit (UInt8.ofNat k) n.toNat)) = true := by
    decide +kernel
  intro k hk n hn
  have hdigit := hall k hk
  rw [hn] at hdigit
  exact of_decide_eq_true hdigit

theorem digit_nibbles : ∀ k < 256, ∀ n < 16, IsDigit (UInt8.ofNat k) n →
    nibble (UInt8.ofNat k) = some (UInt8.ofNat n) := by
  decide +kernel

theorem nibble_iff (c : UInt8) (n : UInt8) :
    nibble c = some n ↔ n.toNat < 16 ∧ IsDigit c n.toNat := by
  have hc : UInt8.ofNat c.toNat = c := UInt8.ofNat_toNat
  constructor
  · intro h
    have hdigit := nibble_digits c.toNat c.toNat_lt n
    rw [hc] at hdigit
    exact hdigit h
  · rintro ⟨hn, hdigit⟩
    have hnibble := digit_nibbles c.toNat c.toNat_lt n.toNat hn
    rw [hc] at hnibble
    rw [hnibble hdigit, UInt8.ofNat_toNat]

theorem join_halves : ∀ h < 16, ∀ l < 16,
    ((UInt8.ofNat h <<< 4 ||| UInt8.ofNat l).toNat / 16 = h ∧
      (UInt8.ofNat h <<< 4 ||| UInt8.ofNat l).toNat % 16 = l) := by
  decide

theorem halves_join (byte : UInt8) :
    UInt8.ofNat (byte.toNat / 16) <<< 4 ||| UInt8.ofNat (byte.toNat % 16) = byte := by
  have hbyte := byte.toNat_lt
  obtain ⟨hhigh, hlow⟩ := join_halves (byte.toNat / 16) (by omega) (byte.toNat % 16) (by omega)
  apply UInt8.toNat_inj.mp
  omega

theorem hexBytes_iff (line data : List UInt8) : hexBytes line = some data ↔ Spells line data := by
  constructor
  · intro h
    induction line using hexBytes.induct generalizing data with
    | case1 =>
      cases h
      exact .nil
    | case2 => cases h
    | case3 high low line ih =>
      obtain ⟨top, htop, h⟩ := Option.bind_eq_some_iff.mp h
      obtain ⟨bottom, hbottom, h⟩ := Option.bind_eq_some_iff.mp h
      obtain ⟨data', hrest, h⟩ := Option.bind_eq_some_iff.mp h
      cases h
      obtain ⟨htop16, htop⟩ := (nibble_iff _ _).mp htop
      obtain ⟨hbottom16, hbottom⟩ := (nibble_iff _ _).mp hbottom
      obtain ⟨hhigh, hlow⟩ := join_halves _ htop16 _ hbottom16
      rw [UInt8.ofNat_toNat, UInt8.ofNat_toNat] at hhigh hlow
      exact .cons (by rw [hhigh]; exact htop) (by rw [hlow]; exact hbottom) (ih data' hrest)
  · intro h
    induction h with
    | nil => rfl
    | @cons high low byte line data hhigh hlow _ ih =>
      have hbyte := byte.toNat_lt
      have hhalf : ∀ n, n < 16 → (UInt8.ofNat n).toNat = n := by decide
      have htop : nibble high = some (UInt8.ofNat (byte.toNat / 16)) :=
        (nibble_iff _ _).mpr (by
          rw [hhalf _ (by omega)]
          exact ⟨by omega, hhigh⟩)
      have hbottom : nibble low = some (UInt8.ofNat (byte.toNat % 16)) :=
        (nibble_iff _ _).mpr (by
          rw [hhalf _ (by omega)]
          exact ⟨by omega, hlow⟩)
      unfold hexBytes
      rw [htop, hbottom, ih]
      show some ((UInt8.ofNat (byte.toNat / 16) <<< 4 ||| UInt8.ofNat (byte.toNat % 16)) :: data) = _
      rw [halves_join]

theorem Spells.length {line data : List UInt8} (h : Spells line data) :
    line.length = 2 * data.length := by
  induction h with
  | nil => rfl
  | cons _ _ _ ih =>
    rw [List.length_cons, List.length_cons, List.length_cons, ih]
    omega

/-! ## One line -/

/-- The packets among the effects. -/
def packets (es : List ConsoleEffect) : List (List UInt8) :=
  es.filterMap fun
    | .sent data => some data
    | _ => none

/-- What it takes for a line to send `data`, when the switches are `s`. -/
structure Sends (s : Switches) (l : TypedLine) (data : List UInt8) : Prop where
  running : s.running = true
  manual : s.autoEnabled = false
  spelled : Spells l.text data
  length : data.length ≤ dataCapacity
  valid : validPacket data = true
  passes : guarded l.input.pumpBusy data = false
  taken : ∃ k < 200, l.input.takes k = true

theorem trySend_iff (takes : Nat → Bool) (attempt tries : Nat) :
    trySend takes attempt tries = true ↔
      ∃ k, attempt ≤ k ∧ k < attempt + tries ∧ takes k = true := by
  induction tries generalizing attempt with
  | zero =>
    refine ⟨fun h => Bool.noConfusion h, ?_⟩
    rintro ⟨k, hle, hlt, -⟩
    omega
  | succ tries ih =>
    unfold trySend
    rw [Bool.or_eq_true, ih]
    constructor
    · rintro (h | ⟨k, hle, hlt, h⟩)
      · exact ⟨attempt, Nat.le_refl _, by omega, h⟩
      · exact ⟨k, by omega, by omega, h⟩
    · rintro ⟨k, hle, hlt, h⟩
      by_cases hk : k = attempt
      · exact .inl (hk ▸ h)
      · exact .inr ⟨k, by omega, by omega, h⟩

theorem validPacket_ne_nil {data : List UInt8} (h : validPacket data = true) :
    ∃ first rest, data = first :: rest ∧ (first = 1 ∨ first = 2) ∧ 4 ≤ data.length := by
  unfold validPacket at h
  rw [Bool.or_eq_true, Bool.and_eq_true, Bool.and_eq_true, Bool.and_eq_true, beq_iff_eq, beq_iff_eq,
    beq_iff_eq, beq_iff_eq, decide_eq_true_iff] at h
  cases data with
  | nil => simp at h
  | cons first rest =>
    refine ⟨first, rest, rfl, ?_, by omega⟩
    rcases h with ⟨h, -⟩ | ⟨⟨h, -⟩, -⟩
    · exact .inl h
    · exact .inr h

theorem packets_sendPacket (s : Switches) (i : ConsoleInput) (data : List UInt8) :
    packets (sendPacket s i data).2 = if trySend i.takes 0 200 then [data] else [] := by
  have hsplit : ∀ (reset : List ConsoleEffect), packets reset = [] →
      packets (reset ++ [if trySend i.takes 0 200 then .sent data else .error "tx_timeout"]) =
        if trySend i.takes 0 200 then [data] else [] := by
    intro reset hreset
    unfold packets at hreset ⊢
    rw [List.filterMap_append, hreset, List.nil_append]
    cases trySend i.takes 0 200 with
    | true => rfl
    | false => rfl
  unfold sendPacket
  dsimp only
  apply hsplit
  split
  · rfl
  · rfl

theorem packets_packetLine (s : Switches) (i : ConsoleInput) (line : List UInt8) :
    packets (packetLine s i line).2 = [] ∧
        (∀ data, ¬ (s.autoEnabled = false ∧ Spells line data ∧ validPacket data = true ∧
          guarded i.pumpBusy data = false ∧ ∃ k < 200, i.takes k = true)) ∨
      ∃ data, packets (packetLine s i line).2 = [data] ∧ s.autoEnabled = false ∧
        Spells line data ∧ validPacket data = true ∧ guarded i.pumpBusy data = false ∧
        ∃ k < 200, i.takes k = true := by
  have htaken : trySend i.takes 0 200 = true ↔ ∃ k < 200, i.takes k = true := by
    rw [trySend_iff]
    exact ⟨fun ⟨k, _, hlt, h⟩ => ⟨k, by omega, h⟩,
      fun ⟨k, hlt, h⟩ => ⟨k, Nat.zero_le k, by omega, h⟩⟩
  unfold packetLine
  cases hauto : s.autoEnabled with
  | true => exact .inl ⟨rfl, fun data h => Bool.noConfusion h.1⟩
  | false =>
    rw [if_neg Bool.false_ne_true]
    cases hhex : hexBytes line with
    | none =>
      refine .inl ⟨rfl, fun data h => ?_⟩
      rw [(hexBytes_iff line data).mpr h.2.1] at hhex
      cases hhex
    | some data =>
      have hspells := (hexBytes_iff line data).mp hhex
      -- A line spells one packet only.
      have hone : ∀ other, Spells line other → other = data := fun other h =>
        Option.some.inj (((hexBytes_iff line other).mpr h).symm.trans hhex)
      dsimp only
      cases hvalid : validPacket data with
      | false =>
        refine .inl ⟨rfl, fun other h => ?_⟩
        rw [hone other h.2.1, hvalid] at h
        exact Bool.noConfusion h.2.2.1
      | true =>
        rw [Bool.not_true, if_neg Bool.false_ne_true]
        cases hguard : guarded i.pumpBusy data with
        | true =>
          refine .inl ⟨rfl, fun other h => ?_⟩
          rw [hone other h.2.1, hguard] at h
          exact Bool.noConfusion h.2.2.2.1
        | false =>
          rw [if_neg Bool.false_ne_true, packets_sendPacket]
          by_cases htry : trySend i.takes 0 200 = true
          · rw [if_pos htry]
            exact .inr ⟨data, rfl, rfl, hspells, hvalid, hguard, htaken.mp htry⟩
          · rw [if_neg htry]
            exact .inl ⟨rfl, fun other h => htry (htaken.mpr h.2.2.2.2)⟩

theorem words_send_nothing : ∀ w ∈ words, packets w.2 = [] := by
  decide

theorem wordEffects_packets {t : List UInt8} {es : List ConsoleEffect}
    (h : wordEffects t = some es) : packets es = [] := by
  obtain ⟨w, hfind, rfl⟩ := Option.map_eq_some_iff.mp h
  exact words_send_nothing w (List.mem_of_find?_eq_some hfind)

/-- A line that sends something is one with an even number of digits. -/
theorem dispatch_cases (s : Switches) (i : ConsoleInput) (r : LineReader UInt8 lineCapacity) :
    packets (dispatch s i r).2 = [] ∨
      r.overflow = false ∧ dispatch s i r = packetLine s i r.line := by
  unfold dispatch
  dsimp only
  cases hover : r.overflow with
  | true => exact .inl rfl
  | false =>
    rw [if_neg Bool.false_ne_true]
    cases hword : wordEffects (text r.line) with
    | some es =>
      left
      dsimp only
      split_ifs
      · rfl
      · rfl
      · exact wordEffects_packets hword
    | none =>
      dsimp only
      split_ifs
      all_goals first
        | exact .inl rfl
        | exact .inr ⟨rfl, rfl⟩

theorem words_letters : ∀ w ∈ words, (ascii w.1).head? ≠ some 48 := by
  decide

theorem wordEffects_digit (t : List UInt8) : wordEffects (48 :: t) = none := by
  unfold wordEffects
  rw [Option.map_eq_none_iff, List.find?_eq_none]
  intro w hw hsame
  apply words_letters w hw
  rw [← of_decide_eq_true hsame]
  rfl

theorem Spells.starts {line data : List UInt8} (h : Spells line data)
    (hvalid : validPacket data = true) : ∃ rest, line = 48 :: rest ∧ 7 ≤ rest.length := by
  obtain ⟨first, rest, rfl, hfirst, hfour⟩ := validPacket_ne_nil hvalid
  have hlength := h.length
  cases h with
  | @cons high low _ line _ hhigh _ _ =>
    refine ⟨low :: line, ?_, ?_⟩
    · have hzero : first.toNat / 16 = 0 := by
        rcases hfirst with rfl | rfl
        · rfl
        · rfl
      rw [hzero] at hhigh
      rcases hhigh with h | h
      · rw [← Option.some.inj h]
        rfl
      · rw [← Option.some.inj h]
        rfl
    · rw [List.length_cons] at hlength
      omega

/-- A line that spells a valid packet is none of the words and letters. -/
theorem dispatch_spelled (s : Switches) (i : ConsoleInput) {line data : List UInt8}
    (hspells : Spells line data) (hvalid : validPacket data = true)
    (hlength : data.length ≤ dataCapacity) :
    dispatch s i (.behind lineCapacity line) = packetLine s i line := by
  have hlen := hspells.length
  unfold dataCapacity at hlength
  have hfits : line.length ≤ lineCapacity := by
    unfold lineCapacity
    omega
  obtain ⟨hline, hoverflow⟩ := LineReader.behind_of_le hfits
  obtain ⟨rest, rfl, hseven⟩ := hspells.starts hvalid
  have htext : text (48 :: rest) = 48 :: text rest := rfl
  have hletter : ∀ w, (ascii w).length < 8 → 48 :: rest ≠ ascii w := by
    intro w hw hsame
    rw [← hsame, List.length_cons] at hw
    omega
  have hmemory : 48 :: text rest ≠ ascii "memory" := fun hsame =>
    absurd (List.cons.inj hsame).1 (by decide)
  have hbootloader : 48 :: text rest ≠ ascii "bootloader" := fun hsame =>
    absurd (List.cons.inj hsame).1 (by decide)
  have heven : 8 ≤ (48 :: rest).length ∧ (48 :: rest).length % 2 = 0 := by
    rw [List.length_cons] at hlen ⊢
    omega
  unfold dispatch
  dsimp only
  rw [hoverflow, hline, if_neg Bool.false_ne_true, if_neg (hletter "?" (by decide)),
    if_neg (hletter "u" (by decide)), htext, wordEffects_digit]
  dsimp only
  rw [if_neg hmemory, if_neg hbootloader, if_neg fun h => hletter "z" (by decide) h.1,
    if_neg fun h => h.elim (hletter "h" (by decide)) (hletter "a" (by decide)),
    if_neg fun h => h.elim (hletter "l" (by decide)) (hletter "m" (by decide)),
    if_neg fun h => h.elim (hletter "f" (by decide)) (hletter "g" (by decide)), if_pos heven]

/-- A line sends at most one packet, and exactly the one that it spells. -/
theorem carryOut_packets (s : Switches) (l : TypedLine) :
    packets (carryOut s l).2 = [] ∧ (∀ data, ¬ Sends s l data) ∨
      ∃ data, packets (carryOut s l).2 = [data] ∧ Sends s l data := by
  unfold carryOut
  cases hrunning : s.running with
  | false =>
    rw [if_neg Bool.false_ne_true]
    exact .inl ⟨rfl, fun data h => Bool.noConfusion (hrunning.symm.trans h.running)⟩
  | true =>
    rw [if_pos rfl]
    have hnone : packets (dispatch s l.input (.behind lineCapacity l.text)).2 = [] →
        ∀ data, ¬ Sends s l data := by
      intro hempty data h
      rw [dispatch_spelled s l.input h.spelled h.valid h.length] at hempty
      rcases packets_packetLine s l.input l.text with ⟨-, hno⟩ | ⟨other, hsent, -⟩
      · exact hno data ⟨h.manual, h.spelled, h.valid, h.passes, h.taken⟩
      · rw [hsent] at hempty
        cases hempty
    rcases dispatch_cases s l.input (.behind lineCapacity l.text) with hempty | ⟨hover, hline⟩
    · exact .inl ⟨hempty, hnone hempty⟩
    · have hfits : l.text.length ≤ lineCapacity :=
        Nat.le_of_not_lt (of_decide_eq_false hover)
      rw [(LineReader.behind_of_le hfits).1] at hline
      rcases packets_packetLine s l.input l.text with ⟨hempty, -⟩ | ⟨data, hsent, hmanual, hspells,
        hvalid, hpasses, htaken⟩
      · rw [← hline] at hempty
        exact .inl ⟨hempty, hnone hempty⟩
      · right
        rw [hline]
        have hlength := hspells.length
        unfold lineCapacity at hfits
        exact ⟨data, hsent, hrunning, hmanual, hspells, by unfold dataCapacity; omega, hvalid,
          hpasses, htaken⟩

/-- A line sends one packet at most. -/
theorem carryOut_once (s : Switches) (l : TypedLine) :
    packets (carryOut s l).2 = [] ∨ ∃ data, packets (carryOut s l).2 = [data] := by
  rcases carryOut_packets s l with ⟨hempty, -⟩ | ⟨data, hsent, -⟩
  · exact .inl hempty
  · exact .inr ⟨data, hsent⟩

theorem carryOut_sends (s : Switches) (l : TypedLine) (data : List UInt8) :
    packets (carryOut s l).2 = [data] ↔ Sends s l data := by
  rcases carryOut_packets s l with ⟨hempty, hno⟩ | ⟨other, hsent, hsends⟩
  · rw [hempty]
    exact ⟨fun h => (List.cons_ne_nil _ _ h.symm).elim, fun h => absurd h (hno data)⟩
  · rw [hsent]
    constructor
    · intro h
      cases h
      exact hsends
    · -- the line spells one packet only
      intro h
      have hboth := (hexBytes_iff _ _).mpr h.spelled
      rw [(hexBytes_iff _ _).mpr hsends.spelled] at hboth
      rw [Option.some.inj hboth]

/-- Each line is carried out under what the lines before it have switched. -/
theorem outcomes_sends (s : Switches) {ls : List TypedLine} {n : Nat} {l : TypedLine}
    {es : List ConsoleEffect} (hl : ls[n]? = some l) (hes : (outcomes s ls)[n]? = some es) :
    (packets es = [] ∨ ∃ data, packets es = [data]) ∧
      ∀ data, packets es = [data] ↔ Sends (switchesAfter s (ls.take n)) l data := by
  rw [outcomes_getElem?, hl, Option.map_some, Option.some.injEq] at hes
  subst hes
  exact ⟨carryOut_once _ l, carryOut_sends _ l⟩

/-! ## The owner -/

/-- The owner that a line asks for: `h` for the host's tools, and `a` for the keeper, which waits for
the end of a trial. -/
def ownerLine (l : TypedLine) : Option Bool :=
  if l.text = ascii "h" then some false
  else if l.text = ascii "a" ∧ l.input.pumpBusy = false then some true
  else none

theorem sendPacket_owner (s : Switches) (i : ConsoleInput) (data : List UInt8) :
    (sendPacket s i data).1.autoEnabled = s.autoEnabled := by
  unfold sendPacket
  dsimp only
  split
  · rfl
  · rfl

theorem packetLine_owner (s : Switches) (i : ConsoleInput) (line : List UInt8) :
    (packetLine s i line).1.autoEnabled = s.autoEnabled := by
  unfold packetLine
  split
  · rfl
  · cases hexBytes line with
    | none => rfl
    | some data =>
      dsimp only
      split_ifs
      · rfl
      · rfl
      · exact sendPacket_owner s i data

theorem dispatch_owner (s : Switches) (l : TypedLine) :
    (dispatch s l.input (.behind lineCapacity l.text)).1.autoEnabled =
      (ownerLine l).getD s.autoEnabled := by
  unfold ownerLine dispatch
  dsimp only
  by_cases hover : (LineReader.behind lineCapacity l.text).overflow = true
  · have hlong : lineCapacity < l.text.length := of_decide_eq_true hover
    have hletter : ∀ w, (ascii w).length ≤ lineCapacity → l.text ≠ ascii w := by
      intro w hw hsame
      rw [hsame] at hlong
      omega
    rw [if_pos hover, if_neg (hletter "h" (by decide)), if_neg fun h => hletter "a" (by decide) h.1]
    rfl
  · have hfits : l.text.length ≤ lineCapacity :=
      Nat.le_of_not_lt fun h => hover (decide_eq_true h)
    rw [if_neg hover, (LineReader.behind_of_le hfits).1]
    by_cases hhost : l.text = ascii "h"
    · rw [hhost]
      rfl
    · rw [if_neg hhost]
      by_cases hkeeper : l.text = ascii "a"
      · rw [hkeeper]
        cases l.input.pumpBusy with
        | true => rfl
        | false => rfl
      · have hnone : (if l.text = ascii "a" ∧ l.input.pumpBusy = false then some true else none) =
            none := if_neg fun h => hkeeper h.1
        rw [hnone, Option.getD_none]
        cases wordEffects (text l.text) with
        | some es =>
          dsimp only
          split_ifs
          · rfl
          · rfl
          · rfl
        | none =>
          dsimp only
          have hletter : ¬ (l.text = ascii "h" ∨ l.text = ascii "a") :=
            not_or.mpr ⟨hhost, hkeeper⟩
          rw [if_neg hletter]
          split_ifs
          all_goals first
            | rfl
            | exact packetLine_owner s l.input l.text

/-- The owner that the lines so far have asked for; at start it is the keeper. -/
def lastOwner (ls : List TypedLine) : Bool :=
  (ls.filterMap ownerLine).getLastD true

theorem switchesAfter_concat (s : Switches) (ls : List TypedLine) (l : TypedLine) :
    switchesAfter s (ls ++ [l]) = (carryOut (switchesAfter s ls) l).1 := by
  unfold switchesAfter
  rw [List.foldl_append, List.foldl_cons, List.foldl_nil]

theorem switchesAfter_owner (ls : List TypedLine)
    (h : (switchesAfter .boot ls).running = true) :
    (switchesAfter .boot ls).autoEnabled = lastOwner ls := by
  induction ls using List.reverseRecOn with
  | nil => rfl
  | append_singleton ls l ih =>
    rw [switchesAfter_concat] at h ⊢
    unfold carryOut at h ⊢
    cases hrunning : (switchesAfter .boot ls).running with
    | false =>
      rw [hrunning, if_neg Bool.false_ne_true] at h
      exact absurd (hrunning.symm.trans h) Bool.false_ne_true
    | true =>
      rw [if_pos rfl, dispatch_owner, ih hrunning]
      unfold lastOwner
      rw [List.filterMap_append]
      cases howner : ownerLine l with
      | none =>
        rw [List.filterMap_cons_none howner, List.filterMap_nil, List.append_nil]
        rfl
      | some auto =>
        rw [List.filterMap_cons_some howner, List.filterMap_nil, List.getLastD_concat]
        rfl

/-! ## Runs -/

/-- Each complete line of the stream has its outcome, and it sends a packet if and only if it spells
it in hexadecimal, the packet is well formed and fits, the console runs under the manual owner, the
guard lets it pass and the controller takes it within 200 tries. It sends no other. The owner is
manual exactly when the last of the lines `h` and `a` that were carried out was `h`. -/
theorem console_sends (inputs : List ConsoleInput) :
    ∃ done : List (List ConsoleEffect), (Console.boot.run inputs).2 = done.flatten ∧
      done.length = (typedLines inputs).length ∧
      ∀ n l es, (typedLines inputs)[n]? = some l → done[n]? = some es →
        (packets es = [] ∨ ∃ data, packets es = [data]) ∧
        (∀ data, packets es = [data] ↔
          Sends (switchesAfter .boot ((typedLines inputs).take n)) l data) ∧
        ((switchesAfter .boot ((typedLines inputs).take n)).running = true →
          (switchesAfter .boot ((typedLines inputs).take n)).autoEnabled =
            lastOwner ((typedLines inputs).take n)) := by
  refine ⟨outcomes .boot (typedLines inputs), (run_lines inputs).2, outcomes_length _ _, ?_⟩
  intro n l es hl hes
  obtain ⟨honce, hsends⟩ := outcomes_sends .boot hl hes
  exact ⟨honce, hsends, switchesAfter_owner _⟩

example : (Console.boot.run ((ascii "01030c00\nh\r\n01030C00\n").map fun c =>
      ⟨some c, false, fun _ => true⟩)).2 =
    [.error "manual_takeover_required", .owner false, .resetSequence, .sent hciReset] := by
  decide

end UllReceiver.Host
