import UllReceiver.Radio.PhyPacket

/-!
# A receiver for software PHY packets

The receiver is stated on the bits of the air and the registers of the link layer, and shares
nothing with the code.
-/

namespace UllReceiver.Radio

open Library

/-! ## The receiver -/

/-- `x^7 + x^4 + 1`. -/
def whiteningTaps : List Nat := [0, 4]

/-- `x^24 + x^10 + x^9 + x^6 + x^4 + x^3 + x + 1`. -/
def crcTaps : List Nat := [0, 1, 3, 4, 6, 9, 10]

/-- Position 0 is set, and the channel is in the positions 1 to 6, its highest bit first. -/
def whiteningSeed (channel : UInt8) : Register 6 :=
  fun i => i.val == 0 || channel.toNat.testBit (6 - i.val)

/-- The bits of the air with the whitening of the channel added. -/
def airWhitening (channel : UInt8) (bits : List Bool) : List Bool :=
  (whiteningSeed channel).scramble whiteningTaps bits

/-- The lowest bit of the seed is in position 0. -/
def crcSeed (seed : UInt32) : Register 23 :=
  fun i => seed.toNat.testBit i.val

/-- What a sender appends to the bits: the register from position 23 to position 0. -/
def airCrc (seed : UInt32) (bits : List Bool) : List Bool :=
  (List.ofFn ((crcSeed seed).divide crcTaps bits)).reverse

/-- Alternating bits, the first one the first bit of the address. -/
def airPreamble (aa : UInt32) (phy : Nat) : List Bool :=
  (List.range (8 * phy)).map fun k => aa.toNat.testBit 0 ^^ k % 2 == 1

def airAddress (aa : UInt32) : List Bool :=
  (List.range 32).map aa.toNat.testBit

/-- The PDU of a packet, if the preamble, the address and the CRC are right. -/
def phyReceive (aa crcInit : UInt32) (channel : UInt8) (phy : Nat) (bits : List Bool) :
    Option (List UInt8) :=
  if bits.take (8 * phy) ≠ airPreamble aa phy then none
  else
    let bits := bits.drop (8 * phy)
    if bits.take 32 ≠ airAddress aa then none
    else
      let plain := airWhitening channel (bits.drop 32)
      let pdu := plain.take (plain.length - 24)
      if plain.drop (plain.length - 24) ≠ airCrc crcInit pdu then none
      else some (airBytes pdu)

/-! ## Whitening -/

/-- The whitening register in the byte of the code, position 0 in its bit 6. -/
def whiteningRegister (lfsr : UInt8) : Register 6 :=
  fun i => lfsr.toNat.testBit (6 - i.val)

/-- One clock of the byte. -/
def clockedByte (lfsr : UInt8) : UInt8 :=
  (if lfsr &&& 1 ≠ 0 then lfsr ^^^ 0x88 else lfsr) >>> 1

theorem whiteningRegister_seed {channel : UInt8} (h : channel ≤ 39) :
    channel ||| 0x40 < 0x80 ∧ whiteningRegister (channel ||| 0x40) = whiteningSeed channel := by
  have hall : ∀ n : Fin 40, UInt8.ofNat n.val ||| 0x40 < 0x80 ∧
      ∀ i, whiteningRegister (UInt8.ofNat n.val ||| 0x40) i =
        whiteningSeed (UInt8.ofNat n.val) i := by
    decide +kernel
  have hn : channel.toNat < 40 := Nat.lt_succ_of_le (UInt8.le_iff_toNat_le.mp h)
  have hc := hall ⟨channel.toNat, hn⟩
  rw [UInt8.ofNat_toNat] at hc
  exact ⟨hc.1, funext hc.2⟩

theorem whiteningRegister_clocked {lfsr : UInt8} (h : lfsr < 0x80) :
    clockedByte lfsr < 0x80 ∧ (whiteningRegister lfsr).out = decide (lfsr &&& 1 ≠ 0) ∧
      whiteningRegister (clockedByte lfsr) = (whiteningRegister lfsr).next whiteningTaps := by
  have hall : ∀ n : Fin 128, clockedByte (UInt8.ofNat n.val) < 0x80 ∧
      (whiteningRegister (UInt8.ofNat n.val)).out = decide (UInt8.ofNat n.val &&& 1 ≠ 0) ∧
      ∀ i, whiteningRegister (clockedByte (UInt8.ofNat n.val)) i =
        (whiteningRegister (UInt8.ofNat n.val)).next whiteningTaps i := by
    decide +kernel
  have hn : lfsr.toNat < 128 := UInt8.lt_iff_toNat_lt.mp h
  have hl := hall ⟨lfsr.toNat, hn⟩
  rw [UInt8.ofNat_toNat] at hl
  exact ⟨hl.1, hl.2.1, funext hl.2.2⟩

/-- Whitening a bit of a byte adds the output of the register to it. -/
theorem byteBits_flip (b : UInt8) (o : Bool) {k : Nat} (hk : k < 8) :
    byteBits (if o then b ^^^ 1 <<< UInt8.ofNat k else b) =
      (byteBits b).modify k (· ^^ o) := by
  apply List.ext_getElem (by simp)
  intro j hj _
  have hj8 : j < 8 := by simpa using hj
  rw [List.getElem_modify]
  simp only [byteBits, List.getElem_map, List.getElem_range]
  cases o with
  | false => simp
  | true =>
    have hone : ((1 : UInt8) <<< UInt8.ofNat k).toNat = 2 ^ k := by
      rcases (by omega : k = 0 ∨ k = 1 ∨ k = 2 ∨ k = 3 ∨ k = 4 ∨ k = 5 ∨ k = 6 ∨ k = 7) with
        rfl | rfl | rfl | rfl | rfl | rfl | rfl | rfl <;> rfl
    rw [if_pos rfl, UInt8.toNat_xor, Nat.testBit_xor, hone, Nat.testBit_two_pow]
    by_cases hjk : k = j <;> simp [hjk]

theorem modify_append_cons {α : Type*} {l : List α} {k : Nat} (hk : l.length = k) (x : α)
    (r : List α) (f : α → α) : (l ++ x :: r).modify k f = l ++ f x :: r := by
  subst hk
  induction l with
  | nil => rfl
  | cons y l ih => exact congrArg (y :: ·) ih

/-- The loop over the bits of a byte. -/
theorem whitenByte_none {lfsr : UInt8} (h : lfsr < 0x80) (bytes : List UInt8) (k : Nat) :
    ∃ l, (List.range k).foldl (whitenBit none) (lfsr, bytes) = (l, bytes) ∧ l < 0x80 ∧
      whiteningRegister l = (whiteningRegister lfsr).advance whiteningTaps k := by
  induction k with
  | zero => exact ⟨lfsr, rfl, h, rfl⟩
  | succ k ih =>
    obtain ⟨l, hfold, hl, hreg⟩ := ih
    have hclocked := whiteningRegister_clocked hl
    refine ⟨clockedByte l, ?_, hclocked.1, ?_⟩
    · rw [List.range_succ, List.foldl_append, hfold]
      unfold whitenBit clockedByte
      simp only [List.foldl_cons, List.foldl_nil]
      split <;> rfl
    · rw [hclocked.2.2, hreg, Register.advance_succ]

theorem whitenByte_some {lfsr : UInt8} (h : lfsr < 0x80) (done : List UInt8) (b : UInt8)
    (rest : List UInt8) {k : Nat} (hk : k ≤ 8) :
    ∃ l c, (List.range k).foldl (whitenBit (some done.length)) (lfsr, done ++ b :: rest) =
        (l, done ++ c :: rest) ∧ l < 0x80 ∧
      whiteningRegister l = (whiteningRegister lfsr).advance whiteningTaps k ∧
      byteBits c = (whiteningRegister lfsr).scramble whiteningTaps ((byteBits b).take k) ++
        (byteBits b).drop k := by
  induction k with
  | zero => exact ⟨lfsr, b, rfl, h, rfl, rfl⟩
  | succ k ih =>
    obtain ⟨l, c, hfold, hl, hreg, hbits⟩ := ih (by omega)
    have hclocked := whiteningRegister_clocked hl
    have hlength : (byteBits b).length = 8 := byteBits_length b
    refine ⟨clockedByte l, if (whiteningRegister l).out then c ^^^ 1 <<< UInt8.ofNat k else c,
      ?_, hclocked.1, ?_, ?_⟩
    · rw [List.range_succ, List.foldl_append, hfold, hclocked.2.1]
      unfold whitenBit clockedByte
      simp only [List.foldl_cons, List.foldl_nil, decide_eq_true_eq]
      split
      · rw [modify_append_cons rfl]
      · rfl
    · rw [hclocked.2.2, hreg, Register.advance_succ]
    · -- bit `k` is the next one to be scrambled
      obtain ⟨x, hx⟩ : ∃ x, (byteBits b).drop k = x :: (byteBits b).drop (k + 1) :=
        ⟨_, List.drop_eq_getElem_cons (by omega)⟩
      have htake : (byteBits b).take (k + 1) = (byteBits b).take k ++ [x] := by
        rw [List.take_add_one, ← List.head?_drop, hx]
        rfl
      have hk' : ((byteBits b).take k).length = k := by
        rw [List.length_take]
        omega
      have hdone : ((whiteningRegister lfsr).scramble whiteningTaps ((byteBits b).take k)).length =
          k := by
        rw [Register.scramble_length, hk']
      rw [byteBits_flip _ _ (by omega), hbits, hx, htake, Register.scramble_append, hk', hreg,
        List.append_assoc, modify_append_cons hdone]
      rfl

/-- The loop over bytes, from byte `done.length` to the end. -/
theorem whiten_bytes (bytes : List UInt8) : ∀ {lfsr : UInt8} (done : List UInt8), lfsr < 0x80 →
    ∃ l white, (List.range' done.length bytes.length).foldl (fun s i => whitenByte s (some i))
        (lfsr, done ++ bytes) = (l, done ++ white) ∧
      airBits white = (whiteningRegister lfsr).scramble whiteningTaps (airBits bytes) := by
  induction bytes with
  | nil => exact fun {lfsr} done _ => ⟨lfsr, [], rfl, rfl⟩
  | cons b bytes ih =>
    intro lfsr done h
    obtain ⟨l, c, hbyte, hl, hreg, hbits⟩ := whitenByte_some h done b bytes (Nat.le_refl 8)
    obtain ⟨m, white, hrest, hwhite⟩ := ih (done ++ [c]) hl
    refine ⟨m, c :: white, ?_, ?_⟩
    · rw [List.length_cons, List.range'_succ, List.foldl_cons, whitenByte, hbyte]
      rw [List.length_append, List.append_assoc, List.append_assoc] at hrest
      exact hrest
    · rw [airBits_cons, airBits_cons, Register.scramble_append, hwhite, hreg, hbits,
        byteBits_length, List.take_of_length_le (by simp), List.drop_of_length_le (by simp),
        List.append_nil]

theorem airBits_injective {a b : List UInt8} (h : airBits a = airBits b) : a = b := by
  rw [← airBytes_airBits a, h, airBytes_airBits]

/-- What the whitening loop adds when it starts two bytes before the buffer. -/
theorem outerWhitening_bits {bytes : List UInt8} {channel : UInt8}
    (hlength : bytes.length ≤ phyPacketMax) (hchannel : channel ≤ 39) :
    ∃ white, ullPhyOuterWhitening (some bytes) channel = (0, some white) ∧
      airBits white =
        ((whiteningSeed channel).advance whiteningTaps 16).scramble whiteningTaps
          (airBits bytes) := by
  have hseed := whiteningRegister_seed hchannel
  obtain ⟨l, hfirst, hl, hfirstReg⟩ := whitenByte_none hseed.1 bytes 8
  obtain ⟨m, hsecond, hm, hsecondReg⟩ := whitenByte_none hl bytes 8
  obtain ⟨n, white, hrest, hwhite⟩ := whiten_bytes bytes [] hm
  refine ⟨white, ?_, ?_⟩
  · unfold ullPhyOuterWhitening
    dsimp only
    have hargs : ¬(bytes.length > phyPacketMax ∨ channel > 39) := by
      rintro (hlong | hhigh)
      · omega
      · exact absurd hhigh (UInt8.not_lt.mpr hchannel)
    rw [if_neg hargs, Nat.add_comm, List.range_add, List.foldl_append, List.foldl_map]
    -- the first two turns clock the register past the header and touch no byte
    have htwo : (List.range 2).foldl
        (fun s i => whitenByte s (if 2 ≤ i then some (i - 2) else none)) (channel ||| 0x40, bytes) =
        (m, bytes) := by
      change whitenByte (whitenByte (channel ||| 0x40, bytes) none) none = _
      unfold whitenByte
      rw [hfirst, hsecond]
    have hindex : (fun (s : UInt8 × List UInt8) i =>
        whitenByte s (if 2 ≤ 2 + i then some (2 + i - 2) else none)) =
        fun s i => whitenByte s (some i) := by
      funext s i
      rw [if_pos (Nat.le_add_right _ _), Nat.add_sub_cancel_left]
    rw [htwo, hindex, List.range_eq_range']
    simp only [List.length_nil, List.nil_append] at hrest
    rw [hrest]
  · rw [hwhite, hsecondReg, hfirstReg, hseed.2]
    rfl

/-! ## The CRC -/

theorem and_one_ne_zero_iff (x : UInt32) : x &&& 1 ≠ 0 ↔ x.toNat.testBit 0 = true := by
  rw [Ne, ← UInt32.toNat_inj, UInt32.toNat_and, Nat.testBit_zero, decide_eq_true_eq]
  change ¬x.toNat &&& 1 = 0 ↔ _
  rw [Nat.and_one_is_mod]
  omega

theorem testBit_shiftedCrc (crc : UInt32) {i : Nat} (hi : i < 24) :
    (crc <<< 1 &&& 0xffffff).toNat.testBit i =
      if i = 0 then false else crc.toNat.testBit (i - 1) := by
  have hmask : (0xffffff : UInt32).toNat = 2 ^ 24 - 1 := rfl
  have hone : (1 : UInt32).toNat % 32 = 1 := rfl
  rw [UInt32.toNat_and, Nat.testBit_and, hmask, Nat.testBit_two_pow_sub_one,
    UInt32.toNat_shiftLeft, hone, Nat.testBit_mod_two_pow, Nat.testBit_shiftLeft]
  by_cases h0 : i = 0
  · simp [h0]
  · simp [h0, hi, show i < 32 by omega, show 1 ≤ i by omega]

theorem testBit_taps : ∀ i : Fin 24, (0x65b : UInt32).toNat.testBit i.val =
    decide (i.val ∈ crcTaps) := by
  decide

theorem testBit_crcBit (byte : UInt8) (crc : UInt32) {k i : Nat} (hk : k < 8) (hi : i < 24) :
    (crcBit byte crc k).toNat.testBit i =
      ((if i = 0 then false else crc.toNat.testBit (i - 1)) ^^
        (decide (i ∈ crcTaps) && (crc.toNat.testBit 23 ^^ byte.toNat.testBit k))) := by
  have hshift : (UInt32.ofNat k).toNat % 32 = k := by
    rw [UInt32.toNat_ofNat_of_lt' (by simp [UInt32.size]; omega)]
    omega
  have hfeedback : (crc >>> 23 ^^^ byte.toUInt32 >>> UInt32.ofNat k).toNat.testBit 0 =
      (crc.toNat.testBit 23 ^^ byte.toNat.testBit k) := by
    rw [UInt32.toNat_xor, Nat.testBit_xor, UInt32.toNat_shiftRight, UInt32.toNat_shiftRight, hshift,
      Nat.testBit_shiftRight, Nat.testBit_shiftRight, UInt8.toNat_toUInt32]
    rfl
  unfold crcBit
  dsimp only
  split
  next hset =>
    rw [UInt32.toNat_xor, Nat.testBit_xor, testBit_shiftedCrc crc hi, testBit_taps ⟨i, hi⟩,
      ← hfeedback, (and_one_ne_zero_iff _).mp hset, Bool.and_true]
  next hclear =>
    have hzero := Bool.eq_false_iff.mpr (mt (and_one_ne_zero_iff _).mpr hclear)
    rw [testBit_shiftedCrc crc hi, ← hfeedback, hzero, Bool.and_false, Bool.xor_false]

theorem crcSeed_crcBit (byte : UInt8) (crc : UInt32) {k : Nat} (hk : k < 8) :
    crcSeed (crcBit byte crc k) =
      (crcSeed crc).clock crcTaps ((crcSeed crc).out ^^ byte.toNat.testBit k) := by
  funext i
  exact testBit_crcBit byte crc hk i.isLt

theorem crcSeed_byte (byte : UInt8) (crc : UInt32) {k : Nat} (hk : k ≤ 8) :
    crcSeed ((List.range k).foldl (crcBit byte) crc) =
      (crcSeed crc).divide crcTaps ((List.range k).map byte.toNat.testBit) := by
  induction k with
  | zero => rfl
  | succ k ih =>
    rw [List.range_succ, List.foldl_append, List.map_append, Register.divide_append,
      ← ih (by omega)]
    exact crcSeed_crcBit byte _ (by omega)

theorem crcSeed_pdu (pdu : List UInt8) : ∀ crc : UInt32,
    crcSeed (pduCrc crc pdu) = (crcSeed crc).divide crcTaps (airBits pdu) := by
  induction pdu with
  | nil => exact fun crc => rfl
  | cons b pdu ih =>
    intro crc
    rw [airBits_cons, Register.divide_append, byteBits, ← crcSeed_byte b crc (Nat.le_refl 8)]
    exact ih _

theorem byteBits_reverse8 (b : UInt8) : byteBits (reverse8 b) = (byteBits b).reverse := by
  have hall : ∀ n : Fin 256,
      byteBits (reverse8 (UInt8.ofNat n.val)) = (byteBits (UInt8.ofNat n.val)).reverse := by
    decide +kernel
  have hb := hall ⟨b.toNat, b.toNat_lt⟩
  rwa [UInt8.ofNat_toNat] at hb

/-- A byte of a word. -/
theorem byteBits_word (w : UInt32) {k : Nat} (hk : k < 32) :
    byteBits (w >>> UInt32.ofNat k).toUInt8 =
      (List.range 8).map fun j => w.toNat.testBit (k + j) := by
  have hshift : (UInt32.ofNat k).toNat % 32 = k := by
    rw [UInt32.toNat_ofNat_of_lt' (by simp [UInt32.size]; omega)]
    exact Nat.mod_eq_of_lt hk
  apply List.map_congr_left
  intro j hj
  rw [UInt32.toNat_toUInt8, Nat.testBit_mod_two_pow, UInt32.toNat_shiftRight, hshift,
    Nat.testBit_shiftRight, decide_eq_true (List.mem_range.mp hj), Bool.true_and]

/-- The three bytes behind the PDU. -/
theorem airBits_crc (seed : UInt32) (pdu : List UInt8) :
    airBits ((List.range 3).map fun i =>
        reverse8 (pduCrc seed pdu >>> UInt32.ofNat (16 - 8 * i)).toUInt8) =
      airCrc seed (airBits pdu) := by
  unfold airCrc
  rw [← crcSeed_pdu]
  generalize pduCrc seed pdu = c
  change byteBits (reverse8 (c >>> UInt32.ofNat 16).toUInt8) ++
    (byteBits (reverse8 (c >>> UInt32.ofNat 8).toUInt8) ++
      (byteBits (reverse8 (c >>> UInt32.ofNat 0).toUInt8) ++ [])) = _
  rw [byteBits_reverse8, byteBits_reverse8, byteBits_reverse8, byteBits_word c (by omega),
    byteBits_word c (by omega), byteBits_word c (by omega)]
  simp only [List.ofFn_succ, List.ofFn_zero]
  rfl

/-! ## The packet -/

theorem phyAdmissible_iff (capacity : Nat) (crcInit : UInt32) (channel phy : UInt8)
    (pduLength : Nat) :
    phyAdmissible capacity crcInit channel phy pduLength ↔
      (phy = 1 ∨ phy = 2) ∧ channel ≤ 39 ∧ crcInit.toNat < 2 ^ 24 ∧ 2 ≤ pduLength ∧
        phy.toNat + pduLength ≤ 248 ∧ phy.toNat + 4 + pduLength + 3 ≤ capacity := by
  have hphy : phy = 1 ∨ phy = 2 ↔ 1 ≤ phy.toNat ∧ phy.toNat ≤ 2 := by
    rw [← UInt8.toNat_inj, ← UInt8.toNat_inj]
    change phy.toNat = 1 ∨ phy.toNat = 2 ↔ _
    omega
  rw [hphy]
  unfold phyAdmissible phyPacketMax
  simp only [UInt8.lt_iff_toNat_lt, UInt32.lt_iff_toNat_lt, gt_iff_lt, UInt8.le_iff_toNat_le]
  change ¬(phy.toNat < 1 ∨ 2 < phy.toNat ∨ 39 < channel.toNat ∨ 16777215 < crcInit.toNat ∨ _ ∨ _) ∧
    _ ↔ (_ ∧ channel.toNat ≤ 39 ∧ _)
  omega

theorem airBits_preamble (aa : UInt32) {phy : UInt8} (hphy : phy = 1 ∨ phy = 2) :
    airBits (List.replicate phy.toNat (if aa &&& 1 ≠ 0 then 0x55 else 0xaa)) =
      airPreamble aa phy.toNat := by
  have hfirst : (if aa &&& 1 ≠ 0 then 0x55 else 0xaa : UInt8) =
      if aa.toNat.testBit 0 then 0x55 else 0xaa :=
    if_congr (and_one_ne_zero_iff aa) rfl rfl
  unfold airPreamble
  rw [hfirst]
  generalize aa.toNat.testBit 0 = first
  rcases hphy with rfl | rfl <;> cases first <;> decide

theorem airBits_address (aa : UInt32) :
    airBits ((List.range 4).map fun i => (aa >>> UInt32.ofNat (8 * i)).toUInt8) =
      airAddress aa := by
  change byteBits (aa >>> UInt32.ofNat 0).toUInt8 ++ (byteBits (aa >>> UInt32.ofNat 8).toUInt8 ++
    (byteBits (aa >>> UInt32.ofNat 16).toUInt8 ++
      (byteBits (aa >>> UInt32.ofNat 24).toUInt8 ++ []))) = _
  rw [byteBits_word aa (by omega), byteBits_word aa (by omega), byteBits_word aa (by omega),
    byteBits_word aa (by omega)]
  rfl

/-- The receiver takes apart what a sender puts together. -/
theorem phyReceive_framed (aa crcInit : UInt32) (channel : UInt8) (phy : Nat) (pdu : List UInt8) :
    phyReceive aa crcInit channel phy
      (airPreamble aa phy ++ (airAddress aa ++
        airWhitening channel (airBits pdu ++ airCrc crcInit (airBits pdu)))) = some pdu := by
  have hpreamble : (airPreamble aa phy).length = 8 * phy := by simp [airPreamble]
  have haddress : (airAddress aa).length = 32 := by simp [airAddress]
  have hcrc : (airCrc crcInit (airBits pdu)).length = 24 := by simp [airCrc]
  have hplain : (airBits pdu ++ airCrc crcInit (airBits pdu)).length - 24 =
      (airBits pdu).length := by
    rw [List.length_append, hcrc, Nat.add_sub_cancel]
  unfold phyReceive
  dsimp only
  rw [List.take_left' hpreamble, if_neg (not_not.mpr rfl), List.drop_left' hpreamble,
    List.take_left' haddress, if_neg (not_not.mpr rfl), List.drop_left' haddress]
  have hback : airWhitening channel (airWhitening channel
      (airBits pdu ++ airCrc crcInit (airBits pdu))) =
      airBits pdu ++ airCrc crcInit (airBits pdu) :=
    Register.scramble_scramble _ _ _
  rw [hback, hplain, List.take_left' rfl, List.drop_left' rfl, if_neg (not_not.mpr rfl),
    airBytes_airBits]

theorem Memory.read_write (m : Memory) (p : Nat) (bytes : List UInt8) :
    (m.write p bytes).read p bytes.length = bytes := by
  unfold Memory.read Memory.write
  apply List.ext_getElem (by simp)
  intro i hi hi'
  rw [List.getElem_map, List.getElem_range, if_pos (Nat.le_add_right _ _), Nat.add_sub_cancel_left,
    List.getElem?_eq_getElem hi']
  rfl

theorem Memory.write_frame (m : Memory) (p : Nat) (bytes : List UInt8) {a : Nat}
    (ha : a < p ∨ p + bytes.length ≤ a) : m.write p bytes a = m a := by
  unfold Memory.write
  split
  next h =>
    rw [List.getElem?_eq_none (by omega)]
    rfl
  next => rfl

/-- The packet that goes to the output. -/
theorem ullPhyPacketBuild_admissible (m : Memory) (out capacity written : Nat)
    (aa crcInit : UInt32) (channel phy : UInt8) (pdu : Nat) {pduLength : Nat}
    (h : phyAdmissible capacity crcInit channel phy pduLength) :
    ∃ packet, ullPhyPacketBuild m (some out) capacity (some written) aa crcInit channel phy
        (some pdu) pduLength =
        (0, m.write out packet, some (phy.toNat + 4 + pduLength + 3)) ∧
      packet.length = phy.toNat + 4 + pduLength + 3 ∧
      phyReceive aa crcInit channel phy.toNat (airBits packet) = some (m.read pdu pduLength) := by
  obtain ⟨hphy, hchannel, -⟩ := (phyAdmissible_iff _ _ _ _ _).mp h
  have hseed := whiteningRegister_seed hchannel
  have hpdu : (m.read pdu pduLength).length = pduLength := by simp [Memory.read]
  -- the preamble and the address stay as they are, and the PDU with its CRC is whitened
  obtain ⟨front, hfront⟩ : ∃ front : List UInt8, front =
      List.replicate phy.toNat (if aa &&& 1 ≠ 0 then 0x55 else 0xaa) ++
        (List.range 4).map fun i => (aa >>> UInt32.ofNat (8 * i)).toUInt8 := ⟨_, rfl⟩
  obtain ⟨tail, htail⟩ : ∃ tail : List UInt8, tail = m.read pdu pduLength ++
      (List.range 3).map fun i =>
        reverse8 (pduCrc crcInit (m.read pdu pduLength) >>> UInt32.ofNat (16 - 8 * i)).toUInt8 :=
    ⟨_, rfl⟩
  have hpacket : plainPacket aa crcInit phy (m.read pdu pduLength) = front ++ tail := by
    rw [hfront, htail, plainPacket, List.append_assoc]
  have hfrontLength : front.length = phy.toNat + 4 := by simp [hfront]
  have htailLength : tail.length = pduLength + 3 := by simp [htail, hpdu]
  obtain ⟨l, white, hloop, hwhite⟩ := whiten_bytes tail front hseed.1
  have hwhiteLength : white.length = pduLength + 3 := by
    have hlength := congrArg List.length hwhite
    rw [Register.scramble_length, airBits_length, airBits_length] at hlength
    omega
  refine ⟨front ++ white, ?_, ?_, ?_⟩
  · unfold ullPhyPacketBuild
    dsimp only
    rw [if_neg (not_not.mpr h), hpacket,
      show phy.toNat + 4 + pduLength + 3 - (phy.toNat + 4) = tail.length by omega, ← hfrontLength,
      hloop]
  · rw [List.length_append, hfrontLength, hwhiteLength]
    omega
  · rw [airBits_append, hwhite, hseed.2, hfront, airBits_append, airBits_preamble aa hphy,
      airBits_address, htail, airBits_append, airBits_crc, List.append_assoc]
    exact phyReceive_framed _ _ _ _ _

theorem ullPhyPacketBuild_refused (m : Memory) (out : Option Nat) (capacity : Nat)
    (written : Option Nat) (aa crcInit : UInt32) (channel phy : UInt8) (pdu : Option Nat)
    (pduLength : Nat)
    (h : ¬(out.isSome ∧ written.isSome ∧ pdu.isSome ∧
      phyAdmissible capacity crcInit channel phy pduLength)) :
    ullPhyPacketBuild m out capacity written aa crcInit channel phy pdu pduLength =
      (-1, m, written) := by
  cases out with
  | none => rfl
  | some out =>
    cases written with
    | none => rfl
    | some written =>
      cases pdu with
      | none => rfl
      | some pdu => exact if_pos fun hadmissible => h ⟨rfl, rfl, rfl, hadmissible⟩

/-- The whitening of a buffer, undone by the whitening of the packet that the buffer is sent in. -/
theorem outerWhitening_air {bytes : List UInt8} {channel : UInt8}
    (hlength : bytes.length ≤ phyPacketMax) (hchannel : channel ≤ 39) :
    ∃ white, ullPhyOuterWhitening (some bytes) channel = (0, some white) ∧
      ∀ h0 h1, (airWhitening channel (airBits (h0 :: h1 :: white))).drop 16 = airBits bytes := by
  obtain ⟨white, hrun, hbits⟩ := outerWhitening_bits hlength hchannel
  refine ⟨white, hrun, fun h0 h1 => ?_⟩
  have hheader : (airBits [h0, h1]).length = 16 := airBits_length _
  unfold airWhitening
  rw [show h0 :: h1 :: white = [h0, h1] ++ white from rfl, airBits_append, Register.scramble_append,
    List.drop_left' (by rw [Register.scramble_length, hheader]), hheader, hbits,
    Register.scramble_scramble]

theorem ullPhyOuterWhitening_twice (bytes : Option (List UInt8)) (channel : UInt8) :
    (ullPhyOuterWhitening (ullPhyOuterWhitening bytes channel).2 channel).2 = bytes := by
  cases bytes with
  | none => rfl
  | some bytes =>
    by_cases hargs : bytes.length > phyPacketMax ∨ channel > 39
    · have hkept : ullPhyOuterWhitening (some bytes) channel = (-1, some bytes) := if_pos hargs
      rw [hkept, hkept]
    · have hlength : bytes.length ≤ phyPacketMax := Nat.not_lt.mp fun h => hargs (Or.inl h)
      have hchannel : channel ≤ 39 := UInt8.not_lt.mp fun h => hargs (Or.inr h)
      obtain ⟨white, hrun, hbits⟩ := outerWhitening_bits hlength hchannel
      have hsame : white.length = bytes.length := by
        have hbitsLength := congrArg List.length hbits
        rw [Register.scramble_length, airBits_length, airBits_length] at hbitsLength
        omega
      obtain ⟨again, hrun', hbits'⟩ :=
        outerWhitening_bits (Nat.le_trans (Nat.le_of_eq hsame) hlength) hchannel
      have hback : again = bytes := by
        apply airBits_injective
        rw [hbits', hbits, Register.scramble_scramble]
      rw [hrun, hrun', hback]

/-- A built packet is received, wherever the input and the output are in memory, and whatever is
refused changes nothing. Whitening a buffer twice, by the code or on the air, gives it back. -/
theorem phy_packet_decodable :
    (∀ (m : Memory) (out capacity written : Nat) (aa crcInit : UInt32) (channel phy : UInt8)
      (pdu pduLength : Nat), (phy = 1 ∨ phy = 2) ∧ channel ≤ 39 ∧ crcInit.toNat < 2 ^ 24 ∧
        2 ≤ pduLength ∧ phy.toNat + pduLength ≤ 248 ∧
        phy.toNat + 4 + pduLength + 3 ≤ capacity →
      ∃ m', ullPhyPacketBuild m (some out) capacity (some written) aa crcInit channel phy
          (some pdu) pduLength = (0, m', some (phy.toNat + 4 + pduLength + 3)) ∧
        (∀ a, a < out ∨ out + (phy.toNat + 4 + pduLength + 3) ≤ a → m' a = m a) ∧
        phyReceive aa crcInit channel phy.toNat
          (airBits (m'.read out (phy.toNat + 4 + pduLength + 3))) =
          some (m.read pdu pduLength)) ∧
    (∀ (m : Memory) (out : Option Nat) (capacity : Nat) (written : Option Nat)
      (aa crcInit : UInt32) (channel phy : UInt8) (pdu : Option Nat) (pduLength : Nat),
      (ullPhyPacketBuild m out capacity written aa crcInit channel phy pdu pduLength).1 ≠ 0 →
      ullPhyPacketBuild m out capacity written aa crcInit channel phy pdu pduLength =
        (-1, m, written)) ∧
    (∀ (bytes : Option (List UInt8)) (channel : UInt8),
      (ullPhyOuterWhitening (ullPhyOuterWhitening bytes channel).2 channel).2 = bytes) ∧
    ∀ (bytes : List UInt8) (channel : UInt8), bytes.length ≤ phyPacketMax → channel ≤ 39 →
      ∃ white, ullPhyOuterWhitening (some bytes) channel = (0, some white) ∧
        ∀ h0 h1, airBytes ((airWhitening channel (airBits (h0 :: h1 :: white))).drop 16) =
          bytes := by
  refine ⟨?_, ?_, ullPhyOuterWhitening_twice, ?_⟩
  · intro m out capacity written aa crcInit channel phy pdu pduLength h
    obtain ⟨packet, hbuild, hlength, hreceive⟩ :=
      ullPhyPacketBuild_admissible m out capacity written aa crcInit channel phy pdu
        ((phyAdmissible_iff _ _ _ _ _).mpr h)
    refine ⟨_, hbuild, fun a ha => m.write_frame out packet (hlength ▸ ha), ?_⟩
    rw [← hlength, Memory.read_write]
    exact hreceive
  · intro m out capacity written aa crcInit channel phy pdu pduLength hfail
    apply ullPhyPacketBuild_refused
    rintro ⟨hout, hwritten, hpdu, hadmissible⟩
    obtain ⟨out, rfl⟩ := Option.isSome_iff_exists.mp hout
    obtain ⟨written, rfl⟩ := Option.isSome_iff_exists.mp hwritten
    obtain ⟨pdu, rfl⟩ := Option.isSome_iff_exists.mp hpdu
    obtain ⟨packet, hbuild, -⟩ :=
      ullPhyPacketBuild_admissible m out capacity written aa crcInit channel phy pdu hadmissible
    rw [hbuild] at hfail
    exact hfail rfl
  · intro bytes channel hlength hchannel
    obtain ⟨white, hrun, hair⟩ := outerWhitening_air hlength hchannel
    refine ⟨white, hrun, fun h0 h1 => ?_⟩
    rw [hair, airBytes_airBits]

/-- The packet overwrites the PDU it was built from; with one byte less of room it is refused. -/
theorem phy_packet_decodable_overlapping :
    let m : Memory := UInt8.ofNat
    let build (capacity : Nat) := ullPhyPacketBuild m (some 98) capacity (some 0) 0x71764129
      0x555555 37 2 (some 100) 5
    (∃ m', build 14 = (0, m', some 14) ∧
      phyReceive 0x71764129 0x555555 37 2 (airBits (m'.read 98 14)) =
        some [100, 101, 102, 103, 104]) ∧
      build 13 = (-1, m, some 0) := by
  intro m build
  obtain ⟨hbuilt, hrefused, -⟩ := phy_packet_decodable
  obtain ⟨m', hpacket, -, hreceived⟩ :=
    hbuilt m 98 14 0 0x71764129 0x555555 37 2 100 5 (by decide)
  exact ⟨⟨m', hpacket, hreceived⟩, hrefused m (some 98) 13 (some 0) 0x71764129 0x555555 37 2
    (some 100) 5 (by decide)⟩

end UllReceiver.Radio
