import UllReceiver.Bridge.PairingRun
import UllReceiver.Library.BurstErrors

/-!
# Bursts on the wire

The checksum of a frame is the CRC-32 of the ROM, so the link model's assumption about what arrives
holds of every transfer that a burst of up to 25 bits on the wire has hit, or any other change
within four bytes: such a request is answered without the codecs, and such a reply is not accepted.
-/

namespace UllReceiver.Bridge

open Library

/-! ## The checksum as a division -/

/-- `x^32 + x^26 + x^23 + x^22 + x^16 + x^12 + x^11 + x^10 + x^8 + x^7 + x^5 + x^4 + x^2 + x + 1`. -/
def crc32Taps : List Nat := [0, 1, 2, 4, 5, 7, 8, 10, 11, 12, 16, 22, 23, 26]

/-- The CRC is kept reflected: bit 0 is the output. -/
def crc32Register (crc : UInt32) : Register 31 :=
  fun i => crc.toNat.testBit (31 - i.val)

/-- One bit of `crc32Le`. -/
def crc32LeBit (crc : UInt32) : UInt32 :=
  if crc &&& 1 ≠ 0 then (crc >>> 1) ^^^ 0xedb88320 else crc >>> 1

def crc32LeByte (crc : UInt32) (b : UInt8) : UInt32 :=
  Nat.repeat crc32LeBit 8 (crc ^^^ b.toUInt32)

theorem crc32Le_eq (data : List UInt8) :
    crc32Le data = ~~~ data.foldl crc32LeByte 0xffffffff := rfl

theorem testBit_polynomial (i : Fin 32) :
    (0xedb88320 : UInt32).toNat.testBit (31 - i.val) = decide (i.val ∈ crc32Taps) := by
  revert i
  decide +kernel

theorem crc32Register_bit (crc : UInt32) :
    crc32Register (crc32LeBit crc) = (crc32Register crc).next crc32Taps := by
  have hout : (crc &&& 1 ≠ 0) ↔ crc.toNat.testBit 0 = true := by
    rw [ne_eq, ← UInt32.toNat_inj, UInt32.toNat_and]
    change ¬ crc.toNat &&& 1 = 0 ↔ _
    rw [Nat.and_one_is_mod, Nat.testBit_zero, decide_eq_true_eq]
    omega
  have hshift : ∀ j, (crc >>> 1).toNat.testBit j = crc.toNat.testBit (j + 1) := by
    intro j
    rw [UInt32.toNat_shiftRight, Nat.testBit_shiftRight, Nat.add_comm]
    rfl
  funext i
  -- position 0 is fed from bit 32, which is clear
  have hplace : crc.toNat.testBit (31 - i.val + 1) =
      if i.val = 0 then false else crc32Register crc ⟨i.val - 1, by omega⟩ := by
    split
    · next hi =>
      rw [hi]
      exact Nat.testBit_lt_two_pow crc.toNat_lt
    · next hi =>
      show _ = crc.toNat.testBit (31 - (i.val - 1))
      rw [show 31 - i.val + 1 = 31 - (i.val - 1) by have := i.isLt; omega]
  show (crc32LeBit crc).toNat.testBit (31 - i.val) =
    (_ ^^ (_ && crc.toNat.testBit 0))
  unfold crc32LeBit
  rw [← testBit_polynomial, ← hplace]
  split
  · next h => rw [UInt32.toNat_xor, Nat.testBit_xor, hshift, hout.mp h, Bool.and_true]
  · next h =>
    rw [hshift, Bool.eq_false_iff.mpr (mt hout.mpr h), Bool.and_false, Bool.xor_false]

theorem crc32Register_bits (k : Nat) (crc : UInt32) :
    crc32Register (Nat.repeat crc32LeBit k crc) = (crc32Register crc).advance crc32Taps k := by
  induction k with
  | zero => rfl
  | succ k ih =>
    rw [Register.advance_succ, ← ih]
    exact crc32Register_bit _

theorem crc32Register_xor (crc : UInt32) (b : UInt8) :
    crc32Register (crc ^^^ b.toUInt32) = (crc32Register crc).load (byteBits b) := by
  funext i
  have hbit : b.toNat.testBit (31 - i.val) = (byteBits b).getD (31 - i.val) false := by
    by_cases hi : 31 - i.val < 8
    · rw [List.getD_eq_getElem _ _ (by rw [byteBits_length]; exact hi)]
      unfold byteBits
      rw [List.getElem_map, List.getElem_range]
    · rw [List.getD_eq_default _ _ (by rw [byteBits_length]; omega)]
      exact Nat.testBit_lt_two_pow
        (Nat.lt_of_lt_of_le b.toNat_lt (Nat.pow_le_pow_right (by decide) (by omega)))
  unfold crc32Register Register.load
  rw [UInt32.toNat_xor, Nat.testBit_xor, UInt8.toNat_toUInt32, hbit]

theorem crc32Register_data (data : List UInt8) (crc : UInt32) :
    crc32Register (data.foldl crc32LeByte crc) =
      (crc32Register crc).divide crc32Taps (airBits data) := by
  induction data generalizing crc with
  | nil => rfl
  | cons b data ih =>
    have hbyte : crc32Register (crc32LeByte crc b) =
        (crc32Register crc).divide crc32Taps (byteBits b) := by
      rw [Register.divide_load _ (by rw [byteBits_length]; decide), byteBits_length,
        ← crc32Register_xor, ← crc32Register_bits]
      rfl
    rw [List.foldl_cons, ih, airBits_cons, Register.divide_append, hbyte]

/-! ## A frame as bits -/

/-- The bits in the order of the reflected checksum, which takes the lowest of a byte first. -/
def CwFrame.checkedBits (f : CwFrame) : List Bool :=
  airBits (f.read 0 cwBytes)

/-- The bits as the SPI link sends them: neither side asks for the lowest of a byte first. -/
def CwFrame.wireBits (f : CwFrame) : List Bool :=
  highBits (f.read 0 cwBytes)

/-- A burst of up to 25 bits on the wire, or changes within four consecutive bytes. -/
def WireBurst (sent received : CwFrame) : Prop :=
  Burst 25 sent.wireBits received.wireBits ∨
    Burst 4 (sent.read 0 cwBytes) (received.read 0 cwBytes)

theorem WireBurst.refl (f : CwFrame) : WireBurst f f :=
  .inl (.refl 25 f.wireBits)

/-- Either way the checksum sees no more than its own length. -/
theorem WireBurst.checked {f g : CwFrame} (h : WireBurst f g) :
    Burst 32 f.checkedBits g.checkedBits := by
  have hbytes : Burst 4 (f.read 0 cwBytes) (g.read 0 cwBytes) := by
    rcases h with hwire | hbytes
    · exact Burst.of_highBits (m := 3) hwire
    · exact hbytes
  exact hbytes.airBits

theorem testBit_shifted (x : UInt8) {k i : Nat} (hk : k < 32) (hi : i < 32) :
    (x.toUInt32 <<< UInt32.ofNat k).toNat.testBit i =
      (decide (k ≤ i) && x.toNat.testBit (i - k)) := by
  have hshift : (UInt32.ofNat k).toNat % 32 = k := by
    rw [UInt32.toNat_ofNat_of_lt' (by simp [UInt32.size]; omega)]
    exact Nat.mod_eq_of_lt hk
  rw [UInt32.toNat_shiftLeft, hshift, UInt8.toNat_toUInt32, Nat.testBit_mod_two_pow,
    Nat.testBit_shiftLeft, decide_eq_true hi, Bool.true_and]

/-- The bits of a stored word, from its lowest up. -/
theorem airBits_word (f : CwFrame) (off : Nat) :
    airBits (f.read off 4) = (List.range 32).map (cwGet32 f off).toNat.testBit := by
  have hhigh : ∀ (x : UInt8) (j : Nat), 8 ≤ j → x.toNat.testBit j = false := fun x j hj =>
    Nat.testBit_lt_two_pow
      (Nat.lt_of_lt_of_le x.toNat_lt (Nat.pow_le_pow_right (by decide) hj))
  unfold cwGet32
  show airBits [f.byte (off + 0), f.byte (off + 1), f.byte (off + 2), f.byte (off + 3)] = _
  rw [Nat.add_zero]
  generalize f.byte off = a
  generalize f.byte (off + 1) = b
  generalize f.byte (off + 2) = c
  generalize f.byte (off + 3) = d
  apply List.ext_getElem?
  intro i
  rw [airBits_getElem?, List.getElem?_map]
  by_cases hi : i < 32
  · have hb := testBit_shifted b (k := 8) (by omega) hi
    have hc := testBit_shifted c (k := 16) (by omega) hi
    have hd := testBit_shifted d (k := 24) (by omega) hi
    change (b.toUInt32 <<< 8).toNat.testBit i = _ at hb
    change (c.toUInt32 <<< 16).toNat.testBit i = _ at hc
    change (d.toUInt32 <<< 24).toNat.testBit i = _ at hd
    rw [List.getElem?_range hi, Option.map_some, UInt32.toNat_or, UInt32.toNat_or, UInt32.toNat_or,
      Nat.testBit_or, Nat.testBit_or, Nat.testBit_or, hb, hc, hd, UInt8.toNat_toUInt32]
    -- the byte that holds the bit: of the others one is shifted past it and one ends before it
    have hbyte : i / 8 = 0 ∨ i / 8 = 1 ∨ i / 8 = 2 ∨ i / 8 = 3 := by omega
    rcases hbyte with h | h | h | h <;> rw [h]
    · rw [show i % 8 = i by omega]
      simp [show ¬ 8 ≤ i by omega, show ¬ 16 ≤ i by omega, show ¬ 24 ≤ i by omega]
    · rw [show i % 8 = i - 8 by omega]
      simp [hhigh a i (by omega), show 8 ≤ i by omega, show ¬ 16 ≤ i by omega,
        show ¬ 24 ≤ i by omega]
    · rw [show i % 8 = i - 16 by omega]
      simp [hhigh a i (by omega), hhigh b (i - 8) (by omega), show 16 ≤ i by omega,
        show ¬ 24 ≤ i by omega]
    · rw [show i % 8 = i - 24 by omega]
      simp [hhigh a i (by omega), hhigh b (i - 8) (by omega), hhigh c (i - 16) (by omega),
        show 24 ≤ i by omega]
  · rw [List.getElem?_eq_none (show [a, b, c, d].length ≤ i / 8 by
        show 4 ≤ i / 8
        omega),
      List.getElem?_eq_none (by rw [List.length_range]; omega)]
    rfl

/-- The CRC with its bits inverted, as the register is read. -/
theorem check_crc (data : List UInt8) :
    (crc32Register 0xffffffff).check crc32Taps (fun _ => true) (airBits data) =
      (List.range 32).map (crc32Le data).toNat.testBit := by
  rw [crc32Le_eq]
  unfold Register.check
  rw [← crc32Register_data]
  generalize data.foldl crc32LeByte 0xffffffff = crc
  apply List.ext_getElem (by rw [List.length_reverse, List.length_ofFn, List.length_map,
    List.length_range])
  intro j hj hj'
  rw [List.length_map, List.length_range] at hj'
  have hnot : (~~~ crc).toNat.testBit j = !crc.toNat.testBit j := by
    rw [← UInt32.toNat_toBitVec, ← UInt32.toNat_toBitVec, UInt32.toBitVec_not,
      BitVec.testBit_toNat, BitVec.testBit_toNat, BitVec.getLsbD_not, decide_eq_true hj',
      Bool.true_and]
  rw [List.getElem_map, List.getElem_range, hnot, List.getElem_reverse, List.getElem_ofFn,
    Bool.xor_true]
  show (!crc.toNat.testBit (31 - ((List.ofFn _).length - 1 - j))) = _
  rw [List.length_ofFn, show 31 - (32 - 1 - j) = j by omega]

/-- A frame whose checksum is right is its data with their check. -/
theorem cwCrcOk_bits {f : CwFrame} (h : cwCrcOk crc32Le f = true) :
    f.checkedBits = airBits (f.read 0 cwCrc) ++
      (crc32Register 0xffffffff).check crc32Taps (fun _ => true) (airBits (f.read 0 cwCrc)) := by
  have hsplit : f.read 0 cwBytes = f.read 0 cwCrc ++ f.read cwCrc 4 := by
    unfold CwFrame.read
    rw [show cwBytes = cwCrc + 4 from rfl, List.range_add, List.map_append, List.map_map]
    congr 1
  have hword : cwGet32 f cwCrc = crc32Le (f.read 0 cwCrc) := beq_iff_eq.mp h
  unfold CwFrame.checkedBits
  rw [hsplit, airBits_append, airBits_word, hword, check_crc]

theorem CwFrame.checkedBits_injective {f g : CwFrame} (h : f.checkedBits = g.checkedBits) :
    f = g := by
  have hread := congrArg airBytes h
  unfold CwFrame.checkedBits at hread
  rw [airBytes_airBits, airBytes_airBits] at hread
  have hbyte : f.b = g.b := by
    funext i
    have hi := congrArg (·[i.val]?) hread
    simpa [CwFrame.read, CwFrame.byte, cwBytes, i.isLt] using hi
  cases f
  cases g
  cases hbyte
  rfl

/-- Of the frames that differ in a burst, at most one has the right checksum. -/
theorem cwCrcOk_burst {f g : CwFrame} (hf : cwCrcOk crc32Le f = true)
    (h : WireBurst f g) : g = f ∨ cwCrcOk crc32Le g = false := by
  cases hg : cwCrcOk crc32Le g with
  | false => exact .inr rfl
  | true =>
    left
    have hchecked := h.checked
    rw [cwCrcOk_bits hf, cwCrcOk_bits hg] at hchecked
    have hsame := Register.check_burst (by decide) hchecked
    rw [← cwCrcOk_bits hf, ← cwCrcOk_bits hg] at hsame
    exact CwFrame.checkedBits_injective hsame

/-- Up to four bytes overwritten. -/
theorem CwFrame.burst_write (f : CwFrame) (off : Nat) {data : List UInt8}
    (h : data.length ≤ 4) : WireBurst f (f.write off data) := by
  refine .inr ⟨by rw [read_length, read_length], off, fun i hi => ?_⟩
  have hbyte : (f.write off data).byte i = f.byte i := by
    rcases hi with hi | hi
    · exact f.byte_write_of_lt data hi
    · exact f.byte_write_of_le data (by omega)
  unfold CwFrame.read
  rw [List.getElem?_map, List.getElem?_map]
  by_cases hin : i < cwBytes
  · rw [List.getElem?_range hin, Option.map_some, Option.map_some, Nat.zero_add, hbyte]
  · rw [List.getElem?_eq_none (by rw [List.length_range]; omega)]
    rfl

theorem received_burst {sent received : CwFrame} (hsent : cwCrcOk crc32Le sent = true)
    (h : WireBurst sent received) :
    Link.Received crc32Le sent received (cwBytes * 8) := by
  rcases cwCrcOk_burst hsent h with hsame | hbad
  · exact .inl ⟨hsame, rfl⟩
  · exact .inr (.inl hbad)

variable {E D : Type}

/-- The slave answers a request that it cannot trust without its codecs. -/
theorem process_bad (c : Codecs E D) (s : Slave E D) {rx : CwFrame}
    (h : cwCrcOk crc32Le rx = false) (bits : Nat) :
    s.process c crc32Le rx bits =
      ({ s with tx := cwSeal crc32Le (cwBegin cwResponse 0 cwBadWire (cwGet32 rx 8) (cwGet32 rx 12)
          (cwGet32 rx 16)) }, none) := by
  unfold Slave.process
  dsimp only
  rw [h, Bool.false_and, Bool.not_false, if_pos rfl]

/-- The worker finishes an exchange whose reply it cannot trust without a push. -/
theorem accept_bad {w : Worker} {kind : RequestKind} (h : cwCrcOk crc32Le w.stream.rx = false) :
    w.accept crc32Le kind = w.goto (.finish kind false) := by
  have hbad : Worker.acceptable crc32Le w.stream (w.replySession kind) = false := by
    unfold Worker.acceptable cwValid
    rw [h, Bool.and_false, Bool.false_and, Bool.false_and, Bool.false_and, Bool.false_and]
  unfold Worker.accept
  dsimp only
  rw [hbad, Bool.false_and, Bool.false_and, if_neg Bool.false_ne_true]

theorem transfer_crossed (c : Codecs E D) {b : Link E D} {kind : RequestKind}
    (hpc : b.worker.run.pc = .transfer kind) {toSlave toWorker : CwFrame} {bits : Nat}
    (hslave : Link.Received crc32Le b.worker.stream.tx toSlave bits)
    (hworker : Link.Received crc32Le b.slave.tx toWorker (cwBytes * 8)) (reported : Bool)
    (now : Int) :
    Link.Step c crc32Le b (.transfer (.crossed reported toSlave bits toWorker) now)
      { b with
        worker := if reported then b.worker.exchanged kind toWorker now
          else b.worker.failed kind toWorker
        slave := (b.slave.process c crc32Le toSlave bits).1
        history := { b.history with
          calls := b.history.calls ++ (b.slave.process c crc32Le toSlave bits).2.toList } } := by
  unfold Link.Step Link.act Link.transferStep
  simp only [hpc]
  rw [if_pos ⟨hslave, hworker⟩]

/-- In every run with fewer than 2^32 requests, a transfer may be hit by a burst of up to 25 bits on
the wire in each direction, or have up to four consecutive bytes changed. It is then one of the link
model's transfers. A request that was changed reaches no codec and leaves all of the slave but its
next reply as it was, and of a reply that was changed nothing is pushed. -/
theorem wire_bursts_harmless (c : Codecs E D) {base : UInt32} {packets : Fin 16 → MicPacket}
    {encoder : E} {decoder : D} {rx : CwFrame} {trace : List LinkAction} {b : Link E D}
    (hrun : Run (Link.Step c crc32Le) (Link.init crc32Le base packets encoder decoder rx) trace b)
    (hbound : b.history.requests.length < 2 ^ 32) {kind : RequestKind}
    (hpc : b.worker.run.pc = .transfer kind) {toSlave toWorker : CwFrame}
    (hslave : WireBurst b.worker.stream.tx toSlave)
    (hworker : WireBurst b.slave.tx toWorker) (reported : Bool) (now : Int) :
    ∃ b', Link.Step c crc32Le b
        (.transfer (.crossed reported toSlave (cwBytes * 8) toWorker) now) b' ∧
      (toSlave ≠ b.worker.stream.tx → b'.history = b.history ∧
        b'.slave = { b.slave with tx := cwSeal crc32Le (cwBegin cwResponse 0 cwBadWire
          (cwGet32 toSlave 8) (cwGet32 toSlave 12) (cwGet32 toSlave 16)) }) ∧
      (toWorker ≠ b.slave.tx → reported = true → ∀ input, ∃ b'',
        Link.Step c crc32Le b' (.worker input) b'' ∧ b''.history = b'.history ∧
          b''.worker.stream.source = b.worker.stream.source ∧
          b''.worker.run.pc = .finish kind false) := by
  have hpairing := (sound_run hrun).pairing hbound
  have hrequest := hpairing.requests.sealed kind hpc
  have hreply := cwValid_crcOk hpairing.slave.valid
  refine ⟨_, transfer_crossed c hpc (received_burst hrequest hslave)
    (received_burst hreply hworker) reported now, ?_, ?_⟩
  · intro hchanged
    have hbad := (cwCrcOk_burst hrequest hslave).resolve_left hchanged
    simp only [process_bad c b.slave hbad, Option.toList_none, List.append_nil, and_self]
  · intro hchanged hreported input
    have hbad := (cwCrcOk_burst hreply hworker).resolve_left hchanged
    subst hreported
    have haccept : (b.worker.exchanged kind toWorker now).accept crc32Le kind = _ :=
      accept_bad hbad
    refine ⟨_, rfl, rfl, ?_⟩
    rw [if_pos rfl, haccept]
    exact ⟨rfl, rfl⟩

/-- A byte of the first handshake is overwritten on its way to the slave. -/
theorem wire_bursts_harmless_handshake :
    ∃ b : Link Unit Unit, ∃ toSlave : CwFrame, toSlave ≠ b.worker.stream.tx ∧
      ∃ b', Link.Step silentCodecs crc32Le b
          (.transfer (.crossed true toSlave (cwBytes * 8) b.slave.tx) 0) b' ∧
        b'.history = b.history := by
  let b0 : Link Unit Unit := Link.init crc32Le 1 noPackets () () .zero
  let b1 : Link Unit Unit := { b0 with worker := b0.worker.goto .iterate }
  let b2 : Link Unit Unit := b1.request none (b1.worker.handshake crc32Le)
  have hrun : Run (Link.Step silentCodecs crc32Le) b0
      [.worker quietInput, .worker quietInput] b2 :=
    (Run.nil.snoc (t := b0) (u := b1) rfl).snoc rfl
  have hbyte : b2.worker.stream.tx.byte 100 = 0 :=
    (cwSeal_byte crc32Le _ (by decide)).trans (by decide)
  have hchanged : b2.worker.stream.tx.write 100 [90] ≠ b2.worker.stream.tx := by
    intro hsame
    have hwritten := congrArg (CwFrame.byte · 100) hsame
    rw [hbyte] at hwritten
    exact absurd hwritten (by decide)
  have hpc : b2.worker.run.pc = .transfer .handshake := rfl
  have hone : [(90 : UInt8)].length ≤ 4 := by decide
  obtain ⟨b', hstep, hslave, -⟩ := wire_bursts_harmless silentCodecs hrun (by decide) hpc
    (b2.worker.stream.tx.burst_write 100 hone) (.refl b2.slave.tx) true 0
  exact ⟨b2, _, hchanged, b', hstep, (hslave hchanged).1⟩

end UllReceiver.Bridge
