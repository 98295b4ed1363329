import UllReceiver.Library.BurstErrors
import UllReceiver.Radio.PhyReceiver

/-!
# Bursts on the air

The CRC of a software packet covers its PDU and itself, the preamble and the access address are
compared: a burst no longer than the CRC changes a packet into something that is refused.
-/

namespace UllReceiver.Radio

open Library

theorem airCrc_eq_check (seed : UInt32) (bits : List Bool) :
    airCrc seed bits = (crcSeed seed).check crcTaps (fun _ => false) bits := by
  unfold airCrc Register.check
  simp only [Bool.xor_false]

/-- What the receiver has found right in the bits it accepts. -/
structure Accepted (aa crcInit : UInt32) (channel : UInt8) (phy : Nat) (bits : List Bool) :
    Prop where
  preamble : bits.take (8 * phy) = airPreamble aa phy
  address : (bits.drop (8 * phy)).take 32 = airAddress aa
  crc : ∃ pdu, airWhitening channel ((bits.drop (8 * phy)).drop 32) = pdu ++ airCrc crcInit pdu

variable {aa crcInit : UInt32} {channel : UInt8} {phy : Nat}

theorem phyReceive_accepted {bits : List Bool} {pdu : List UInt8}
    (h : phyReceive aa crcInit channel phy bits = some pdu) :
    Accepted aa crcInit channel phy bits := by
  unfold phyReceive at h
  dsimp only at h
  split at h
  · cases h
  next hpreamble =>
    split at h
    · cases h
    next haddress =>
      split at h
      · cases h
      next hcrc =>
        refine ⟨not_not.mp hpreamble, not_not.mp haddress,
          (airWhitening channel ((bits.drop (8 * phy)).drop 32)).take
            ((airWhitening channel ((bits.drop (8 * phy)).drop 32)).length - 24), ?_⟩
        rw [← not_not.mp hcrc, List.take_append_drop]

/-- Two packets that are both accepted differ in more than a burst. -/
theorem Accepted.burst {sent heard : List Bool} (hsent : Accepted aa crcInit channel phy sent)
    (hheard : Accepted aa crcInit channel phy heard) (hburst : Burst 24 sent heard) :
    heard = sent := by
  obtain ⟨pdu, hpdu⟩ := hsent.crc
  obtain ⟨pdu', hpdu'⟩ := hheard.crc
  have hrest := (hburst.drop (8 * phy)).drop 32
  generalize hs : (sent.drop (8 * phy)).drop 32 = rest at hpdu hrest
  generalize hh : (heard.drop (8 * phy)).drop 32 = rest' at hpdu' hrest
  -- the whitening is the same on both sides, and under it are PDU and CRC
  have hplain : Burst 24 (airWhitening channel rest) (airWhitening channel rest') :=
    hrest.scramble _
  rw [hpdu, hpdu', airCrc_eq_check, airCrc_eq_check] at hplain
  have hsame := Register.check_burst (by decide) hplain
  rw [← airCrc_eq_check, ← airCrc_eq_check, ← hpdu, ← hpdu'] at hsame
  have hback : rest' = rest := by
    have htwice := congrArg (airWhitening channel) hsame
    unfold airWhitening at htwice
    rwa [Register.scramble_scramble, Register.scramble_scramble] at htwice
  calc
    heard = heard.take (8 * phy) ++ ((heard.drop (8 * phy)).take 32 ++ rest') := by
      rw [← hh, List.take_append_drop, List.take_append_drop]
    _ = sent.take (8 * phy) ++ ((sent.drop (8 * phy)).take 32 ++ rest) := by
      rw [hheard.preamble, hheard.address, hback, hsent.preamble, hsent.address]
    _ = sent := by rw [← hs, List.take_append_drop, List.take_append_drop]

/-- A packet that the builder has written and a burst of up to 24 bits has hit, anywhere between
its first and its last bit, is received as it was sent or not at all. -/
theorem phy_burst_refused (m : Memory) (out capacity written : Nat) (aa crcInit : UInt32)
    (channel phy : UInt8) (pdu pduLength : Nat)
    (h : phyAdmissible capacity crcInit channel phy pduLength) :
    ∃ m', ullPhyPacketBuild m (some out) capacity (some written) aa crcInit channel phy (some pdu)
        pduLength = (0, m', some (phy.toNat + 4 + pduLength + 3)) ∧
      ∀ heard, Burst 24 (airBits (m'.read out (phy.toNat + 4 + pduLength + 3))) heard →
        phyReceive aa crcInit channel phy.toNat heard =
          if heard = airBits (m'.read out (phy.toNat + 4 + pduLength + 3)) then
            some (m.read pdu pduLength) else none := by
  obtain ⟨packet, hbuild, hlength, hreceive⟩ :=
    ullPhyPacketBuild_admissible m out capacity written aa crcInit channel phy pdu h
  refine ⟨_, hbuild, fun heard hburst => ?_⟩
  rw [← hlength, Memory.read_write] at hburst ⊢
  split
  · next hsame => rw [hsame, hreceive]
  · next hchanged =>
    cases hheard : phyReceive aa crcInit channel phy.toNat heard with
    | none => rfl
    | some _ =>
      exact absurd ((phyReceive_accepted hreceive).burst (phyReceive_accepted hheard) hburst)
        hchanged

/-- An empty PDU behind its header, on an advertising channel. -/
theorem phy_burst_refused_empty :
    ∃ m', ullPhyPacketBuild (fun _ => 0) (some 100) 64 (some 0) 0x8e89bed6 0x555555 37 1 (some 0)
        2 = (0, m', some 10) ∧
      ∀ heard, Burst 24 (airBits (m'.read 100 10)) heard →
        phyReceive 0x8e89bed6 0x555555 37 1 heard =
          if heard = airBits (m'.read 100 10) then some [0, 0] else none :=
  phy_burst_refused _ 100 64 0 0x8e89bed6 0x555555 37 1 0 2 (by decide)

end UllReceiver.Radio
