import UllReceiver.Library.ShiftRegister

/-!
# Software PHY packets

`phy_packet.c`: whole packets in the order of their transmission, to be sent from inside a test
packet of the controller, whose whitening is undone beforehand.
-/

namespace UllReceiver.Radio

/-- `ULL_PHY_PACKET_MAX`. -/
def phyPacketMax : Nat := 255

/-- The whitening register and one bit of it for bit `bit` of byte `i`, or for no byte. -/
def whitenBit (i : Option Nat) (s : UInt8 × List UInt8) (bit : Nat) : UInt8 × List UInt8 :=
  let (lfsr, bytes) :=
    if s.1 &&& 1 ≠ 0 then
      (s.1 ^^^ 0x88, match i with
        | some i => s.2.modify i fun b => b ^^^ 1 <<< UInt8.ofNat bit
        | none => s.2)
    else s
  (lfsr >>> 1, bytes)

def whitenByte (s : UInt8 × List UInt8) (i : Option Nat) : UInt8 × List UInt8 :=
  (List.range 8).foldl (whitenBit i) s

/-- The status and the buffer afterwards; `bytes` has its `length` bytes, or is a null pointer. -/
def ullPhyOuterWhitening (bytes : Option (List UInt8)) (channel : UInt8) :
    Int × Option (List UInt8) :=
  match bytes with
  | none => (-1, none)
  | some bytes =>
    if bytes.length > phyPacketMax ∨ channel > 39 then (-1, some bytes)
    else
      let s := (List.range (bytes.length + 2)).foldl
        (fun s i => whitenByte s (if 2 ≤ i then some (i - 2) else none)) (channel ||| 0x40, bytes)
      (0, some s.2)

def reverse8 (x : UInt8) : UInt8 :=
  let x := x >>> 4 ||| x <<< 4
  let x := (x &&& 0xcc) >>> 2 ||| (x &&& 0x33) <<< 2
  (x &&& 0xaa) >>> 1 ||| (x &&& 0x55) <<< 1

def crcBit (byte : UInt8) (crc : UInt32) (bit : Nat) : UInt32 :=
  let feedback := (crc >>> 23 ^^^ byte.toUInt32 >>> UInt32.ofNat bit) &&& 1
  let crc := crc <<< 1 &&& 0xffffff
  if feedback ≠ 0 then crc ^^^ 0x65b else crc

def pduCrc (crcInit : UInt32) (pdu : List UInt8) : UInt32 :=
  pdu.foldl (fun crc byte => (List.range 8).foldl (crcBit byte) crc) crcInit

/-- The memory that the input and the output are in. -/
abbrev Memory := Nat → UInt8

def Memory.read (m : Memory) (p n : Nat) : List UInt8 :=
  (List.range n).map fun i => m (p + i)

def Memory.write (m : Memory) (p : Nat) (bytes : List UInt8) : Memory :=
  fun a => if p ≤ a then (bytes[a - p]?).getD (m a) else m a

/-- The packet before it is whitened. -/
def plainPacket (aa crcInit : UInt32) (phy : UInt8) (pdu : List UInt8) : List UInt8 :=
  List.replicate phy.toNat (if aa &&& 1 ≠ 0 then 0x55 else 0xaa) ++
    (List.range 4).map (fun i => (aa >>> UInt32.ofNat (8 * i)).toUInt8) ++ pdu ++
    (List.range 3).map fun i => reverse8 (pduCrc crcInit pdu >>> UInt32.ofNat (16 - 8 * i)).toUInt8

/-- The arguments pass the checks. `ULL_PHY_PACKET_MAX - 4u - 3u - phy` does not wrap here. -/
def phyAdmissible (capacity : Nat) (crcInit : UInt32) (channel phy : UInt8) (pduLength : Nat) :
    Prop :=
  ¬(phy < 1 ∨ phy > 2 ∨ channel > 39 ∨ crcInit > 0xffffff ∨ pduLength < 2 ∨
    pduLength > phyPacketMax - 4 - 3 - phy.toNat) ∧
    ¬capacity < phy.toNat + 4 + pduLength + 3
deriving Decidable

/-- The status, the memory and `*written` afterwards; a missing pointer is a null pointer. -/
def ullPhyPacketBuild (m : Memory) (out : Option Nat) (capacity : Nat) (written : Option Nat)
    (aa crcInit : UInt32) (channel phy : UInt8) (pdu : Option Nat) (pduLength : Nat) :
    Int × Memory × Option Nat :=
  match out, written, pdu with
  | some out, some _, some pdu =>
    if ¬phyAdmissible capacity crcInit channel phy pduLength then (-1, m, written)
    else
      let total := phy.toNat + 4 + pduLength + 3
      let start := phy.toNat + 4
      -- built privately, and the input is read before the output is written
      let packet := plainPacket aa crcInit phy (m.read pdu pduLength)
      let s := (List.range' start (total - start)).foldl (fun s i => whitenByte s (some i))
        (channel ||| 0x40, packet)
      (0, m.write out s.2, some total)
  | _, _, _ => (-1, m, written)

end UllReceiver.Radio
