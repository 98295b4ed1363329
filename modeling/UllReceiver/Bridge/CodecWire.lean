import Mathlib
import UllReceiver.Library.Buffer

/-!
# Codec wire frames

The fixed 1280-byte frame exchanged with the codec slave, from `codec_wire.h`.  The ROM checksum
`esp_rom_crc32_le(0, ...)` is the parameter `crc32`.
-/

namespace UllReceiver.Bridge

def cwBytes : Nat := 1280
def cwCrc : Nat := 1276
def cwPlayIn : Nat := 32
def cwMicIn : Nat := 992
def cwPlayOut : Nat := 32
def cwMicOut : Nat := 224

def cwPlay : UInt8 := 1
def cwMic : UInt8 := 2
def cwPlc : UInt8 := 4
def cwReset : UInt8 := 8

def cwOk : UInt8 := 0
def cwBadWire : UInt8 := 1
def cwEncodeError : UInt8 := 2
def cwDecodeError : UInt8 := 4
def cwNotReady : UInt8 := 8

def cwRequest : UInt32 := 0x31513244
def cwResponse : UInt32 := 0x31523244

structure CwFrame where
  b : Fin 1280 → UInt8
deriving DecidableEq

namespace CwFrame

def zero : CwFrame := ⟨fun _ => 0⟩

/-- The byte at an offset; offsets past the frame read as zero and are never used. -/
def byte (f : CwFrame) (i : Nat) : UInt8 :=
  if h : i < 1280 then f.b ⟨i, h⟩ else 0

/-- `memcpy(f->b+off, data, ...)`. -/
def write (f : CwFrame) (off : Nat) (data : List UInt8) : CwFrame :=
  ⟨fun i => if off ≤ i.val ∧ i.val < off + data.length then data.getD (i.val - off) 0 else f.b i⟩

def read (f : CwFrame) (off n : Nat) : List UInt8 :=
  (List.range n).map fun k => f.byte (off + k)

@[simp] theorem byte_zero (i : Nat) : zero.byte i = 0 := by
  unfold byte zero
  split <;> rfl

@[simp] theorem read_length (f : CwFrame) (off n : Nat) : (f.read off n).length = n := by
  simp [read]

theorem byte_write (f : CwFrame) (off i : Nat) (data : List UInt8) (hi : i < 1280) :
    (f.write off data).byte i =
      if off ≤ i ∧ i < off + data.length then data.getD (i - off) 0 else f.byte i := by
  simp only [byte, write, dif_pos hi]

theorem byte_write_of_lt (f : CwFrame) {off i : Nat} (data : List UInt8) (h : i < off) :
    (f.write off data).byte i = f.byte i := by
  by_cases hi : i < 1280
  · rw [byte_write f off i data hi, if_neg (by omega)]
  · simp only [byte, dif_neg hi]

theorem byte_write_of_le (f : CwFrame) {off i : Nat} (data : List UInt8)
    (h : off + data.length ≤ i) : (f.write off data).byte i = f.byte i := by
  by_cases hi : i < 1280
  · rw [byte_write f off i data hi, if_neg (by omega)]
  · simp only [byte, dif_neg hi]

theorem read_congr {f g : CwFrame} {off n : Nat}
    (h : ∀ i, off ≤ i → i < off + n → f.byte i = g.byte i) : f.read off n = g.read off n := by
  apply List.map_congr_left
  intro k hk
  rw [List.mem_range] at hk
  exact h _ (by omega) (by omega)

theorem read_write_of_le (f : CwFrame) {off off' n : Nat} (data : List UInt8)
    (h : off + data.length ≤ off' ∨ off' + n ≤ off) :
    (f.write off data).read off' n = f.read off' n := by
  apply read_congr
  intro i hlo hhi
  rcases h with h | h
  · exact byte_write_of_le f data (by omega)
  · exact byte_write_of_lt f data (by omega)

end CwFrame

/-- The four bytes `cw_put32` stores, least significant first. -/
def le32 (x : UInt32) : List UInt8 :=
  [x.toUInt8, (x >>> 8).toUInt8, (x >>> 16).toUInt8, (x >>> 24).toUInt8]

def cwGet32 (f : CwFrame) (off : Nat) : UInt32 :=
  (f.byte off).toUInt32 ||| (f.byte (off + 1)).toUInt32 <<< 8 |||
    (f.byte (off + 2)).toUInt32 <<< 16 ||| (f.byte (off + 3)).toUInt32 <<< 24

def cwPut32 (f : CwFrame) (off : Nat) (x : UInt32) : CwFrame :=
  f.write off (le32 x)

def cwBegin (magic : UInt32) (flags status : UInt8) (session seq radioFrame : UInt32) : CwFrame :=
  let f := cwPut32 .zero 0 magic
  let f := f.write 4 [2]
  let f := f.write 5 [flags]
  let f := f.write 6 [status]
  let f := cwPut32 f 8 session
  let f := cwPut32 f 12 seq
  cwPut32 f 16 radioFrame

/-- `esp_rom_crc32_le(0, ...)` as the ROM documents it: reflected polynomial `0xedb88320`. -/
def crc32Le (data : List UInt8) : UInt32 :=
  let bit (crc : UInt32) : UInt32 :=
    if crc &&& 1 ≠ 0 then (crc >>> 1) ^^^ 0xedb88320 else crc >>> 1
  let byte (crc : UInt32) (b : UInt8) : UInt32 :=
    bit (bit (bit (bit (bit (bit (bit (bit (crc ^^^ b.toUInt32))))))))
  ~~~ data.foldl byte 0xffffffff

-- the value `init_bus` tests the ROM function with
example : crc32Le [49, 50, 51, 52, 53, 54, 55, 56, 57] = 0xcbf43926 := by
  decide +kernel

/-- The checksum over everything before the checksum field. -/
def cwChecksum (crc32 : List UInt8 → UInt32) (f : CwFrame) : UInt32 :=
  crc32 (f.read 0 cwCrc)

def cwSeal (crc32 : List UInt8 → UInt32) (f : CwFrame) : CwFrame :=
  cwPut32 f cwCrc (cwChecksum crc32 f)

def cwCrcOk (crc32 : List UInt8 → UInt32) (f : CwFrame) : Bool :=
  cwGet32 f cwCrc == cwChecksum crc32 f

def cwValid (crc32 : List UInt8 → UInt32) (f : CwFrame) (magic : UInt32) : Bool :=
  cwGet32 f 0 == magic && f.byte 4 == 2 && f.byte 7 == 0 && (f.byte 5 &&& ~~~15) == 0 &&
    cwCrcOk crc32 f

/-- The bytes of a word, joined again. -/
theorem le32_join (x : UInt32) :
    x.toUInt8.toUInt32 ||| (x >>> 8).toUInt8.toUInt32 <<< 8 |||
      (x >>> 16).toUInt8.toUInt32 <<< 16 ||| (x >>> 24).toUInt8.toUInt32 <<< 24 = x :=
  Library.word32_join x

@[simp] theorem le32_length (x : UInt32) : (le32 x).length = 4 := rfl

theorem cwGet32_congr {f g : CwFrame} {off : Nat}
    (h : ∀ i, off ≤ i → i < off + 4 → f.byte i = g.byte i) : cwGet32 f off = cwGet32 g off := by
  unfold cwGet32
  rw [h off (by omega) (by omega), h (off + 1) (by omega) (by omega),
    h (off + 2) (by omega) (by omega), h (off + 3) (by omega) (by omega)]

theorem cwGet32_write_of_lt (f : CwFrame) {off off' : Nat} (data : List UInt8)
    (h : off' + 4 ≤ off) : cwGet32 (f.write off data) off' = cwGet32 f off' :=
  cwGet32_congr fun _ _ hhi => CwFrame.byte_write_of_lt f data (by omega)

theorem cwGet32_put32 (f : CwFrame) {off : Nat} (x : UInt32) (h : off + 4 ≤ 1280) :
    cwGet32 (cwPut32 f off x) off = x := by
  unfold cwGet32 cwPut32
  have hb (k : Nat) (hk : k < 4) :
      (f.write off (le32 x)).byte (off + k) = (le32 x).getD k 0 := by
    rw [CwFrame.byte_write _ _ _ _ (by omega), le32_length, if_pos (by omega),
      Nat.add_sub_cancel_left]
  have h0 := hb 0 (by omega)
  rw [Nat.add_zero] at h0
  rw [h0, hb 1 (by omega), hb 2 (by omega), hb 3 (by omega)]
  exact le32_join x

section Begin

variable (magic session seq radioFrame : UInt32) (flags status : UInt8)

@[simp] theorem cwBegin_version :
    (cwBegin magic flags status session seq radioFrame).byte 4 = 2 := by
  simp [cwBegin, cwPut32, CwFrame.byte_write]

@[simp] theorem cwBegin_flags :
    (cwBegin magic flags status session seq radioFrame).byte 5 = flags := by
  simp [cwBegin, cwPut32, CwFrame.byte_write]

@[simp] theorem cwBegin_status :
    (cwBegin magic flags status session seq radioFrame).byte 6 = status := by
  simp [cwBegin, cwPut32, CwFrame.byte_write]

@[simp] theorem cwBegin_reserved :
    (cwBegin magic flags status session seq radioFrame).byte 7 = 0 := by
  simp [cwBegin, cwPut32, CwFrame.byte_write]

theorem cwBegin_padding {i : Nat} (hlo : 20 ≤ i) :
    (cwBegin magic flags status session seq radioFrame).byte i = 0 := by
  simp only [cwBegin, cwPut32]
  repeat rw [CwFrame.byte_write_of_le _ _ (by simp; omega)]
  exact CwFrame.byte_zero i

@[simp] theorem cwBegin_magic :
    cwGet32 (cwBegin magic flags status session seq radioFrame) 0 = magic := by
  simp only [cwBegin]
  unfold cwPut32
  repeat rw [cwGet32_write_of_lt _ _ (by decide)]
  exact cwGet32_put32 _ _ (by decide)

@[simp] theorem cwBegin_session :
    cwGet32 (cwBegin magic flags status session seq radioFrame) 8 = session := by
  simp only [cwBegin]
  rw [cwPut32, cwGet32_write_of_lt _ _ (by decide), cwPut32, cwGet32_write_of_lt _ _ (by decide)]
  exact cwGet32_put32 _ _ (by decide)

@[simp] theorem cwBegin_seq :
    cwGet32 (cwBegin magic flags status session seq radioFrame) 12 = seq := by
  simp only [cwBegin]
  rw [cwPut32, cwGet32_write_of_lt _ _ (by decide)]
  exact cwGet32_put32 _ _ (by decide)

@[simp] theorem cwBegin_radioFrame :
    cwGet32 (cwBegin magic flags status session seq radioFrame) 16 = radioFrame := by
  simp only [cwBegin]
  exact cwGet32_put32 _ _ (by decide)

end Begin

section Seal

variable (crc32 : List UInt8 → UInt32) (f : CwFrame)

theorem cwSeal_byte {i : Nat} (hi : i < cwCrc) : (cwSeal crc32 f).byte i = f.byte i :=
  CwFrame.byte_write_of_lt f _ hi

theorem cwSeal_read {off n : Nat} (h : off + n ≤ cwCrc) :
    (cwSeal crc32 f).read off n = f.read off n :=
  CwFrame.read_write_of_le f _ (.inr h)

theorem cwSeal_get32 {off : Nat} (h : off + 4 ≤ cwCrc) :
    cwGet32 (cwSeal crc32 f) off = cwGet32 f off :=
  cwGet32_write_of_lt f _ h

/-- A sealed frame passes the checksum test. -/
theorem cwSeal_crcOk : cwCrcOk crc32 (cwSeal crc32 f) = true := by
  have hsum : cwChecksum crc32 (cwSeal crc32 f) = cwChecksum crc32 f := by
    unfold cwChecksum
    rw [cwSeal_read crc32 f (by decide)]
  rw [cwCrcOk, hsum, cwSeal, cwGet32_put32 _ _ (by decide)]
  exact beq_self_eq_true _

/-- What `cw_valid` asks of a sealed frame is asked of its header alone. -/
theorem cwSeal_valid (magic : UInt32) (hmagic : cwGet32 f 0 = magic) (hversion : f.byte 4 = 2)
    (hreserved : f.byte 7 = 0) (hflags : f.byte 5 &&& ~~~15 = 0) :
    cwValid crc32 (cwSeal crc32 f) magic = true := by
  unfold cwValid
  rw [cwSeal_crcOk, cwSeal_get32 _ _ (by decide), cwSeal_byte _ _ (by decide),
    cwSeal_byte _ _ (by decide), cwSeal_byte _ _ (by decide), hmagic, hversion, hreserved, hflags]
  simp

end Seal

end UllReceiver.Bridge
