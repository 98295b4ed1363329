import UllReceiver.Bridge.CodecSlave
import UllReceiver.Library.Buffer

/-!
# Replies of the codec slave

Every reply passes `cw_valid`, names the request it answers, and carries a packet only when that
request's samples were encoded.
-/

namespace UllReceiver.Bridge

variable {E D : Type}

theorem byte_or_and (x y mask : UInt8) : (x ||| y) &&& mask = x &&& mask ||| y &&& mask := by
  apply UInt8.eq_of_toBitVec_eq
  simp only [UInt8.toBitVec_and, UInt8.toBitVec_or]
  exact BitVec.and_or_distrib_right

theorem orByte_self (f : CwFrame) (i : Nat) (x : UInt8) (hi : i < 1280) :
    (f.orByte i x).byte i = f.byte i ||| x := by
  unfold CwFrame.orByte
  rw [CwFrame.byte_write _ _ _ _ hi, if_pos (by simp), Nat.sub_self]
  rfl

theorem orByte_ne (f : CwFrame) {i j : Nat} (x : UInt8) (h : j ≠ i) :
    (f.orByte i x).byte j = f.byte j := by
  unfold CwFrame.orByte
  rcases Nat.lt_or_gt_of_ne h with h | h
  · exact CwFrame.byte_write_of_lt f _ h
  · exact CwFrame.byte_write_of_le f _ h

/-- The two bytes of a sample, joined again. -/
theorem le16_join (x : Int16) :
    (x.toUInt16.toUInt8.toUInt16 ||| (x.toUInt16 >>> 8).toUInt8.toUInt16 <<< 8).toInt16 = x := by
  rw [Library.word_join]
  exact Int16.toInt16_toUInt16 x

theorem flatMap_le16_getD (l : List Int16) (i : Nat) (hi : i < l.length) :
    (l.flatMap le16).getD (2 * i) 0 = l[i].toUInt16.toUInt8 ∧
      (l.flatMap le16).getD (2 * i + 1) 0 = (l[i].toUInt16 >>> 8).toUInt8 := by
  induction l generalizing i with
  | nil => exact absurd hi (Nat.not_lt_zero i)
  | cons x rest ih =>
      cases i with
      | zero => exact ⟨rfl, rfl⟩
      | succ i =>
          have hrest := ih i (by simpa using hi)
          simpa [le16, Nat.mul_add] using hrest

theorem flatMap_le16_length (l : List Int16) : (l.flatMap le16).length = 2 * l.length := by
  induction l with
  | nil => rfl
  | cons x rest ih =>
      rw [List.flatMap_cons, List.length_append, ih, List.length_cons]
      change 2 + 2 * rest.length = _
      omega

theorem pcmBytes_length (pcm : PcmBlock) : (pcmBytes pcm).length = 960 := by
  rw [pcmBytes, flatMap_le16_length]
  simp

/-- The slave reads back the samples the requester wrote. -/
theorem playIn_write (f : CwFrame) (pcm : PcmBlock) :
    playIn (f.write cwPlayIn (pcmBytes pcm)) = pcm := by
  apply Vector.ext
  intro i hi
  have hlen := pcmBytes_length pcm
  have hbytes := flatMap_le16_getD pcm.toList i (by simpa using hi)
  have hbyte (k : Nat) (hk : k < 960) :
      (f.write cwPlayIn (pcmBytes pcm)).byte (cwPlayIn + k) = (pcmBytes pcm).getD k 0 := by
    have hlt : cwPlayIn + k < 1280 := by
      change 32 + k < 1280
      omega
    rw [CwFrame.byte_write _ _ _ _ hlt, if_pos (by omega), Nat.add_sub_cancel_left]
  simp only [playIn, Vector.getElem_ofFn, cwGet16]
  rw [Nat.add_assoc, hbyte (2 * i) (by omega), hbyte (2 * i + 1) (by omega), pcmBytes,
    hbytes.1, hbytes.2]
  simp only [Vector.getElem_toList]
  exact le16_join _

/-- The header of a reply to request `(session, seq)`. -/
structure ReplyHeader (f : CwFrame) (session seq : UInt32) : Prop where
  magic : cwGet32 f 0 = cwResponse
  version : f.byte 4 = 2
  flags : f.byte 5 &&& ~~~15 = 0
  reserved : f.byte 7 = 0
  session : cwGet32 f 8 = session
  seq : cwGet32 f 12 = seq

theorem replyHeader_begin (session seq radioFrame : UInt32) (status : UInt8) :
    ReplyHeader (cwBegin cwResponse 0 status session seq radioFrame) session seq := by
  refine ⟨?_, ?_, ?_, ?_, ?_, ?_⟩ <;> simp

theorem ReplyHeader.congr {f g : CwFrame} {session seq : UInt32} (h : ReplyHeader f session seq)
    (hsame : ∀ i, i < 20 → i ≠ 5 → i ≠ 6 → g.byte i = f.byte i)
    (hflags : g.byte 5 &&& ~~~15 = 0) : ReplyHeader g session seq where
  magic := (cwGet32_congr fun i _ hi => hsame i (by omega) (by omega) (by omega)).trans h.magic
  version := (hsame 4 (by omega) (by omega) (by omega)).trans h.version
  flags := hflags
  reserved := (hsame 7 (by omega) (by omega) (by omega)).trans h.reserved
  session := (cwGet32_congr fun i _ hi => hsame i (by omega) (by omega) (by omega)).trans h.session
  seq := (cwGet32_congr fun i _ hi => hsame i (by omega) (by omega) (by omega)).trans h.seq

theorem ReplyHeader.status {f : CwFrame} {session seq : UInt32} (h : ReplyHeader f session seq)
    (x : UInt8) : ReplyHeader (f.orByte 6 x) session seq :=
  h.congr (fun _ _ _ h6 => orByte_ne f x h6) (by rw [orByte_ne f x (by decide)]; exact h.flags)

theorem ReplyHeader.addFlags {f : CwFrame} {session seq : UInt32} (h : ReplyHeader f session seq)
    (x : UInt8) (hx : x &&& ~~~15 = 0) : ReplyHeader (f.orByte 5 x) session seq := by
  refine h.congr (fun _ _ h5 _ => orByte_ne f x h5) ?_
  rw [orByte_self f 5 x (by decide), byte_or_and, h.flags, hx]
  rfl

theorem ReplyHeader.write {f : CwFrame} {session seq : UInt32} (h : ReplyHeader f session seq)
    {off : Nat} (data : List UInt8) (hoff : 20 ≤ off) : ReplyHeader (f.write off data) session seq :=
  h.congr (fun _ hi _ _ => CwFrame.byte_write_of_lt f data (by omega))
    (by rw [CwFrame.byte_write_of_lt f data (by omega)]; exact h.flags)

theorem ReplyHeader.valid {f : CwFrame} {session seq : UInt32} (h : ReplyHeader f session seq)
    (crc32 : List UInt8 → UInt32) : cwValid crc32 (cwSeal crc32 f) cwResponse = true :=
  cwSeal_valid crc32 f cwResponse h.magic h.version h.reserved h.flags

theorem micFlags_masked (flags : UInt8) : flags &&& (cwMic ||| cwPlc) &&& ~~~15 = 0 := by
  rw [UInt8.and_assoc]
  have h : (cwMic ||| cwPlc) &&& ~~~15 = 0 := by decide
  rw [h, UInt8.and_zero]

theorem replyHeader_replyPlay {f : CwFrame} {session seq : UInt32} (h : ReplyHeader f session seq)
    (result : Int) (packet : Packet) : ReplyHeader (replyPlay f result packet) session seq := by
  unfold replyPlay
  split
  · exact h.status _
  · exact (h.addFlags _ (by decide)).write _ (by decide)

theorem replyHeader_replyMic {f : CwFrame} {session seq : UInt32} (h : ReplyHeader f session seq)
    (flags : UInt8) (audio : Bool) (result : Int) (out : MicPcm) :
    ReplyHeader (replyMic f flags audio result out) session seq := by
  unfold replyMic
  split
  · exact h.status _
  · have hreset : ReplyHeader (if flags &&& cwReset ≠ 0 then f.orByte 5 cwReset else f)
        session seq := by
      split
      · exact h.addFlags _ (by decide)
      · exact h
    simp only
    split
    · exact (hreset.addFlags _ (micFlags_masked flags)).write _ (by decide)
    · exact hreset

/-- The playback part of a reply: its flag and its bytes. -/
def playPart (f : CwFrame) : Option Packet :=
  if f.byte 5 &&& cwPlay ≠ 0 then some (playOut f) else none

theorem playOut_congr {f g : CwFrame}
    (hsame : ∀ i, cwPlayOut ≤ i → i < cwPlayOut + 190 → g.byte i = f.byte i) :
    playOut g = playOut f := by
  apply Vector.ext
  intro i hi
  simp only [playOut, Vector.getElem_ofFn]
  exact hsame _ (by omega) (by omega)

theorem playOut_write (f : CwFrame) (packet : Packet) :
    playOut (f.write cwPlayOut packet.toList) = packet := by
  apply Vector.ext
  intro i hi
  have hlen : packet.toList.length = 190 := by simp
  have hlt : cwPlayOut + i < 1280 := by
    change 32 + i < 1280
    omega
  simp only [playOut, Vector.getElem_ofFn]
  rw [CwFrame.byte_write _ _ _ _ hlt, if_pos (by omega), Nat.add_sub_cancel_left]
  simp [hi]

theorem playPart_begin (session seq radioFrame : UInt32) (status : UInt8) :
    playPart (cwBegin cwResponse 0 status session seq radioFrame) = none := by
  simp [playPart]

theorem playPart_some {f : CwFrame} {packet : Packet} (h : playPart f = some packet) :
    f.byte 5 &&& cwPlay ≠ 0 ∧ playOut f = packet := by
  unfold playPart at h
  split at h
  · exact ⟨‹_›, Option.some.inj h⟩
  · cases h

theorem playPart_congr {f g : CwFrame} (hflag : g.byte 5 &&& cwPlay = f.byte 5 &&& cwPlay)
    (hsame : ∀ i, cwPlayOut ≤ i → i < cwPlayOut + 190 → g.byte i = f.byte i) :
    playPart g = playPart f := by
  unfold playPart
  rw [hflag, playOut_congr hsame]

theorem playPart_orByte (f : CwFrame) (i : Nat) (x : UInt8) (hi : i < cwPlayOut)
    (hx : i = 5 → x &&& cwPlay = 0) : playPart (f.orByte i x) = playPart f := by
  apply playPart_congr
  · by_cases h5 : i = 5
    · subst h5
      rw [orByte_self f 5 x (by decide), byte_or_and, hx rfl, UInt8.or_zero]
    · rw [orByte_ne f x (Ne.symm h5)]
  · intro j hlo _
    exact orByte_ne f x (by omega)

theorem playPart_replyPlay (f : CwFrame) (result : Int) (packet : Packet)
    (h : playPart f = none) :
    playPart (replyPlay f result packet) = if result = 0 then some packet else none := by
  unfold replyPlay
  by_cases hr : result = 0
  · rw [if_neg (by simpa using hr), if_pos hr]
    have hflag : ((f.orByte 5 cwPlay).write cwPlayOut packet.toList).byte 5 &&& cwPlay ≠ 0 := by
      rw [CwFrame.byte_write_of_lt _ _ (by decide), orByte_self _ _ _ (by decide),
        byte_or_and, UInt8.and_self]
      intro h0
      have := (UInt8.or_eq_zero_iff.mp h0).2
      exact absurd this (by decide)
    rw [playPart, if_pos hflag, playOut_write]
  · rw [if_pos (by simpa using hr), if_neg hr, playPart_orByte f 6 _ (by decide) (by decide), h]

theorem playPart_replyMic (f : CwFrame) (flags : UInt8) (audio : Bool) (result : Int)
    (out : MicPcm) : playPart (replyMic f flags audio result out) = playPart f := by
  unfold replyMic
  split
  · exact playPart_orByte f 6 _ (by decide) (by decide)
  · have hreset : playPart (if flags &&& cwReset ≠ 0 then f.orByte 5 cwReset else f) =
        playPart f := by
      split
      · exact playPart_orByte f 5 _ (by decide) (by decide)
      · rfl
    have hmask : flags &&& (cwMic ||| cwPlc) &&& cwPlay = 0 := by
      rw [UInt8.and_assoc]
      have h : (cwMic ||| cwPlc) &&& cwPlay = 0 := by decide
      rw [h, UInt8.and_zero]
    simp only
    split
    · refine Eq.trans (playPart_congr ?_ ?_)
        ((playPart_orByte _ 5 _ (by decide) fun _ => hmask).trans hreset)
      · rw [CwFrame.byte_write_of_lt _ _ (by decide)]
      · intro i _ hi
        exact CwFrame.byte_write_of_lt _ _ (Nat.lt_of_lt_of_le hi (by decide))
    · exact hreset

theorem playPart_seal (crc32 : List UInt8 → UInt32) (f : CwFrame) :
    playPart (cwSeal crc32 f) = playPart f :=
  playPart_congr (by rw [cwSeal_byte _ _ (by decide)])
    fun _ _ hi => cwSeal_byte _ _ (Nat.lt_of_lt_of_le hi (by decide))

/-- The packet an encoder call yields, if it succeeded. -/
def EncodeCall.output (call : EncodeCall) : Option Packet :=
  if call.result = 0 then some call.packet else none

/-- `tx` is a valid reply to request `(session, seq)` and plays what `call` produced. -/
structure Answers (crc32 : List UInt8 → UInt32) (tx : CwFrame) (session seq : UInt32)
    (call : Option EncodeCall) : Prop where
  valid : cwValid crc32 tx cwResponse = true
  session : cwGet32 tx 8 = session
  seq : cwGet32 tx 12 = seq
  play : playPart tx = call.bind EncodeCall.output

theorem ReplyHeader.answers {f : CwFrame} {session seq : UInt32} (h : ReplyHeader f session seq)
    (crc32 : List UInt8 → UInt32) {call : Option EncodeCall}
    (hplay : playPart f = call.bind EncodeCall.output) :
    Answers crc32 (cwSeal crc32 f) session seq call where
  valid := h.valid crc32
  session := (cwSeal_get32 crc32 f (by decide)).trans h.session
  seq := (cwSeal_get32 crc32 f (by decide)).trans h.seq
  play := (playPart_seal crc32 f).trans hplay

/-- The encoder call a request asks for. -/
def requestCall (c : Codecs E D) (encoder : E) (rx : CwFrame) : Option EncodeCall :=
  if rx.byte 5 &&& cwPlay ≠ 0 then
    some
      { session := cwGet32 rx 8, seq := cwGet32 rx 12, pcm := playIn rx
        result := (c.encode encoder (playIn rx)).1
        packet := (c.encode encoder (playIn rx)).2.1 }
  else none

/-- What `serve` leaves for the next transfers. -/
structure Served (crc32 : List UInt8 → UInt32) (rx : CwFrame) (call : Option EncodeCall)
    (s : Slave E D) : Prop where
  answers : Answers crc32 s.tx (cwGet32 rx 8) (cwGet32 rx 12) call
  cached : s.cached = s.tx
  haveCached : s.haveCached = true
  lastSession : s.lastSession = cwGet32 rx 8
  lastSeq : s.lastSeq = cwGet32 rx 12

theorem servePlay_spec (c : Codecs E D) (s : Slave E D) (rx : CwFrame) {tx : CwFrame}
    {session seq : UInt32} (hheader : ReplyHeader tx session seq) (hempty : playPart tx = none) :
    ReplyHeader (s.servePlay c rx tx).1 session seq ∧
      (s.servePlay c rx tx).2.2 = requestCall c s.encoder rx ∧
      playPart (s.servePlay c rx tx).1 = (requestCall c s.encoder rx).bind EncodeCall.output := by
  unfold Slave.servePlay requestCall
  by_cases hplay : rx.byte 5 &&& cwPlay ≠ 0
  · rw [if_pos hplay, if_pos hplay]
    exact ⟨replyHeader_replyPlay hheader _ _, rfl, playPart_replyPlay _ _ _ hempty⟩
  · rw [if_neg hplay, if_neg hplay]
    exact ⟨hheader, rfl, hempty⟩

theorem serveMic_spec (c : Codecs E D) (s : Slave E D) (rx : CwFrame) {tx : CwFrame}
    {session seq : UInt32} (hheader : ReplyHeader tx session seq) :
    ReplyHeader (s.serveMic c rx tx).1 session seq ∧
      playPart (s.serveMic c rx tx).1 = playPart tx := by
  unfold Slave.serveMic
  simp only
  split
  · exact ⟨replyHeader_replyMic hheader _ _ _ _, playPart_replyMic _ _ _ _ _⟩
  · exact ⟨hheader, rfl⟩

theorem serve_spec (c : Codecs E D) (crc32 : List UInt8 → UInt32) (s : Slave E D)
    (rx : CwFrame) :
    (s.serve c crc32 rx).2 = requestCall c s.encoder rx ∧
      Served crc32 rx (requestCall c s.encoder rx) (s.serve c crc32 rx).1 := by
  have hplay := servePlay_spec c s rx
    (replyHeader_begin (cwGet32 rx 8) (cwGet32 rx 12) (cwGet32 rx 16) cwOk) (playPart_begin _ _ _ _)
  obtain ⟨hheader, hcall, hpart⟩ := hplay
  have hmic := serveMic_spec c
    (s.servePlay c rx (cwBegin cwResponse 0 cwOk (cwGet32 rx 8) (cwGet32 rx 12)
      (cwGet32 rx 16))).2.1 rx hheader
  exact ⟨hcall, hmic.1.answers crc32 (hmic.2.trans hpart), rfl, rfl, rfl, rfl⟩

/-- The three outcomes of `process`: a refused request, a repeated one and a new one. -/
theorem process_cases (c : Codecs E D) (crc32 : List UInt8 → UInt32) (s : Slave E D)
    (rx : CwFrame) (bits : Nat) :
    ((cwCrcOk crc32 rx && requestHeader rx bits) = false ∧
      Answers crc32 (s.process c crc32 rx bits).1.tx (cwGet32 rx 8) (cwGet32 rx 12) none ∧
      s.process c crc32 rx bits =
        ({ s with tx := (s.process c crc32 rx bits).1.tx }, none)) ∨
    ((cwCrcOk crc32 rx && requestHeader rx bits) = true ∧ s.haveCached = true ∧
      cwGet32 rx 8 = s.lastSession ∧ cwGet32 rx 12 = s.lastSeq ∧
      s.process c crc32 rx bits = ({ s with tx := s.cached }, none)) ∨
    ((cwCrcOk crc32 rx && requestHeader rx bits) = true ∧
      ¬ (s.haveCached = true ∧ cwGet32 rx 8 = s.lastSession ∧ cwGet32 rx 12 = s.lastSeq) ∧
      (s.process c crc32 rx bits).2 = requestCall c s.encoder rx ∧
      Served crc32 rx (requestCall c s.encoder rx) (s.process c crc32 rx bits).1) := by
  cases hok : cwCrcOk crc32 rx && requestHeader rx bits with
  | false =>
      refine .inl ⟨rfl, ?_, ?_⟩
      · simp only [Slave.process, hok]
        exact (replyHeader_begin _ _ _ _).answers crc32 (playPart_begin _ _ _ _)
      · simp only [Slave.process, hok]
        rfl
  | true =>
      by_cases hdup : s.haveCached = true ∧ cwGet32 rx 8 = s.lastSession ∧
          cwGet32 rx 12 = s.lastSeq
      · refine .inr (.inl ⟨rfl, hdup.1, hdup.2.1, hdup.2.2, ?_⟩)
        simp [Slave.process, hok, hdup.1, hdup.2.1, hdup.2.2]
      · have hserve : s.process c crc32 rx bits = s.serve c crc32 rx := by
          have hd : (s.haveCached && cwGet32 rx 8 == s.lastSession &&
              cwGet32 rx 12 == s.lastSeq) = false := by
            rw [← Bool.not_eq_true]
            simpa [and_assoc] using hdup
          simp only [Slave.process, hok, hd]
          rfl
        rw [hserve]
        exact .inr (.inr ⟨rfl, hdup, serve_spec c crc32 s rx⟩)

end UllReceiver.Bridge
