import UllReceiver.Bridge.CodecReply
import UllReceiver.Bridge.Moves

/-!
# Request frames

What the worker has in `tx` from the moment a request is begun until it is transferred, and that
the slave's checks pass on it.
-/

namespace UllReceiver.Bridge

/-- `f` is an unsealed frame for the request `r`. -/
structure RequestBody (f : CwFrame) (r : Request) : Prop where
  magic : cwGet32 f 0 = cwRequest
  version : f.byte 4 = 2
  flags : f.byte 5 &&& ~~~15 = 0
  noPlc : f.byte 5 &&& cwPlc = 0
  status : f.byte 6 = 0
  reserved : f.byte 7 = 0
  session : cwGet32 f 8 = r.session
  seq : cwGet32 f 12 = r.seq
  padding : ∀ i, 20 ≤ i → i < 32 → f.byte i = 0
  play : f.byte 5 &&& cwPlay ≠ 0 ↔ r.pcm.isSome
  pcm : ∀ pcm, r.pcm = some pcm → playIn f = pcm

theorem RequestBody.congr {f g : CwFrame} {r : Request} (h : RequestBody f r)
    (hsame : ∀ i, i < 992 → i ≠ 5 → i < 16 ∨ 20 ≤ i → g.byte i = f.byte i)
    (hflags : g.byte 5 &&& ~~~15 = 0) (hplc : g.byte 5 &&& cwPlc = 0)
    (hplay : g.byte 5 &&& cwPlay = f.byte 5 &&& cwPlay) : RequestBody g r where
  magic := (cwGet32_congr fun i _ hi =>
    hsame i (by omega) (by omega) (.inl (by omega))).trans h.magic
  version := (hsame 4 (by omega) (by omega) (.inl (by omega))).trans h.version
  flags := hflags
  noPlc := hplc
  status := (hsame 6 (by omega) (by omega) (.inl (by omega))).trans h.status
  reserved := (hsame 7 (by omega) (by omega) (.inl (by omega))).trans h.reserved
  session := (cwGet32_congr fun i _ hi =>
    hsame i (by omega) (by omega) (.inl (by omega))).trans h.session
  seq := (cwGet32_congr fun i _ hi =>
    hsame i (by omega) (by omega) (.inl (by omega))).trans h.seq
  padding := fun i hlo hhi =>
    (hsame i (by omega) (by omega) (.inr hlo)).trans (h.padding i hlo hhi)
  play := by rw [hplay]; exact h.play
  pcm := by
    intro pcm hpcm
    rw [← h.pcm pcm hpcm]
    apply Vector.ext
    intro i hi
    have h0 : cwPlayIn + 2 * i < 992 := by
      change 32 + 2 * i < 992
      omega
    have h1 : cwPlayIn + 2 * i + 1 < 992 := by
      change 32 + 2 * i + 1 < 992
      omega
    have hlo : 32 ≤ cwPlayIn + 2 * i := Nat.le_add_right 32 _
    simp only [playIn, Vector.getElem_ofFn, cwGet16]
    rw [hsame _ h0 (by omega) (.inr (by omega)), hsame _ h1 (by omega) (.inr (by omega))]

/-- A sealed request passes both tests `process` makes of it. -/
theorem RequestBody.header {f : CwFrame} {r : Request} (h : RequestBody f r) :
    requestHeader f (cwBytes * 8) = true := by
  have hplc : f.byte 5 &&& (cwMic ||| cwPlc) ≠ cwMic ||| cwPlc := by
    intro heq
    have hboth : f.byte 5 &&& (cwMic ||| cwPlc) &&& cwPlc = f.byte 5 &&& cwPlc := by
      rw [UInt8.and_assoc]
      rfl
    rw [heq, h.noPlc] at hboth
    exact absurd hboth (by decide)
  have hpad : ((List.range 12).all fun i => f.byte (20 + i) == 0) = true := by
    rw [List.all_eq_true]
    intro i hi
    rw [List.mem_range] at hi
    rw [h.padding (20 + i) (by omega) (by omega)]
    rfl
  unfold requestHeader
  rw [hpad, h.magic, h.version, h.status, h.reserved, h.flags]
  simpa using hplc

theorem RequestBody.seal {f : CwFrame} {r : Request} (h : RequestBody f r)
    (crc32 : List UInt8 → UInt32) : RequestBody (cwSeal crc32 f) r := by
  have hsame (i : Nat) (hi : i < 992) : (cwSeal crc32 f).byte i = f.byte i :=
    cwSeal_byte crc32 f (Nat.lt_of_lt_of_le hi (by decide))
  refine h.congr (fun i hi _ _ => hsame i hi) ?_ ?_ ?_
  · rw [hsame 5 (by decide)]
    exact h.flags
  · rw [hsame 5 (by decide)]
    exact h.noPlc
  · rw [hsame 5 (by decide)]

/-- Adding a microphone packet leaves the rest of the request alone. -/
theorem RequestBody.addMic {f : CwFrame} {r : Request} (h : RequestBody f r)
    (payload : MicPayload) (frame : UInt32) :
    RequestBody (cwPut32 ((f.write cwMicIn payload.toList).orByte 5 cwMic) 16 frame) r := by
  have hflag : (cwPut32 ((f.write cwMicIn payload.toList).orByte 5 cwMic) 16 frame).byte 5 =
      f.byte 5 ||| cwMic := by
    unfold cwPut32
    rw [CwFrame.byte_write_of_lt _ _ (by decide), orByte_self _ _ _ (by decide),
      CwFrame.byte_write_of_lt _ _ (by decide)]
  refine h.congr ?_ ?_ ?_ ?_
  · intro i hi h5 hside
    have hput (g : CwFrame) : (cwPut32 g 16 frame).byte i = g.byte i := by
      unfold cwPut32
      rcases hside with hlt | hge
      · exact CwFrame.byte_write_of_lt _ _ hlt
      · exact CwFrame.byte_write_of_le _ _ (by simpa using hge)
    rw [hput, orByte_ne _ _ h5]
    exact CwFrame.byte_write_of_lt _ _ hi
  · rw [hflag, byte_or_and, h.flags]
    decide
  · rw [hflag, byte_or_and, h.noPlc]
    decide
  · rw [hflag, byte_or_and]
    have hm : cwMic &&& cwPlay = 0 := by decide
    rw [hm, UInt8.or_zero]

theorem takeMicPacket_body (w : Worker) (p : MicPacket) {r : Request}
    (h : RequestBody w.stream.tx r) : RequestBody (w.takeMicPacket p).2.stream.tx r := by
  unfold Worker.takeMicPacket
  simp only
  split
  · exact h
  · split
    · exact h
    · exact h.addMic p.payload p.frame

theorem takeMic_body (n : Nat) (w : Worker) {r : Request} (h : RequestBody w.stream.tx r) :
    RequestBody (w.takeMic n).stream.tx r := by
  induction n generalizing w with
  | zero => exact h
  | succ n ih =>
      have hp := takeMicPacket_body w
        (w.stream.packets (Library.ringSlot 16 w.stream.readPos.toNat)) h
      unfold Worker.takeMic
      split
      case h_1 w' hw => rw [hw] at hp; exact hp
      case h_2 w' hw => rw [hw] at hp; exact ih w' hp

/-- The sealed request leaves the worker as it was begun. -/
theorem fill_body (crc32 : List UInt8 → UInt32) (w : Worker) {r : Request}
    (h : RequestBody w.stream.tx r) :
    RequestBody (w.fill crc32).stream.tx r ∧ cwCrcOk crc32 (w.fill crc32).stream.tx = true := by
  unfold Worker.fill
  simp only
  split
  · exact ⟨h.seal crc32, cwSeal_crcOk crc32 _⟩
  · exact ⟨(takeMic_body _ w h).seal crc32, cwSeal_crcOk crc32 _⟩

theorem begin_body (session seq : UInt32) (flags : UInt8) (generation : Nat)
    (hflags : flags &&& ~~~15 = 0) (hplc : flags &&& cwPlc = 0) (hplay : flags &&& cwPlay = 0) :
    RequestBody (cwBegin cwRequest flags 0 session seq 0)
      { session, seq, pcm := none, generation } where
  magic := by simp
  version := by simp
  flags := by simpa using hflags
  noPlc := by simpa using hplc
  status := by simp
  reserved := by simp
  session := by simp
  seq := by simp
  padding := fun i hlo _ => cwBegin_padding _ _ _ _ _ _ hlo
  play := by simp [hplay]
  pcm := by simp

theorem begin_play_body (session seq : UInt32) (flags : UInt8) (pcm : PcmBlock) (generation : Nat)
    (hflags : flags &&& ~~~15 = 0) (hplc : flags &&& cwPlc = 0) (hplay : flags &&& cwPlay ≠ 0) :
    RequestBody ((cwBegin cwRequest flags 0 session seq 0).write cwPlayIn (pcmBytes pcm))
      { session, seq, pcm := some pcm, generation } := by
  have hlow (f : CwFrame) (i : Nat) (hi : i < 32) :
      (f.write cwPlayIn (pcmBytes pcm)).byte i = f.byte i :=
    CwFrame.byte_write_of_lt f _ hi
  have hword (f : CwFrame) (off : Nat) (hoff : off + 4 ≤ 32) :
      cwGet32 (f.write cwPlayIn (pcmBytes pcm)) off = cwGet32 f off :=
    cwGet32_write_of_lt f _ hoff
  refine ⟨?_, ?_, ?_, ?_, ?_, ?_, ?_, ?_, ?_, ?_, ?_⟩
  · rw [hword _ _ (by decide)]; simp
  · rw [hlow _ _ (by decide)]; simp
  · rw [hlow _ _ (by decide)]; simpa using hflags
  · rw [hlow _ _ (by decide)]; simpa using hplc
  · rw [hlow _ _ (by decide)]; simp
  · rw [hlow _ _ (by decide)]; simp
  · rw [hword _ _ (by decide)]; simp
  · rw [hword _ _ (by decide)]; simp
  · intro i hlo hhi
    rw [hlow _ _ hhi]
    exact cwBegin_padding _ _ _ _ _ _ hlo
  · rw [hlow _ _ (by decide)]
    simpa using hplay
  · intro p hp
    simp only [Option.some.injEq] at hp
    rw [playIn_write, hp]

end UllReceiver.Bridge
