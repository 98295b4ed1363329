import UllReceiver.Bridge.RequestFrame
import UllReceiver.Library.Counter

/-!
# Pairing of packets with playback blocks

Every packet pushed into the audio source is the encoder's output for the block carried by the
request made just before the one whose transfer brought it.
-/

namespace UllReceiver.Bridge

open Audio

variable {E D : Type} {c : Codecs E D} {crc32 : List UInt8 → UInt32}

/-- The request the worker is busy with. -/
def WorkerPc.request : WorkerPc → Option RequestKind
  | .fill => some .live
  | .transfer kind | .accept kind | .pushCopy kind | .pushStore kind | .finish kind _ => some kind
  | _ => none

/-- The newest request has not been transferred yet. -/
def WorkerPc.unsent : WorkerPc → Bool
  | .fill | .transfer _ => true
  | _ => false

/-- The newest request may still have a packet pushed for it. -/
def WorkerPc.mayPush : WorkerPc → Bool
  | .fill | .transfer _ | .accept _ | .pushCopy _ | .pushStore _ => true
  | _ => false

/-- What `f` plays was encoded for the request `f` names. -/
def Traced (h : LinkHistory) (f : CwFrame) : Prop :=
  ∀ packet, playPart f = some packet → ∃ r ∈ h.requests,
    cwGet32 f 8 = r.session ∧ cwGet32 f 12 = r.seq ∧ ∃ call ∈ h.calls,
      call.session = r.session ∧ call.seq = r.seq ∧ r.pcm = some call.pcm ∧ call.result = 0 ∧
        call.packet = packet

/-- A pushed record belongs to the request before the one it was pushed in, whose block was
encoded to its packet. -/
def Paired (h : LinkHistory) (r : Record) : Prop :=
  ∃ before p, r.request = before + 2 ∧ h.requests[before]? = some p ∧
    p.generation = r.generation ∧
    (∃ q, h.requests[before + 1]? = some q ∧ q.generation = r.generation) ∧
    ∃ call ∈ h.calls, call.session = p.session ∧ call.seq = p.seq ∧ p.pcm = some call.pcm ∧
      call.result = 0 ∧ call.packet = r.packet

/-- `h'` continues `h`. -/
structure LinkHistory.Extends (h' h : LinkHistory) : Prop where
  requests : h.requests <+: h'.requests
  calls : h.calls <+: h'.calls

theorem getElem?_of_prefix {α : Type*} {l l' : List α} (hp : l <+: l') {i : Nat} {a : α}
    (h : l[i]? = some a) : l'[i]? = some a := by
  obtain ⟨t, rfl⟩ := hp
  rw [List.getElem?_append_left (List.getElem?_eq_some_iff.mp h).1]
  exact h

theorem Traced.mono {h h' : LinkHistory} {f : CwFrame} (ht : Traced h f) (he : h'.Extends h) :
    Traced h' f := by
  intro packet hp
  obtain ⟨r, hr, hsession, hseq, call, hcall, hrest⟩ := ht packet hp
  exact ⟨r, he.requests.subset hr, hsession, hseq, call, he.calls.subset hcall, hrest⟩

theorem Paired.mono {h h' : LinkHistory} {r : Record} (hp : Paired h r) (he : h'.Extends h) :
    Paired h' r := by
  obtain ⟨before, p, hrequest, hget, hgen, ⟨q, hq, hqgen⟩, call, hcall, hrest⟩ := hp
  exact ⟨before, p, hrequest, getElem?_of_prefix he.requests hget, hgen,
    ⟨q, getElem?_of_prefix he.requests hq, hqgen⟩, call, he.calls.subset hcall, hrest⟩

theorem traced_of_playPart_none {h : LinkHistory} {f : CwFrame} (hf : playPart f = none) :
    Traced h f := by
  intro packet hp
  rw [hf] at hp
  exact nomatch hp

/-- The numbers of the requests and what is known of the newest one. -/
structure Requests (crc32 : List UInt8 → UInt32) (w : Worker) (h : LinkHistory) : Prop where
  seq : w.run.seq = UInt32.ofNat h.requests.length
  numbered : ∀ i r, h.requests[i]? = some r → r.seq = UInt32.ofNat (i + 1)
  newest : ∀ kind, w.run.pc.request = some kind → ∃ r, h.requests.getLast? = some r ∧
    r.session = w.run.session ∧ r.generation = h.rearms ∧ (kind = .handshake → r.pcm = none)
  kind : ∀ kind, w.run.pc.request = some kind → w.stream.ready = decide (kind = .live)
  body : w.run.pc.unsent = true → ∃ r, h.requests.getLast? = some r ∧ RequestBody w.stream.tx r
  sealed : ∀ kind, w.run.pc = .transfer kind → cwCrcOk crc32 w.stream.tx = true

/-- The request a reply is expected for: the one before the newest while a request is under way,
the newest otherwise; a handshake may have been followed by others that failed. -/
def Expected (w : Worker) (h : LinkHistory) : Prop :=
  w.stream.havePrevious = true → ∃ i r, h.requests[i]? = some r ∧
    r.session = w.stream.previousSession ∧ r.seq = w.stream.previousSeq ∧
    r.generation = h.rearms ∧
    (r.pcm = none ∨ w.stream.ready = true ∧
      i + (if w.run.pc.request.isSome then 2 else 1) = h.requests.length)

/-- The slave's replies are valid and traced; each request was encoded at most once. -/
structure SlaveReplies (crc32 : List UInt8 → UInt32) (pc : WorkerPc) (slave : Slave E D)
    (h : LinkHistory) : Prop where
  valid : cwValid crc32 slave.tx cwResponse = true
  traced : Traced h slave.tx
  cachedValid : slave.haveCached = true → cwValid crc32 slave.cached cwResponse = true
  cachedTraced : slave.haveCached = true → Traced h slave.cached
  once : h.calls.Pairwise fun a b => a.seq.toNat < b.seq.toNat
  answered : ∀ call ∈ h.calls,
    call.seq.toNat + (if pc.unsent then 1 else 0) ≤ h.requests.length
  asked : ∀ call ∈ h.calls, ∃ r ∈ h.requests,
    r.session = call.session ∧ r.seq = call.seq ∧ r.pcm = some call.pcm

/-- Pushed records, and the one about to be pushed, are paired. -/
structure Pushes (crc32 : List UInt8 → UInt32) (w : Worker) (h : LinkHistory) : Prop where
  reply : ∀ kind, w.run.pc = .accept kind → cwCrcOk crc32 w.stream.rx = true →
    Traced h w.stream.rx
  pushing : ∀ kind, w.run.pc = .pushCopy kind ∨ w.run.pc = .pushStore kind →
    Paired h (w.record h.requests.length h.rearms)
  paired : ∀ r ∈ h.pushes, Paired h r
  bound : ∀ r ∈ h.pushes, r.request + (if w.run.pc.mayPush then 1 else 0) ≤ h.requests.length
  ordered : h.pushes.Pairwise fun a b => a.request < b.request

structure Pairing (crc32 : List UInt8 → UInt32) (w : Worker) (slave : Slave E D)
    (h : LinkHistory) : Prop where
  requests : Requests crc32 w h
  expected : Expected w h
  slave : SlaveReplies crc32 w.run.pc slave h
  pushes : Pushes crc32 w h

theorem pairing_init (base : UInt32) (packets : Fin 16 → MicPacket) (encoder : E) (decoder : D)
    (rx : CwFrame) :
    let b := Link.init crc32 base packets encoder decoder rx
    Pairing crc32 b.worker b.slave b.history := by
  refine ⟨⟨rfl, by simp [Link.init], fun _ hk => (nomatch hk), fun _ hk => (nomatch hk),
    fun hu => (nomatch hu), fun _ hk => (nomatch hk)⟩, fun hp => (nomatch hp), ?_, ?_⟩
  · have hheader := replyHeader_begin 0 0 0 cwNotReady
    refine ⟨hheader.valid crc32, ?_, fun hc => (nomatch hc), fun hc => (nomatch hc),
      List.Pairwise.nil, by simp [Link.init], by simp [Link.init]⟩
    exact traced_of_playPart_none ((playPart_seal crc32 _).trans (playPart_begin _ _ _ _))
  · exact ⟨fun _ hk => (nomatch hk), fun _ hk => (hk.elim (nomatch ·) (nomatch ·)),
      by simp [Link.init], by simp [Link.init], List.Pairwise.nil⟩

/-- Moving between places outside a request. -/
theorem Pairing.aside {w w' : Worker} {slave : Slave E D} {h : LinkHistory}
    (hp : Pairing crc32 w slave h) (hpc : w.run.pc.request = none)
    (hpc' : w'.run.pc.request = none) (hseq : w'.run.seq = w.run.seq)
    (hready : w'.stream.ready = w.stream.ready)
    (hhave : w'.stream.havePrevious = true → w.stream.havePrevious = true)
    (hsession : w'.stream.previousSession = w.stream.previousSession)
    (hprevious : w'.stream.previousSeq = w.stream.previousSeq) : Pairing crc32 w' slave h := by
  have hflags {pc : WorkerPc} (hn : pc.request = none) :
      pc.unsent = false ∧ pc.mayPush = false ∧ (∀ kind, pc ≠ .transfer kind) ∧
        (∀ kind, pc ≠ .accept kind) ∧ ∀ kind, ¬ (pc = .pushCopy kind ∨ pc = .pushStore kind) := by
    cases pc <;> simp_all [WorkerPc.request, WorkerPc.unsent, WorkerPc.mayPush]
  obtain ⟨hunsent', hmay', htransfer', haccept', hpush'⟩ := hflags hpc'
  obtain ⟨hunsent, hmay, _⟩ := hflags hpc
  refine ⟨⟨hseq.trans hp.requests.seq, hp.requests.numbered, ?_, ?_, ?_, ?_⟩, ?_, ?_, ?_⟩
  · rw [hpc']
    exact fun _ hk => (nomatch hk)
  · rw [hpc']
    exact fun _ hk => (nomatch hk)
  · rw [hunsent']
    exact fun hu => (nomatch hu)
  · exact fun kind hk => absurd hk (htransfer' kind)
  · intro hprev
    have he := hp.expected (hhave hprev)
    rw [hpc']
    rw [hpc] at he
    rw [hsession, hprevious, hready]
    exact he
  · have hs := hp.slave
    refine ⟨hs.valid, hs.traced, hs.cachedValid, hs.cachedTraced, hs.once, ?_, hs.asked⟩
    have ha := hs.answered
    rw [hunsent] at ha
    rw [hunsent']
    exact ha
  · have hu := hp.pushes
    refine ⟨fun kind hk => absurd hk (haccept' kind), fun kind hk => absurd hk (hpush' kind),
      hu.paired, ?_, hu.ordered⟩
    have hb := hu.bound
    rw [hmay] at hb
    rw [hmay']
    exact hb

theorem LinkHistory.extends_refl (h : LinkHistory) : h.Extends h :=
  ⟨List.prefix_refl _, List.prefix_refl _⟩

/-- A request is begun: it becomes the newest, and a reply to the one before it is awaited. -/
theorem Pairing.request {w w' : Worker} {slave : Slave E D} {h : LinkHistory}
    (hp : Pairing crc32 w slave h) (hpc : w.run.pc.request = none) (kind : RequestKind)
    (pcm : Option PcmBlock)
    (hpc' : w'.run.pc = .fill ∧ kind = .live ∨ w'.run.pc = .transfer .handshake ∧ kind = .handshake)
    (hseq : w'.run.seq = w.run.seq + 1)
    (hready : w'.stream.ready = w.stream.ready) (hkind : w.stream.ready = decide (kind = .live))
    (hhave : w'.stream.havePrevious = w.stream.havePrevious)
    (hsession : w'.stream.previousSession = w.stream.previousSession)
    (hprevious : w'.stream.previousSeq = w.stream.previousSeq)
    (hbody : RequestBody w'.stream.tx (w'.made pcm h.rearms))
    (hsealed : kind = .handshake → cwCrcOk crc32 w'.stream.tx = true)
    (hpcm : kind = .handshake → pcm = none) :
    Pairing crc32 w' slave { h with requests := h.requests ++ [w'.made pcm h.rearms] } := by
  generalize hr : w'.made pcm h.rearms = r at *
  have hext : ({ h with requests := h.requests ++ [r] } : LinkHistory).Extends h :=
    ⟨List.prefix_append _ _, List.prefix_refl _⟩
  have hlen : (h.requests ++ [r]).length = h.requests.length + 1 := by simp
  have hseq' : w'.run.seq = UInt32.ofNat (h.requests.length + 1) := by
    rw [hseq, hp.requests.seq, UInt32.ofNat_add]
    rfl
  have hplace : w.run.pc.unsent = false ∧ w.run.pc.mayPush = false := by
    cases hw : w.run.pc <;> rw [hw] at hpc <;>
      first | exact ⟨rfl, rfl⟩ | exact nomatch hpc
  have hreq' : w'.run.pc.request = some kind := by
    rcases hpc' with ⟨hw, rfl⟩ | ⟨hw, rfl⟩ <;> rw [hw] <;> rfl
  have hplace' : w'.run.pc.unsent = true ∧ w'.run.pc.mayPush = true := by
    rcases hpc' with ⟨hw, rfl⟩ | ⟨hw, rfl⟩ <;> rw [hw] <;> exact ⟨rfl, rfl⟩
  refine ⟨⟨?_, ?_, ?_, ?_, ?_, ?_⟩, ?_, ?_, ?_⟩
  · rw [hlen]
    exact hseq'
  · intro i q hq
    by_cases hi : i < h.requests.length
    · rw [List.getElem?_append_left hi] at hq
      exact hp.requests.numbered i q hq
    · rw [List.getElem?_append_right (by omega)] at hq
      obtain ⟨hi0, hqr⟩ := List.getElem?_eq_some_iff.mp hq
      simp only [List.length_singleton] at hi0
      have hin : i = h.requests.length := by omega
      subst hin
      simp only [Nat.sub_self, List.getElem_cons_zero] at hqr
      rw [← hqr, ← hr]
      exact hseq'
  · intro k hk
    rw [hreq'] at hk
    cases hk
    subst hr
    exact ⟨_, List.getLast?_concat, rfl, rfl, hpcm⟩
  · intro k hk
    rw [hreq'] at hk
    cases hk
    rw [hready, hkind]
  · exact fun _ => ⟨r, List.getLast?_concat, hbody⟩
  · intro k hk
    rcases hpc' with ⟨hw, rfl⟩ | ⟨hw, rfl⟩
    · rw [hw] at hk
      exact nomatch hk
    · exact hsealed rfl
  · intro hprev
    rw [hhave] at hprev
    obtain ⟨i, q, hget, hqs, hqq, hgen, hwhen⟩ := hp.expected hprev
    refine ⟨i, q, getElem?_of_prefix hext.requests hget, by rw [hsession]; exact hqs,
      by rw [hprevious]; exact hqq, hgen, ?_⟩
    rcases hwhen with hnone | ⟨hrd, hi⟩
    · exact .inl hnone
    · rw [hpc] at hi
      rw [hreq', hready]
      refine .inr ⟨hrd, ?_⟩
      simp only [Option.isSome_none, Bool.false_eq_true, if_false] at hi
      simp only [Option.isSome_some, if_true]
      rw [hlen]
      omega
  · have hs := hp.slave
    refine ⟨hs.valid, hs.traced.mono hext, hs.cachedValid, fun hc => (hs.cachedTraced hc).mono hext,
      hs.once, ?_, ?_⟩
    · intro call hcall
      have ha := hs.answered call hcall
      rw [hplace.1] at ha
      rw [hplace'.1, hlen]
      simp only [Bool.false_eq_true, if_false] at ha
      simp only [if_true]
      omega
    · intro call hcall
      obtain ⟨q, hq, hrest⟩ := hs.asked call hcall
      exact ⟨q, List.mem_append_left _ hq, hrest⟩
  · have hu := hp.pushes
    refine ⟨?_, ?_, fun q hq => (hu.paired q hq).mono hext, ?_, hu.ordered⟩
    · intro k hk
      rcases hpc' with ⟨hw, _⟩ | ⟨hw, _⟩ <;> rw [hw] at hk <;> exact nomatch hk
    · intro k hk
      rcases hpc' with ⟨hw, _⟩ | ⟨hw, _⟩ <;> rw [hw] at hk <;>
        exact (hk.elim (nomatch ·) (nomatch ·))
    · intro q hq
      have hb := hu.bound q hq
      rw [hplace.2] at hb
      rw [hplace'.2, hlen]
      simp only [Bool.false_eq_true, if_false] at hb
      simp only [if_true]
      omega

/-- Beginning a live request, in full. -/
theorem live_begin (w : Worker) (input : PlaybackInput) (generation : Nat)
    (hfill : (w.live input).run.pc = .fill) :
    (w.live input).run.seq = w.run.seq + 1 ∧ (w.live input).stream.ready = w.stream.ready ∧
      (w.live input).stream.havePrevious = w.stream.havePrevious ∧
      (w.live input).stream.previousSession = w.stream.previousSession ∧
      (w.live input).stream.previousSeq = w.stream.previousSeq ∧
      RequestBody (w.live input).stream.tx
        ((w.live input).made (if w.wantsPlay input then some input.pcm else none) generation) := by
  have hmask (play reset : Bool) :
      ((if play then cwPlay else 0) ||| (if reset then cwReset else 0)) &&& ~~~15 = 0 ∧
        ((if play then cwPlay else 0) ||| (if reset then cwReset else 0)) &&& cwPlc = 0 ∧
        ((if play then cwPlay else 0) ||| (if reset then cwReset else 0)) &&& cwPlay =
          if play then cwPlay else 0 := by
    cases play <;> cases reset <;> decide
  unfold Worker.live at hfill ⊢
  simp only at hfill ⊢
  split at hfill
  · exact nomatch hfill
  · rename_i hgo
    rw [if_neg hgo]
    refine ⟨rfl, rfl, rfl, rfl, rfl, ?_⟩
    simp only [Worker.made]
    obtain ⟨hflags, hplc, hplay⟩ := hmask (w.wantsPlay input)
      (w.stream.micEnabled && (!w.run.wasCapture || w.run.resetEpoch != w.stream.epoch))
    cases hwants : w.wantsPlay input with
    | true =>
        rw [hwants] at hflags hplc hplay
        simp only [if_true] at hflags hplc hplay ⊢
        exact begin_play_body _ _ _ _ _ hflags hplc (by rw [hplay]; decide)
    | false =>
        rw [hwants] at hflags hplc hplay
        simp only [Bool.false_eq_true, if_false] at hflags hplc hplay ⊢
        exact begin_body _ _ _ _ hflags hplc hplay

theorem live_pass (w : Worker) (input : PlaybackInput) (hfill : (w.live input).run.pc ≠ .fill) :
    (w.live input).run.pc = .top ∧ (w.live input).run.seq = w.run.seq ∧
      (w.live input).stream.ready = w.stream.ready ∧
      (w.live input).stream.havePrevious = w.stream.havePrevious ∧
      (w.live input).stream.previousSession = w.stream.previousSession ∧
      (w.live input).stream.previousSeq = w.stream.previousSeq := by
  unfold Worker.live at hfill ⊢
  simp only at hfill ⊢
  split at hfill
  · rename_i hstop
    rw [if_pos hstop]
    exact ⟨rfl, rfl, rfl, rfl, rfl, rfl⟩
  · exact absurd rfl hfill

variable (crc32) in
/-- Filling in the microphone part touches nothing the pairing depends on but the frame. -/
theorem fill_same (w : Worker) :
    ∃ readPos tx lastMicFrame lastMicSeq haveMic, w.fill crc32 =
      { stream := { w.stream with readPos, tx }
        run := { w.run with lastMicFrame, lastMicSeq, haveMic, pc := .transfer .live } } := by
  have htake (n : Nat) (w : Worker) : ∃ readPos tx lastMicFrame lastMicSeq haveMic,
      w.takeMic n = { stream := { w.stream with readPos, tx }
                      run := { w.run with lastMicFrame, lastMicSeq, haveMic } } := by
    induction n generalizing w with
    | zero => exact ⟨_, _, _, _, _, rfl⟩
    | succ n ih =>
        have hone (p : MicPacket) : ∃ readPos tx lastMicFrame lastMicSeq haveMic,
            (w.takeMicPacket p).2 = { stream := { w.stream with readPos, tx }
                                      run := { w.run with lastMicFrame, lastMicSeq, haveMic } } := by
          unfold Worker.takeMicPacket
          simp only
          split
          · exact ⟨_, _, _, _, _, rfl⟩
          · split <;> exact ⟨_, _, _, _, _, rfl⟩
        obtain ⟨a, b, x, y, z, hp⟩ :=
          hone (w.stream.packets (Library.ringSlot 16 w.stream.readPos.toNat))
        unfold Worker.takeMic
        split
        case h_1 w' hw =>
          rw [hw] at hp
          simp only at hp
          subst hp
          exact ⟨_, _, _, _, _, rfl⟩
        case h_2 w' hw =>
          rw [hw] at hp
          simp only at hp
          subst hp
          obtain ⟨a, b, x, y, z, hi⟩ := ih { stream := { w.stream with readPos := a, tx := b }
                                             run := { w.run with lastMicFrame := x, lastMicSeq := y, haveMic := z } }
          exact ⟨_, _, _, _, _, hi⟩
  unfold Worker.fill
  simp only
  split
  · exact ⟨_, _, _, _, _, rfl⟩
  · obtain ⟨a, b, x, y, z, hi⟩ := htake (w.stream.written - w.stream.readPos).toNat w
    rw [hi]
    exact ⟨_, _, _, _, _, rfl⟩

theorem Pairing.fill {w : Worker} {slave : Slave E D} {h : LinkHistory}
    (hp : Pairing crc32 w slave h) (hpc : w.run.pc = .fill) :
    Pairing crc32 (w.fill crc32) slave h := by
  obtain ⟨hreq, hexp, hs, hu⟩ := hp
  obtain ⟨r, hlast, hbody⟩ := hreq.body (by rw [hpc]; rfl)
  have hfilled := fill_body crc32 w hbody
  obtain ⟨readPos, tx, lastMicFrame, lastMicSeq, haveMic, hfill⟩ := fill_same crc32 w
  rw [hfill] at hfilled ⊢
  have hnewest := hreq.newest .live (by rw [hpc]; rfl)
  have hready := hreq.kind .live (by rw [hpc]; rfl)
  refine ⟨⟨hreq.seq, hreq.numbered, ?_, ?_, fun _ => ⟨r, hlast, hfilled.1⟩,
    fun _ _ => hfilled.2⟩, ?_, ?_, ?_⟩
  · rintro k ⟨⟩
    exact hnewest
  · rintro k ⟨⟩
    exact hready
  · intro hprev
    have he := hexp hprev
    rw [hpc] at he
    exact he
  · rw [hpc] at hs
    exact ⟨hs.valid, hs.traced, hs.cachedValid, hs.cachedTraced, hs.once, hs.answered, hs.asked⟩
  · refine ⟨fun k hk => (nomatch hk), fun k hk => (hk.elim (nomatch ·) (nomatch ·)),
      hu.paired, ?_, hu.ordered⟩
    have hb := hu.bound
    rw [hpc] at hb
    exact hb

theorem Received.eq_of_ok {sent received : CwFrame} {bits : Nat}
    (hr : Link.Received crc32 sent received bits) (hcrc : cwCrcOk crc32 received = true)
    (hbits : bits = cwBytes * 8) : received = sent := by
  rcases hr with ⟨heq, _⟩ | hbad | hshort
  · exact heq
  · rw [hcrc] at hbad
    exact nomatch hbad
  · exact absurd hbits hshort

theorem requestHeader_bits {rx : CwFrame} {bits : Nat} (h : requestHeader rx bits = true) :
    bits = cwBytes * 8 := by
  unfold requestHeader at h
  simp only [Bool.and_eq_true, beq_iff_eq] at h
  exact h.1.1.1.1.1.1.1

theorem cwValid_crcOk {f : CwFrame} {magic : UInt32} (h : cwValid crc32 f magic = true) :
    cwCrcOk crc32 f = true := by
  unfold cwValid at h
  simp only [Bool.and_eq_true] at h
  exact h.2

/-- The slave after one transfer of the newest request: what it has ready is again traced, and no
request has been encoded twice. -/
theorem SlaveReplies.process {w : Worker} {slave : Slave E D} {h : LinkHistory}
    (hs : SlaveReplies crc32 w.run.pc slave h) (hreq : Requests crc32 w h) (kind : RequestKind)
    (hpc : w.run.pc = .transfer kind) (hbound : h.requests.length < 2 ^ 32) {toSlave : CwFrame}
    {bits : Nat} (hrec : Link.Received crc32 w.stream.tx toSlave bits) {pc : WorkerPc}
    (hpc' : pc.unsent = false) :
    SlaveReplies crc32 pc (slave.process c crc32 toSlave bits).1
      { h with calls := h.calls ++ (slave.process c crc32 toSlave bits).2.toList } := by
  have hans := hs.answered
  rw [hpc] at hans
  have hext (call : Option EncodeCall) :
      ({ h with calls := h.calls ++ call.toList } : LinkHistory).Extends h :=
    ⟨List.prefix_refl _, List.prefix_append _ _⟩
  have hstay : ∀ call ∈ h.calls, call.seq.toNat + (if pc.unsent then 1 else 0) ≤
      h.requests.length := by
    intro call hcall
    have ha := hans call hcall
    rw [hpc']
    simp only [WorkerPc.unsent, if_true] at ha
    simp only [Bool.false_eq_true, if_false]
    omega
  rcases process_cases c crc32 slave toSlave bits with
    ⟨_, hanswer, hproc⟩ | ⟨_, hcached, _, _, hproc⟩ | ⟨hok, _, hcall, hserved⟩
  · -- a damaged request: the reply plays nothing
    generalize (slave.process c crc32 toSlave bits).1.tx = tx at hanswer hproc
    rw [hproc]
    simp only [Option.toList_none, List.append_nil]
    exact ⟨hanswer.valid, traced_of_playPart_none hanswer.play, hs.cachedValid, hs.cachedTraced,
      hs.once, hstay, hs.asked⟩
  · -- a repetition: the cached reply again
    rw [hproc]
    simp only [Option.toList_none, List.append_nil]
    exact ⟨hs.cachedValid hcached, hs.cachedTraced hcached, hs.cachedValid, hs.cachedTraced,
      hs.once, hstay, hs.asked⟩
  · -- the newest request arrived intact and is served
    simp only [Bool.and_eq_true] at hok
    have hsame := Received.eq_of_ok hrec hok.1 (requestHeader_bits hok.2)
    subst hsame
    obtain ⟨r, hlast, hbody⟩ := hreq.body (by rw [hpc]; rfl)
    have hmem : r ∈ h.requests := List.mem_of_getLast? hlast
    have hnum : r.seq.toNat = h.requests.length := by
      rw [List.getLast?_eq_getElem?] at hlast
      have hseq := hreq.numbered _ r hlast
      have hpos : 0 < h.requests.length := List.length_pos_of_mem hmem
      rw [hseq, UInt32.toNat_ofNat']
      omega
    rw [hcall]
    generalize hcl : requestCall c slave.encoder w.stream.tx = call at *
    have hids : ∀ x ∈ call, x.session = r.session ∧ x.seq = r.seq ∧ r.pcm = some x.pcm := by
      intro x hx
      unfold requestCall at hcl
      split at hcl
      · rename_i hplay
        subst hcl
        simp only [Option.mem_some_iff] at hx
        subst hx
        obtain ⟨pcm, hpcm⟩ := Option.isSome_iff_exists.mp (hbody.play.mp hplay)
        exact ⟨hbody.session, hbody.seq, by rw [hpcm, hbody.pcm pcm hpcm]⟩
      · subst hcl
        exact nomatch hx
    have htraced : Traced { h with calls := h.calls ++ call.toList }
        (slave.process c crc32 w.stream.tx bits).1.tx := by
      intro packet hplay
      rw [hserved.answers.play] at hplay
      obtain ⟨x, hx, hout⟩ := Option.bind_eq_some_iff.mp hplay
      obtain ⟨hxs, hxq, hxp⟩ := hids x hx
      unfold EncodeCall.output at hout
      split at hout
      · rename_i hzero
        refine ⟨r, hmem, hserved.answers.session.trans hbody.session,
          hserved.answers.seq.trans hbody.seq, x, ?_, hxs, hxq, hxp, hzero, by simpa using hout⟩
        exact List.mem_append_right _ (by rw [hx]; exact List.mem_singleton_self x)
      · exact nomatch hout
    refine ⟨hserved.answers.valid, htraced, ?_, ?_, ?_, ?_, ?_⟩
    · rw [hserved.cached]
      exact fun _ => hserved.answers.valid
    · rw [hserved.cached]
      exact fun _ => htraced
    · rw [List.pairwise_append]
      refine ⟨hs.once, by cases call <;> simp, ?_⟩
      intro a ha x hx
      have hxr := hids x (Option.mem_toList.mp hx)
      have hlt := hans a ha
      simp only [WorkerPc.unsent, if_true] at hlt
      rw [hxr.2.1, hnum]
      omega
    · intro x hx
      rcases List.mem_append.mp hx with hold | hnew
      · exact hstay x hold
      · rw [(hids x (Option.mem_toList.mp hnew)).2.1, hnum, hpc']
        exact Nat.le_refl _
    · intro x hx
      rcases List.mem_append.mp hx with hold | hnew
      · exact hs.asked x hold
      · obtain ⟨hxs, hxq, hxp⟩ := hids x (Option.mem_toList.mp hnew)
        exact ⟨r, hmem, hxs.symm, hxq.symm, hxp⟩

/-- `exchange` failed: nothing further is expected after a live request, and a handshake is
followed by another one. -/
theorem Pairing.failed {w : Worker} {slave slave' : Slave E D} {h h' : LinkHistory}
    (hp : Pairing crc32 w slave h) (kind : RequestKind) (hpc : w.run.pc = .transfer kind)
    (rx : CwFrame) (hs' : SlaveReplies crc32 .top slave' h') (hrequests : h'.requests = h.requests)
    (hext : h'.Extends h) (hpushes : h'.pushes = h.pushes) (hrearms : h'.rearms = h.rearms) :
    Pairing crc32 (w.failed kind rx) slave' h' := by
  obtain ⟨hreq, hexp, _, hu⟩ := hp
  have hpush : Pushes crc32 (w.failed kind rx) h' := by
    have htop : (w.failed kind rx).run.pc = .top := by cases kind <;> rfl
    refine ⟨?_, ?_, ?_, ?_, ?_⟩
    · rw [htop]
      exact fun _ hk => (nomatch hk)
    · rw [htop]
      exact fun _ hk => (hk.elim (nomatch ·) (nomatch ·))
    · rw [hpushes]
      exact fun r hr => (hu.paired r hr).mono hext
    · rw [htop, hpushes, hrequests]
      intro r hr
      have hb := hu.bound r hr
      rw [hpc] at hb
      exact Nat.le_of_succ_le hb
    · rw [hpushes]
      exact hu.ordered
  have hready := hreq.kind kind (by rw [hpc]; rfl)
  cases kind with
  | handshake =>
      refine ⟨⟨hrequests ▸ hreq.seq, hrequests ▸ hreq.numbered, fun _ hk => (nomatch hk),
        fun _ hk => (nomatch hk), fun hk => (nomatch hk), fun _ hk => (nomatch hk)⟩, ?_, hs', hpush⟩
      intro hprev
      obtain ⟨i, r, hget, hsession, hseq, hgen, hwhen⟩ := hexp hprev
      refine ⟨i, r, hrequests ▸ hget, hsession, hseq, hrearms ▸ hgen, .inl ?_⟩
      rcases hwhen with hnone | ⟨hlive, _⟩
      · exact hnone
      · rw [hready] at hlive
        exact absurd hlive (by decide)
  | live =>
      exact ⟨⟨hrequests ▸ hreq.seq, hrequests ▸ hreq.numbered, fun _ hk => (nomatch hk),
        fun _ hk => (nomatch hk), fun hk => (nomatch hk), fun _ hk => (nomatch hk)⟩,
        fun hprev => (nomatch hprev), hs', hpush⟩

/-- `exchange` succeeded: what arrived is traced, unless the checksum gives it away. -/
theorem Pairing.exchanged {w : Worker} {slave slave' : Slave E D} {h h' : LinkHistory}
    (hp : Pairing crc32 w slave h) (kind : RequestKind) (hpc : w.run.pc = .transfer kind)
    (rx : CwFrame) (now : Int) (hrec : Link.Received crc32 slave.tx rx (cwBytes * 8))
    (hs' : SlaveReplies crc32 (.accept kind) slave' h') (hrequests : h'.requests = h.requests)
    (hext : h'.Extends h) (hpushes : h'.pushes = h.pushes) (hrearms : h'.rearms = h.rearms) :
    Pairing crc32 (w.exchanged kind rx now) slave' h' := by
  obtain ⟨hreq, hexp, hs, hu⟩ := hp
  have hnewest := hreq.newest kind (by rw [hpc]; rfl)
  have hready := hreq.kind kind (by rw [hpc]; rfl)
  refine ⟨⟨hrequests ▸ hreq.seq, hrequests ▸ hreq.numbered, ?_, ?_, fun hk => (nomatch hk),
    fun _ hk => (nomatch hk)⟩, ?_, hs', ?_⟩
  · rintro k ⟨⟩
    rw [hrequests, hrearms]
    exact hnewest
  · rintro k ⟨⟩
    exact hready
  · intro hprev
    have he := hexp hprev
    rw [hpc] at he
    rw [hrequests, hrearms]
    exact he
  · refine ⟨?_, fun _ hk => (hk.elim (nomatch ·) (nomatch ·)), ?_, ?_, ?_⟩
    · intro _ _ hcrc
      have hsame : rx = slave.tx := Received.eq_of_ok hrec hcrc rfl
      change Traced h' rx
      rw [hsame]
      exact hs.traced.mono hext
    · rw [hpushes]
      exact fun r hr => (hu.paired r hr).mono hext
    · rw [hpushes, hrequests]
      have hb := hu.bound
      rw [hpc] at hb
      exact hb
    · rw [hpushes]
      exact hu.ordered

/-- A reply that passes `accept_response` and plays something pairs its packet with the request
before the newest. -/
theorem Pairing.accepted {w : Worker} {slave : Slave E D} {h : LinkHistory}
    (hp : Pairing crc32 w slave h) (kind : RequestKind) (hpc : w.run.pc = .accept kind)
    (hbound : h.requests.length < 2 ^ 32)
    (hacc : Worker.acceptable crc32 w.stream (w.replySession kind) = true)
    (hplay : w.stream.rx.byte 5 &&& cwPlay ≠ 0) :
    Paired h (w.record h.requests.length h.rearms) := by
  obtain ⟨hreq, hexp, _, hu⟩ := hp
  unfold Worker.acceptable at hacc
  simp only [Bool.and_eq_true, beq_iff_eq] at hacc
  obtain ⟨⟨⟨⟨hvalid, hhave⟩, hsession⟩, hseq⟩, _⟩ := hacc
  have htraced := hu.reply kind hpc (cwValid_crcOk hvalid) (playOut w.stream.rx)
    (by rw [playPart, if_pos hplay])
  obtain ⟨r, hmem, _, hrseq, call, hcall, hcs, hcq, hpcm, hzero, hpacket⟩ := htraced
  obtain ⟨i, p, hget, _, hpseq, hgen, hwhen⟩ := hexp hhave
  obtain ⟨j, hj⟩ := List.mem_iff_getElem?.mp hmem
  -- both were made under the same number, so they are the same request
  have hi : i < h.requests.length := (List.getElem?_eq_some_iff.mp hget).1
  have hjlt : j < h.requests.length := (List.getElem?_eq_some_iff.mp hj).1
  have hnum : UInt32.ofNat (i + 1) = UInt32.ofNat (j + 1) := by
    rw [← hreq.numbered i p hget, ← hreq.numbered j r hj, hpseq, ← hseq, hrseq]
  have hij : i = j := by
    have hnat := congrArg UInt32.toNat hnum
    rw [UInt32.toNat_ofNat', UInt32.toNat_ofNat'] at hnat
    omega
  subst hij
  rw [hget] at hj
  simp only [Option.some.injEq] at hj
  subst hj
  rcases hwhen with hnone | ⟨_, hlen⟩
  · rw [hnone] at hpcm
    cases hpcm
  · rw [hpc] at hlen
    simp only [WorkerPc.request, Option.isSome_some, if_true] at hlen
    obtain ⟨q, hq, _, hqgen, _⟩ := hreq.newest kind (by rw [hpc]; rfl)
    rw [List.getLast?_eq_getElem?] at hq
    refine ⟨i, p, hlen.symm, hget, hgen, ⟨q, ?_, hqgen⟩, call, hcall, hcs, hcq, hpcm, hzero,
      hpacket⟩
    rw [show i + 1 = h.requests.length - 1 by omega]
    exact hq

theorem Pairing.accept {w : Worker} {slave : Slave E D} {h : LinkHistory}
    (hp : Pairing crc32 w slave h) (kind : RequestKind) (hpc : w.run.pc = .accept kind)
    (hbound : h.requests.length < 2 ^ 32) : Pairing crc32 (w.accept crc32 kind) slave h := by
  have hpaired := hp.accepted kind hpc hbound
  obtain ⟨hreq, hexp, hs, hu⟩ := hp
  have hnewest := hreq.newest kind (by rw [hpc]; rfl)
  have hready := hreq.kind kind (by rw [hpc]; rfl)
  have hb := hu.bound
  unfold Expected at hexp
  rw [hpc] at hexp hs hb
  unfold Worker.accept
  simp only
  split
  · rename_i hgo
    simp only [Bool.and_eq_true, bne_iff_ne] at hgo
    refine ⟨⟨hreq.seq, hreq.numbered, ?_, ?_, fun hk => (nomatch hk), fun _ hk => (nomatch hk)⟩,
      hexp, ⟨hs.valid, hs.traced, hs.cachedValid, hs.cachedTraced, hs.once, hs.answered, hs.asked⟩,
      ⟨fun _ hk => (nomatch hk), fun _ _ => hpaired hgo.1.1 hgo.1.2, hu.paired, hb, hu.ordered⟩⟩
    · rintro k ⟨⟩
      exact hnewest
    · rintro k ⟨⟩
      exact hready
  · refine ⟨⟨hreq.seq, hreq.numbered, ?_, ?_, fun hk => (nomatch hk), fun _ hk => (nomatch hk)⟩,
      hexp, ⟨hs.valid, hs.traced, hs.cachedValid, hs.cachedTraced, hs.once, hs.answered, hs.asked⟩,
      ⟨fun _ hk => (nomatch hk), fun _ hk => (hk.elim (nomatch ·) (nomatch ·)), hu.paired, ?_,
        hu.ordered⟩⟩
    · rintro k ⟨⟩
      exact hnewest
    · rintro k ⟨⟩
      exact hready
    · exact fun r hr => Nat.le_of_succ_le (hb r hr)

theorem Pairing.pushCopy {w : Worker} {slave : Slave E D} {h : LinkHistory}
    (hp : Pairing crc32 w slave h) (kind : RequestKind) (hpc : w.run.pc = .pushCopy kind)
    (r : Record) : Pairing crc32 (w.pushCopy kind r) slave h := by
  obtain ⟨hreq, hexp, hs, hu⟩ := hp
  have hnewest := hreq.newest kind (by rw [hpc]; rfl)
  have hready := hreq.kind kind (by rw [hpc]; rfl)
  have hpushing := hu.pushing kind (.inl hpc)
  have hb := hu.bound
  unfold Expected at hexp
  rw [hpc] at hexp hs hb
  refine ⟨⟨hreq.seq, hreq.numbered, ?_, ?_, fun hk => (nomatch hk), fun _ hk => (nomatch hk)⟩,
    hexp, ⟨hs.valid, hs.traced, hs.cachedValid, hs.cachedTraced, hs.once, hs.answered, hs.asked⟩,
    ⟨fun _ hk => (nomatch hk), fun _ _ => hpushing, hu.paired, hb, hu.ordered⟩⟩
  · rintro k ⟨⟩
    exact hnewest
  · rintro k ⟨⟩
    exact hready

theorem Pairing.pushStore {w : Worker} {slave : Slave E D} {h : LinkHistory}
    (hp : Pairing crc32 w slave h) (kind : RequestKind) (hpc : w.run.pc = .pushStore kind) :
    Pairing crc32 (w.pushStore kind) slave
      { h with pushes := h.pushes ++ [w.record h.requests.length h.rearms] } := by
  obtain ⟨hreq, hexp, hs, hu⟩ := hp
  have hnewest := hreq.newest kind (by rw [hpc]; rfl)
  have hready := hreq.kind kind (by rw [hpc]; rfl)
  have hpushing := hu.pushing kind (.inr hpc)
  have hb := hu.bound
  unfold Expected at hexp
  rw [hpc] at hexp hs hb
  have hext : ({ h with pushes := h.pushes ++ [w.record h.requests.length h.rearms] } :
      LinkHistory).Extends h := ⟨List.prefix_refl _, List.prefix_refl _⟩
  refine ⟨⟨hreq.seq, hreq.numbered, ?_, ?_, fun hk => (nomatch hk), fun _ hk => (nomatch hk)⟩,
    hexp, ⟨hs.valid, hs.traced.mono hext, hs.cachedValid, fun hc => (hs.cachedTraced hc).mono hext,
      hs.once, hs.answered, hs.asked⟩, ⟨fun _ hk => (nomatch hk),
      fun _ hk => (hk.elim (nomatch ·) (nomatch ·)), ?_, ?_, ?_⟩⟩
  · rintro k ⟨⟩
    exact hnewest
  · rintro k ⟨⟩
    exact hready
  · intro r hr
    rcases List.mem_append.mp hr with hold | hnew
    · exact (hu.paired r hold).mono hext
    · rw [List.mem_singleton.mp hnew]
      exact hpushing.mono hext
  · intro r hr
    rcases List.mem_append.mp hr with hold | hnew
    · exact Nat.le_of_succ_le (hb r hold)
    · rw [List.mem_singleton.mp hnew]
      exact Nat.le_refl _
  · rw [List.pairwise_append]
    refine ⟨hu.ordered, List.pairwise_singleton _ _, ?_⟩
    intro a ha r hr
    rw [List.mem_singleton.mp hr]
    exact hb a ha

theorem Pairing.finish {w : Worker} {slave : Slave E D} {h : LinkHistory}
    (hp : Pairing crc32 w slave h) (kind : RequestKind) (accepted : Bool)
    (hpc : w.run.pc = .finish kind accepted) :
    Pairing crc32 (w.finish kind accepted) slave h := by
  obtain ⟨hreq, hexp, hs, hu⟩ := hp
  obtain ⟨r, hlast, hsession, hgen, hhand⟩ := hreq.newest kind (by rw [hpc]; rfl)
  have hready := hreq.kind kind (by rw [hpc]; rfl)
  have hpos : 0 < h.requests.length := List.length_pos_of_mem (List.mem_of_getLast? hlast)
  rw [List.getLast?_eq_getElem?] at hlast
  have hb := hu.bound
  rw [hpc] at hs hb
  refine ⟨⟨hreq.seq, hreq.numbered, fun _ hk => (nomatch hk), fun _ hk => (nomatch hk),
    fun hk => (nomatch hk), fun _ hk => (nomatch hk)⟩, ?_,
    ⟨hs.valid, hs.traced, hs.cachedValid, hs.cachedTraced, hs.once, hs.answered, hs.asked⟩,
    ⟨fun _ hk => (nomatch hk), fun _ hk => (hk.elim (nomatch ·) (nomatch ·)), hu.paired, hb,
      hu.ordered⟩⟩
  intro _
  refine ⟨h.requests.length - 1, r, hlast, hsession, ?_, hgen, ?_⟩
  · rw [hreq.numbered _ r hlast]
    change _ = w.run.seq
    rw [hreq.seq, Nat.sub_add_cancel hpos]
  · cases kind with
    | handshake => exact .inl (hhand rfl)
    | live =>
        refine .inr ⟨?_, ?_⟩
        · change (w.stream.ready || _) = true
          rw [hready]
          rfl
        · change h.requests.length - 1 + 1 = h.requests.length
          exact Nat.sub_add_cancel hpos

end UllReceiver.Bridge
