import UllReceiver.Bridge.Pairing
import UllReceiver.Bridge.Barrier

/-! Pairing over every run of the codec bridge with fewer than 2^32 requests. -/

namespace UllReceiver.Bridge

open Audio Library

variable {E D : Type} {c : Codecs E D} {crc32 : List UInt8 → UInt32}

/-- Everyone else's writes leave what the pairing depends on alone. -/
theorem Pairing.frame {w w' : Worker} {slave : Slave E D} {h : LinkHistory}
    (hp : Pairing crc32 w slave h) (hrun : w'.run = w.run) (htx : w'.stream.tx = w.stream.tx)
    (hrx : w'.stream.rx = w.stream.rx) (hready : w'.stream.ready = w.stream.ready)
    (hhave : w'.stream.havePrevious = w.stream.havePrevious)
    (hsession : w'.stream.previousSession = w.stream.previousSession)
    (hprevious : w'.stream.previousSeq = w.stream.previousSeq) : Pairing crc32 w' slave h := by
  obtain ⟨⟨hseq, hnum, hnewest, hkind, hbody, hsealed⟩, hexp, hs, hreply, hpushing, hpaired,
    hbound, hordered⟩ := hp
  have hrecord (n g : Nat) : w'.record n g = w.record n g := by
    simp only [Worker.record, hrx]
  refine ⟨⟨?_, hnum, ?_, ?_, ?_, ?_⟩, ?_, ?_, ?_, ?_, ?_, ?_, ?_⟩
  · rw [hrun]; exact hseq
  · rw [hrun]; exact hnewest
  · rw [hrun, hready]; exact hkind
  · rw [hrun, htx]; exact hbody
  · rw [hrun, htx]; exact hsealed
  · unfold Expected
    rw [hrun, hready, hhave, hsession, hprevious]
    exact hexp
  · rw [hrun]; exact hs
  · rw [hrun, hrx]; exact hreply
  · rw [hrun, hrecord]; exact hpushing
  · exact hpaired
  · rw [hrun]; exact hbound
  · exact hordered

theorem pairing_worker {b b' : Link E D} {input : PlaybackInput}
    (hp : Pairing crc32 b.worker b.slave b.history)
    (hbound : b.history.requests.length < 2 ^ 32) (hm : WorkerMove crc32 b input b') :
    Pairing crc32 b'.worker b'.slave b'.history := by
  cases hm with
  | park hpc _ => exact hp.aside (by rw [hpc]; rfl) rfl rfl rfl (fun hf => nomatch hf) rfl rfl
  | enter hpc _ => exact hp.aside (by rw [hpc]; rfl) rfl rfl rfl id rfl rfl
  | acknowledge hpc => exact hp.aside (by rw [hpc]; rfl) rfl rfl rfl id rfl rfl
  | wait _ _ => exact hp
  | leave hpc _ => exact hp.aside (by rw [hpc]; rfl) rfl rfl rfl id rfl rfl
  | depart hpc => exact hp.aside (by rw [hpc]; rfl) rfl rfl rfl id rfl rfl
  | handshake hpc hready =>
      have hbody := (begin_body b.worker.session (b.worker.run.seq + 1) 0 b.history.rearms
        (by decide) (by decide) (by decide)).seal crc32
      exact hp.request (by rw [hpc]; rfl) .handshake none (.inr ⟨rfl, rfl⟩) rfl rfl hready rfl rfl
        rfl hbody (fun _ => cwSeal_crcOk crc32 _) (fun _ => rfl)
  | idle hpc _ _ => exact hp.aside (by rw [hpc]; rfl) rfl rfl rfl id rfl rfl
  | live hpc hready _ hfill =>
      obtain ⟨hseq, hrd, hhave, hsession, hprevious, hbody⟩ :=
        live_begin b.worker input b.history.rearms hfill
      exact hp.request (by rw [hpc]; rfl) .live _ (.inl ⟨hfill, rfl⟩) hseq hrd hready hhave hsession
        hprevious hbody (fun hk => nomatch hk) (fun hk => nomatch hk)
  | pass hpc _ _ hfill =>
      obtain ⟨htop, hseq, hrd, hhave, hsession, hprevious⟩ := live_pass b.worker input hfill
      exact hp.aside (by rw [hpc]; rfl) (by rw [htop]; rfl) hseq hrd (fun hf => hhave ▸ hf) hsession
        hprevious
  | fill hpc => exact hp.fill hpc
  | accept kind hpc => exact hp.accept kind hpc hbound
  | pushCopy kind hpc => exact hp.pushCopy kind hpc _
  | pushStore kind hpc => exact hp.pushStore kind hpc
  | finish kind accepted hpc => exact hp.finish kind accepted hpc

theorem pairing_transfer {b b' : Link E D} (hp : Pairing crc32 b.worker b.slave b.history)
    (hbound : b.history.requests.length < 2 ^ 32) (hm : TransferMove c crc32 b b') :
    Pairing crc32 b'.worker b'.slave b'.history := by
  cases hm with
  | missed kind hpc =>
      have hs := hp.slave
      have ha := hs.answered
      rw [hpc] at ha
      exact hp.failed kind hpc _ ⟨hs.valid, hs.traced, hs.cachedValid, hs.cachedTraced, hs.once,
        fun call hcall => Nat.le_of_succ_le (ha call hcall), hs.asked⟩ rfl b.history.extends_refl
        rfl rfl
  | crossed kind hpc now reported toSlave bits toWorker hslave hworker =>
      have hext : ({ b.history with calls := b.history.calls ++
          (b.slave.process c crc32 toSlave bits).2.toList } : LinkHistory).Extends b.history :=
        ⟨List.prefix_refl _, List.prefix_append _ _⟩
      cases reported with
      | true =>
          exact hp.exchanged kind hpc toWorker now hworker
            (hp.slave.process hp.requests kind hpc hbound hslave rfl) rfl hext rfl rfl
      | false =>
          exact hp.failed kind hpc toWorker
            (hp.slave.process hp.requests kind hpc hbound hslave rfl) rfl hext rfl rfl

/-- A rearm ends while the worker is between requests and expects no reply. -/
theorem Pairing.rearmed {w : Worker} {slave : Slave E D} {h : LinkHistory}
    (hp : Pairing crc32 w slave h) (hquiet : w.run.pc.quiet = true)
    (hhave : w.stream.havePrevious = false) :
    Pairing crc32 w slave { h with rearms := h.rearms + 1 } := by
  have hpc : w.run.pc.request = none ∧ ∀ kind, ¬ (w.run.pc = .pushCopy kind ∨
      w.run.pc = .pushStore kind) := by
    cases hw : w.run.pc <;> simp_all [WorkerPc.quiet, WorkerPc.request]
  have hext : ({ h with rearms := h.rearms + 1 } : LinkHistory).Extends h :=
    ⟨List.prefix_refl _, List.prefix_refl _⟩
  obtain ⟨hreq, _, hs, hu⟩ := hp
  refine ⟨⟨hreq.seq, hreq.numbered, ?_, hreq.kind, hreq.body, hreq.sealed⟩, ?_,
    ⟨hs.valid, hs.traced.mono hext, hs.cachedValid, fun hc => (hs.cachedTraced hc).mono hext,
      hs.once, hs.answered, hs.asked⟩,
    ⟨fun k hk hcrc => (hu.reply k hk hcrc).mono hext, fun k hk => absurd hk (hpc.2 k),
      fun r hr => (hu.paired r hr).mono hext, hu.bound, hu.ordered⟩⟩
  · rw [hpc.1]
    exact fun _ hk => (by cases hk)
  · intro hprev
    rw [hhave] at hprev
    cases hprev

theorem pairing_coordinator {b b' : Link E D} (hb : Barrier b.worker b.coordinator)
    (hp : Pairing crc32 b.worker b.slave b.history) (hm : CoordinatorMove b b') :
    Pairing crc32 b'.worker b'.slave b'.history := by
  cases hm with
  | refused _ => exact hp
  | clear _ => exact hp
  | hold _ => exact hp.frame rfl rfl rfl rfl rfl rfl rfl
  | found _ _ => exact hp
  | loadWritten _ => exact hp
  | loadRead _ _ => exact hp
  | discard _ _ _ => exact hp.frame rfl rfl rfl rfl rfl rfl rfl
  | store _ _ => exact hp.frame rfl rfl rfl rfl rfl rfl rfl
  | rearmed hk =>
      have hc : b.coordinator.checked = true := by rw [hk]; rfl
      exact (hp.rearmed (hb.quiet hc) (hb.dropped (.inr hc))).frame rfl rfl rfl rfl rfl rfl rfl

theorem pairing_outside {b b' : Link E D} (hp : Pairing crc32 b.worker b.slave b.history)
    (hm : OutsideMove b b') : Pairing crc32 b'.worker b'.slave b'.history := by
  cases hm with
  | coordinator _ _ => exact hp
  | resume _ => exact hp.frame rfl rfl rfl rfl rfl rfl rfl
  | select _ _ _ => exact hp.frame rfl rfl rfl rfl rfl rfl rfl
  | outside _ _ _ _ => exact hp.frame rfl rfl rfl rfl rfl rfl rfl

theorem requests_extend {b b' : Link E D} {a : LinkAction} (hs : Link.Step c crc32 b a b') :
    b.history.requests <+: b'.history.requests := by
  rcases step_move hs with ⟨input, _, hm⟩ | hm | hm | hm
  · cases hm <;> first | exact List.prefix_refl _ | exact List.prefix_append _ _
  · cases hm <;> exact List.prefix_refl _
  · cases hm <;> exact List.prefix_refl _
  · cases hm <;> exact List.prefix_refl _

/-- What holds of the bridge as long as request numbers have not come round again. -/
structure Link.Sound (crc32 : List UInt8 → UInt32) (b : Link E D) : Prop where
  barrier : Barrier b.worker b.coordinator
  pairing : b.history.requests.length < 2 ^ 32 → Pairing crc32 b.worker b.slave b.history

theorem sound_step {b b' : Link E D} {a : LinkAction} (h : b.Sound crc32)
    (hs : Link.Step c crc32 b a b') : b'.Sound crc32 := by
  refine ⟨barrier_step h.barrier hs, fun hbound' => ?_⟩
  have hbound : b.history.requests.length < 2 ^ 32 :=
    Nat.lt_of_le_of_lt (requests_extend hs).length_le hbound'
  have hp := h.pairing hbound
  rcases step_move hs with ⟨input, _, hm⟩ | hm | hm | hm
  · exact pairing_worker hp hbound hm
  · exact pairing_transfer hp hbound hm
  · exact pairing_coordinator h.barrier hp hm
  · exact pairing_outside hp hm

theorem sound_run {base : UInt32} {packets : Fin 16 → MicPacket} {encoder : E} {decoder : D}
    {rx : CwFrame} {trace : List LinkAction} {b : Link E D}
    (hrun : Run (Link.Step c crc32) (Link.init crc32 base packets encoder decoder rx) trace b) :
    b.Sound crc32 :=
  hrun.invariant (Link.Sound crc32)
    ⟨barrier_init crc32 base packets encoder decoder rx, fun _ => pairing_init base packets encoder
      decoder rx⟩ fun _ _ _ h hs => sound_step h hs

/-- The codec pipeline over every run with fewer than 2^32 requests.  A pushed record names the
number of requests made when it was pushed, so request `r.request - 2` is the one before that. -/
theorem codecPipeline_paired {base : UInt32} {packets : Fin 16 → MicPacket} {encoder : E}
    {decoder : D} {rx : CwFrame} {trace : List LinkAction} {b : Link E D}
    (hrun : Run (Link.Step c crc32) (Link.init crc32 base packets encoder decoder rx) trace b)
    (hbound : b.history.requests.length < 2 ^ 32) :
    (∀ r ∈ b.history.pushes, ∃ before p, r.request = before + 2 ∧
      b.history.requests[before]? = some p ∧
      ∃ call ∈ b.history.calls, call.session = p.session ∧ call.seq = p.seq ∧
        p.pcm = some call.pcm ∧ call.result = 0 ∧ call.packet = r.packet) ∧
    b.history.pushes.Pairwise (fun r r' => r.request < r'.request) ∧
    (∀ call ∈ b.history.calls, ∃ p ∈ b.history.requests,
      p.session = call.session ∧ p.seq = call.seq ∧ p.pcm = some call.pcm) ∧
    b.history.calls.Pairwise (fun call call' => call.seq ≠ call'.seq) ∧
    (∀ i p, b.history.requests[i]? = some p → p.seq.toNat = i + 1) ∧
    cwValid crc32 b.slave.tx cwResponse = true ∧
    (∀ kind, b.worker.run.pc = .transfer kind →
      (cwCrcOk crc32 b.worker.stream.tx &&
        requestHeader b.worker.stream.tx (cwBytes * 8)) = true) := by
  obtain ⟨hreq, _, hs, hu⟩ := (sound_run hrun).pairing hbound
  refine ⟨?_, hu.ordered, hs.asked, ?_, ?_, hs.valid, ?_⟩
  · intro r hr
    obtain ⟨before, p, hrequest, hget, _, _, hcall⟩ := hu.paired r hr
    exact ⟨before, p, hrequest, hget, hcall⟩
  · exact hs.once.imp fun hlt heq => by
      rw [heq] at hlt
      exact Nat.lt_irrefl _ hlt
  · intro i p hget
    have hi := (List.getElem?_eq_some_iff.mp hget).1
    rw [hreq.numbered i p hget, UInt32.toNat_ofNat']
    omega
  · intro kind hpc
    obtain ⟨r, _, hbody⟩ := hreq.body (by rw [hpc]; rfl)
    rw [hreq.sealed kind hpc, hbody.header]
    rfl

/-- Codecs that do nothing, for small runs. -/
def silentCodecs : Codecs Unit Unit where
  encode := fun _ _ => (0, Vector.replicate 190 0, ())
  reset := fun _ => (0, ())
  decode := fun _ _ out => (0, out, ())

def quietInput : PlaybackInput where
  mounted := false
  playbackActive := false
  playbackBufferedFrames := 0
  now := 0
  pcm := Vector.replicate 480 0

def noPackets : Fin 16 → MicPacket :=
  fun _ => { frame := 0, epoch := 0, atUs := 0, seq := 0, payload := Vector.replicate 40 0 }

end UllReceiver.Bridge
