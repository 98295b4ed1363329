import UllReceiver.Bridge.Rounds

/-!
# No audio crosses a reconnect

Every record in the audio source was pushed since the last completed rearm, and so was the request
its packet was encoded for.
-/

namespace UllReceiver.Bridge

open Audio Library

variable {E D : Type} {c : Codecs E D} {crc32 : List UInt8 → UInt32}

/-- The record was pushed since the last rearm. -/
def Fresh (h : LinkHistory) (r : Record) : Prop :=
  r ∈ h.pushes ∧ r.generation = h.rearms

/-- The source as a playout queue of fresh records. -/
def Holds (s : AudioSource Record) (h : LinkHistory) : Prop :=
  ∃ p, Represents s p ∧ (∀ r ∈ p.queue, Fresh h r) ∧
    ∀ event r, (event, some r) ∈ p.answers → Fresh h r

/-- The write index a rearm has loaded. -/
def CoordinatorPc.written : CoordinatorPc → Option UInt32
  | .rearmRead written | .rearmDiscard written _ | .rearmStore written => some written
  | _ => none

structure SourceFresh (b : Link E D) : Prop where
  holds : Holds b.worker.stream.source b.history
  loaded : ∀ written, b.coordinator.written = some written →
    written = b.worker.stream.source.written
  drained : b.coordinator = .rearmClear → b.worker.stream.source.frames = []
  room : ∀ kind, b.worker.run.pc = .pushCopy kind ∨ b.worker.run.pc = .pushStore kind →
    b.worker.run.pushAt = b.worker.stream.source.written ∧
      b.worker.stream.source.frames.length < 4
  copied : ∀ kind, b.worker.run.pc = .pushStore kind →
    b.worker.stream.source.queue (queueSlot b.worker.stream.source.written) =
      b.worker.record b.history.requests.length b.history.rearms

theorem sourceFresh_init (base : UInt32) (packets : Fin 16 → MicPacket) (encoder : E)
    (decoder : D) (rx : CwFrame) :
    SourceFresh (Link.init crc32 base packets encoder decoder rx) where
  holds := ⟨.empty, represents_init, by simp [Playout.empty], by simp [Playout.empty]⟩
  loaded := fun _ hw => nomatch hw
  drained := fun hk => nomatch hk
  room := fun _ hk => hk.elim (nomatch ·) (nomatch ·)
  copied := fun _ hk => nomatch hk

/-- The worker and the slave go on without touching the source. -/
theorem SourceFresh.untouched {b b' : Link E D} (hf : SourceFresh b)
    (hsource : b'.worker.stream.source = b.worker.stream.source)
    (hk : b'.coordinator = b.coordinator) (hpushes : b'.history.pushes = b.history.pushes)
    (hrearms : b'.history.rearms = b.history.rearms)
    (hpc : ∀ kind, ¬ (b'.worker.run.pc = .pushCopy kind ∨ b'.worker.run.pc = .pushStore kind)) :
    SourceFresh b' := by
  obtain ⟨⟨p, hrep, hqueue, hanswers⟩, hloaded, hdrained, _, _⟩ := hf
  refine ⟨⟨p, hsource ▸ hrep, ?_, ?_⟩, ?_, ?_, fun k hp => absurd hp (hpc k),
    fun k hp => absurd (.inr hp) (hpc k)⟩
  · unfold Fresh
    rw [hpushes, hrearms]
    exact hqueue
  · unfold Fresh
    rw [hpushes, hrearms]
    exact hanswers
  · rw [hk, hsource]
    exact hloaded
  · rw [hk, hsource]
    exact hdrained

theorem live_source (w : Worker) (input : PlaybackInput) :
    (w.live input).stream.source = w.stream.source := by
  unfold Worker.live
  simp only
  split <;> rfl

variable (crc32) in
theorem accept_source (w : Worker) (kind : RequestKind) :
    (w.accept crc32 kind).stream = w.stream ∧
      ((w.accept crc32 kind).run.pc = .pushCopy kind ∧
          (w.accept crc32 kind).run.pushAt = w.stream.source.written ∧
          w.stream.source.frames.length < 4 ∨
        ∃ accepted, (w.accept crc32 kind).run.pc = .finish kind accepted) := by
  unfold Worker.accept
  simp only
  split
  · rename_i hgo
    simp only [Bool.and_eq_true, decide_eq_true_eq] at hgo
    refine ⟨rfl, .inl ⟨rfl, rfl, ?_⟩⟩
    rw [frames_length]
    exact UInt32.lt_iff_toNat_lt.mp hgo.2
  · exact ⟨rfl, .inr ⟨_, rfl⟩⟩

/-- A worker using the source has no checked rearm beside it. -/
theorem Barrier.not_checked {w : Worker} {k : CoordinatorPc} (hb : Barrier w k)
    (hpc : w.run.pc.quiet = false) : k.checked = false := by
  rw [← Bool.not_eq_true]
  intro hk
  rw [hb.quiet hk] at hpc
  exact Bool.noConfusion hpc

theorem loaded_of_not_checked {k : CoordinatorPc} (h : k.checked = false) :
    k.written = none ∧ k ≠ .rearmClear := by
  cases k <;> first
    | exact ⟨rfl, CoordinatorPc.noConfusion⟩
    | exact (nomatch h)

theorem sourceFresh_worker {b b' : Link E D} {input : PlaybackInput}
    (hb : Barrier b.worker b.coordinator) (hf : SourceFresh b)
    (hm : WorkerMove crc32 b input b') : SourceFresh b' := by
  cases hm with
  | park _ _ => exact hf.untouched rfl rfl rfl rfl fun _ hk => hk.elim (nomatch ·) (nomatch ·)
  | enter _ _ => exact hf.untouched rfl rfl rfl rfl fun _ hk => hk.elim (nomatch ·) (nomatch ·)
  | acknowledge _ => exact hf.untouched rfl rfl rfl rfl fun _ hk => hk.elim (nomatch ·) (nomatch ·)
  | wait _ _ => exact hf
  | leave _ _ => exact hf.untouched rfl rfl rfl rfl fun _ hk => hk.elim (nomatch ·) (nomatch ·)
  | depart _ => exact hf.untouched rfl rfl rfl rfl fun _ hk => hk.elim (nomatch ·) (nomatch ·)
  | handshake _ _ =>
      exact hf.untouched rfl rfl rfl rfl fun _ hk => hk.elim (nomatch ·) (nomatch ·)
  | idle _ _ _ => exact hf.untouched rfl rfl rfl rfl fun _ hk => hk.elim (nomatch ·) (nomatch ·)
  | live _ _ _ hfill =>
      refine hf.untouched (live_source b.worker input) rfl rfl rfl fun _ hk => ?_
      change (b.worker.live input).run.pc = _ ∨ (b.worker.live input).run.pc = _ at hk
      rw [hfill] at hk
      exact hk.elim (nomatch ·) (nomatch ·)
  | pass _ _ _ hfill =>
      have htop := (live_pass b.worker input hfill).1
      refine hf.untouched (live_source b.worker input) rfl rfl rfl fun _ hk => ?_
      change (b.worker.live input).run.pc = _ ∨ (b.worker.live input).run.pc = _ at hk
      rw [htop] at hk
      exact hk.elim (nomatch ·) (nomatch ·)
  | fill _ =>
      obtain ⟨_, _, _, _, _, hfill⟩ := fill_same crc32 b.worker
      rw [hfill]
      exact hf.untouched rfl rfl rfl rfl fun _ hk => hk.elim (nomatch ·) (nomatch ·)
  | accept kind hpc =>
      obtain ⟨hstream, hnext⟩ := accept_source crc32 b.worker kind
      rcases hnext with ⟨hpc', hat, hroom⟩ | ⟨accepted, hpc'⟩
      · obtain ⟨hholds, hloaded, hdrained, _, _⟩ := hf
        refine ⟨?_, ?_, ?_, fun _ _ => ⟨?_, ?_⟩, fun k hk => ?_⟩
        · exact hstream ▸ hholds
        · exact hstream ▸ hloaded
        · exact hstream ▸ hdrained
        · exact hat.trans (by rw [hstream])
        · change (b.worker.accept crc32 kind).stream.source.frames.length < 4
          rw [hstream]
          exact hroom
        · change (b.worker.accept crc32 kind).run.pc = _ at hk
          rw [hpc'] at hk
          exact nomatch hk
      · refine hf.untouched (congrArg PcmStream.source hstream) rfl rfl rfl fun _ hk => ?_
        change (b.worker.accept crc32 kind).run.pc = _ ∨ (b.worker.accept crc32 kind).run.pc = _ at hk
        rw [hpc'] at hk
        exact hk.elim (nomatch ·) (nomatch ·)
  | pushCopy kind hpc =>
      obtain ⟨hnone, hclear⟩ := loaded_of_not_checked (hb.not_checked (by rw [hpc]; rfl))
      obtain ⟨⟨p, hrep, hqueue, hanswers⟩, _, _, hroom, _⟩ := hf
      obtain ⟨hat, hlen⟩ := hroom kind (.inl hpc)
      have hcopy := hrep.copy (b.worker.record b.history.requests.length b.history.rearms) hlen
      have hframes := hcopy.queue.trans hrep.queue.symm
      have hsame (r : Record) : (b.worker.pushCopy kind r).stream.source =
          { b.worker.stream.source with
            queue := Function.update b.worker.stream.source.queue
              (queueSlot b.worker.stream.source.written) r } := by
        unfold Worker.pushCopy
        rw [hat]
      rw [← hsame] at hcopy hframes
      refine ⟨⟨p, hcopy, hqueue, hanswers⟩, ?_, fun hk => absurd hk hclear, ?_, ?_⟩
      · rw [hnone]
        exact fun _ hw => nomatch hw
      · intro _ _
        refine ⟨hat, ?_⟩
        rw [hframes]
        exact hlen
      · intro _ _
        change Function.update b.worker.stream.source.queue (queueSlot b.worker.run.pushAt) _
          (queueSlot b.worker.stream.source.written) = _
        rw [hat, Function.update_self]
        rfl
  | pushStore kind hpc =>
      obtain ⟨hnone, hclear⟩ := loaded_of_not_checked (hb.not_checked (by rw [hpc]; rfl))
      obtain ⟨⟨p, hrep, hqueue, hanswers⟩, _, _, hroom, hcopied⟩ := hf
      obtain ⟨hat, hlen⟩ := hroom kind (.inr hpc)
      have hpublish := hrep.publish hlen (hcopied kind hpc)
      rw [← hat] at hpublish
      have hold (r : Record) (hr : Fresh b.history r) : Fresh
          { b.history with pushes := b.history.pushes ++
            [b.worker.record b.history.requests.length b.history.rearms] } r :=
        ⟨List.mem_append_left _ hr.1, hr.2⟩
      refine ⟨⟨_, hpublish, ?_, fun e r hr => hold r (hanswers e r hr)⟩, ?_,
        fun hk => absurd hk hclear, fun _ hk => hk.elim (nomatch ·) (nomatch ·),
        fun _ hk => (nomatch hk)⟩
      · intro r hr
        rcases List.mem_append.mp hr with hr | hr
        · exact hold r (hqueue r hr)
        · rw [List.mem_singleton.mp hr]
          exact ⟨List.mem_append_right _ (List.mem_singleton_self _), rfl⟩
      · rw [hnone]
        exact fun _ hw => nomatch hw
  | finish _ _ _ => exact hf.untouched rfl rfl rfl rfl fun _ hk => hk.elim (nomatch ·) (nomatch ·)

theorem sourceFresh_transfer {b b' : Link E D} (hf : SourceFresh b)
    (hm : TransferMove c crc32 b b') : SourceFresh b' := by
  have hfailed (kind : RequestKind) (rx : CwFrame) :
      (b.worker.failed kind rx).stream.source = b.worker.stream.source ∧
        (b.worker.failed kind rx).run.pc = .top := by
    cases kind <;> exact ⟨rfl, rfl⟩
  cases hm with
  | missed kind _ =>
      obtain ⟨hsource, hpc⟩ := hfailed kind b.worker.stream.rx
      refine hf.untouched hsource rfl rfl rfl fun _ hk => ?_
      rw [hpc] at hk
      exact hk.elim (nomatch ·) (nomatch ·)
  | crossed kind _ _ reported _ _ toWorker _ _ =>
      cases reported with
      | true => exact hf.untouched rfl rfl rfl rfl fun _ hk => hk.elim (nomatch ·) (nomatch ·)
      | false =>
          obtain ⟨hsource, hpc⟩ := hfailed kind toWorker
          refine hf.untouched hsource rfl rfl rfl fun _ hk => ?_
          simp only [Bool.false_eq_true, if_false, hpc] at hk
          exact hk.elim (nomatch ·) (nomatch ·)

/-- The coordinator moves on without touching the source. -/
theorem SourceFresh.coordinator {b : Link E D} (hf : SourceFresh b) (k : CoordinatorPc)
    (hloaded : ∀ written, k.written = some written → written = b.worker.stream.source.written)
    (hclear : k ≠ .rearmClear) : SourceFresh { b with coordinator := k } :=
  ⟨hf.holds, hloaded, fun hk => absurd hk hclear, hf.room, hf.copied⟩

theorem sourceFresh_coordinator {b b' : Link E D} (hb : Barrier b.worker b.coordinator)
    (hf : SourceFresh b) (hm : CoordinatorMove b b') : SourceFresh b' := by
  have hidle (hc : b.coordinator.checked = true) (kind : RequestKind) :
      ¬ (b.worker.run.pc = .pushCopy kind ∨ b.worker.run.pc = .pushStore kind) := by
    have hq := hb.quiet hc
    rintro (hp | hp) <;> rw [hp] at hq <;> exact Bool.noConfusion hq
  cases hm with
  | refused _ => exact hf.coordinator .idle (fun _ hw => nomatch hw) (fun hk => nomatch hk)
  | clear _ => exact hf.coordinator .pauseStore (fun _ hw => nomatch hw) (fun hk => nomatch hk)
  | hold _ => exact ⟨hf.holds, fun _ hw => (nomatch hw), fun hk => (nomatch hk), hf.room, hf.copied⟩
  | found _ _ => exact hf.coordinator .rearmWritten (fun _ hw => nomatch hw) (fun hk => nomatch hk)
  | loadWritten _ =>
      refine hf.coordinator (.rearmRead _) ?_ (fun hk => nomatch hk)
      rintro written ⟨⟩
      rfl
  | loadRead written hk =>
      refine hf.coordinator (.rearmDiscard written _) ?_ (fun hk => nomatch hk)
      rintro written' ⟨⟩
      exact hf.loaded written (by rw [hk]; rfl)
  | discard written read hk =>
      have hnot := hidle (by rw [hk]; rfl)
      have hw := hf.loaded written (by rw [hk]; rfl)
      obtain ⟨p, hrep, hfresh⟩ := hf.holds
      refine ⟨⟨p, ⟨hrep.bound, hrep.queue, hrep.any, hrep.last, hrep.newest, hrep.second,
        hrep.ordered⟩, hfresh⟩, ?_, fun hk => (nomatch hk), fun k hp => absurd hp (hnot k),
        fun k hp => absurd (.inr hp) (hnot k)⟩
      rintro written' ⟨⟩
      exact hw
  | store written hk =>
      have hnot := hidle (by rw [hk]; rfl)
      have hw := hf.loaded written (by rw [hk]; rfl)
      obtain ⟨p, hrep, _, hanswers⟩ := hf.holds
      subst hw
      have hdrain := hrep.drain false
      exact ⟨⟨_, hdrain, by simp, hanswers⟩, fun _ hw => (nomatch hw), fun _ => hdrain.queue,
        fun k hp => absurd hp (hnot k), fun k hp => absurd (.inr hp) (hnot k)⟩
  | rearmed hk =>
      have hnot := hidle (by rw [hk]; rfl)
      have hempty := hf.drained hk
      obtain ⟨p, hrep, _, _⟩ := hf.holds
      refine ⟨⟨.empty, ⟨hrep.bound, hempty, rfl, by simp [Playout.empty], rfl, rfl,
        Playout.ordered_empty⟩, by simp [Playout.empty], by simp [Playout.empty]⟩,
        fun _ hw => (nomatch hw), fun hk => (nomatch hk), fun k hp => absurd hp (hnot k),
        fun k hp => absurd (.inr hp) (hnot k)⟩

/-- What a selection leaves and returns is fresh. -/
theorem Holds.select {s : AudioSource Record} {h : LinkHistory} (hs : Holds s h) (event : UInt32)
    (buffer : Record) :
    Holds (s.select event buffer).2.2 h ∧
      (s.select event buffer).2.2.frames.length ≤ s.frames.length ∧
      ((s.select event buffer).1 = 1 → Fresh h (s.select event buffer).2.1) := by
  obtain ⟨p, hrep, hqueue, hanswers⟩ := hs
  rcases hrep.select_cases event buffer with ⟨a, hheld, hsel⟩ | ⟨_, hsel⟩ | ⟨_, _, hfirst⟩
  · rw [hsel]
    refine ⟨⟨p, hrep.requested true, hqueue, hanswers⟩, Nat.le_refl _, ?_⟩
    intro hone
    cases a with
    | none => exact absurd hone (by simp [answerCode])
    | some r => exact hanswers _ r (List.mem_of_mem_take (Playout.held_mem hheld))
  · rw [hsel]
    exact ⟨⟨p, hrep.requested true, hqueue, hanswers⟩, Nat.le_refl _, fun hone => (by cases hone)⟩
  · have hsub := p.first_sublist event.toNat
    have hans (r : Record) (hr : p.answer event.toNat = some r) : Fresh h r := by
      apply hqueue r
      apply hsub.subset
      rw [hr]
      exact List.mem_append_left _ (List.mem_singleton_self r)
    refine ⟨⟨_, hfirst.represents, ?_, ?_⟩, ?_, ?_⟩
    · exact fun r hr => hqueue r (hsub.subset (List.mem_append_right _ hr))
    · intro e r hr
      rcases List.mem_cons.mp hr with heq | hold
      · rw [Prod.mk.injEq] at heq
        exact hans r heq.2.symm
      · exact hanswers e r hold
    · rw [hfirst.represents.queue, hrep.queue]
      have hlen := p.first_length event.toNat
      omega
    · intro hone
      rw [hfirst.code] at hone
      rw [hfirst.data]
      cases ha : p.answer event.toNat with
      | none =>
          rw [ha] at hone
          exact absurd hone (by simp [answerCode])
      | some r => exact hans r ha

theorem sourceFresh_outside {b b' : Link E D} (hf : SourceFresh b) (hm : OutsideMove b b') :
    SourceFresh b' := by
  cases hm with
  | coordinator k hk =>
      refine hf.coordinator k ?_ ?_
      · rcases hk with ⟨rfl, _⟩ | ⟨rfl, _⟩ | ⟨rfl, _⟩ | ⟨rfl, _⟩ <;> exact fun _ hw => nomatch hw
      · rcases hk with ⟨rfl, _⟩ | ⟨rfl, _⟩ | ⟨rfl, _⟩ | ⟨rfl, _⟩ <;> exact fun hk => nomatch hk
  | resume _ => exact ⟨hf.holds, hf.loaded, hf.drained, hf.room, hf.copied⟩
  | select event buffer hk =>
      obtain ⟨hholds, hlen, _⟩ := hf.holds.select event buffer
      obtain ⟨hwritten, hqueue⟩ := select_producer b.worker.stream.source event buffer
      refine ⟨hholds, ?_, ?_, ?_, ?_⟩
      · intro written hw
        exact (hf.loaded written hw).trans hwritten.symm
      · intro hc
        refine absurd ?_ hk
        unfold Link.rearming
        rw [show b.coordinator = .rearmClear from hc]
        trivial
      · intro kind hp
        obtain ⟨hat, hroom⟩ := hf.room kind hp
        exact ⟨hat.trans hwritten.symm, Nat.lt_of_le_of_lt hlen hroom⟩
      · intro kind hp
        change (b.worker.stream.source.select event buffer).2.2.queue _ = _
        rw [hqueue]
        change b.worker.stream.source.queue
          (queueSlot (b.worker.stream.source.select event buffer).2.2.written) = _
        rw [hwritten]
        exact hf.copied kind hp
  | outside _ _ _ _ => exact ⟨hf.holds, hf.loaded, hf.drained, hf.room, hf.copied⟩

theorem sourceFresh_step {b b' : Link E D} {a : LinkAction} (hb : Barrier b.worker b.coordinator)
    (hf : SourceFresh b) (hs : Link.Step c crc32 b a b') : SourceFresh b' := by
  rcases step_move hs with ⟨input, _, hm⟩ | hm | hm | hm
  · exact sourceFresh_worker hb hf hm
  · exact sourceFresh_transfer hf hm
  · exact sourceFresh_coordinator hb hf hm
  · exact sourceFresh_outside hf hm

/-- The reconnect handshake over every run.  A rearm that finds both flags set finds the worker
between raising and lowering its acknowledgement, and until the rearm is over the worker makes no
request, transfer or push.  Up to 2^32 requests, what a selection then returns was pushed, and its
request and the request it was pushed in were made, since the last completed rearm. -/
theorem reconnect_no_leak {base : UInt32} {packets : Fin 16 → MicPacket} {encoder : E}
    {decoder : D} {rx : CwFrame} {trace : List LinkAction} {b : Link E D}
    (hrun : Run (Link.Step c crc32) (Link.init crc32 base packets encoder decoder rx) trace b) :
    (b.worker.stream.acknowledged = true ↔
      b.worker.run.pc = .waiting ∨ b.worker.run.pc = .depart) ∧
    (b.coordinator.checked = true →
      b.worker.stream.requested = true ∧ b.worker.run.pc.quiet = true) ∧
    (b.history.requests.length < 2 ^ 32 → ∀ event buffer,
      (b.worker.stream.source.select event buffer).1 = 1 →
      let r := (b.worker.stream.source.select event buffer).2.1
      r ∈ b.history.pushes ∧ r.generation = b.history.rearms ∧
      ∃ before p q call, r.request = before + 2 ∧
        b.history.requests[before]? = some p ∧ p.generation = b.history.rearms ∧
        b.history.requests[before + 1]? = some q ∧ q.generation = b.history.rearms ∧
        call ∈ b.history.calls ∧ call.session = p.session ∧ call.seq = p.seq ∧
        p.pcm = some call.pcm ∧ call.packet = r.packet) := by
  have hinv : b.Sound crc32 ∧ SourceFresh b :=
    hrun.invariant_of_invariant (Link.Sound crc32) SourceFresh
      ⟨barrier_init crc32 base packets encoder decoder rx,
        fun _ => pairing_init base packets encoder decoder rx⟩
      (fun _ _ _ h hs => sound_step h hs) (sourceFresh_init base packets encoder decoder rx)
      (fun _ _ _ hsound h hs => sourceFresh_step hsound.barrier h hs)
  obtain ⟨hsound, hfresh⟩ := hinv
  refine ⟨?_, ?_, ?_⟩
  · rw [hsound.barrier.acknowledged]
    cases b.worker.run.pc <;> simp [WorkerPc.acknowledging]
  · intro hc
    exact ⟨hsound.barrier.held (CoordinatorPc.holding_of_checked hc), hsound.barrier.quiet hc⟩
  · intro hbound event buffer hone r
    have hr := (hfresh.holds.select event buffer).2.2 hone
    obtain ⟨before, p, hrequest, hget, hgen, ⟨q, hq, hqgen⟩, call, hcall, hcs, hcq, hpcm, _,
      hpacket⟩ := (hsound.pairing hbound).pushes.paired _ hr.1
    exact ⟨hr.1, hr.2, before, p, q, call, hrequest, hget, hgen.trans hr.2, hq, hqgen.trans hr.2,
      hcall, hcs, hcq, hpcm, hpacket⟩

/-- The rearm the worker overtakes is checked, with the request up. -/
theorem reconnect_no_leak_overtaken :
    ∃ b : Link Unit Unit,
      Run (Link.Step silentCodecs crc32Le) (Link.init crc32Le 1 noPackets () () .zero)
        overtakingTrace b ∧
      b.coordinator = .rearmClear ∧ b.worker.stream.requested = true ∧
      b.worker.run.pc.quiet = true := by
  obtain ⟨b, hrun, hk, _⟩ := run_overtaken
  have h := (reconnect_no_leak hrun).2.1 (by rw [hk]; rfl)
  exact ⟨b, hrun, hk, h.1, h.2⟩

/-- A rearm can succeed on a worker that has already lowered its acknowledgement, and once request
numbers come round a packet encoded before a rearm is selected after it. -/
theorem reconnect_overtaken_or_leaked :
    (∃ b : Link Unit Unit,
      Run (Link.Step silentCodecs crc32Le) (Link.init crc32Le 1 noPackets () () .zero)
        overtakingTrace b ∧
      b.coordinator = .rearmClear ∧ b.worker.run.pc = .top ∧
      ∃ b', Link.Step silentCodecs crc32Le b .coordinator b' ∧ b'.worker.run.pc = .top ∧
        b'.history.rearms = b.history.rearms + 1) ∧
    ∃ trace, ∃ b : Link Unit Unit,
      Run (Link.Step markedCodecs crc32Le) (Link.init crc32Le 1 noPackets () () .zero) trace b ∧
      b.history.rearms = 1 ∧
      (b.worker.stream.source.select 1 default).1 = 1 ∧
      ∃ call p, b.history.calls = [call] ∧ p ∈ b.history.requests ∧ p.generation = 0 ∧
        call.session = p.session ∧ call.seq = p.seq ∧ p.pcm = some call.pcm ∧
        (∀ q ∈ b.history.requests, q ≠ p → q.pcm = none) ∧
        (b.worker.stream.source.select 1 default).2.1.packet = call.packet :=
  ⟨run_overtaken, run_leaked⟩

end UllReceiver.Bridge
