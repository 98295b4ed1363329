import UllReceiver.Bridge.Reconnect

/-!
# Room for every encoded frame

The worker asks for a frame while at most two are queued.  With the reply it still expects, that
leaves a slot for the new one, as long as request numbers have not come round again.
-/

namespace UllReceiver.Bridge

open Audio Library

variable {E D : Type} {c : Codecs E D} {crc32 : List UInt8 → UInt32}

namespace Link

/-- Frames queued in the audio source. -/
def queued (b : Link E D) : Nat :=
  (b.worker.stream.source.written - b.worker.stream.source.read).toNat

/-- The request under way asks for a frame. -/
def playUnderWay (b : Link E D) : Bool :=
  b.worker.run.pc.request.isSome && b.history.requests.getLast?.any fun r => r.pcm.isSome

/-- The request a reply is expected for asked for a frame, and its reply has not been looked at. -/
def playBefore (b : Link E D) : Bool :=
  b.worker.stream.havePrevious &&
    (b.worker.run.pc.request.isNone || b.worker.run.pc.mayPush) &&
    b.history.requests.any fun r => r.pcm.isSome &&
      r.session == b.worker.stream.previousSession && r.seq == b.worker.stream.previousSeq

/-- Play requests whose reply is still to be accepted. -/
def outstanding (b : Link E D) : Nat :=
  b.playUnderWay.toNat + b.playBefore.toNat

/-- `accept_response` is about to call `ull_audio_source_push` on a full queue. -/
def refusesPush (crc32 : List UInt8 → UInt32) (b : Link E D) : Bool :=
  match b.worker.run.pc with
  | .accept kind =>
      Worker.acceptable crc32 b.worker.stream (b.worker.replySession kind) &&
        b.worker.stream.rx.byte 5 &&& cwPlay != 0 &&
        decide (b.worker.stream.source.written - b.worker.stream.source.read ≥ audioQueueFrames)
  | _ => false

end Link

/-- The bridge with its counter `queue_drops`. -/
structure CountedLink (E D : Type) where
  link : Link E D
  queueDrops : UInt32

namespace CountedLink

def drops (crc32 : List UInt8 → UInt32) (s : CountedLink E D) : LinkAction → UInt32
  | .worker _ => if s.link.refusesPush crc32 then s.queueDrops + 1 else s.queueDrops
  | _ => s.queueDrops

def Step (c : Codecs E D) (crc32 : List UInt8 → UInt32) (s : CountedLink E D) (a : LinkAction)
    (s' : CountedLink E D) : Prop :=
  Link.Step c crc32 s.link a s'.link ∧ s'.queueDrops = s.drops crc32 a

def init (crc32 : List UInt8 → UInt32) (base : UInt32) (packets : Fin 16 → MicPacket)
    (encoder : E) (decoder : D) (rx : CwFrame) : CountedLink E D where
  link := .init crc32 base packets encoder decoder rx
  queueDrops := 0

end CountedLink

/-! ## The invariant -/

structure Room (b : Link E D) : Prop where
  sum : b.queued + b.outstanding ≤ 4
  -- a frame that is being pushed is still among the outstanding ones
  pushing : ∀ kind, b.worker.run.pc = .pushCopy kind ∨ b.worker.run.pc = .pushStore kind →
    b.playBefore = true

theorem room_init (base : UInt32) (packets : Fin 16 → MicPacket) (encoder : E) (decoder : D)
    (rx : CwFrame) : Room (Link.init crc32 base packets encoder decoder rx) := by
  have hqueued : (Link.init crc32 base packets encoder decoder rx).queued = 0 :=
    counter_sub_self _
  have hout : (Link.init crc32 base packets encoder decoder rx).outstanding = 0 := rfl
  refine ⟨?_, fun _ hk => hk.elim (nomatch ·) (nomatch ·)⟩
  rw [hqueued, hout]
  decide

theorem toNat_le_one (x : Bool) : x.toNat ≤ 1 := by
  cases x <;> decide

theorem toNat_mono {x y : Bool} (h : x = true → y = true) : x.toNat ≤ y.toNat := by
  cases x with
  | false => exact Nat.zero_le _
  | true => rw [h rfl]

/-- Nothing is expected that was not expected before. -/
theorem playBefore_mono {b b' : Link E D}
    (hhave : b'.worker.stream.havePrevious = true → b.worker.stream.havePrevious = true)
    (hsession : b'.worker.stream.previousSession = b.worker.stream.previousSession)
    (hseq : b'.worker.stream.previousSeq = b.worker.stream.previousSeq)
    (hpc : (b'.worker.run.pc.request.isNone || b'.worker.run.pc.mayPush) = true →
      (b.worker.run.pc.request.isNone || b.worker.run.pc.mayPush) = true)
    (hrequests : ∀ r ∈ b'.history.requests, r.pcm.isSome = true → r ∈ b.history.requests) :
    b'.playBefore = true → b.playBefore = true := by
  unfold Link.playBefore
  rw [Bool.and_eq_true, Bool.and_eq_true, Bool.and_eq_true, Bool.and_eq_true, List.any_eq_true,
    List.any_eq_true]
  intro h
  obtain ⟨⟨h1, h2⟩, r, hr, hmatch⟩ := h
  have hplays : r.pcm.isSome = true := by
    rw [Bool.and_eq_true, Bool.and_eq_true] at hmatch
    exact hmatch.1.1
  refine ⟨⟨hhave h1, hpc h2⟩, r, hrequests r hr hplays, ?_⟩
  rw [← hsession, ← hseq]
  exact hmatch

/-- A step that neither queues a frame nor asks for one. -/
theorem Room.aside {b b' : Link E D} (hr : Room b) (hqueued : b'.queued ≤ b.queued)
    (hunder : b'.playUnderWay = true → b.playUnderWay = true)
    (hbefore : b'.playBefore = true → b.playBefore = true)
    (hpc : ∀ kind, b'.worker.run.pc = .pushCopy kind ∨ b'.worker.run.pc = .pushStore kind →
      b'.playBefore = true) : Room b' := by
  refine ⟨?_, hpc⟩
  have h1 := toNat_mono hunder
  have h2 := toNat_mono hbefore
  have hsum := hr.sum
  unfold Link.outstanding at hsum ⊢
  omega

theorem playUnderWay_none {b : Link E D} (hpc : b.worker.run.pc.request = none) :
    b.playUnderWay = false := by
  unfold Link.playUnderWay
  rw [hpc]
  rfl

/-- The worker goes between places where no request is under way. -/
theorem Room.between {b b' : Link E D} (hr : Room b)
    (hsource : b'.worker.stream.source = b.worker.stream.source)
    (hhistory : b'.history = b.history)
    (hpc : b.worker.run.pc.request = none) (hpc' : b'.worker.run.pc.request = none)
    (hhave : b'.worker.stream.havePrevious = true → b.worker.stream.havePrevious = true)
    (hsession : b'.worker.stream.previousSession = b.worker.stream.previousSession)
    (hseq : b'.worker.stream.previousSeq = b.worker.stream.previousSeq) : Room b' := by
  apply hr.aside
  · unfold Link.queued
    rw [hsource]
  · rw [playUnderWay_none hpc']
    exact fun hf => (nomatch hf)
  · apply playBefore_mono hhave hsession hseq
    · rw [hpc]
      exact fun _ => rfl
    · rw [hhistory]
      exact fun r hmem _ => hmem
  · intro kind hk
    rcases hk with hk | hk <;> rw [hk] at hpc' <;> exact (nomatch hpc')

/-- The worker makes a request; one that plays is made with at most two frames queued. -/
theorem Room.request {b : Link E D} {w : Worker} {pcm : Option PcmBlock}
    (hr : Room b) (hpc : b.worker.run.pc.request = none)
    (hnot : ∀ k, ¬(w.run.pc = .pushCopy k ∨ w.run.pc = .pushStore k))
    (hsource : w.stream.source = b.worker.stream.source)
    (hhave : w.stream.havePrevious = b.worker.stream.havePrevious)
    (hsession : w.stream.previousSession = b.worker.stream.previousSession)
    (hseq : w.stream.previousSeq = b.worker.stream.previousSeq)
    (hplay : pcm.isSome = true → b.queued ≤ 2) : Room (b.request pcm w) := by
  have hqueued : (b.request pcm w).queued = b.queued := by
    unfold Link.queued
    change (w.stream.source.written - w.stream.source.read).toNat = _
    rw [hsource]
  refine ⟨?_, fun k hk => absurd hk (hnot k)⟩
  cases pcm with
  | some block =>
      -- the queue has room for this one and the one before
      have h1 := toNat_le_one (b.request (some block) w).playUnderWay
      have h2 := toNat_le_one (b.request (some block) w).playBefore
      have h3 := hplay rfl
      rw [hqueued]
      unfold Link.outstanding
      omega
  | none =>
      -- a request that does not play adds nothing
      have hunder : (b.request none w).playUnderWay = false := by
        unfold Link.playUnderWay Link.request
        simp only [List.getLast?_concat]
        exact Bool.and_false _
      have hbefore : (b.request none w).playBefore = true → b.playBefore = true := by
        apply playBefore_mono
        · exact fun hh => hhave ▸ hh
        · exact hsession
        · exact hseq
        · rw [hpc]
          exact fun _ => rfl
        · intro r hmem hplays
          rcases List.mem_append.mp hmem with hold | hnew
          · exact hold
          · rw [List.mem_singleton.mp hnew] at hplays
            exact (nomatch hplays)
      have h1 := toNat_mono hbefore
      have hsum := hr.sum
      unfold Link.outstanding at hsum ⊢
      rw [hqueued, hunder]
      change _ + (0 + _) ≤ 4
      omega

/-! ## The worker's steps -/

/-- A reply that passes every test and plays something belongs to a play request. -/
theorem Pairing.reply_plays {b : Link E D} (hp : Pairing crc32 b.worker b.slave b.history)
    {kind : RequestKind} (hpc : b.worker.run.pc = .accept kind)
    (hacc : Worker.acceptable crc32 b.worker.stream (b.worker.replySession kind) = true)
    (hplay : b.worker.stream.rx.byte 5 &&& cwPlay ≠ 0) : b.playBefore = true := by
  unfold Worker.acceptable at hacc
  simp only [Bool.and_eq_true, beq_iff_eq] at hacc
  obtain ⟨⟨⟨⟨hvalid, hhave⟩, hsession⟩, hseq⟩, _⟩ := hacc
  obtain ⟨r, hmem, hrs, hrq, call, _, _, _, hpcm, _⟩ :=
    hp.pushes.reply kind hpc (cwValid_crcOk hvalid) (playOut b.worker.stream.rx)
      (by rw [playPart, if_pos hplay])
  unfold Link.playBefore
  rw [hhave, hpc]
  change (true && true && List.any _ _) = true
  rw [Bool.and_self, Bool.true_and, List.any_eq_true]
  refine ⟨r, hmem, ?_⟩
  rw [hpcm, ← hrs, hsession, ← hrq, hseq, beq_self_eq_true, beq_self_eq_true]
  rfl

/-- The request just answered is the one expected next. -/
theorem Pairing.finish_before {b : Link E D} (hp : Pairing crc32 b.worker b.slave b.history)
    (hbound : b.history.requests.length < 2 ^ 32) {kind : RequestKind} {accepted : Bool}
    (hpc : b.worker.run.pc = .finish kind accepted) :
    ({ b with worker := b.worker.finish kind accepted } : Link E D).playBefore = true →
      b.playUnderWay = true := by
  intro h
  unfold Link.playBefore at h
  rw [Bool.and_eq_true, List.any_eq_true] at h
  obtain ⟨_, r, hmem, hmatch⟩ := h
  simp only [Bool.and_eq_true, beq_iff_eq] at hmatch
  obtain ⟨⟨hplays, _⟩, hseq⟩ := hmatch
  obtain ⟨i, hi⟩ := List.mem_iff_getElem?.mp hmem
  have hlt : i < b.history.requests.length := (List.getElem?_eq_some_iff.mp hi).1
  change r.seq = b.worker.run.seq at hseq
  rw [hp.requests.seq, hp.requests.numbered i r hi] at hseq
  have hnat := congrArg UInt32.toNat hseq
  rw [UInt32.toNat_ofNat', UInt32.toNat_ofNat'] at hnat
  -- numbers have not come round, so it is the newest request
  have hlast : i = b.history.requests.length - 1 := by omega
  unfold Link.playUnderWay
  rw [hpc, List.getLast?_eq_getElem?, ← hlast, hi]
  exact hplays

theorem room_worker {b b' : Link E D} {input : PlaybackInput}
    (hp : Pairing crc32 b.worker b.slave b.history) (hf : SourceFresh b) (hr : Room b)
    (hbound : b.history.requests.length < 2 ^ 32) (hm : WorkerMove crc32 b input b') : Room b' := by
  cases hm with
  | park hpc _ =>
      exact hr.between rfl rfl (by rw [hpc]; rfl) rfl (fun hn => (nomatch hn)) rfl rfl
  | enter hpc _ => exact hr.between rfl rfl (by rw [hpc]; rfl) rfl id rfl rfl
  | acknowledge hpc => exact hr.between rfl rfl (by rw [hpc]; rfl) rfl id rfl rfl
  | wait _ _ => exact hr
  | leave hpc _ => exact hr.between rfl rfl (by rw [hpc]; rfl) rfl id rfl rfl
  | depart hpc => exact hr.between rfl rfl (by rw [hpc]; rfl) rfl id rfl rfl
  | idle hpc _ _ => exact hr.between rfl rfl (by rw [hpc]; rfl) rfl id rfl rfl
  | pass hpc _ _ hfill =>
      obtain ⟨htop, _, _, hhave, hsession, hseq⟩ := live_pass b.worker input hfill
      refine hr.between (live_source b.worker input) rfl (by rw [hpc]; rfl) ?_ ?_ hsession hseq
      · change (b.worker.live input).run.pc.request = none
        rw [htop]
        rfl
      · exact fun hh => hhave ▸ hh
  | handshake hpc _ =>
      refine hr.request (by rw [hpc]; rfl) ?_ rfl rfl rfl rfl ?_
      · exact fun k hk => hk.elim (nomatch ·) (nomatch ·)
      · exact fun hn => (nomatch hn)
  | live hpc _ _ hfill =>
      obtain ⟨_, _, hhave, hsession, hseq, _⟩ :=
        live_begin b.worker input b.history.rearms hfill
      refine hr.request (by rw [hpc]; rfl) ?_
        (live_source b.worker input) hhave hsession hseq ?_
      · rw [hfill]
        exact fun k hk => hk.elim (nomatch ·) (nomatch ·)
      · intro hplay
        split at hplay
        next hwants =>
          unfold Worker.wantsPlay at hwants
          simp only [Bool.and_eq_true, decide_eq_true_eq] at hwants
          have hlt := UInt32.lt_iff_toNat_lt.mp hwants.1.1
          exact Nat.le_of_lt_succ hlt
        · exact (nomatch hplay)
  | fill hpc =>
      obtain ⟨readPos, tx, lastMicFrame, lastMicSeq, haveMic, hfill⟩ := fill_same crc32 b.worker
      rw [hfill]
      refine hr.aside (Nat.le_refl _) ?_ ?_ ?_
      · intro h
        unfold Link.playUnderWay at h ⊢
        rw [hpc]
        exact h
      · refine playBefore_mono id rfl rfl ?_ fun r hmem _ => hmem
        rw [hpc]
        exact fun _ => rfl
      · exact fun k hk => hk.elim (nomatch ·) (nomatch ·)
  | accept kind hpc =>
      obtain ⟨hstream, hnext⟩ := accept_source crc32 b.worker kind
      have hunder : ({ b with worker := b.worker.accept crc32 kind } : Link E D).playUnderWay =
          true → b.playUnderWay = true := by
        intro h
        unfold Link.playUnderWay at h ⊢
        rw [Bool.and_eq_true] at h ⊢
        rw [hpc]
        exact ⟨rfl, h.2⟩
      have hbefore : ({ b with worker := b.worker.accept crc32 kind } : Link E D).playBefore =
          true → b.playBefore = true := by
        apply playBefore_mono
        · rw [hstream]
          exact id
        · rw [hstream]
        · rw [hstream]
        · rw [hpc]
          exact fun _ => rfl
        · exact fun r hmem _ => hmem
      refine hr.aside ?_ hunder hbefore ?_
      · unfold Link.queued
        rw [hstream]
      · intro k hk
        change (b.worker.accept crc32 kind).run.pc = _ ∨ (b.worker.accept crc32 kind).run.pc = _
          at hk
        rcases hnext with ⟨hpushes, _⟩ | ⟨accepted, hfinish⟩
        · have hold : b.playBefore = true := by
            have hgone := hpushes
            unfold Worker.accept at hgone
            simp only at hgone
            split at hgone
            next hgo =>
              simp only [Bool.and_eq_true, bne_iff_ne] at hgo
              exact hp.reply_plays hpc hgo.1.1 hgo.1.2
            · exact (nomatch hgone)
          unfold Link.playBefore at hold ⊢
          rw [hpushes, hstream]
          rw [hpc] at hold
          exact hold
        · rw [hfinish] at hk
          exact hk.elim (nomatch ·) (nomatch ·)
  | pushCopy kind hpc =>
      have hold := hr.pushing kind (.inl hpc)
      have hbefore : ({ b with
          worker := b.worker.pushCopy kind
            (b.worker.record b.history.requests.length b.history.rearms) } : Link E D).playBefore =
          true := by
        unfold Link.playBefore at hold ⊢
        rw [hpc] at hold
        exact hold
      refine hr.aside (Nat.le_refl _) ?_ (fun _ => hold) (fun _ _ => hbefore)
      intro h
      unfold Link.playUnderWay at h ⊢
      rw [hpc]
      exact h
  | pushStore kind hpc =>
      have hold := hr.pushing kind (.inr hpc)
      obtain ⟨hat, hlt⟩ := hf.room kind (.inr hpc)
      rw [frames_length] at hlt
      refine ⟨?_, fun k hk => hk.elim (nomatch ·) (nomatch ·)⟩
      have hsum := hr.sum
      unfold Link.outstanding at hsum ⊢
      rw [hold] at hsum
      change b.queued + (b.playUnderWay.toNat + 1) ≤ 4 at hsum
      have hunder : ({ b with
          worker := b.worker.pushStore kind
          history := { b.history with
            pushes := b.history.pushes ++
              [b.worker.record b.history.requests.length b.history.rearms] } } :
          Link E D).playUnderWay = b.playUnderWay := by
        unfold Link.playUnderWay
        rw [hpc]
        rfl
      have hbefore : ({ b with
          worker := b.worker.pushStore kind
          history := { b.history with
            pushes := b.history.pushes ++
              [b.worker.record b.history.requests.length b.history.rearms] } } :
          Link E D).playBefore = false := by
        unfold Link.playBefore
        change (b.worker.stream.havePrevious && false && _) = false
        rw [Bool.and_false, Bool.false_and]
      have hqueued : ({ b with
          worker := b.worker.pushStore kind
          history := { b.history with
            pushes := b.history.pushes ++
              [b.worker.record b.history.requests.length b.history.rearms] } } :
          Link E D).queued = b.queued + 1 := by
        change (b.worker.run.pushAt + 1 - b.worker.stream.source.read).toNat = _
        rw [hat]
        exact counter_sub_succ _ _ (by omega)
      rw [hunder, hbefore, hqueued]
      change b.queued + 1 + (b.playUnderWay.toNat + 0) ≤ 4
      omega
  | finish kind accepted hpc =>
      have hunder : ({ b with worker := b.worker.finish kind accepted } : Link E D).playUnderWay =
          false := playUnderWay_none rfl
      have hbefore := toNat_mono (hp.finish_before hbound hpc)
      refine ⟨?_, fun k hk => hk.elim (nomatch ·) (nomatch ·)⟩
      have hsum := hr.sum
      have hqueued : ({ b with worker := b.worker.finish kind accepted } : Link E D).queued =
          b.queued := rfl
      unfold Link.outstanding at hsum ⊢
      rw [hunder, hqueued]
      change _ + (0 + _) ≤ 4
      omega

/-! ## Everyone else's steps -/

/-- After a failed exchange at most the reply expected before is expected. -/
theorem Room.failed {b b' : Link E D} (hr : Room b) {kind : RequestKind} {rx : CwFrame}
    (hpc : b.worker.run.pc = .transfer kind) (hworker : b'.worker = b.worker.failed kind rx)
    (hrequests : b'.history.requests = b.history.requests) : Room b' := by
  have hpc' : b'.worker.run.pc = .top := by
    rw [hworker]
    cases kind <;> rfl
  have hqueued : b'.queued = b.queued := by
    unfold Link.queued
    rw [hworker]
    cases kind <;> rfl
  refine hr.aside (Nat.le_of_eq hqueued) ?_ ?_ ?_
  · rw [playUnderWay_none (by rw [hpc']; rfl)]
    exact fun hf => (nomatch hf)
  · apply playBefore_mono
    · rw [hworker]
      cases kind with
      | handshake => exact id
      | live => exact fun hf => (nomatch hf)
    · rw [hworker]
      cases kind <;> rfl
    · rw [hworker]
      cases kind <;> rfl
    · rw [hpc]
      exact fun _ => rfl
    · rw [hrequests]
      exact fun r hmem _ => hmem
  · rw [hpc']
    exact fun k hk => hk.elim (nomatch ·) (nomatch ·)

theorem room_transfer {b b' : Link E D} (hr : Room b) (hm : TransferMove c crc32 b b') :
    Room b' := by
  cases hm with
  | missed kind hpc => exact hr.failed hpc rfl rfl
  | crossed kind hpc now reported toSlave bits toWorker _ _ =>
      cases reported with
      | false => exact hr.failed hpc rfl rfl
      | true =>
          refine hr.aside (Nat.le_refl _) ?_ ?_ ?_
          · intro h
            unfold Link.playUnderWay at h ⊢
            rw [hpc]
            exact h
          · refine playBefore_mono id rfl rfl ?_ fun r hmem _ => hmem
            rw [hpc]
            exact fun _ => rfl
          · exact fun k hk => hk.elim (nomatch ·) (nomatch ·)

/-- The worker and the requests stay; the queue may be emptied. -/
theorem Room.beside {b b' : Link E D} (hr : Room b) (hqueued : b'.queued ≤ b.queued)
    (hrun : b'.worker.run = b.worker.run)
    (hhave : b'.worker.stream.havePrevious = b.worker.stream.havePrevious)
    (hsession : b'.worker.stream.previousSession = b.worker.stream.previousSession)
    (hseq : b'.worker.stream.previousSeq = b.worker.stream.previousSeq)
    (hrequests : b'.history.requests = b.history.requests) : Room b' := by
  have hunder : b'.playUnderWay = b.playUnderWay := by
    unfold Link.playUnderWay
    rw [hrun, hrequests]
  have hbefore : b'.playBefore = b.playBefore := by
    unfold Link.playBefore
    rw [hrun, hhave, hsession, hseq, hrequests]
  refine hr.aside hqueued (fun h => hunder ▸ h) (fun h => hbefore ▸ h) ?_
  rw [hrun, hbefore]
  exact hr.pushing

theorem room_coordinator {b b' : Link E D} (hf : SourceFresh b) (hr : Room b)
    (hm : CoordinatorMove b b') : Room b' := by
  cases hm with
  | refused _ => exact hr.beside (Nat.le_refl _) rfl rfl rfl rfl rfl
  | clear _ => exact hr.beside (Nat.le_refl _) rfl rfl rfl rfl rfl
  | hold _ => exact hr.beside (Nat.le_refl _) rfl rfl rfl rfl rfl
  | found _ _ => exact hr.beside (Nat.le_refl _) rfl rfl rfl rfl rfl
  | loadWritten _ => exact hr.beside (Nat.le_refl _) rfl rfl rfl rfl rfl
  | loadRead _ _ => exact hr.beside (Nat.le_refl _) rfl rfl rfl rfl rfl
  | discard _ _ _ => exact hr.beside (Nat.le_refl _) rfl rfl rfl rfl rfl
  | store written hk =>
      -- the index loaded is still the write index
      have hw := hf.loaded written (by rw [hk]; rfl)
      refine hr.beside ?_ rfl rfl rfl rfl rfl
      change (b.worker.stream.source.written - written).toNat ≤ _
      rw [hw, counter_sub_self]
      exact Nat.zero_le _
  | rearmed _ => exact hr.beside (Nat.le_refl _) rfl rfl rfl rfl rfl

theorem room_outside {b b' : Link E D} (hf : SourceFresh b) (hr : Room b) (hm : OutsideMove b b') :
    Room b' := by
  cases hm with
  | coordinator _ _ => exact hr.beside (Nat.le_refl _) rfl rfl rfl rfl rfl
  | resume _ => exact hr.beside (Nat.le_refl _) rfl rfl rfl rfl rfl
  | select event buffer _ =>
      have hlen := (hf.holds.select event buffer).2.1
      rw [frames_length, frames_length] at hlen
      exact hr.beside hlen rfl rfl rfl rfl rfl
  | outside _ _ _ _ => exact hr.beside (Nat.le_refl _) rfl rfl rfl rfl rfl

theorem room_step {b b' : Link E D} {a : LinkAction}
    (hp : Pairing crc32 b.worker b.slave b.history) (hf : SourceFresh b) (hr : Room b)
    (hbound : b.history.requests.length < 2 ^ 32) (hs : Link.Step c crc32 b a b') : Room b' := by
  rcases step_move hs with ⟨input, _, hm⟩ | hm | hm | hm
  · exact room_worker hp hf hr hbound hm
  · exact room_transfer hr hm
  · exact room_coordinator hf hr hm
  · exact room_outside hf hr hm

/-! ## Every run -/

/-- With room for every outstanding reply, no push is refused. -/
theorem Room.accepts {b : Link E D} (hp : Pairing crc32 b.worker b.slave b.history)
    (hr : Room b) : b.refusesPush crc32 = false := by
  rw [← Bool.not_eq_true]
  intro hrefuses
  unfold Link.refusesPush at hrefuses
  split at hrefuses
  next kind hpc =>
    simp only [Bool.and_eq_true, bne_iff_ne, decide_eq_true_eq] at hrefuses
    obtain ⟨⟨hacc, hplay⟩, hfull⟩ := hrefuses
    have hbefore := hp.reply_plays hpc hacc hplay
    have hsum := hr.sum
    have hqueued : 4 ≤ b.queued := UInt32.le_iff_toNat_le.mp hfull
    unfold Link.outstanding at hsum
    rw [hbefore] at hsum
    change b.queued + (b.playUnderWay.toNat + 1) ≤ 4 at hsum
    omega
  · exact (nomatch hrefuses)

/-- What is carried along a run of the counted bridge. -/
structure CountedLink.Sound (crc32 : List UInt8 → UInt32) (s : CountedLink E D) : Prop where
  sound : s.link.Sound crc32
  fresh : SourceFresh s.link
  room : s.link.history.requests.length < 2 ^ 32 → Room s.link ∧ s.queueDrops = 0

theorem CountedLink.Sound.step {s s' : CountedLink E D} {a : LinkAction}
    (h : CountedLink.Sound crc32 s) (hs : CountedLink.Step c crc32 s a s') :
    CountedLink.Sound crc32 s' := by
  obtain ⟨hlink, hdrops⟩ := hs
  refine ⟨sound_step h.sound hlink, sourceFresh_step h.sound.barrier h.fresh hlink,
    fun hbound' => ?_⟩
  have hbound : s.link.history.requests.length < 2 ^ 32 :=
    Nat.lt_of_le_of_lt (requests_extend hlink).length_le hbound'
  obtain ⟨hroom, hnone⟩ := h.room hbound
  have hp := h.sound.pairing hbound
  refine ⟨room_step hp h.fresh hroom hbound hlink, ?_⟩
  rw [hdrops]
  unfold CountedLink.drops
  split
  · rw [hroom.accepts hp]
    exact hnone
  · exact hnone

/-- With fewer than 2^32 requests the frames queued and the replies outstanding never exceed the
queue, no push is refused and `queue_drops` stays zero. -/
theorem queue_never_overflows {base : UInt32} {packets : Fin 16 → MicPacket} {encoder : E}
    {decoder : D} {rx : CwFrame} {trace : List LinkAction} {s : CountedLink E D}
    (hrun : Run (CountedLink.Step c crc32) (.init crc32 base packets encoder decoder rx) trace s)
    (hbound : s.link.history.requests.length < 2 ^ 32) :
    s.link.queued + s.link.outstanding ≤ 4 ∧ s.link.refusesPush crc32 = false ∧
      s.queueDrops = 0 := by
  have hsound : CountedLink.Sound crc32 s :=
    hrun.invariant (CountedLink.Sound crc32)
      ⟨⟨barrier_init crc32 base packets encoder decoder rx,
          fun _ => pairing_init base packets encoder decoder rx⟩,
        sourceFresh_init base packets encoder decoder rx,
        fun _ => ⟨room_init base packets encoder decoder rx, rfl⟩⟩
      fun _ _ _ h hs => h.step hs
  obtain ⟨hroom, hnone⟩ := hsound.room hbound
  exact ⟨hroom.sum, hroom.accepts (hsound.sound.pairing hbound), hnone⟩

/-- Every run of the bridge can be counted. -/
theorem run_counted {b b' : Link E D} {trace : List LinkAction}
    (hrun : Run (Link.Step c crc32) b trace b') (n : UInt32) :
    ∃ m, Run (CountedLink.Step c crc32) ⟨b, n⟩ trace ⟨b', m⟩ := by
  induction hrun with
  | nil => exact ⟨n, .nil⟩
  | @snoc l s a t hrun hs ih =>
      obtain ⟨m, hcounted⟩ := ih
      exact ⟨CountedLink.drops crc32 ⟨s, m⟩ a, hcounted.snoc ⟨hs, rfl⟩⟩

/-- The first play request is under way. -/
theorem queue_never_overflows_playing :
    ∃ trace, ∃ s : CountedLink Unit Unit,
      Run (CountedLink.Step markedCodecs crc32Le)
        (.init crc32Le 1 noPackets () () .zero) trace s ∧
      s.link.playUnderWay = true ∧ s.link.queued + s.link.outstanding ≤ 4 ∧ s.queueDrops = 0 := by
  obtain ⟨t1, b, hrun1, h, hsource, _, _, _, _, hrequests, _⟩ :=
    run_selecting markedCodecs crc32Le noPackets () () .zero
  obtain ⟨w, hsent, hrun2⟩ := run_playSent markedCodecs crc32Le b playingInput h.pc h.requested
    h.ready (by rw [hsource]; rfl) (by unfold Worker.wantsPlay; rw [hsource]; rfl)
  obtain ⟨b2, hrun2, hpc2, r, hr, hrequests2⟩ : ∃ b2 : Link Unit Unit,
      Run (Link.Step markedCodecs crc32Le) b
        [.worker playingInput, .worker playingInput, .worker playingInput] b2 ∧
      b2.worker.run.pc = .transfer .live ∧ ∃ r : Request, r.pcm.isSome = true ∧
        b2.history.requests = b.history.requests ++ [r] :=
    ⟨_, hrun2, hsent.pc, _, rfl, rfl⟩
  obtain ⟨n, hcounted⟩ := run_counted (hrun1.append hrun2) 0
  have hnever := queue_never_overflows hcounted (by
    rw [hrequests2, hrequests, List.length_append]
    exact show 2 + 1 < 2 ^ 32 by decide)
  refine ⟨_, _, hcounted, ?_, hnever.1, hnever.2.2⟩
  unfold Link.playUnderWay
  rw [hpc2, hrequests2, List.getLast?_concat]
  exact hr

/-! ## Past 2^32 requests -/

/-- A valid reply to request 3 of session 1 that plays something. -/
structure PlaysThird (crc32 : List UInt8 → UInt32) (f : CwFrame) : Prop where
  valid : cwValid crc32 f cwResponse = true
  session : cwGet32 f 8 = 1
  seq : cwGet32 f 12 = 3
  plays : f.byte 5 &&& cwPlay ≠ 0

/-- The slave has served request 3 and keeps its reply for a repetition. -/
structure Cached (crc32 : List UInt8 → UInt32) (slave : Slave E D) : Prop where
  haveCached : slave.haveCached = true
  lastSession : slave.lastSession = 1
  lastSeq : slave.lastSeq = 3
  reply : PlaysThird crc32 slave.cached

/-- The number 3 has come round: the worker expects the reply once more and the slave offers it. -/
structure Loaded (crc32 : List UInt8 → UInt32) (b : Link E D) (queued : Nat) : Prop where
  stands : Stands b 1 3 false
  expects : Expects b 1 3
  requested : b.worker.stream.source.requested = true
  queued : b.queued = queued
  offered : b.slave.tx = b.slave.cached
  cached : Cached crc32 b.slave

/-- The reply has arrived and is about to be accepted. -/
structure Due (crc32 : List UInt8 → UInt32) (b : Link E D) (queued : Nat) : Prop where
  pc : b.worker.run.pc = .accept .handshake
  acceptable : Worker.acceptable crc32 b.worker.stream (b.worker.replySession .handshake) = true
  plays : b.worker.stream.rx.byte 5 &&& cwPlay ≠ 0
  queued : b.queued = queued
  requested : b.worker.stream.source.requested = true
  -- what the worker will stand at when the round is over
  stands : Stands ({ b with worker := b.worker.goto .top } : Link E D) 1 3 false
  session : b.worker.run.session = 1
  offered : b.slave.tx = b.slave.cached
  cached : Cached crc32 b.slave

/-- Handshakes are missed until the number 3 is due; the slave takes that one for a repetition. -/
theorem Cached.loaded {b : Link E D} (hc : Cached crc32 b.slave) {seq : UInt32}
    (h : Stands b 1 seq false) (hforgotten : b.worker.stream.havePrevious = false)
    (hrequested : b.worker.stream.source.requested = true) :
    ∃ trace b', Run (Link.Step c crc32) b trace b' ∧ Loaded crc32 b' b.queued := by
  obtain ⟨t1, b1, hrun1, h1, ⟨tx, hstream1⟩, hslave1⟩ :=
    h.idled c crc32 quietInput (2 - seq).toNat
  rw [UInt32.ofNat_toNat, UInt32.add_comm, UInt32.sub_add_cancel] at h1
  have hnone : b1.worker.stream.havePrevious = false := by
    rw [hstream1]
    exact hforgotten
  obtain ⟨t2, b2, hrun2, h2, he2, hsource2, hslave2, _⟩ :=
    h1.handshake c crc32 quietInput (.inl hnone)
  have hrefused : Worker.acceptable crc32 { b1.worker.stream with rx := b1.slave.tx } 1 = false :=
    acceptable_none _ _ _ hnone
  rw [hrefused, Bool.false_and] at h2
  have hrepeat := process_repeated c crc32 b1.slave 1 (2 + 1)
    (by rw [hslave1]; exact hc.haveCached) (by rw [hslave1]; exact hc.lastSession)
    (by rw [hslave1]; exact hc.lastSeq)
  rw [hrepeat, hslave1] at hslave2
  have hsource : b2.worker.stream.source = b.worker.stream.source := by
    rw [hsource2, hstream1]
  refine ⟨_, b2, hrun1.append hrun2, h2, he2, ?_, ?_, ?_, ?_⟩
  · rw [hsource]
    exact hrequested
  · unfold Link.queued
    rw [hsource]
  · rw [hslave2]
  · rw [hslave2]
    exact ⟨hc.haveCached, hc.lastSession, hc.lastSeq, hc.reply⟩

/-- Once more round: the next request with the number 3 brings the reply in. -/
theorem Loaded.due {b : Link E D} {queued : Nat} (h : Loaded crc32 b queued) :
    ∃ trace b', Run (Link.Step c crc32) b trace b' ∧ Due crc32 b' queued := by
  obtain ⟨t1, b1, hrun1, h1, ⟨tx, hstream1⟩, hslave1⟩ :=
    h.stands.idled c crc32 quietInput (2 ^ 32 - 1)
  rw [show (3 : UInt32) + UInt32.ofNat (2 ^ 32 - 1) = 2 by decide] at h1
  -- the next request has the number of the cached reply
  have hmade := run_handshaken c crc32 b1 quietInput h1.pc h1.requested h1.ready
  have hcross := step_crossed c crc32 (b1.handshaken crc32) .handshake true rfl
  generalize hb2 : (b1.handshaken crc32).crossed c crc32 .handshake true = b2 at hcross
  have hstream2 : ∃ tx, b2.worker.stream = { b.worker.stream with tx, rx := b.slave.cached } := by
    rw [← hb2]
    refine ⟨(b1.handshaken crc32).worker.stream.tx, ?_⟩
    change { b1.worker.stream with
      tx := (b1.handshaken crc32).worker.stream.tx, rx := b1.slave.tx } = _
    rw [hstream1, hslave1, h.offered]
  obtain ⟨tx2, hstream2⟩ := hstream2
  have hframe : (b1.handshaken crc32).worker.stream.tx = handshakeFrame crc32 1 (2 + 1) := by
    change handshakeFrame crc32 b1.worker.session (b1.worker.run.seq + 1) = _
    rw [h1.session, h1.seq]
  have hslave2 : b2.slave = { b.slave with tx := b.slave.cached } := by
    rw [← hb2]
    change (b1.slave.process c crc32 (b1.handshaken crc32).worker.stream.tx (cwBytes * 8)).1 = _
    rw [hframe, hslave1, process_repeated c crc32 b.slave 1 (2 + 1) h.cached.haveCached
      h.cached.lastSession h.cached.lastSeq]
  have hsession2 : b2.worker.run.session = 1 := by
    rw [← hb2]
    exact h1.session
  refine ⟨_, b2, (hrun1.append hmade).snoc hcross, ?_, ?_, ?_, ?_, ?_, ?_, hsession2, ?_, ?_⟩
  · rw [← hb2]
    rfl
  · change Worker.acceptable crc32 b2.worker.stream b2.worker.run.session = true
    rw [hsession2, hstream2]
    unfold Worker.acceptable
    simp only [h.cached.reply.valid, h.cached.reply.session, h.cached.reply.seq, h.expects.have',
      h.expects.session, h.expects.seq]
    rfl
  · rw [hstream2]
    exact h.cached.reply.plays
  · unfold Link.queued
    rw [hstream2]
    exact h.queued
  · rw [hstream2]
    exact h.requested
  · refine ⟨rfl, ?_, ?_, ?_, ?_, ?_, ?_⟩
    · change b2.worker.stream.requested = false
      rw [hstream2]
      exact h.stands.requested
    · change b2.worker.stream.acknowledged = false
      rw [hstream2]
      exact h.stands.acknowledged
    · rw [← hb2]
      exact h1.coordinator
    · rw [← hb2]
      exact h1.session
    · rw [← hb2]
      change b1.worker.run.seq + 1 = 3
      rw [h1.seq]
      rfl
    · change b2.worker.stream.ready = false
      rw [hstream2]
      exact h.stands.ready
  · rw [hslave2]
  · rw [hslave2]
    exact ⟨h.cached.haveCached, h.cached.lastSession, h.cached.lastSeq, h.cached.reply⟩

/-- The reply is pushed another time and remains to be offered again. -/
theorem Loaded.again {b : Link E D} {queued : Nat} (h : Loaded crc32 b queued)
    (hroom : queued < 4) :
    ∃ trace b', Run (Link.Step c crc32) b trace b' ∧ Loaded crc32 b' (queued + 1) := by
  obtain ⟨t1, b1, hrun1, h1⟩ := h.due (c := c)
  have hqueued := h1.queued
  unfold Link.queued at hqueued
  have hpush := run_pushed_finished c crc32 b1 .handshake quietInput h1.pc h1.acceptable h1.plays
    (UInt32.lt_iff_toNat_lt.mpr (by rw [hqueued]; exact hroom))
  have hmore : (b1.pushed .handshake).queued = queued + 1 := by
    change (b1.worker.stream.source.written + 1 - b1.worker.stream.source.read).toNat = _
    rw [counter_sub_succ _ _ (by omega), hqueued]
  cases hready : (b1.pushed .handshake).worker.stream.ready with
  | false =>
      refine ⟨_, _, hrun1.append hpush, ⟨rfl, h1.stands.requested, h1.stands.acknowledged,
        h1.stands.coordinator, h1.stands.session, h1.stands.seq, hready⟩,
        ⟨rfl, h1.session, h1.stands.seq⟩, h1.requested, hmore, h1.offered, h1.cached⟩
  | true =>
      -- the slave counts as greeted, so a live request has to fail first
      have hstands : Stands (b1.pushed .handshake) 1 3 true :=
        ⟨rfl, h1.stands.requested, h1.stands.acknowledged, h1.stands.coordinator,
          h1.stands.session, h1.stands.seq, hready⟩
      obtain ⟨t2, b2, hrun2, h2, hnone2, hsource2, hslave2⟩ :=
        hstands.missedLive c crc32 h1.requested
      have hcached2 : Cached crc32 b2.slave := hslave2 ▸ h1.cached
      obtain ⟨t3, b3, hrun3, h3⟩ :=
        hcached2.loaded (c := c) h2 hnone2 (by rw [hsource2]; exact h1.requested)
      have hsame : b2.queued = queued + 1 := by
        rw [← hmore]
        unfold Link.queued
        rw [hsource2]
      rw [hsame] at h3
      exact ⟨_, b3, ((hrun1.append hpush).append hrun2).append hrun3, h3⟩

/-- With the queue full the push of the next one is refused. -/
theorem Due.refuses {b : Link E D} (h : Due crc32 b 4) : b.refusesPush crc32 = true := by
  have hqueued := h.queued
  unfold Link.queued at hqueued
  unfold Link.refusesPush
  rw [h.pc]
  simp only [Bool.and_eq_true, bne_iff_ne, decide_eq_true_eq]
  refine ⟨⟨h.acceptable, h.plays⟩, UInt32.le_iff_toNat_le.mpr ?_⟩
  rw [hqueued]
  exact Nat.le_refl 4

/-- A reply to a play request is pushed time and again, once every 2^33 requests, until the queue
is full and more. -/
theorem run_refused : ∃ trace, ∃ b : Link Unit Unit,
    Run (Link.Step markedCodecs crc32Le) (Link.init crc32Le 1 noPackets () () .zero) trace b ∧
      b.refusesPush crc32Le = true := by
  obtain ⟨t2, b2, hrun2, h2, hsource2, _, hlast2, _⟩ :=
    run_selecting markedCodecs crc32Le noPackets () () .zero
  obtain ⟨t3, b3, hrun3, h3, hnone3, hsource3, hanswers3, hcached3, hsession3, hseq3, _⟩ :=
    h2.lostLive markedCodecs crc32Le playingInput (by rw [hsource2]; rfl)
      (by unfold Worker.wantsPlay; rw [hsource2]; rfl)
      (by rw [hlast2]; exact fun h => absurd h.2.2 (by decide))
  have hplay : playPart b3.slave.cached = some (Vector.replicate 190 7) := by
    rw [hanswers3.play]
    rfl
  have hc3 : Cached crc32Le b3.slave :=
    ⟨hcached3, hsession3, hseq3, hanswers3.valid, hanswers3.session, hanswers3.seq,
      (playPart_some hplay).1⟩
  obtain ⟨t4, b4, hrun4, h4⟩ := hc3.loaded (c := markedCodecs) h3 hnone3
    (by rw [hsource3, hsource2]; rfl)
  have hempty : b3.queued = 0 := by
    unfold Link.queued
    rw [hsource3, hsource2]
    decide
  rw [hempty] at h4
  obtain ⟨t5, b5, hrun5, h5⟩ := h4.again (c := markedCodecs) (by decide)
  obtain ⟨t6, b6, hrun6, h6⟩ := h5.again (c := markedCodecs) (by decide)
  obtain ⟨t7, b7, hrun7, h7⟩ := h6.again (c := markedCodecs) (by decide)
  obtain ⟨t8, b8, hrun8, h8⟩ := h7.again (c := markedCodecs) (by decide)
  obtain ⟨t9, b9, hrun9, h9⟩ := h8.due (c := markedCodecs)
  exact ⟨_, b9, ((((((hrun2.append hrun3).append hrun4).append hrun5).append hrun6).append
    hrun7).append hrun8).append hrun9, h9.refuses⟩

/-- Once request numbers come round, a frame is dropped for lack of queue space. -/
theorem queue_overflows_wrapped :
    ∃ trace, ∃ s : CountedLink Unit Unit,
      Run (CountedLink.Step markedCodecs crc32Le)
        (.init crc32Le 1 noPackets () () .zero) trace s ∧ s.queueDrops ≠ 0 := by
  obtain ⟨trace, b, hrun, hrefuses⟩ := run_refused
  obtain ⟨n, hcounted⟩ := run_counted hrun 0
  by_cases hn : n = 0
  · subst hn
    have hpc : ∃ kind, b.worker.run.pc = .accept kind := by
      unfold Link.refusesPush at hrefuses
      split at hrefuses
      next kind hpc => exact ⟨kind, hpc⟩
      · exact (nomatch hrefuses)
    obtain ⟨kind, hpc⟩ := hpc
    have hstep : CountedLink.Step markedCodecs crc32Le ⟨b, 0⟩ (.worker quietInput)
        ⟨{ b with worker := b.worker.accept crc32Le kind }, 1⟩ := by
      refine ⟨?_, ?_⟩
      · simp only [Link.Step, Link.act, Link.workerStep, hpc]
      · unfold CountedLink.drops
        simp only [hrefuses, if_true]
        rfl
    exact ⟨_, _, hcounted.snoc hstep, show (1 : UInt32) ≠ 0 by decide⟩
  · exact ⟨trace, _, hcounted, hn⟩

end UllReceiver.Bridge
