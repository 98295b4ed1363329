import UllReceiver.Bridge.PairingRun
import UllReceiver.Audio.SourceQueue

/-!
# Whole rounds of the codec worker

The worker's steps taken together: a handshake request made, transferred intact and finished, and
any number of handshakes whose transfer is missed.
-/

namespace UllReceiver.Bridge

open Audio Library

variable {E D : Type} (c : Codecs E D) (crc32 : List UInt8 → UInt32)

/-- The handshake request is in `tx`, ready to be transferred. -/
def Link.handshaken (crc32 : List UInt8 → UInt32) (b : Link E D) : Link E D :=
  ({ b with worker := b.worker.goto .iterate } : Link E D).request none
    ((b.worker.goto .iterate).handshake crc32)

/-- The request and the reply crossed intact. -/
def Link.crossed (c : Codecs E D) (crc32 : List UInt8 → UInt32) (b : Link E D)
    (kind : RequestKind) (reported : Bool) : Link E D :=
  { b with
    worker := if reported then b.worker.exchanged kind b.slave.tx 0
      else b.worker.failed kind b.slave.tx
    slave := (b.slave.process c crc32 b.worker.stream.tx (cwBytes * 8)).1
    history := { b.history with
      calls := b.history.calls ++
        (b.slave.process c crc32 b.worker.stream.tx (cwBytes * 8)).2.toList } }

theorem run_handshaken (b : Link E D) (input : PlaybackInput) (hpc : b.worker.run.pc = .top)
    (hreq : b.worker.stream.requested = false) (hready : b.worker.stream.ready = false) :
    Run (Link.Step c crc32) b [.worker input, .worker input] (b.handshaken crc32) := by
  have h1 : Link.Step c crc32 b (.worker input) { b with worker := b.worker.goto .iterate } := by
    simp [Link.Step, Link.act, Link.workerStep, hpc, Worker.top, hreq]
  have h2 : Link.Step c crc32 { b with worker := b.worker.goto .iterate } (.worker input)
      (b.handshaken crc32) := by
    simp [Link.Step, Link.act, Link.workerStep, Worker.goto, hready, Link.handshaken]
  exact (Run.nil.snoc h1).snoc h2

theorem step_crossed (b : Link E D) (kind : RequestKind) (reported : Bool)
    (hpc : b.worker.run.pc = .transfer kind) :
    Link.Step c crc32 b
      (.transfer (.crossed reported b.worker.stream.tx (cwBytes * 8) b.slave.tx) 0)
      (b.crossed c crc32 kind reported) := by
  have hreceived (f : CwFrame) : Link.Received crc32 f f (cwBytes * 8) := .inl ⟨rfl, rfl⟩
  unfold Link.Step Link.act Link.transferStep Link.crossed
  rw [hpc]
  generalize cwBytes * 8 = bits at *
  simp only
  rw [if_pos ⟨hreceived _, hreceived _⟩]

/-- A reply that pushes nothing: the worker goes on to its next iteration. -/
theorem run_finished (b : Link E D) (kind : RequestKind) (input : PlaybackInput)
    (hpc : b.worker.run.pc = .accept kind)
    (hnone : Worker.acceptable crc32 b.worker.stream (b.worker.replySession kind) = false ∨
      b.worker.stream.rx.byte 5 &&& cwPlay = 0) :
    Run (Link.Step c crc32) b [.worker input, .worker input]
      { b with
        worker := b.worker.finish kind
          (Worker.acceptable crc32 b.worker.stream (b.worker.replySession kind)) } := by
  generalize hacc : Worker.acceptable crc32 b.worker.stream (b.worker.replySession kind) = acc at *
  have h1 : Link.Step c crc32 b (.worker input)
      { b with worker := b.worker.goto (.finish kind acc) } := by
    have haccept : b.worker.accept crc32 kind = b.worker.goto (.finish kind acc) := by
      unfold Worker.accept
      rw [hacc]
      rcases hnone with rfl | hflag
      · simp
      · simp [hflag]
    simp only [Link.Step, Link.act, Link.workerStep, hpc, haccept]
  have h2 : Link.Step c crc32 { b with worker := b.worker.goto (.finish kind acc) } (.worker input)
      { b with worker := b.worker.finish kind acc } := by
    simp [Link.Step, Link.act, Link.workerStep, Worker.goto, Worker.finish]
  exact (Run.nil.snoc h1).snoc h2

/-- A reply that plays something is pushed when the queue has room. -/
theorem run_pushed (b : Link E D) (kind : RequestKind) (input : PlaybackInput)
    (hpc : b.worker.run.pc = .accept kind)
    (hacc : Worker.acceptable crc32 b.worker.stream (b.worker.replySession kind) = true)
    (hplay : b.worker.stream.rx.byte 5 &&& cwPlay ≠ 0)
    (hroom : b.worker.stream.source.written - b.worker.stream.source.read < audioQueueFrames) :
    ∃ trace b', Run (Link.Step c crc32) b trace b' ∧
      b'.worker.stream.source = (b.worker.stream.source.push
        (b.worker.record b.history.requests.length b.history.rearms)).2 ∧
      b'.coordinator = b.coordinator ∧ b'.history.requests = b.history.requests ∧
      b'.history.calls = b.history.calls ∧ b'.history.rearms = b.history.rearms := by
  let w1 : Worker := { b.worker with run := { b.worker.run with
    pushAt := b.worker.stream.source.written, pc := .pushCopy kind } }
  let r := b.worker.record b.history.requests.length b.history.rearms
  have h1 : Link.Step c crc32 b (.worker input) { b with worker := w1 } := by
    have haccept : b.worker.accept crc32 kind = w1 := by
      unfold Worker.accept
      simp [hacc, hplay, hroom, w1]
    simp only [Link.Step, Link.act, Link.workerStep, hpc, haccept]
  have h2 : Link.Step c crc32 { b with worker := w1 } (.worker input)
      { b with worker := w1.pushCopy kind r } := rfl
  have h3 : Link.Step c crc32 { b with worker := w1.pushCopy kind r } (.worker input)
      { b with
        worker := (w1.pushCopy kind r).pushStore kind
        history := { b.history with pushes := b.history.pushes ++ [r] } } := rfl
  refine ⟨_, _, ((Run.nil.snoc h1).snoc h2).snoc h3, ?_, rfl, rfl, rfl, rfl⟩
  have hfull : ¬ b.worker.stream.source.written - b.worker.stream.source.read ≥ audioQueueFrames :=
    UInt32.not_le.mpr hroom
  simp only [AudioSource.push, if_neg hfull]
  rfl

/-- The handshake request as it is transferred. -/
def handshakeFrame (crc32 : List UInt8 → UInt32) (session seq : UInt32) : CwFrame :=
  cwSeal crc32 (cwBegin cwRequest 0 0 session seq 0)

theorem handshakeFrame_fields (session seq : UInt32) :
    (cwCrcOk crc32 (handshakeFrame crc32 session seq) &&
        requestHeader (handshakeFrame crc32 session seq) (cwBytes * 8)) = true ∧
      (handshakeFrame crc32 session seq).byte 5 = 0 ∧
      cwGet32 (handshakeFrame crc32 session seq) 8 = session ∧
      cwGet32 (handshakeFrame crc32 session seq) 12 = seq := by
  have hbody := (begin_body session seq 0 0 (by decide) (by decide) (by decide)).seal crc32
  refine ⟨?_, ?_, hbody.session, hbody.seq⟩
  · unfold handshakeFrame
    rw [cwSeal_crcOk, hbody.header]
    rfl
  · unfold handshakeFrame
    rw [cwSeal_byte _ _ (by decide)]
    simp

/-- The slave answers a new handshake with an empty reply. -/
theorem process_handshake (slave : Slave E D) (session seq : UInt32)
    (hnew : ¬ (slave.haveCached = true ∧ session = slave.lastSession ∧ seq = slave.lastSeq)) :
    ∃ tx, Answers crc32 tx session seq none ∧ tx.byte 5 = 0 ∧ tx.byte 6 = cwOk ∧
      slave.process c crc32 (handshakeFrame crc32 session seq) (cwBytes * 8) =
        ({ slave with tx, cached := tx, haveCached := true, lastSession := session,
                      lastSeq := seq }, none) := by
  obtain ⟨hok, hflags, hsession, hseq⟩ := handshakeFrame_fields crc32 session seq
  have hserve : slave.process c crc32 (handshakeFrame crc32 session seq) (cwBytes * 8) =
      slave.serve c crc32 (handshakeFrame crc32 session seq) := by
    have hdup : (slave.haveCached && session == slave.lastSession && seq == slave.lastSeq) =
        false := by
      rw [← Bool.not_eq_true]
      simpa [and_assoc] using hnew
    simp only [Slave.process, hok, hsession, hseq, hdup]
    rfl
  rw [hserve]
  generalize handshakeFrame crc32 session seq = rx at *
  have hheader := replyHeader_begin session seq (cwGet32 rx 16) cwOk
  refine ⟨cwSeal crc32 (cwBegin cwResponse 0 cwOk session seq (cwGet32 rx 16)),
    hheader.answers crc32 (playPart_begin _ _ _ _), ?_, ?_, ?_⟩
  · rw [cwSeal_byte _ _ (by decide)]
    simp
  · rw [cwSeal_byte _ _ (by decide)]
    simp
  · simp [Slave.serve, Slave.servePlay, Slave.serveMic, hflags, hsession, hseq]

/-- A repeated request gets the cached reply. -/
theorem process_repeated (slave : Slave E D) (session seq : UInt32)
    (hcached : slave.haveCached = true) (hsession : slave.lastSession = session)
    (hseq : slave.lastSeq = seq) :
    slave.process c crc32 (handshakeFrame crc32 session seq) (cwBytes * 8) =
      ({ slave with tx := slave.cached }, none) := by
  obtain ⟨hok, _, hs, hq⟩ := handshakeFrame_fields crc32 session seq
  unfold Slave.process
  rw [hok, hs, hq, hcached, hsession, hseq]
  simp

/-- The worker as the pause leaves it: parked, its acknowledgement up. -/
def Worker.paused (w : Worker) : Worker where
  stream := { w.stream with
    micActive := false, havePrevious := false, readPos := w.stream.written
    requested := true, acknowledged := true }
  run := { w.run with haveMic := false, wasCapture := false, pc := .waiting }

/-- A pause that meets the worker at the head of its loop. -/
theorem run_paused (b : Link E D) (input : PlaybackInput) (hpc : b.worker.run.pc = .top)
    (hk : b.coordinator = .idle) (hreq : b.worker.stream.requested = false)
    (hack : b.worker.stream.acknowledged = false) :
    Run (Link.Step c crc32) b
      [.pause, .coordinator, .coordinator, .worker input, .worker input, .poll false]
      { b with worker := b.worker.paused } := by
  obtain ⟨⟨stream, run⟩, slave, k, h⟩ := b
  simp only at hpc hk hreq hack
  subst hk
  refine Run.of_foldlM ?_
  simp [Link.act, Link.coordinatorStep, Link.workerStep, Worker.top, Worker.park, Worker.paused,
    hpc, hreq, hack]

/-- The rearm of a paused worker. -/
theorem run_rearmed (b : Link E D) (hk : b.coordinator = .idle)
    (hreq : b.worker.stream.requested = true) (hack : b.worker.stream.acknowledged = true)
    (hlen : b.worker.stream.source.frames.length ≤ 4) :
    Run (Link.Step c crc32) b
      [.rearm, .coordinator, .coordinator, .coordinator, .coordinator, .coordinator, .coordinator]
      { b with
        worker := { b.worker with stream := { b.worker.stream with
          source := (b.worker.stream.source.rearm true).2 } }
        history := { b.history with rearms := b.history.rearms + 1 } } := by
  obtain ⟨⟨stream, run⟩, slave, k, h⟩ := b
  simp only at hk hreq hack hlen
  subst hk
  have hroom : ¬ stream.source.written - stream.source.read > audioQueueFrames := by
    rw [frames_length] at hlen
    exact UInt32.not_lt.mpr (UInt32.le_iff_toNat_le.mpr hlen)
  refine Run.of_foldlM ?_
  simp [Link.act, Link.coordinatorStep, AudioSource.rearm, hreq, hack, hroom]

/-- The worker goes on after the pause. -/
theorem run_resumed (b : Link E D) (input : PlaybackInput) (hpc : b.worker.run.pc = .waiting)
    (hk : b.coordinator = .idle) :
    Run (Link.Step c crc32) b [.resume, .worker input, .worker input]
      { b with worker :=
        { stream := { b.worker.stream with requested := false, acknowledged := false }
          run := { b.worker.run with pc := .top } } } := by
  obtain ⟨⟨stream, run⟩, slave, k, h⟩ := b
  simp only at hpc hk
  subst hk
  refine Run.of_foldlM ?_
  simp [Link.act, Link.workerStep, Worker.goto, hpc]

/-- The worker is at the head of its loop and no reconnect is under way. -/
structure Stands (b : Link E D) (session seq : UInt32) (ready : Bool) : Prop where
  pc : b.worker.run.pc = .top
  requested : b.worker.stream.requested = false
  acknowledged : b.worker.stream.acknowledged = false
  coordinator : b.coordinator = .idle
  session : b.worker.session = session
  seq : b.worker.run.seq = seq
  ready : b.worker.stream.ready = ready

/-- A reply to `(session, seq)` is expected. -/
structure Expects (b : Link E D) (session seq : UInt32) : Prop where
  have' : b.worker.stream.havePrevious = true
  session : b.worker.stream.previousSession = session
  seq : b.worker.stream.previousSeq = seq

/-- The microphone's part of the worker is the same. -/
structure SameMic (w w' : Worker) : Prop where
  enabled : w'.stream.micEnabled = w.stream.micEnabled
  written : w'.stream.written = w.stream.written
  readPos : w'.stream.readPos = w.stream.readPos
  haveMic : w'.run.haveMic = w.run.haveMic

theorem acceptable_none (s : PcmStream) (session : UInt32) (h : s.havePrevious = false) :
    Worker.acceptable crc32 s session = false := by
  simp [Worker.acceptable, h]

/-- A handshake that crosses intact and pushes nothing. -/
theorem Stands.handshake {b : Link E D} {session seq : UInt32} (h : Stands b session seq false)
    (input : PlaybackInput)
    (hnone : b.worker.stream.havePrevious = false ∨ b.slave.tx.byte 5 &&& cwPlay = 0) :
    ∃ trace b', Run (Link.Step c crc32) b trace b' ∧
      Stands b' session (seq + 1)
        (Worker.acceptable crc32 { b.worker.stream with rx := b.slave.tx } session &&
          b.slave.tx.byte 6 == cwOk) ∧
      Expects b' session (seq + 1) ∧
      b'.worker.stream.source = b.worker.stream.source ∧
      b'.slave = (b.slave.process c crc32 (handshakeFrame crc32 session (seq + 1))
        (cwBytes * 8)).1 ∧
      b'.history = { b.history with
        requests := b.history.requests ++
          [{ session, seq := seq + 1, pcm := none, generation := b.history.rearms }]
        calls := b.history.calls ++ (b.slave.process c crc32
          (handshakeFrame crc32 session (seq + 1)) (cwBytes * 8)).2.toList } ∧
      SameMic b.worker b'.worker := by
  obtain ⟨hpc, hreq, hack, hk, hsession, hseq, hready⟩ := h
  subst hsession hseq
  have hmade := run_handshaken c crc32 b input hpc hreq hready
  have hcross := step_crossed c crc32 (b.handshaken crc32) .handshake true rfl
  generalize hb2 : (b.handshaken crc32).crossed c crc32 .handshake true = b2 at hcross
  have hrx : b2.worker.stream = { (b.handshaken crc32).worker.stream with rx := b.slave.tx } := by
    subst hb2; rfl
  have hacc : Worker.acceptable crc32 b2.worker.stream (b2.worker.replySession .handshake) =
      Worker.acceptable crc32 { b.worker.stream with rx := b.slave.tx } b.worker.session := by
    subst hb2; rfl
  -- a reply is awaited only behind an earlier request, and what does not play is not pushed
  have hfin := run_finished c crc32 b2 .handshake input (by subst hb2; rfl) (by
    rcases hnone with hn | hn
    · exact .inl (hacc.trans (acceptable_none _ _ _ hn))
    · exact .inr (by rw [hrx]; exact hn))
  rw [hacc] at hfin
  generalize Worker.acceptable crc32 { b.worker.stream with rx := b.slave.tx } b.worker.session =
    acc at hfin
  refine ⟨_, _, ((hmade.snoc hcross).append hfin), ⟨rfl, ?_, ?_, ?_, ?_, ?_, ?_⟩, ⟨rfl, ?_, ?_⟩, ?_,
    ?_, ?_, ⟨?_, ?_, ?_, ?_⟩⟩
  all_goals subst hb2
  · exact hreq
  · exact hack
  · exact hk
  · rfl
  · rfl
  · change (b.worker.stream.ready || (true && acc && b.slave.tx.byte 6 == cwOk)) = _
    rw [hready, Bool.false_or, Bool.true_and]
  all_goals rfl

/-- The slave's empty answer to handshake `seq` is ready for the next transfer. -/
structure Answered (crc32 : List UInt8 → UInt32) (b b' : Link E D) (session seq : UInt32) :
    Prop where
  expects : Expects b' session seq
  source : b'.worker.stream.source = b.worker.stream.source
  answers : Answers crc32 b'.slave.tx session seq none
  flags : b'.slave.tx.byte 5 = 0
  status : b'.slave.tx.byte 6 = cwOk
  encoder : b'.slave.encoder = b.slave.encoder
  lastSession : b'.slave.lastSession = session
  lastSeq : b'.slave.lastSeq = seq
  history : b'.history = { b.history with requests := b.history.requests ++
    [{ session, seq, pcm := none, generation := b.history.rearms }] }
  mic : SameMic b.worker b'.worker

theorem Stands.answered {b : Link E D} {session seq : UInt32} (h : Stands b session seq false)
    (input : PlaybackInput)
    (hnone : b.worker.stream.havePrevious = false ∨ b.slave.tx.byte 5 &&& cwPlay = 0)
    (hnew : ¬ (b.slave.haveCached = true ∧ session = b.slave.lastSession ∧
      seq + 1 = b.slave.lastSeq)) :
    ∃ trace b', Run (Link.Step c crc32) b trace b' ∧
      Stands b' session (seq + 1)
        (Worker.acceptable crc32 { b.worker.stream with rx := b.slave.tx } session &&
          b.slave.tx.byte 6 == cwOk) ∧
      Answered crc32 b b' session (seq + 1) := by
  obtain ⟨trace, b', hrun, hstands, hexpects, hsource, hslave, hhistory, hmic⟩ :=
    h.handshake c crc32 input hnone
  obtain ⟨tx, hanswers, hflags, hstatus, hprocess⟩ :=
    process_handshake c crc32 b.slave session (seq + 1) hnew
  rw [hprocess] at hslave hhistory
  refine ⟨trace, b', hrun, hstands, hexpects, hsource, ?_, ?_, ?_, ?_, ?_, ?_, ?_, hmic⟩
  case refine_7 => simpa using hhistory
  all_goals rw [hslave]
  · exact hanswers
  · exact hflags
  · exact hstatus

/-- `b'` is `b` after handshakes whose transfer was missed. -/
structure Missed (b b' : Link E D) : Prop where
  slave : b'.slave = b.slave
  source : b'.worker.stream.source = b.worker.stream.source
  havePrevious : b'.worker.stream.havePrevious = b.worker.stream.havePrevious
  calls : b'.history.calls = b.history.calls
  pushes : b'.history.pushes = b.history.pushes
  rearms : b'.history.rearms = b.history.rearms
  requests : ∃ requests, b'.history.requests = b.history.requests ++ requests ∧
    ∀ r ∈ requests, r.pcm = none

theorem Stands.missed {b : Link E D} {session seq : UInt32} (h : Stands b session seq false)
    (input : PlaybackInput) (n : Nat) :
    ∃ trace b', Run (Link.Step c crc32) b trace b' ∧
      Stands b' session (seq + UInt32.ofNat n) false ∧ Missed b b' := by
  induction n with
  | zero =>
      refine ⟨[], b, .nil, ?_, rfl, rfl, rfl, rfl, rfl, rfl, [], (List.append_nil _).symm, by simp⟩
      rw [show seq + UInt32.ofNat 0 = seq from UInt32.add_zero _]
      exact h
  | succ n ih =>
      obtain ⟨trace, b1, hrun, hstands, hm⟩ := ih
      obtain ⟨requests, hrequests, hall⟩ := hm.requests
      have hhand := run_handshaken c crc32 b1 input hstands.pc hstands.requested
        hstands.ready
      have hmiss : Link.Step c crc32 (b1.handshaken crc32) (.transfer .missed 0)
          { b1.handshaken crc32 with
            worker := (b1.handshaken crc32).worker.failed .handshake
              (b1.handshaken crc32).worker.stream.rx } := rfl
      let made := ((b1.worker.goto .iterate).handshake crc32).made none b1.history.rearms
      refine ⟨_, _, (hrun.append hhand).snoc hmiss,
        ⟨rfl, hstands.requested, hstands.acknowledged, hstands.coordinator, hstands.session, ?_,
          hstands.ready⟩,
        hm.slave, hm.source, hm.havePrevious, hm.calls, hm.pushes, hm.rearms,
        requests ++ [made], ?_, ?_⟩
      · change b1.worker.run.seq + 1 = _
        rw [hstands.seq, UInt32.ofNat_add, ← UInt32.add_assoc]
        rfl
      · change b1.history.requests ++ [made] = _
        rw [hrequests, List.append_assoc]
      · intro r hr
        rcases List.mem_append.mp hr with hold | hnew
        · exact hall r hold
        · rw [List.mem_singleton.mp hnew]
          rfl

/-- `b'` is `b` but for the request in `tx`, the locals of the loop and the record. -/
structure Idled (b b' : Link E D) : Prop where
  stream : ∃ tx, b'.worker.stream = { b.worker.stream with tx }
  slave : b'.slave = b.slave

/-- Any number of handshakes whose transfer is missed. -/
theorem Stands.idled {b : Link E D} {session seq : UInt32} (h : Stands b session seq false)
    (input : PlaybackInput) (n : Nat) :
    ∃ trace b', Run (Link.Step c crc32) b trace b' ∧
      Stands b' session (seq + UInt32.ofNat n) false ∧ Idled b b' := by
  induction n with
  | zero =>
      refine ⟨[], b, .nil, ?_, ⟨_, rfl⟩, rfl⟩
      rw [show seq + UInt32.ofNat 0 = seq from UInt32.add_zero _]
      exact h
  | succ n ih =>
      obtain ⟨trace, b1, hrun, hstands, ⟨tx, hstream⟩, hslave⟩ := ih
      have hhand := run_handshaken c crc32 b1 input hstands.pc hstands.requested
        hstands.ready
      have hmiss : Link.Step c crc32 (b1.handshaken crc32) (.transfer .missed 0)
          { b1.handshaken crc32 with
            worker := (b1.handshaken crc32).worker.failed .handshake
              (b1.handshaken crc32).worker.stream.rx } := rfl
      refine ⟨_, _, (hrun.append hhand).snoc hmiss,
        ⟨rfl, hstands.requested, hstands.acknowledged, hstands.coordinator, hstands.session, ?_,
          hstands.ready⟩, ⟨(b1.handshaken crc32).worker.stream.tx, ?_⟩, hslave⟩
      · change b1.worker.run.seq + 1 = _
        rw [hstands.seq, UInt32.ofNat_add, ← UInt32.add_assoc]
        rfl
      · change { b1.worker.stream with tx := (b1.handshaken crc32).worker.stream.tx } = _
        rw [hstream]

/-- A live request whose transfer is missed: the slave is to be greeted again. -/
theorem Stands.missedLive {b : Link E D} {session seq : UInt32} (h : Stands b session seq true)
    (hsource : b.worker.stream.source.requested = true) :
    ∃ trace b', Run (Link.Step c crc32) b trace b' ∧ Stands b' session (seq + 1) false ∧
      b'.worker.stream.havePrevious = false ∧
      b'.worker.stream.source = b.worker.stream.source ∧ b'.slave = b.slave := by
  obtain ⟨hpc, hreq, hack, hk, hsession, hseq, hready⟩ := h
  subst hsession hseq
  -- with the microphone on, a request goes out 5 ms after the last one in any case
  let b0 : Link E D := { b with worker := { b.worker with stream := { b.worker.stream with
    micEnabled := true } } }
  let input : PlaybackInput := { quietInput with now := b.worker.run.lastTransfer + 5000 }
  let w := (b0.worker.goto .iterate).live input
  have hlive : w.run.pc = .fill ∧ w.run.base = b.worker.run.base ∧
      w.run.seq = b.worker.run.seq + 1 ∧ w.stream.requested = false ∧
      w.stream.acknowledged = false ∧ w.stream.epoch = b.worker.stream.epoch := by
    unfold w Worker.live
    simp [b0, input, Worker.goto, hreq, hack]
  have hlast : w.stream.source = b.worker.stream.source := by
    unfold w Worker.live
    simp only
    split <;> rfl
  obtain ⟨hfill, hbase, hnumber, hrequested, hacknowledged, hepoch⟩ := hlive
  obtain ⟨readPos, tx, lastMicFrame, lastMicSeq, haveMic, hsame⟩ := fill_same crc32 w
  have h0 : Link.Step c crc32 b (.enableMic true) b0 := rfl
  have h1 : Link.Step c crc32 b0 (.worker input)
      { b0 with worker := b0.worker.goto .iterate } := by
    simp [Link.Step, Link.act, Link.workerStep, b0, hpc, Worker.top, hreq]
  have h2 : Link.Step c crc32 { b0 with worker := b0.worker.goto .iterate } (.worker input)
      (({ b0 with worker := b0.worker.goto .iterate } : Link E D).request
        (if (b0.worker.goto .iterate).wantsPlay input then some input.pcm else none) w) := by
    unfold Link.Step Link.act Link.workerStep
    change (if (!b.worker.stream.ready) = true then _ else
      if (!b.worker.stream.source.requested) = true then _ else
        if w.run.pc = .fill then _ else _) = _
    rw [hready, hsource, if_pos hfill]
    rfl
  have h3 : Link.Step c crc32 (({ b0 with worker := b0.worker.goto .iterate } : Link E D).request
      (if (b0.worker.goto .iterate).wantsPlay input then some input.pcm else none) w)
      (.worker input)
      { (({ b0 with worker := b0.worker.goto .iterate } : Link E D).request
          (if (b0.worker.goto .iterate).wantsPlay input then some input.pcm else none) w) with
        worker := w.fill crc32 } := by
    simp [Link.Step, Link.act, Link.workerStep, Link.request, hfill]
  have h4 : Link.Step c crc32
      { (({ b0 with worker := b0.worker.goto .iterate } : Link E D).request
          (if (b0.worker.goto .iterate).wantsPlay input then some input.pcm else none) w) with
        worker := w.fill crc32 } (.transfer .missed 0)
      { (({ b0 with worker := b0.worker.goto .iterate } : Link E D).request
          (if (b0.worker.goto .iterate).wantsPlay input then some input.pcm else none) w) with
        worker := (w.fill crc32).failed .live (w.fill crc32).stream.rx } := by
    unfold Link.Step Link.act Link.transferStep
    simp only [hsame]
  refine ⟨_, _, ((((Run.nil.snoc h0).snoc h1).snoc h2).snoc h3).snoc h4,
    ⟨rfl, ?_, ?_, hk, ?_, ?_, rfl⟩, rfl, ?_, rfl⟩
  · change (w.fill crc32).stream.requested = false
    rw [hsame]
    exact hrequested
  · change (w.fill crc32).stream.acknowledged = false
    rw [hsame]
    exact hacknowledged
  · change (w.fill crc32).run.base + (w.fill crc32).stream.epoch = _
    rw [hsame]
    change w.run.base + w.stream.epoch = _
    rw [hbase, hepoch]
    rfl
  · change (w.fill crc32).run.seq = _
    rw [hsame]
    exact hnumber
  · change (w.fill crc32).stream.source = _
    rw [hsame]
    exact hlast

/-- The worker has pushed the frame of an accepted reply and finished the round. -/
def Link.pushed (b : Link E D) (kind : RequestKind) : Link E D :=
  let r := b.worker.record b.history.requests.length b.history.rearms
  let w : Worker := { b.worker with run := { b.worker.run with
    pushAt := b.worker.stream.source.written, pc := .pushCopy kind } }
  { b with
    worker := ((w.pushCopy kind r).pushStore kind).finish kind true
    history := { b.history with pushes := b.history.pushes ++ [r] } }

theorem run_pushed_finished (b : Link E D) (kind : RequestKind) (input : PlaybackInput)
    (hpc : b.worker.run.pc = .accept kind)
    (hacc : Worker.acceptable crc32 b.worker.stream (b.worker.replySession kind) = true)
    (hplay : b.worker.stream.rx.byte 5 &&& cwPlay ≠ 0)
    (hroom : b.worker.stream.source.written - b.worker.stream.source.read < audioQueueFrames) :
    Run (Link.Step c crc32) b [.worker input, .worker input, .worker input, .worker input]
      (b.pushed kind) := by
  let w1 : Worker := { b.worker with run := { b.worker.run with
    pushAt := b.worker.stream.source.written, pc := .pushCopy kind } }
  let r := b.worker.record b.history.requests.length b.history.rearms
  have h1 : Link.Step c crc32 b (.worker input) { b with worker := w1 } := by
    have haccept : b.worker.accept crc32 kind = w1 := by
      unfold Worker.accept
      simp [hacc, hplay, hroom, w1]
    simp only [Link.Step, Link.act, Link.workerStep, hpc, haccept]
  have h2 : Link.Step c crc32 { b with worker := w1 } (.worker input)
      { b with worker := w1.pushCopy kind r } := rfl
  have h3 : Link.Step c crc32 { b with worker := w1.pushCopy kind r } (.worker input)
      { b with
        worker := (w1.pushCopy kind r).pushStore kind
        history := { b.history with pushes := b.history.pushes ++ [r] } } := rfl
  have h4 : Link.Step c crc32
      { b with
        worker := (w1.pushCopy kind r).pushStore kind
        history := { b.history with pushes := b.history.pushes ++ [r] } } (.worker input)
      (b.pushed kind) := rfl
  exact (((Run.nil.snoc h1).snoc h2).snoc h3).snoc h4

/-- What a live request that plays takes from the worker. -/
structure PlaySent (crc32 : List UInt8 → UInt32) (w : Worker) (input : PlaybackInput)
    (w' : Worker) : Prop where
  pc : w'.run.pc = .transfer .live
  base : w'.run.base = w.run.base
  session : w'.run.session = w.session
  seq : w'.run.seq = w.run.seq + 1
  stream : ∃ readPos tx, w'.stream = { w.stream with
    micActive := w.stream.micEnabled, readPos, tx }
  body : RequestBody w'.stream.tx
    { session := w.session, seq := w.run.seq + 1, pcm := some input.pcm, generation := 0 }
  sealed : cwCrcOk crc32 w'.stream.tx = true

theorem live_playSent (w : Worker) (input : PlaybackInput) (hplay : w.wantsPlay input = true) :
    (w.live input).run.pc = .fill ∧
      (∀ pcm generation, (w.live input).made pcm generation =
        { session := w.session, seq := w.run.seq + 1, pcm, generation }) ∧
      PlaySent crc32 w input ((w.live input).fill crc32) := by
  have hfill : (w.live input).run.pc = .fill := by
    unfold Worker.live
    simp [hplay]
  have hmade (pcm : Option PcmBlock) (generation : Nat) : (w.live input).made pcm generation =
      { session := w.session, seq := w.run.seq + 1, pcm, generation } := by
    unfold Worker.live
    simp [hplay, Worker.made]
  obtain ⟨_, _, _, _, _, hbody⟩ := live_begin w input 0 hfill
  rw [if_pos hplay, hmade] at hbody
  obtain ⟨hfilled, hcrc⟩ := fill_body crc32 _ hbody
  obtain ⟨readPos, tx, lastMicFrame, lastMicSeq, haveMic, hsame⟩ :=
    fill_same crc32 (w.live input)
  refine ⟨hfill, hmade, by rw [hsame], ?_, ?_, ?_, ⟨readPos, tx, ?_⟩, hfilled, hcrc⟩
  all_goals
    rw [hsame]
    unfold Worker.live
    simp [hplay]

theorem run_playSent (b : Link E D) (input : PlaybackInput) (hpc : b.worker.run.pc = .top)
    (hreq : b.worker.stream.requested = false) (hready : b.worker.stream.ready = true)
    (hsource : b.worker.stream.source.requested = true)
    (hplay : b.worker.wantsPlay input = true) :
    ∃ w', PlaySent crc32 b.worker input w' ∧
      Run (Link.Step c crc32) b [.worker input, .worker input, .worker input]
        { b with
          worker := w'
          history := { b.history with
            requests := b.history.requests ++
              [{ session := b.worker.session, seq := b.worker.run.seq + 1, pcm := some input.pcm
                 generation := b.history.rearms }] } } := by
  obtain ⟨hfill, hmade, hsent⟩ := live_playSent crc32 (b.worker.goto .iterate) input hplay
  refine ⟨_, ⟨hsent.pc, hsent.base, hsent.session, hsent.seq, hsent.stream, hsent.body,
    hsent.sealed⟩, ?_⟩
  have h1 : Link.Step c crc32 b (.worker input) { b with worker := b.worker.goto .iterate } := by
    simp [Link.Step, Link.act, Link.workerStep, hpc, Worker.top, hreq]
  have h2 : Link.Step c crc32 { b with worker := b.worker.goto .iterate } (.worker input)
      (({ b with worker := b.worker.goto .iterate } : Link E D).request (some input.pcm)
        ((b.worker.goto .iterate).live input)) := by
    have hwants : (b.worker.goto .iterate).wantsPlay input = true := hplay
    unfold Link.Step Link.act Link.workerStep
    change (if (!b.worker.stream.ready) = true then _ else
      if (!b.worker.stream.source.requested) = true then _ else _) = _
    rw [hready, hsource]
    simp [hfill, hwants]
  have h3 : Link.Step c crc32 (({ b with worker := b.worker.goto .iterate } : Link E D).request
      (some input.pcm) ((b.worker.goto .iterate).live input)) (.worker input)
      { (({ b with worker := b.worker.goto .iterate } : Link E D).request (some input.pcm)
          ((b.worker.goto .iterate).live input)) with
        worker := ((b.worker.goto .iterate).live input).fill crc32 } := by
    simp [Link.Step, Link.act, Link.workerStep, Link.request, hfill]
  have hrun := ((Run.nil.snoc h1).snoc h2).snoc h3
  simp only [Link.request, hmade] at hrun
  exact hrun

/-- The encoder call for a block carried by request `(session, seq)`. -/
def encodeCall (c : Codecs E D) (encoder : E) (session seq : UInt32) (pcm : PcmBlock) :
    EncodeCall :=
  { session, seq, pcm, result := (c.encode encoder pcm).1, packet := (c.encode encoder pcm).2.1 }

/-- A live request that plays crosses intact, and the slave serves it. -/
theorem Stands.playCrossed {b : Link E D} {session seq : UInt32} (h : Stands b session seq true)
    (input : PlaybackInput) (reported : Bool) (hsource : b.worker.stream.source.requested = true)
    (hplay : b.worker.wantsPlay input = true)
    (hnew : ¬ (b.slave.haveCached = true ∧ session = b.slave.lastSession ∧
      seq + 1 = b.slave.lastSeq)) :
    ∃ trace w' slave', PlaySent crc32 b.worker input w' ∧
      Served crc32 w'.stream.tx (some (encodeCall c b.slave.encoder session (seq + 1) input.pcm))
        slave' ∧
      Run (Link.Step c crc32) b trace
        { b with
          worker := if reported then w'.exchanged .live b.slave.tx 0
            else w'.failed .live b.slave.tx
          slave := slave'
          history := { b.history with
            requests := b.history.requests ++
              [{ session, seq := seq + 1, pcm := some input.pcm, generation := b.history.rearms }]
            calls := b.history.calls ++
              [encodeCall c b.slave.encoder session (seq + 1) input.pcm] } } := by
  obtain ⟨hpc, hreq, hack, hk, hsession, hseq, hready⟩ := h
  subst hsession hseq
  obtain ⟨w', hsent, hrun⟩ := run_playSent c crc32 b input hpc hreq hready hsource
    hplay
  have hcross := (step_crossed c crc32 _ .live reported hsent.pc : Link.Step c crc32
    { b with
      worker := w'
      history := { b.history with
        requests := b.history.requests ++
          [{ session := b.worker.session, seq := b.worker.run.seq + 1, pcm := some input.pcm
             generation := b.history.rearms }] } } _ _)
  have hserved := process_cases c crc32 b.slave w'.stream.tx (cwBytes * 8)
  rw [hsent.sealed, hsent.body.header, hsent.body.session, hsent.body.seq] at hserved
  have hplays : w'.stream.tx.byte 5 &&& cwPlay ≠ 0 := hsent.body.play.mpr rfl
  -- the request is sealed, so it is not bad, and it is new, so it is not repeated
  obtain ⟨hcall, hserve⟩ : (b.slave.process c crc32 w'.stream.tx (cwBytes * 8)).2 =
        requestCall c b.slave.encoder w'.stream.tx ∧
      Served crc32 w'.stream.tx (requestCall c b.slave.encoder w'.stream.tx)
        (b.slave.process c crc32 w'.stream.tx (cwBytes * 8)).1 := by
    rcases hserved with ⟨hbad, _⟩ | ⟨_, h1, h2, h3, _⟩ | ⟨_, _, hcall, hserve⟩
    · exact nomatch hbad
    · exact absurd ⟨h1, h2, h3⟩ hnew
    · exact ⟨hcall, hserve⟩
  rw [requestCall, if_pos hplays, hsent.body.session, hsent.body.seq,
    hsent.body.pcm input.pcm rfl] at hcall hserve
  have hall := hrun.snoc hcross
  simp only [Link.crossed, hcall] at hall
  exact ⟨_, w', _, hsent, hserve, hall⟩

/-- The request was served, but the worker was told that the transfer failed. -/
theorem Stands.lostLive {b : Link E D} {session seq : UInt32} (h : Stands b session seq true)
    (input : PlaybackInput) (hsource : b.worker.stream.source.requested = true)
    (hplay : b.worker.wantsPlay input = true)
    (hnew : ¬ (b.slave.haveCached = true ∧ session = b.slave.lastSession ∧
      seq + 1 = b.slave.lastSeq)) :
    ∃ trace b', Run (Link.Step c crc32) b trace b' ∧
      Stands b' session (seq + 1) false ∧
      b'.worker.stream.havePrevious = false ∧
      b'.worker.stream.source = b.worker.stream.source ∧
      Answers crc32 b'.slave.cached session (seq + 1)
        (some (encodeCall c b.slave.encoder session (seq + 1) input.pcm)) ∧
      b'.slave.haveCached = true ∧ b'.slave.lastSession = session ∧
      b'.slave.lastSeq = seq + 1 ∧
      b'.history = { b.history with
        requests := b.history.requests ++
          [{ session, seq := seq + 1, pcm := some input.pcm, generation := b.history.rearms }]
        calls := b.history.calls ++
          [encodeCall c b.slave.encoder session (seq + 1) input.pcm] } := by
  obtain ⟨trace, w', slave', hsent, hserve, hrun⟩ :=
    h.playCrossed c crc32 input false hsource hplay hnew
  obtain ⟨hpc, hreq, hack, hk, hsession, hseq, hready⟩ := h
  subst hsession hseq
  obtain ⟨readPos, tx, hstream⟩ := hsent.stream
  have hanswers := hserve.answers
  rw [← hserve.cached, hsent.body.session, hsent.body.seq] at hanswers
  refine ⟨_, _, hrun, ⟨rfl, ?_, ?_, hk, ?_, hsent.seq, rfl⟩, rfl, ?_, hanswers,
    hserve.haveCached, hserve.lastSession.trans hsent.body.session,
    hserve.lastSeq.trans hsent.body.seq, rfl⟩
  · change w'.stream.requested = false
    rw [hstream]
    exact hreq
  · change w'.stream.acknowledged = false
    rw [hstream]
    exact hack
  · change w'.run.base + w'.stream.epoch = _
    rw [hsent.base, hstream]
    rfl
  · change w'.stream.source = _
    rw [hstream]

/-- The transfer is reported as well; the reply that came with it plays nothing. -/
theorem Stands.playAnswered {b : Link E D} {session seq : UInt32} (h : Stands b session seq true)
    (input : PlaybackInput) (hsource : b.worker.stream.source.requested = true)
    (hplay : b.worker.wantsPlay input = true)
    (hnew : ¬ (b.slave.haveCached = true ∧ session = b.slave.lastSession ∧
      seq + 1 = b.slave.lastSeq)) (hnone : b.slave.tx.byte 5 &&& cwPlay = 0) :
    ∃ trace b', Run (Link.Step c crc32) b trace b' ∧ Stands b' session (seq + 1) true ∧
      Expects b' session (seq + 1) ∧ b'.worker.stream.source = b.worker.stream.source ∧
      Answers crc32 b'.slave.tx session (seq + 1)
        (some (encodeCall c b.slave.encoder session (seq + 1) input.pcm)) ∧
      b'.slave.lastSeq = seq + 1 ∧
      b'.history = { b.history with
        requests := b.history.requests ++
          [{ session, seq := seq + 1, pcm := some input.pcm, generation := b.history.rearms }]
        calls := b.history.calls ++
          [encodeCall c b.slave.encoder session (seq + 1) input.pcm] } := by
  obtain ⟨trace, w', slave', hsent, hserve, hrun⟩ :=
    h.playCrossed c crc32 input true hsource hplay hnew
  obtain ⟨hpc, hreq, hack, hk, hsession, hseq, hready⟩ := h
  subst hsession hseq
  obtain ⟨readPos, tx, hstream⟩ := hsent.stream
  have hanswers := hserve.answers
  rw [hsent.body.session, hsent.body.seq] at hanswers
  generalize hb1 : (Link.mk _ _ _ _ : Link E D) = b1 at hrun
  -- the reply that is taken in plays nothing, so the worker finishes without a push
  have hfin := run_finished c crc32 b1 .live input (by rw [← hb1]; rfl)
    (.inr (by rw [← hb1]; exact hnone))
  refine ⟨_, _, hrun.append hfin, ⟨rfl, ?_, ?_, ?_, ?_, ?_, ?_⟩, ⟨rfl, ?_, ?_⟩, ?_, ?_, ?_, ?_⟩
  all_goals rw [← hb1]
  · change w'.stream.requested = false
    rw [hstream]
    exact hreq
  · change w'.stream.acknowledged = false
    rw [hstream]
    exact hack
  · exact hk
  · change w'.run.base + w'.stream.epoch = _
    rw [hsent.base, hstream]
    rfl
  · exact hsent.seq
  · change (w'.stream.ready || false) = true
    rw [hstream, Bool.or_false]
    exact hready
  · exact hsent.session
  · exact hsent.seq
  · change w'.stream.source = _
    rw [hstream]
  · exact hanswers
  · exact hserve.lastSeq.trans hsent.body.seq

/-- The reply that comes with the next request answers the request before, and what it plays is
pushed. -/
theorem Stands.playPushed {b : Link E D} {session seq : UInt32} (h : Stands b session seq true)
    (input : PlaybackInput) (packet : Packet)
    (hacc : Worker.acceptable crc32 { b.worker.stream with rx := b.slave.tx } session = true)
    (hreply : playPart b.slave.tx = some packet)
    (hsource : b.worker.stream.source.requested = true)
    (hplay : b.worker.wantsPlay input = true)
    (hnew : ¬ (b.slave.haveCached = true ∧ session = b.slave.lastSession ∧
      seq + 1 = b.slave.lastSeq))
    (hroom : b.worker.stream.source.written - b.worker.stream.source.read < audioQueueFrames) :
    ∃ trace b', Run (Link.Step c crc32) b trace b' ∧
      b'.history = { b.history with
        requests := b.history.requests ++
          [{ session, seq := seq + 1, pcm := some input.pcm, generation := b.history.rearms }]
        calls := b.history.calls ++ [encodeCall c b.slave.encoder session (seq + 1) input.pcm]
        pushes := b.history.pushes ++
          [{ packet, request := b.history.requests.length + 1
             generation := b.history.rearms }] } := by
  obtain ⟨trace, w', slave', hsent, hserve, hrun⟩ :=
    h.playCrossed c crc32 input true hsource hplay hnew
  obtain ⟨hpc, hreq, hack, hk, hsession, hseq, hready⟩ := h
  subst hsession hseq
  obtain ⟨readPos, tx, hstream⟩ := hsent.stream
  have hplays := playPart_some hreply
  generalize hb1 : (Link.mk _ _ _ _ : Link E D) = b1 at hrun
  -- the worker behind the transfer, with the slave's reply to the request before
  have hat : b1.worker.run.pc = .accept .live := by
    rw [← hb1]
    rfl
  have hworker : b1.worker.stream = { w'.stream with rx := b.slave.tx } := by
    rw [← hb1]
    rfl
  have hanswer : b1.worker.replySession .live = b.worker.run.base + b.worker.stream.epoch := by
    rw [← hb1]
    show w'.run.base + w'.stream.epoch = _
    rw [hsent.base, hstream]
  have hpush := run_pushed_finished c crc32 b1 .live input hat
    (by rw [hworker, hanswer, hstream]; exact hacc) (by rw [hworker]; exact hplays.1)
    (by rw [hworker, hstream]; exact hroom)
  refine ⟨_, _, hrun.append hpush, ?_⟩
  rw [← hb1, ← hplays.2]
  simp [Link.pushed, Worker.record, Worker.exchanged]

/-- A whole reconnect: the worker is paused, the source rearmed and the worker goes on. -/
theorem Stands.reconnected {b : Link E D} {session seq : UInt32} {ready : Bool}
    (h : Stands b session seq ready) (input : PlaybackInput)
    (hlen : b.worker.stream.source.frames.length ≤ 4) :
    ∃ trace b', Run (Link.Step c crc32) b trace b' ∧ Stands b' session seq ready ∧
      b'.worker.stream.havePrevious = false ∧
      b'.worker.stream.source = (b.worker.stream.source.rearm true).2 ∧
      b'.slave = b.slave ∧ b'.history = { b.history with rearms := b.history.rearms + 1 } := by
  obtain ⟨hpc, hreq, hack, hk, hsession, hseq, hready⟩ := h
  have hpaused := run_paused c crc32 b input hpc hk hreq hack
  have hrearmed := run_rearmed c crc32 { b with worker := b.worker.paused } hk rfl
    rfl hlen
  have hresumed := run_resumed c crc32 { b with
    worker := { b.worker.paused with stream := { b.worker.paused.stream with
      source := (b.worker.stream.source.rearm true).2 } }
    history := { b.history with rearms := b.history.rearms + 1 } } input rfl hk
  exact ⟨_, _, (hpaused.append hrearmed).append hresumed, ⟨rfl, rfl, rfl, hk, hsession, hseq, hready⟩,
    rfl, rfl, rfl, rfl⟩

/-- A handshake whose reply plays something: the packet is pushed. -/
theorem Stands.replayed {b : Link E D} {session seq : UInt32} (h : Stands b session seq false)
    (input : PlaybackInput) (packet : Packet)
    (hacc : Worker.acceptable crc32 { b.worker.stream with rx := b.slave.tx } session = true)
    (hplay : playPart b.slave.tx = some packet)
    (hroom : b.worker.stream.source.written - b.worker.stream.source.read < audioQueueFrames) :
    ∃ trace b' r, Run (Link.Step c crc32) b trace b' ∧ r.packet = packet ∧
      b'.worker.stream.source = (b.worker.stream.source.push r).2 ∧
      b'.history.requests = b.history.requests ++
        [{ session, seq := seq + 1, pcm := none, generation := b.history.rearms }] ∧
      b'.history.calls = b.history.calls ++
        (b.slave.process c crc32 (handshakeFrame crc32 session (seq + 1)) (cwBytes * 8)).2.toList ∧
      b'.history.rearms = b.history.rearms := by
  obtain ⟨hpc, hreq, hack, hk, hsession, hseq, hready⟩ := h
  subst hsession hseq
  have hplay' := playPart_some hplay
  have hmade := run_handshaken c crc32 b input hpc hreq hready
  have hcross := step_crossed c crc32 (b.handshaken crc32) .handshake true rfl
  obtain ⟨trace, b', hpushed, hsource, _, hrequests, hcalls, hrearms⟩ :=
    run_pushed c crc32 ((b.handshaken crc32).crossed c crc32 .handshake true)
      .handshake input rfl hacc hplay'.1 hroom
  refine ⟨_, b', _, (hmade.snoc hcross).append hpushed, ?_, hsource, hrequests, hcalls, hrearms⟩
  exact hplay'.2

/-- A handshake the worker accepts: the reply it gets answers the handshake before. -/
theorem Answered.acceptable {b b' : Link E D} {session seq : UInt32}
    (h : Answered crc32 b b' session seq) :
    Worker.acceptable crc32 { b'.worker.stream with rx := b'.slave.tx } session = true := by
  unfold Worker.acceptable
  simp only [h.answers.valid, h.answers.session, h.answers.seq, h.expects.have', h.expects.session,
    h.expects.seq]
  simp

/-- Two handshakes after start-up the slave has answered. -/
theorem run_ready (packets : Fin 16 → MicPacket) (encoder : E) (decoder : D) (rx : CwFrame) :
    ∃ trace b, Run (Link.Step c crc32) (Link.init crc32 1 packets encoder decoder rx) trace b ∧
      Stands b 1 2 true ∧ b.worker.stream.source = .init ∧ b.slave.encoder = encoder ∧
      b.slave.lastSeq = 2 ∧ b.history.calls = [] ∧ b.history.rearms = 0 ∧
      b.history.requests =
        [{ session := 1, seq := 1, pcm := none, generation := 0 },
          { session := 1, seq := 2, pcm := none, generation := 0 }] ∧
      b.history.pushes = [] ∧ b.slave.tx.byte 5 = 0 ∧
      SameMic (Link.init crc32 1 packets encoder decoder rx).worker b.worker := by
  have h0 : Stands (Link.init crc32 1 packets encoder decoder rx) 1 0 false :=
    ⟨rfl, rfl, rfl, rfl, rfl, rfl, rfl⟩
  obtain ⟨trace1, b1, hrun1, h1, ha1⟩ := h0.answered c crc32 quietInput (.inl rfl)
    (fun h => nomatch h.1)
  rw [acceptable_none _ _ _ rfl, Bool.false_and] at h1
  obtain ⟨trace2, b2, hrun2, h2, ha2⟩ := h1.answered c crc32 quietInput
    (.inr (by rw [ha1.flags]; rfl)) (fun h => absurd (ha1.lastSeq ▸ h.2.2) (by decide))
  rw [ha1.acceptable, ha1.status] at h2
  refine ⟨_, b2, hrun1.append hrun2, h2, ha2.source.trans ha1.source,
    ha2.encoder.trans ha1.encoder, ha2.lastSeq, ?_, ?_, ?_, ?_, ha2.flags, ?_⟩
  case refine_5 =>
    exact ⟨ha2.mic.enabled.trans ha1.mic.enabled, ha2.mic.written.trans ha1.mic.written,
      ha2.mic.readPos.trans ha1.mic.readPos, ha2.mic.haveMic.trans ha1.mic.haveMic⟩
  all_goals
    rw [ha2.history, ha1.history]
    rfl

/-- The controller has begun to select after that, so the worker is live. -/
theorem run_selecting (packets : Fin 16 → MicPacket) (encoder : E) (decoder : D) (rx : CwFrame) :
    ∃ trace b, Run (Link.Step c crc32) (Link.init crc32 1 packets encoder decoder rx) trace b ∧
      Stands b 1 2 true ∧
      b.worker.stream.source = ((AudioSource.init (α := Record)).select 0 default).2.2 ∧
      b.slave.encoder = encoder ∧ b.slave.lastSeq = 2 ∧ b.history.calls = [] ∧
      b.history.rearms = 0 ∧
      b.history.requests =
        [{ session := 1, seq := 1, pcm := none, generation := 0 },
          { session := 1, seq := 2, pcm := none, generation := 0 }] ∧
      b.history.pushes = [] ∧ b.slave.tx.byte 5 = 0 ∧
      SameMic (Link.init crc32 1 packets encoder decoder rx).worker b.worker := by
  obtain ⟨trace, b, hrun, h, hsource, hencoder, hseq, hcalls, hrearms, hrequests, hpushes, hflags,
    hmic⟩ := run_ready c crc32 packets encoder decoder rx
  have hidle : ¬ b.rearming := by
    unfold Link.rearming
    rw [h.coordinator]
    exact id
  have hselect : Link.Step c crc32 b (.select 0 default)
      { b with worker := { b.worker with stream := { b.worker.stream with
        source := (b.worker.stream.source.select 0 default).2.2 } } } := by
    unfold Link.Step Link.act
    simp only [if_neg hidle]
  refine ⟨_, _, hrun.snoc hselect, ⟨h.pc, h.requested, h.acknowledged, h.coordinator, h.session,
    h.seq, h.ready⟩, ?_, hencoder, hseq, hcalls, hrearms, hrequests, hpushes, hflags,
    ⟨hmic.enabled, hmic.written, hmic.readPos, hmic.haveMic⟩⟩
  rw [hsource]

/-- A frame pushed into an empty source just rearmed is the next one selected. -/
theorem select_pushed {α : Type*} [Inhabited α] (s : AudioSource α) (r : α)
    (hempty : s.written = s.read) (hany : s.selectedAny = false)
    (hlatch : ∀ i, (s.latch i).valid = false) (event : UInt32) (buffer : α) :
    ((s.push r).2.select event buffer).1 = 1 ∧ ((s.push r).2.select event buffer).2.1 = r := by
  have hpush : (s.push r).2 = { s with
      queue := Function.update s.queue (queueSlot s.written) r, written := s.written + 1 } := by
    unfold AudioSource.push
    rw [hempty, UInt32.sub_self]
    rfl
  have hone : s.read + 1 - s.read = 1 := by
    rw [UInt32.add_comm, UInt32.add_sub_cancel]
  have hbound : ¬ (1 : UInt32) > audioQueueFrames := by decide
  rw [hpush]
  simp [AudioSource.select, AudioSource.latched, AudioSource.selectNew, AudioSource.skipped, hempty,
    hany, hlatch, hone, hbound]

/-- Codecs that encode every block to one packet that is not silence. -/
def markedCodecs : Codecs Unit Unit :=
  { silentCodecs with encode := fun _ _ => (0, Vector.replicate 190 7, ()) }

/-- Playback is active on a host that is not mounted, so a block is always wanted. -/
def playingInput : PlaybackInput :=
  { quietInput with playbackActive := true }

/-- The packet of the first play request is pushed with the reply to the second one. -/
theorem run_played : ∃ trace, ∃ b : Link Unit Unit,
    Run (Link.Step markedCodecs crc32Le) (Link.init crc32Le 1 noPackets () () .zero) trace b ∧
    b.history.requests.length = 4 ∧ b.history.pushes =
      [{ packet := Vector.replicate 190 7, request := 4, generation := 0 }] := by
  obtain ⟨t1, b1, hrun1, h1, hsource1, _, hlast1, _, hrearms1, hrequests1, hpushes1, hflags1, _⟩ :=
    run_selecting markedCodecs crc32Le noPackets () () .zero
  -- the first play request; what comes with it answers the handshake before
  obtain ⟨t2, b2, hrun2, h2, he2, hsource2, hanswers2, hlast2, hhistory2⟩ :=
    h1.playAnswered markedCodecs crc32Le playingInput (by rw [hsource1]; rfl)
      (by unfold Worker.wantsPlay; rw [hsource1]; rfl)
      (by rw [hlast1]; exact fun h => absurd h.2.2 (by decide)) (by rw [hflags1]; rfl)
  rw [hsource1] at hsource2
  have hacc : Worker.acceptable crc32Le { b2.worker.stream with rx := b2.slave.tx } 1 = true := by
    unfold Worker.acceptable
    simp only [hanswers2.valid, hanswers2.session, hanswers2.seq, he2.have', he2.session, he2.seq]
    rfl
  -- with the second one the packet of the first comes back
  obtain ⟨t3, b3, hrun3, hhistory3⟩ :=
    h2.playPushed markedCodecs crc32Le playingInput _ hacc hanswers2.play
      (by rw [hsource2]; rfl) (by unfold Worker.wantsPlay; rw [hsource2]; rfl)
      (by rw [hlast2]; exact fun h => absurd h.2.2 (by decide)) (by rw [hsource2]; decide)
  refine ⟨_, b3, (hrun1.append hrun2).append hrun3, ?_, ?_⟩
  · rw [hhistory3, hhistory2, hrequests1]
    rfl
  · rw [hhistory3, hhistory2, hpushes1, hrequests1, hrearms1]
    rfl

/-- The pushed packet was asked for two requests earlier. -/
theorem codecPipeline_paired_pushed :
    ∃ trace, ∃ b : Link Unit Unit,
      Run (Link.Step markedCodecs crc32Le) (Link.init crc32Le 1 noPackets () () .zero) trace b ∧
      b.history.pushes = [{ packet := Vector.replicate 190 7, request := 4, generation := 0 }] ∧
      ∀ r ∈ b.history.pushes, ∃ before p, r.request = before + 2 ∧
        b.history.requests[before]? = some p ∧
        ∃ call ∈ b.history.calls, call.session = p.session ∧ call.seq = p.seq ∧
          p.pcm = some call.pcm ∧ call.result = 0 ∧ call.packet = r.packet := by
  obtain ⟨trace, b, hrun, hrequests, hpushes⟩ := run_played
  exact ⟨trace, b, hrun, hpushes,
    (codecPipeline_paired hrun (by rw [hrequests]; exact show 4 < 2 ^ 32 by decide)).1⟩

/-- A reconnect with a cached reply, and all handshakes missed until its number is due again. -/
theorem Stands.wrapped {b : Link E D} (h : Stands b 1 3 false) (hhave : b.slave.haveCached = true)
    (hsession : b.slave.lastSession = 1) (hseq : b.slave.lastSeq = 3)
    (hlen : b.worker.stream.source.frames.length ≤ 4) :
    ∃ trace b', Run (Link.Step c crc32) b trace b' ∧ Stands b' 1 3 false ∧ Expects b' 1 3 ∧
      b'.slave.tx = b.slave.cached ∧ b'.slave.haveCached = true ∧ b'.slave.lastSession = 1 ∧
      b'.slave.lastSeq = 3 ∧
      b'.worker.stream.source = (b.worker.stream.source.rearm true).2 ∧
      b'.history.calls = b.history.calls ∧ b'.history.rearms = b.history.rearms + 1 ∧
      ∃ requests, b'.history.requests = b.history.requests ++ requests ∧
        ∀ r ∈ requests, r.pcm = none := by
  obtain ⟨t1, b1, hrun1, h1, hnone1, hsource1, hslave1, hhistory1⟩ :=
    h.reconnected c crc32 quietInput hlen
  -- each missed handshake takes a number, until the next is the cached one again
  obtain ⟨t2, b2, hrun2, h2, hm⟩ := h1.missed c crc32 quietInput (2 ^ 32 - 1)
  obtain ⟨requests, hrequests, hall⟩ := hm.requests
  rw [show (3 : UInt32) + UInt32.ofNat (2 ^ 32 - 1) = 2 by decide] at h2
  have hnone2 := hm.havePrevious.trans hnone1
  obtain ⟨t3, b3, hrun3, h3, he3, hsource3, hslave3, hhistory3, -⟩ :=
    h2.handshake c crc32 quietInput (.inl hnone2)
  have hslave2 : b2.slave = b.slave := hm.slave.trans hslave1
  have hrepeat := process_repeated c crc32 b2.slave 1 (2 + 1)
    (by rw [hslave2]; exact hhave) (by rw [hslave2]; exact hsession) (by rw [hslave2]; exact hseq)
  rw [hrepeat, hslave2] at hslave3
  rw [hrepeat] at hhistory3
  have hrefused : Worker.acceptable crc32 { b2.worker.stream with rx := b2.slave.tx } 1 = false :=
    acceptable_none _ _ _ hnone2
  rw [hrefused, Bool.false_and] at h3
  refine ⟨_, b3, (hrun1.append hrun2).append hrun3, h3, he3, ?_, ?_, ?_, ?_,
    hsource3.trans (hm.source.trans hsource1), ?_, ?_,
    requests ++ [{ session := 1, seq := 2 + 1, pcm := none, generation := b2.history.rearms }], ?_, ?_⟩
  · rw [hslave3]
  · rw [hslave3]
    exact hhave
  · rw [hslave3]
    exact hsession
  · rw [hslave3]
    exact hseq
  · rw [hhistory3]
    simpa using hm.calls.trans (by rw [hhistory1])
  · rw [hhistory3]
    exact hm.rearms.trans (by rw [hhistory1])
  · rw [hhistory3]
    change b2.history.requests ++ _ = _
    rw [hrequests, hhistory1, List.append_assoc]
  · intro r hr
    rcases List.mem_append.mp hr with hold | hnew
    · exact hall r hold
    · rw [List.mem_singleton.mp hnew]

/-- A reply cached before a rearm is played after it once 2^32 requests have been made. -/
theorem run_leaked : ∃ trace, ∃ b : Link Unit Unit,
    Run (Link.Step markedCodecs crc32Le) (Link.init crc32Le 1 noPackets () () .zero) trace b ∧
    b.history.rearms = 1 ∧
    (b.worker.stream.source.select 1 default).1 = 1 ∧
    ∃ call p, b.history.calls = [call] ∧ p ∈ b.history.requests ∧ p.generation = 0 ∧
      call.session = p.session ∧ call.seq = p.seq ∧ p.pcm = some call.pcm ∧
      (∀ q ∈ b.history.requests, q ≠ p → q.pcm = none) ∧
      (b.worker.stream.source.select 1 default).2.1.packet = call.packet := by
  obtain ⟨t2, b2, hrun2, h2, hsource2, hencoder2, hlast2, hcalls2, hrearms2, hrequests2, -⟩ :=
    run_selecting markedCodecs crc32Le noPackets () () .zero
  -- its first block is encoded, but the transfer is reported failed
  obtain ⟨t3, b3, hrun3, h3, hprev3, hsource3, hanswers3, hcached3, hsession3, hseq3,
    hhistory3⟩ := h2.lostLive markedCodecs crc32Le playingInput
      (by rw [hsource2]; rfl)
      (by unfold Worker.wantsPlay; rw [hsource2]; rfl)
      (by rw [hlast2]; exact fun h => absurd h.2.2 (by decide))
  obtain ⟨t4, b4, hrun4, h4, he4, htx4, hcached4, hsession4, hseq4, hsource4, hcalls4, hrearms4,
    requests, hrequests4, hnone⟩ := h3.wrapped markedCodecs crc32Le hcached3
      hsession3 hseq3 (by rw [hsource3, hsource2, frames_length]; decide)
  rw [hsource3, hsource2] at hsource4
  have hvalid : Worker.acceptable crc32Le { b4.worker.stream with rx := b4.slave.tx } 1 = true := by
    unfold Worker.acceptable
    simp only [htx4, hanswers3.valid, hanswers3.session, hanswers3.seq, he4.have', he4.session,
      he4.seq]
    rfl
  have hplay4 : playPart b4.slave.tx = some (Vector.replicate 190 7) := by
    rw [htx4, hanswers3.play]
    rfl
  obtain ⟨t5, b5, r, hrun5, hr, hsource5, hrequests5, hcalls5, hrearms5⟩ :=
    h4.replayed markedCodecs crc32Le quietInput _ hvalid hplay4
      (by rw [hsource4]; decide)
  obtain ⟨tx5, _, _, _, hprocess5⟩ := process_handshake markedCodecs crc32Le
    b4.slave 1 (3 + 1) (by rw [hseq4]; exact fun h => absurd h.2.2 (by decide))
  rw [hprocess5, hcalls4, hhistory3, hcalls2] at hcalls5
  rw [hrequests4, hhistory3, hrequests2] at hrequests5
  rw [hrearms4, hhistory3, hrearms2] at hrearms5
  rw [hsource4] at hsource5
  have hselect5 : (b5.worker.stream.source.select 1 default).1 = 1 ∧
      (b5.worker.stream.source.select 1 default).2.1 = r := by
    rw [hsource5]
    exact select_pushed _ r rfl rfl (fun _ => rfl) 1 default
  refine ⟨_, b5, ((hrun2.append hrun3).append hrun4).append hrun5, hrearms5,
    hselect5.1, _, { session := 1, seq := 3, pcm := some playingInput.pcm, generation := 0 },
    hcalls5, ?_, rfl, rfl, rfl, rfl, ?_, ?_⟩
  · rw [hrequests5, hrearms2]
    simp
  · intro q hq hne
    rw [hrequests5] at hq
    simp only [List.mem_append, List.mem_cons, List.not_mem_nil, or_false, hrearms2] at hq
    rcases hq with ((((rfl | rfl) | hlost) | hq) | rfl)
    · rfl
    · rfl
    · exact absurd hlost hne
    · exact hnone q hq
    · rfl
  · rw [hselect5.2, hr]
    rfl

/-- A pause given up while the worker is still raising its acknowledgement, and the next one taken
for granted by it. -/
def overtakingTrace : List LinkAction :=
  [.pause, .coordinator, .coordinator, .worker quietInput, .poll true, .resume,
   .pause, .coordinator, .worker quietInput, .worker quietInput, .coordinator, .poll false,
   .rearm, .coordinator, .coordinator, .coordinator, .coordinator, .coordinator, .worker quietInput]

/-- The rearm after it succeeds on a worker that has lowered its acknowledgement again. -/
theorem run_overtaken : ∃ b : Link Unit Unit,
    Run (Link.Step silentCodecs crc32Le) (Link.init crc32Le 1 noPackets () () .zero)
      overtakingTrace b ∧
    b.coordinator = .rearmClear ∧ b.worker.run.pc = .top ∧
    ∃ b', Link.Step silentCodecs crc32Le b .coordinator b' ∧ b'.worker.run.pc = .top ∧
      b'.history.rearms = b.history.rearms + 1 := by
  have h : ((overtakingTrace.foldlM (Link.act silentCodecs crc32Le)
      (Link.init crc32Le 1 noPackets () () .zero)).map fun b =>
        (b.worker.run.pc, b.coordinator)) = some (.top, .rearmClear) := rfl
  obtain ⟨b, hb, hpair⟩ := Option.map_eq_some_iff.mp h
  obtain ⟨hpc, hk⟩ := Prod.mk.inj hpair
  refine ⟨b, Run.of_foldlM hb, hk, hpc, ?_⟩
  unfold Link.Step Link.act Link.coordinatorStep
  simp [hk, hpc]

end UllReceiver.Bridge
