import UllReceiver.Bridge.System

/-! What one step of the codec bridge can do, one case for each place it starts from. -/

namespace UllReceiver.Bridge

open Audio

variable {E D : Type} {c : Codecs E D} {crc32 : List UInt8 → UInt32}

inductive WorkerMove (crc32 : List UInt8 → UInt32) (b : Link E D) (input : PlaybackInput) :
    Link E D → Prop
  | park (hpc : b.worker.run.pc = .top) (hreq : b.worker.stream.requested = true) :
      WorkerMove crc32 b input { b with worker := b.worker.park }
  | enter (hpc : b.worker.run.pc = .top) (hreq : b.worker.stream.requested = false) :
      WorkerMove crc32 b input { b with worker := b.worker.goto .iterate }
  | acknowledge (hpc : b.worker.run.pc = .acknowledge) :
      WorkerMove crc32 b input { b with worker :=
        { stream := { b.worker.stream with acknowledged := true }
          run := { b.worker.run with pc := .waiting } } }
  | wait (hpc : b.worker.run.pc = .waiting) (hreq : b.worker.stream.requested = true) :
      WorkerMove crc32 b input b
  | leave (hpc : b.worker.run.pc = .waiting) (hreq : b.worker.stream.requested = false) :
      WorkerMove crc32 b input { b with worker := b.worker.goto .depart }
  | depart (hpc : b.worker.run.pc = .depart) :
      WorkerMove crc32 b input { b with worker :=
        { stream := { b.worker.stream with acknowledged := false }
          run := { b.worker.run with pc := .top } } }
  | handshake (hpc : b.worker.run.pc = .iterate) (hready : b.worker.stream.ready = false) :
      WorkerMove crc32 b input (b.request none (b.worker.handshake crc32))
  | idle (hpc : b.worker.run.pc = .iterate) (hready : b.worker.stream.ready = true)
      (hreq : b.worker.stream.source.requested = false) :
      WorkerMove crc32 b input { b with worker := b.worker.idle }
  | live (hpc : b.worker.run.pc = .iterate) (hready : b.worker.stream.ready = true)
      (hreq : b.worker.stream.source.requested = true)
      (hfill : (b.worker.live input).run.pc = .fill) :
      WorkerMove crc32 b input
        (b.request (if b.worker.wantsPlay input then some input.pcm else none)
          (b.worker.live input))
  | pass (hpc : b.worker.run.pc = .iterate) (hready : b.worker.stream.ready = true)
      (hreq : b.worker.stream.source.requested = true)
      (hfill : (b.worker.live input).run.pc ≠ .fill) :
      WorkerMove crc32 b input { b with worker := b.worker.live input }
  | fill (hpc : b.worker.run.pc = .fill) :
      WorkerMove crc32 b input { b with worker := b.worker.fill crc32 }
  | accept (kind : RequestKind) (hpc : b.worker.run.pc = .accept kind) :
      WorkerMove crc32 b input { b with worker := b.worker.accept crc32 kind }
  | pushCopy (kind : RequestKind) (hpc : b.worker.run.pc = .pushCopy kind) :
      WorkerMove crc32 b input { b with
        worker := b.worker.pushCopy kind
          (b.worker.record b.history.requests.length b.history.rearms) }
  | pushStore (kind : RequestKind) (hpc : b.worker.run.pc = .pushStore kind) :
      WorkerMove crc32 b input { b with
        worker := b.worker.pushStore kind
        history := { b.history with
          pushes := b.history.pushes ++
            [b.worker.record b.history.requests.length b.history.rearms] } }
  | finish (kind : RequestKind) (accepted : Bool)
      (hpc : b.worker.run.pc = .finish kind accepted) :
      WorkerMove crc32 b input { b with worker := b.worker.finish kind accepted }

theorem workerStep_move {b b' : Link E D} {input : PlaybackInput}
    (hs : b.workerStep crc32 input = some b') : WorkerMove crc32 b input b' := by
  unfold Link.workerStep at hs
  simp only at hs
  split at hs
  case h_1 hpc =>
    simp only [Option.some.injEq, Worker.top] at hs
    subst hs
    split
    · exact .park hpc ‹_›
    · exact .enter hpc (Bool.eq_false_iff.mpr ‹_›)
  case h_2 hpc => cases hs; exact .acknowledge hpc
  case h_3 hpc =>
    simp only [Option.some.injEq] at hs
    subst hs
    split
    · exact .wait hpc ‹_›
    · exact .leave hpc (Bool.eq_false_iff.mpr ‹_›)
  case h_4 hpc => cases hs; exact .depart hpc
  case h_5 hpc =>
    split at hs
    · cases hs
      exact .handshake hpc (by simpa using ‹(!b.worker.stream.ready) = true›)
    · split at hs
      · cases hs; exact .idle hpc (by simpa using ‹¬ (!b.worker.stream.ready) = true›)
          (by simpa using ‹(!b.worker.stream.source.requested) = true›)
      · have hready : b.worker.stream.ready = true := by
          simpa using ‹¬ (!b.worker.stream.ready) = true›
        have hreq : b.worker.stream.source.requested = true := by
          simpa using ‹¬ (!b.worker.stream.source.requested) = true›
        split at hs
        · cases hs; exact .live hpc hready hreq ‹_›
        · cases hs; exact .pass hpc hready hreq ‹_›
  case h_6 hpc => cases hs; exact .fill hpc
  case h_7 => exact nomatch hs
  case h_8 kind hpc => cases hs; exact .accept kind hpc
  case h_9 kind hpc => cases hs; exact .pushCopy kind hpc
  case h_10 kind hpc => cases hs; exact .pushStore kind hpc
  case h_11 kind accepted hpc => cases hs; exact .finish kind accepted hpc

inductive TransferMove (c : Codecs E D) (crc32 : List UInt8 → UInt32) (b : Link E D) :
    Link E D → Prop
  | missed (kind : RequestKind) (hpc : b.worker.run.pc = .transfer kind) :
      TransferMove c crc32 b { b with worker := b.worker.failed kind b.worker.stream.rx }
  | crossed (kind : RequestKind) (hpc : b.worker.run.pc = .transfer kind) (now : Int)
      (reported : Bool) (toSlave : CwFrame) (bits : Nat) (toWorker : CwFrame)
      (hslave : Link.Received crc32 b.worker.stream.tx toSlave bits)
      (hworker : Link.Received crc32 b.slave.tx toWorker (cwBytes * 8)) :
      TransferMove c crc32 b { b with
        worker := if reported then b.worker.exchanged kind toWorker now
          else b.worker.failed kind toWorker
        slave := (b.slave.process c crc32 toSlave bits).1
        history := { b.history with
          calls := b.history.calls ++ (b.slave.process c crc32 toSlave bits).2.toList } }

theorem transferStep_move {b b' : Link E D} {t : Transfer} {now : Int}
    (hs : b.transferStep c crc32 t now = some b') : TransferMove c crc32 b b' := by
  unfold Link.transferStep at hs
  split at hs
  case h_1 kind hpc => cases hs; exact .missed kind hpc
  case h_2 kind reported toSlave bits toWorker hpc =>
    split at hs
    · cases hs
      exact .crossed kind hpc now reported toSlave bits toWorker (‹_ ∧ _›).1 (‹_ ∧ _›).2
    · exact nomatch hs
  case h_3 => exact nomatch hs

/-- Everything the coordinator's steps leave to the worker. -/
inductive CoordinatorMove (b : Link E D) : Link E D → Prop
  | refused (hk : b.coordinator = .pauseRequested ∨ b.coordinator = .rearmAcknowledged ∨
        ∃ written, b.coordinator = .rearmRead written) :
      CoordinatorMove b { b with coordinator := .idle }
  | clear (hk : b.coordinator = .pauseRequested) :
      CoordinatorMove b { b with coordinator := .pauseStore }
  | hold (hk : b.coordinator = .pauseStore) :
      CoordinatorMove b { b with
        worker := { b.worker with stream := { b.worker.stream with requested := true } }
        coordinator := .pausePoll }
  | found (hk : b.coordinator = .rearmAcknowledged) (hack : b.worker.stream.acknowledged = true) :
      CoordinatorMove b { b with coordinator := .rearmWritten }
  | loadWritten (hk : b.coordinator = .rearmWritten) :
      CoordinatorMove b { b with coordinator := .rearmRead b.worker.stream.source.written }
  | loadRead (written : UInt32) (hk : b.coordinator = .rearmRead written) :
      CoordinatorMove b { b with coordinator := .rearmDiscard written b.worker.stream.source.read }
  | discard (written read : UInt32) (hk : b.coordinator = .rearmDiscard written read) :
      CoordinatorMove b { b with
        worker := { b.worker with stream := { b.worker.stream with
          source := { b.worker.stream.source with
            discarded := b.worker.stream.source.discarded + (written - read) } } }
        coordinator := .rearmStore written }
  | store (written : UInt32) (hk : b.coordinator = .rearmStore written) :
      CoordinatorMove b { b with
        worker := { b.worker with stream := { b.worker.stream with
          source := { b.worker.stream.source with read := written, requested := false } } }
        coordinator := .rearmClear }
  | rearmed (hk : b.coordinator = .rearmClear) :
      CoordinatorMove b { b with
        worker := { b.worker with stream := { b.worker.stream with
          source := { b.worker.stream.source with
            latch := fun _ => Latch.zero, lastEvent := 0, selectedAny := false } } }
        coordinator := .idle
        history := { b.history with rearms := b.history.rearms + 1 } }

theorem coordinatorStep_move {b b' : Link E D} (hs : b.coordinatorStep = some b') :
    CoordinatorMove b b' := by
  unfold Link.coordinatorStep at hs
  simp only at hs
  split at hs
  case h_1 hk =>
    simp only [Option.some.injEq] at hs
    subst hs
    split
    · exact .refused (.inl hk)
    · exact .clear hk
  case h_2 hk => cases hs; exact .hold hk
  case h_3 hk =>
    simp only [Option.some.injEq] at hs
    subst hs
    split
    · exact .found hk ‹_›
    · exact .refused (.inr (.inl hk))
  case h_4 hk => cases hs; exact .loadWritten hk
  case h_5 written hk =>
    simp only [Option.some.injEq] at hs
    subst hs
    split
    · exact .refused (.inr (.inr ⟨written, hk⟩))
    · exact .loadRead written hk
  case h_6 written read hk => cases hs; exact .discard written read hk
  case h_7 written hk => cases hs; exact .store written hk
  case h_8 hk => cases hs; exact .rearmed hk
  case h_9 => exact nomatch hs
  case h_10 => exact nomatch hs

/-- Entering and leaving the coordinator's calls, and everyone else's writes. -/
inductive OutsideMove (b : Link E D) : Link E D → Prop
  | coordinator (k : CoordinatorPc)
      (hk : k = .idle ∧ (b.coordinator = .idle ∨ b.coordinator = .pausePoll) ∨
        k = .pauseRequested ∧ b.coordinator = .idle ∨
        k = .pausePoll ∧ b.coordinator = .pausePoll ∨
        k = .rearmAcknowledged ∧ b.coordinator = .idle ∧ b.worker.stream.requested = true) :
      OutsideMove b { b with coordinator := k }
  | resume (hk : b.coordinator = .idle) :
      OutsideMove b { b with worker := { b.worker with stream := { b.worker.stream with
        requested := false } } }
  | select (event : UInt32) (buffer : Record) (hk : ¬ b.rearming) :
      OutsideMove b { b with worker := { b.worker with stream := { b.worker.stream with
        source := (b.worker.stream.source.select event buffer).2.2 } } }
  | outside (epoch : UInt32) (micEnabled : Bool) (packets : Fin 16 → MicPacket)
      (written : UInt32) :
      OutsideMove b { b with worker := { b.worker with stream := { b.worker.stream with
        epoch, micEnabled, packets, written } } }

/-- Every step is one of the four kinds. -/
theorem step_move {b b' : Link E D} {a : LinkAction} (hs : Link.Step c crc32 b a b') :
    (∃ input, a = .worker input ∧ WorkerMove crc32 b input b') ∨ TransferMove c crc32 b b' ∨
      CoordinatorMove b b' ∨ OutsideMove b b' := by
  unfold Link.Step at hs
  cases a with
  | worker input => exact .inl ⟨input, rfl, workerStep_move hs⟩
  | transfer t now => exact .inr (.inl (transferStep_move hs))
  | coordinator => exact .inr (.inr (.inl (coordinatorStep_move hs)))
  | pause =>
      simp only [Link.act] at hs
      split at hs
      · cases hs
        refine .inr (.inr (.inr (.coordinator _ ?_)))
        split
        · exact .inl ⟨rfl, .inl ‹_›⟩
        · exact .inr (.inl ⟨rfl, ‹_›⟩)
      · exact nomatch hs
  | poll expired =>
      simp only [Link.act] at hs
      split at hs
      · cases hs
        refine .inr (.inr (.inr (.coordinator _ ?_)))
        split
        · exact .inl ⟨rfl, .inr ‹_›⟩
        · exact .inr (.inr (.inl ⟨rfl, ‹_›⟩))
      · exact nomatch hs
  | rearm =>
      simp only [Link.act] at hs
      split at hs
      · cases hs
        refine .inr (.inr (.inr (.coordinator _ ?_)))
        split
        · exact .inr (.inr (.inr ⟨rfl, ‹_›, ‹_›⟩))
        · exact .inl ⟨rfl, .inl ‹_›⟩
      · exact nomatch hs
  | resume =>
      simp only [Link.act] at hs
      split at hs
      · cases hs; exact .inr (.inr (.inr (.resume ‹_›)))
      · exact nomatch hs
  | select event buffer =>
      simp only [Link.act] at hs
      split at hs
      · exact nomatch hs
      · cases hs; exact .inr (.inr (.inr (.select event buffer ‹_›)))
  | newSession =>
      cases hs
      exact .inr (.inr (.inr (.outside _ _ _ _)))
  | enableMic enable =>
      cases hs
      exact .inr (.inr (.inr (.outside _ _ _ _)))
  | microphone frame atUs seq payload =>
      simp only [Link.act, Option.some.injEq, Link.microphoneFrame] at hs
      subst hs
      split
      · exact .inr (.inr (.inr (.outside _ _ _ _)))
      · exact .inr (.inr (.inr (.outside _ _ _ _)))

end UllReceiver.Bridge
