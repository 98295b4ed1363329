import UllReceiver.Bridge.MicRing
import UllReceiver.Library.Counter
import UllReceiver.Library.RingView

/-!
# Microphone packets taken

What the other steps of the bridge leave of the microphone ring, and what the worker does with a
packet it takes.
-/

namespace UllReceiver.Bridge

open Library

variable {E D : Type} {c : Codecs E D} {crc32 : List UInt8 → UInt32}

/-! ## Counters and slots -/

theorem ringSlot_sub (w r : UInt32) (k : Nat) :
    ringSlot 16 (w.toNat + k) = ringSlot 16 (r.toNat + ((w - r).toNat + k)) := by
  apply ringSlot_congr
  have hsum := counter_add_sub w r
  unfold Nat.ModEq
  omega

theorem counter_sub_pos {w r : UInt32} (h : w ≠ r) : 0 < (w - r).toNat := by
  apply Nat.pos_of_ne_zero
  intro hzero
  have hsum := counter_add_sub w r
  rw [hzero, Nat.add_zero, Nat.mod_eq_of_lt r.toNat_lt] at hsum
  exact h (UInt32.toNat_inj.mp hsum.symm)

/-- The consumer jumps to an index between it and the producer. -/
theorem counter_sub_jump {w m r : UInt32} (h : (m - r).toNat ≤ (w - r).toNat) :
    (w - m).toNat = (w - r).toNat - (m - r).toNat := by
  have hm : r + (m - r) = m := by
    rw [UInt32.add_comm, UInt32.sub_add_cancel]
  have hadvance := counter_sub_advance w r (m - r) h
  rwa [hm] at hadvance

/-- The consumer's own step. -/
theorem counter_step_sub (r : UInt32) : (r + 1 - r).toNat = 1 := by
  rw [UInt32.add_comm, UInt32.add_sub_cancel]
  rfl

/-- The cast of the 64-bit time keeps its low half. -/
theorem ofInt_ofNat (n : Nat) : UInt32.ofInt (Int.ofNat n) = UInt32.ofNat n := by
  apply UInt32.toNat_inj.mp
  have hlow : (Int.ofNat n % 2 ^ 32).toNat = n % 2 ^ 32 := by
    change ((n : Int) % 2 ^ 32).toNat = _
    omega
  rw [UInt32.ofInt, hlow, UInt32.toNat_ofNat', UInt32.toNat_ofNat', Nat.mod_mod]

/-! ## The rest of the bridge -/

/-- What the other steps of the bridge do to the microphone ring. -/
structure Beside (a : LinkAction) (b b' : Link E D) : Prop where
  packets : b'.worker.stream.packets = b.worker.stream.packets
  written : b'.worker.stream.written = b.worker.stream.written
  readPos : b'.worker.stream.readPos = b.worker.stream.readPos ∨
    b'.worker.stream.readPos = b.worker.stream.written ∧ b.worker.run.pc = .top
  last : b'.worker.run.haveMic = true → b.worker.run.haveMic = true ∧
    b'.worker.run.lastMicFrame = b.worker.run.lastMicFrame ∧
    b'.worker.run.lastMicSeq = b.worker.run.lastMicSeq
  scanning : b.worker.run.pc = .fill → b'.worker.run = b.worker.run
  fills : b'.worker.run.pc = .fill → b.worker.run.pc = .fill ∨
    ∃ input, a = .worker input ∧ b.worker.run.pc = .iterate ∧ b'.worker.run.now = input.now

/-- Steps that leave the worker's variables alone. -/
theorem Beside.outside {a : LinkAction} {b b' : Link E D}
    (hpackets : b'.worker.stream.packets = b.worker.stream.packets)
    (hwritten : b'.worker.stream.written = b.worker.stream.written)
    (hreadPos : b'.worker.stream.readPos = b.worker.stream.readPos)
    (hrun : b'.worker.run = b.worker.run) : Beside a b b' where
  packets := hpackets
  written := hwritten
  readPos := .inl hreadPos
  last := fun h => by
    rw [hrun] at h ⊢
    exact ⟨h, rfl, rfl⟩
  scanning := fun _ => hrun
  fills := fun h => .inl (by rw [← hrun]; exact h)

/-- Steps from a place other than the ring to another such place. -/
theorem Beside.elsewhere {a : LinkAction} {b b' : Link E D}
    (hpackets : b'.worker.stream.packets = b.worker.stream.packets)
    (hwritten : b'.worker.stream.written = b.worker.stream.written)
    (hreadPos : b'.worker.stream.readPos = b.worker.stream.readPos)
    (hlast : b'.worker.run.haveMic = true → b.worker.run.haveMic = true ∧
      b'.worker.run.lastMicFrame = b.worker.run.lastMicFrame ∧
      b'.worker.run.lastMicSeq = b.worker.run.lastMicSeq)
    (hfrom : b.worker.run.pc ≠ .fill) (hto : b'.worker.run.pc ≠ .fill) : Beside a b b' where
  packets := hpackets
  written := hwritten
  readPos := .inl hreadPos
  last := hlast
  scanning := fun h => absurd h hfrom
  fills := fun h => absurd h hto

theorem live_beside (w : Worker) (input : PlaybackInput) :
    (w.live input).stream.packets = w.stream.packets ∧
    (w.live input).stream.written = w.stream.written ∧
    (w.live input).stream.readPos = w.stream.readPos ∧
    ((w.live input).run.haveMic = true → w.run.haveMic = true) ∧
    (w.live input).run.lastMicFrame = w.run.lastMicFrame ∧
    (w.live input).run.lastMicSeq = w.run.lastMicSeq ∧ (w.live input).run.now = input.now := by
  unfold Worker.live
  simp only
  split
  · exact ⟨rfl, rfl, rfl, id, rfl, rfl, rfl⟩
  · refine ⟨rfl, rfl, rfl, ?_, rfl, rfl, rfl⟩
    change (if _ then false else w.run.haveMic) = true → _
    split
    · intro h
      cases h
    · exact id

theorem workerMove_beside {b b' : Link E D} {input : PlaybackInput}
    (hm : WorkerMove crc32 b input b') (hpc : b.worker.run.pc ≠ .fill) :
    Beside (.worker input) b b' := by
  cases hm with
  | park htop _ =>
    exact ⟨rfl, rfl, .inr ⟨rfl, htop⟩, (fun h => nomatch h), fun h => absurd h hpc,
      (fun h => nomatch h)⟩
  | enter => exact .elsewhere rfl rfl rfl (fun h => ⟨h, rfl, rfl⟩) hpc (fun h => nomatch h)
  | acknowledge => exact .elsewhere rfl rfl rfl (fun h => ⟨h, rfl, rfl⟩) hpc (fun h => nomatch h)
  | wait => exact .outside rfl rfl rfl rfl
  | leave => exact .elsewhere rfl rfl rfl (fun h => ⟨h, rfl, rfl⟩) hpc (fun h => nomatch h)
  | depart => exact .elsewhere rfl rfl rfl (fun h => ⟨h, rfl, rfl⟩) hpc (fun h => nomatch h)
  | handshake => exact .elsewhere rfl rfl rfl (fun h => ⟨h, rfl, rfl⟩) hpc (fun h => nomatch h)
  | idle => exact .elsewhere rfl rfl rfl (fun h => ⟨h, rfl, rfl⟩) hpc (fun h => nomatch h)
  | live hiterate _ _ _ =>
    obtain ⟨hpackets, hwritten, hreadPos, hhave, hframe, hseq, hnow⟩ := live_beside b.worker input
    exact ⟨hpackets, hwritten, .inl hreadPos, fun h => ⟨hhave h, hframe, hseq⟩,
      fun h => absurd h hpc, fun _ => .inr ⟨input, rfl, hiterate, hnow⟩⟩
  | pass _ _ _ hfill =>
    obtain ⟨hpackets, hwritten, hreadPos, hhave, hframe, hseq, -⟩ := live_beside b.worker input
    exact .elsewhere hpackets hwritten hreadPos (fun h => ⟨hhave h, hframe, hseq⟩) hpc hfill
  | fill hfill => exact absurd hfill hpc
  | accept kind _ =>
    unfold Worker.accept
    simp only
    split
    · exact .elsewhere rfl rfl rfl (fun h => ⟨h, rfl, rfl⟩) hpc (fun h => nomatch h)
    · exact .elsewhere rfl rfl rfl (fun h => ⟨h, rfl, rfl⟩) hpc (fun h => nomatch h)
  | pushCopy => exact .elsewhere rfl rfl rfl (fun h => ⟨h, rfl, rfl⟩) hpc (fun h => nomatch h)
  | pushStore => exact .elsewhere rfl rfl rfl (fun h => ⟨h, rfl, rfl⟩) hpc (fun h => nomatch h)
  | finish => exact .elsewhere rfl rfl rfl (fun h => ⟨h, rfl, rfl⟩) hpc (fun h => nomatch h)

theorem failed_beside {a : LinkAction} {b b' : Link E D} {kind : RequestKind} {rx : CwFrame}
    (hworker : b'.worker = b.worker.failed kind rx) (hpc : b.worker.run.pc ≠ .fill) :
    Beside a b b' := by
  cases kind with
  | handshake =>
    refine .elsewhere ?_ ?_ ?_ ?_ hpc ?_ <;> rw [hworker]
    · rfl
    · rfl
    · rfl
    · exact fun h => ⟨h, rfl, rfl⟩
    · exact fun h => nomatch h
  | live =>
    refine .elsewhere ?_ ?_ ?_ ?_ hpc ?_ <;> rw [hworker]
    · rfl
    · rfl
    · rfl
    · exact fun h => ⟨h, rfl, rfl⟩
    · exact fun h => nomatch h

theorem transferMove_beside {a : LinkAction} {b b' : Link E D} (hm : TransferMove c crc32 b b') :
    Beside a b b' := by
  cases hm with
  | missed kind hpc => exact failed_beside rfl (by rw [hpc]; exact fun h => nomatch h)
  | crossed kind hpc now reported toSlave bits toWorker =>
    have haway : b.worker.run.pc ≠ .fill := by
      rw [hpc]
      exact fun h => nomatch h
    cases reported with
    | false => exact failed_beside rfl haway
    | true => exact .elsewhere rfl rfl rfl (fun h => ⟨h, rfl, rfl⟩) haway (fun h => nomatch h)

theorem coordinatorMove_beside {a : LinkAction} {b b' : Link E D} (hm : CoordinatorMove b b') :
    Beside a b b' := by
  cases hm <;> exact .outside rfl rfl rfl rfl

/-- The ring is left alone by all steps but the worker's on it and the controller's. -/
theorem act_beside {a : LinkAction} {b b' : Link E D} (h : b.act c crc32 a = some b')
    (hworker : ∀ input, a = .worker input → b.worker.run.pc ≠ .fill)
    (hmic : ∀ frame atUs seq payload, a ≠ .microphone frame atUs seq payload) :
    Beside a b b' := by
  cases a with
  | worker input => exact workerMove_beside (workerStep_move h) (hworker input rfl)
  | transfer t now => exact transferMove_beside (transferStep_move h)
  | coordinator => exact coordinatorMove_beside (coordinatorStep_move h)
  | pause =>
    simp only [Link.act] at h
    split at h
    · cases h
      exact .outside rfl rfl rfl rfl
    · cases h
  | poll expired =>
    simp only [Link.act] at h
    split at h
    · cases h
      exact .outside rfl rfl rfl rfl
    · cases h
  | rearm =>
    simp only [Link.act] at h
    split at h
    · cases h
      exact .outside rfl rfl rfl rfl
    · cases h
  | resume =>
    simp only [Link.act] at h
    split at h
    · cases h
      exact .outside rfl rfl rfl rfl
    · cases h
  | select event buffer =>
    simp only [Link.act] at h
    split at h
    · cases h
    · cases h
      exact .outside rfl rfl rfl rfl
  | newSession =>
    cases h
    exact .outside rfl rfl rfl rfl
  | enableMic enable =>
    cases h
    exact .outside rfl rfl rfl rfl
  | microphone frame atUs seq payload => exact absurd rfl (hmic frame atUs seq payload)

/-! ## Packets taken -/

/-- The packet the codec was given last. -/
def lastForwarded (taken : List MicTaken) : Option MicPacket :=
  (taken.filter fun d => d.verdict = .forwarded).getLast?.map MicTaken.packet

theorem lastForwarded_forwarded (taken : List MicTaken) {d : MicTaken} (h : d.verdict = .forwarded) :
    lastForwarded (taken ++ [d]) = some d.packet := by
  unfold lastForwarded
  rw [List.filter_append, List.filter_cons_of_pos (by simpa using h), List.filter_nil,
    List.getLast?_concat]
  rfl

theorem lastForwarded_passed (taken : List MicTaken) {d : MicTaken} (h : d.verdict ≠ .forwarded) :
    lastForwarded (taken ++ [d]) = lastForwarded taken := by
  unfold lastForwarded
  rw [List.filter_append, List.filter_cons_of_neg (by simpa using h), List.filter_nil,
    List.append_nil]

/-- What the worker did with a packet it took after `before`. -/
structure TakenRight (before : List MicTaken) (d : MicTaken) : Prop where
  stamp : d.packet.atUs = UInt32.ofNat d.queuedAt
  queued : d.queuedAt ≤ d.takenAt
  sampled : d.sampledAt ≤ d.takenAt
  other : d.verdict = .otherEpoch → d.packet.epoch ≠ d.epoch
  aged : d.packet.epoch = d.epoch →
    (d.verdict = .aged ↔ UInt32.ofNat d.sampledAt - d.packet.atUs > 40000)
  duplicate : d.verdict = .duplicate → ∃ l, lastForwarded before = some l ∧
    (d.packet.frame = l.frame ∨ d.packet.seq = l.seq ∧ d.packet.frame - l.frame < 16)

/-- The same after one more packet. -/
theorem takenRight_snoc {taken : List MicTaken} {d : MicTaken}
    (h : ∀ before e after, taken = before ++ e :: after → TakenRight before e)
    (hd : TakenRight taken d) :
    ∀ before e after, taken ++ [d] = before ++ e :: after → TakenRight before e := by
  intro before e after heq
  rcases List.eq_nil_or_concat after with rfl | ⟨rest, last, rfl⟩
  · obtain ⟨rfl, hlast⟩ := List.append_inj' heq rfl
    cases hlast
    exact hd
  · rw [List.concat_eq_append, ← List.cons_append, ← List.append_assoc] at heq
    exact h before e rest (List.append_inj' heq rfl).1

/-- What the worker's variables hold of the packets taken. -/
def Worker.Remembers (w : Worker) (taken : List MicTaken) : Prop :=
  w.run.haveMic = true → ∃ p, lastForwarded taken = some p ∧ p.frame = w.run.lastMicFrame ∧
    p.seq = w.run.lastMicSeq

theorem takeMicPacket_stream (w : Worker) (p : MicPacket) :
    (w.takeMicPacket p).2.stream.packets = w.stream.packets ∧
    (w.takeMicPacket p).2.stream.written = w.stream.written ∧
    (w.takeMicPacket p).2.stream.readPos = w.stream.readPos + 1 ∧
    (w.takeMicPacket p).2.run.pc = w.run.pc ∧ (w.takeMicPacket p).2.run.now = w.run.now := by
  unfold Worker.takeMicPacket
  simp only
  split
  · exact ⟨rfl, rfl, rfl, rfl, rfl⟩
  · split <;> exact ⟨rfl, rfl, rfl, rfl, rfl⟩

/-- The packet is put in the request or passed over as its verdict says. -/
theorem takeMicPacket_verdict (w : Worker) (p : MicPacket) :
    (w.takeMicPacket p).1 = decide (w.verdict p = .forwarded) ∧
    (w.takeMicPacket p).2.run = if w.verdict p = .forwarded then
      { w.run with lastMicFrame := p.frame, lastMicSeq := p.seq, haveMic := true } else w.run := by
  unfold Worker.takeMicPacket Worker.verdict
  simp only
  by_cases hepoch : p.epoch ≠ w.run.currentEpoch
  · rw [if_pos (.inl hepoch), if_pos hepoch]
    exact ⟨rfl, rfl⟩
  rw [if_neg hepoch]
  by_cases haged : UInt32.ofInt w.run.now - p.atUs > 40000
  · rw [if_pos (.inr haged), if_pos haged]
    exact ⟨rfl, rfl⟩
  rw [if_neg (fun h => h.elim hepoch haged), if_neg haged]
  split
  · exact ⟨rfl, rfl⟩
  · exact ⟨rfl, rfl⟩

/-- A packet taken by a worker that remembers the last one. -/
theorem Worker.Remembers.take {w : Worker} {taken : List MicTaken} (h : w.Remembers taken)
    {p : MicPacket} {queuedAt sampledAt takenAt : Nat} (hstamp : p.atUs = UInt32.ofNat queuedAt)
    (hqueued : queuedAt ≤ takenAt) (hnow : w.run.now = Int.ofNat sampledAt)
    (hsampled : sampledAt ≤ takenAt) :
    TakenRight taken { packet := p, queuedAt, sampledAt := w.run.now.toNat, takenAt
                       epoch := w.run.currentEpoch, verdict := w.verdict p } ∧
    (w.takeMicPacket p).2.Remembers (taken ++
      [{ packet := p, queuedAt, sampledAt := w.run.now.toNat, takenAt
         epoch := w.run.currentEpoch, verdict := w.verdict p }]) := by
  have hnat : w.run.now.toNat = sampledAt := by
    rw [hnow]
    rfl
  have hword : UInt32.ofInt w.run.now = UInt32.ofNat sampledAt := by
    rw [hnow]
    exact ofInt_ofNat sampledAt
  refine ⟨⟨hstamp, hqueued, by rw [hnat]; exact hsampled, ?_, ?_, ?_⟩, ?_⟩
  · intro hother
    change w.verdict p = .otherEpoch at hother
    show p.epoch ≠ w.run.currentEpoch
    intro hsame
    unfold Worker.verdict at hother
    rw [if_neg (not_not.mpr hsame)] at hother
    split at hother
    · cases hother
    · split at hother <;> cases hother
  · intro hsame
    show w.verdict p = .aged ↔ UInt32.ofNat w.run.now.toNat - p.atUs > 40000
    rw [hnat, ← hword]
    unfold Worker.verdict
    rw [if_neg (not_not.mpr hsame)]
    by_cases haged : UInt32.ofInt w.run.now - p.atUs > 40000
    · rw [if_pos haged]
      exact iff_of_true rfl haged
    · rw [if_neg haged]
      refine iff_of_false ?_ haged
      split <;> exact fun h => nomatch h
  · intro hdup
    change w.verdict p = .duplicate at hdup
    unfold Worker.verdict at hdup
    split at hdup
    · cases hdup
    split at hdup
    · cases hdup
    split at hdup
    next hrule =>
      simp only [Bool.and_eq_true, Bool.or_eq_true, beq_iff_eq, decide_eq_true_eq] at hrule
      obtain ⟨hhave, hrule⟩ := hrule
      obtain ⟨l, hlast, hframe, hseq⟩ := h hhave
      refine ⟨l, hlast, ?_⟩
      rw [hframe, hseq]
      rcases hrule with hzero | hrule
      · rw [UInt32.sub_eq_iff_eq_add, UInt32.zero_add] at hzero
        exact .inl hzero
      · exact .inr hrule
    · cases hdup
  · unfold Worker.Remembers
    rw [(takeMicPacket_verdict w p).2]
    by_cases hforward : w.verdict p = .forwarded
    · rw [if_pos hforward]
      exact fun _ => ⟨p, lastForwarded_forwarded _ hforward, rfl, rfl⟩
    · rw [if_neg hforward, lastForwarded_passed _ hforward]
      exact h

end UllReceiver.Bridge
