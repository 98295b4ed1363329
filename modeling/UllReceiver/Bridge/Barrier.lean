import UllReceiver.Bridge.Moves

/-!
# The reconnect barrier

The acknowledgement flag is up exactly while the worker stands between raising and lowering it,
the coordinator keeps its request up through a rearm, and a rearm that found both flags set has a
worker that stays off the audio source.
-/

namespace UllReceiver.Bridge

open Audio

variable {E D : Type}

/-- The worker is at the head of its loop or inside the pause. -/
def WorkerPc.quiet : WorkerPc → Bool
  | .top | .acknowledge | .waiting | .depart => true
  | _ => false

/-- The worker has dropped its state for the pause and has not yet left it. -/
def WorkerPc.parked : WorkerPc → Bool
  | .acknowledge | .waiting | .depart => true
  | _ => false

/-- The acknowledgement has been raised and not yet lowered. -/
def WorkerPc.acknowledging : WorkerPc → Bool
  | .waiting | .depart => true
  | _ => false

/-- The coordinator has its pause request up. -/
def CoordinatorPc.holding : CoordinatorPc → Bool
  | .idle | .pauseRequested | .pauseStore => false
  | _ => true

/-- The coordinator is inside a rearm that found both flags set. -/
def CoordinatorPc.checked : CoordinatorPc → Bool
  | .rearmWritten | .rearmRead _ | .rearmDiscard _ _ | .rearmStore _ | .rearmClear => true
  | _ => false

structure Barrier (w : Worker) (k : CoordinatorPc) : Prop where
  acknowledged : w.stream.acknowledged = w.run.pc.acknowledging
  held : k.holding = true → w.stream.requested = true
  quiet : k.checked = true → w.run.pc.quiet = true
  dropped : w.run.pc.parked = true ∨ k.checked = true → w.stream.havePrevious = false

theorem barrier_init (crc32 : List UInt8 → UInt32) (base : UInt32) (packets : Fin 16 → MicPacket)
    (encoder : E) (decoder : D) (rx : CwFrame) :
    Barrier (Link.init crc32 base packets encoder decoder rx).worker .idle :=
  ⟨rfl, fun h => (nomatch h), fun h => (nomatch h), fun _ => rfl⟩

theorem CoordinatorPc.holding_of_checked {k : CoordinatorPc} (h : k.checked = true) :
    k.holding = true := by
  cases k <;> first | rfl | exact (nomatch h)

/-- Steps that move the worker's program counter among places where it may use the source. -/
theorem Barrier.busy {w w' : Worker} {k : CoordinatorPc} (h : Barrier w k)
    (hpc : w.run.pc.quiet = false) (hpc' : w'.run.pc.parked = false)
    (hack : w'.stream.acknowledged = w.stream.acknowledged)
    (hreq : w'.stream.requested = w.stream.requested) : Barrier w' k := by
  have hk : k.checked = false := by
    rw [← Bool.not_eq_true]
    intro hk
    rw [h.quiet hk] at hpc
    exact Bool.noConfusion hpc
  have hold : w.run.pc.acknowledging = false := by
    cases hw : w.run.pc <;> rw [hw] at hpc <;> first | rfl | exact Bool.noConfusion hpc
  have hnew : w'.run.pc.acknowledging = false := by
    cases hw : w'.run.pc <;> rw [hw] at hpc' <;> first | rfl | exact Bool.noConfusion hpc'
  refine ⟨?_, ?_, ?_, ?_⟩
  · rw [hack, h.acknowledged, hold, hnew]
  · rw [hreq]
    exact h.held
  · rw [hk]
    exact fun hf => Bool.noConfusion hf
  · rw [hk, hpc']
    exact fun hf => by simp at hf

theorem fill_barrier (crc32 : List UInt8 → UInt32) (w : Worker) :
    (w.fill crc32).stream.acknowledged = w.stream.acknowledged ∧
      (w.fill crc32).stream.requested = w.stream.requested := by
  have htake (n : Nat) (w : Worker) :
      (w.takeMic n).stream.acknowledged = w.stream.acknowledged ∧
        (w.takeMic n).stream.requested = w.stream.requested := by
    induction n generalizing w with
    | zero => exact ⟨rfl, rfl⟩
    | succ n ih =>
        have hone (p : MicPacket) :
            (w.takeMicPacket p).2.stream.acknowledged = w.stream.acknowledged ∧
              (w.takeMicPacket p).2.stream.requested = w.stream.requested := by
          unfold Worker.takeMicPacket
          simp only
          split
          · exact ⟨rfl, rfl⟩
          · split <;> exact ⟨rfl, rfl⟩
        unfold Worker.takeMic
        have hp := hone (w.stream.packets (Library.ringSlot 16 w.stream.readPos.toNat))
        split
        case h_1 w' hw => rw [hw] at hp; exact hp
        case h_2 w' hw =>
          rw [hw] at hp
          exact ⟨(ih w').1.trans hp.1, (ih w').2.trans hp.2⟩
  unfold Worker.fill
  simp only
  split
  · exact ⟨rfl, rfl⟩
  · exact htake _ w

theorem live_pc (w : Worker) (input : PlaybackInput) :
    ((w.live input).run.pc = .top ∨ (w.live input).run.pc = .fill) ∧
      (w.live input).stream.acknowledged = w.stream.acknowledged ∧
      (w.live input).stream.requested = w.stream.requested := by
  unfold Worker.live
  simp only
  split
  · exact ⟨.inl rfl, rfl, rfl⟩
  · exact ⟨.inr rfl, rfl, rfl⟩

theorem accept_barrier (crc32 : List UInt8 → UInt32) (w : Worker) (kind : RequestKind) :
    (w.accept crc32 kind).run.pc.parked = false ∧
      (w.accept crc32 kind).stream.acknowledged = w.stream.acknowledged ∧
      (w.accept crc32 kind).stream.requested = w.stream.requested := by
  unfold Worker.accept
  simp only
  split
  · exact ⟨rfl, rfl, rfl⟩
  · exact ⟨rfl, rfl, rfl⟩

theorem barrier_worker {crc32 : List UInt8 → UInt32} {b b' : Link E D} {input : PlaybackInput}
    (h : Barrier b.worker b.coordinator) (hm : WorkerMove crc32 b input b') :
    Barrier b'.worker b'.coordinator := by
  have hack := h.acknowledged
  have hdropped := h.dropped
  cases hm with
  | park hpc hreq =>
      rw [hpc] at hack
      exact ⟨hack, h.held, fun _ => rfl, fun _ => rfl⟩
  | enter hpc hreq =>
      rw [hpc] at hack
      -- a checked rearm holds the request, which this step found clear
      have hk : b.coordinator.checked = true → b.worker.stream.requested = true := by
        intro hc
        apply h.held
        cases hb : b.coordinator <;> rw [hb] at hc <;> first | rfl | exact nomatch hc
      refine ⟨hack, h.held, ?_, ?_⟩
      · intro hc
        rw [hk hc] at hreq
        exact nomatch hreq
      · rintro (hp | hc)
        · exact nomatch hp
        · exact hdropped (.inr hc)
  | acknowledge hpc =>
      exact ⟨rfl, h.held, fun _ => rfl, fun _ => hdropped (.inl (by rw [hpc]; rfl))⟩
  | wait hpc hreq => exact h
  | leave hpc hreq =>
      rw [hpc] at hack
      exact ⟨hack, h.held, fun _ => rfl, fun _ => hdropped (.inl (by rw [hpc]; rfl))⟩
  | depart hpc =>
      exact ⟨rfl, h.held, fun _ => rfl, fun _ => hdropped (.inl (by rw [hpc]; rfl))⟩
  | handshake hpc hready => exact h.busy (by rw [hpc]; rfl) rfl rfl rfl
  | idle hpc hready hreq => exact h.busy (by rw [hpc]; rfl) rfl rfl rfl
  | live hpc hready hreq hfill =>
      have hl := live_pc b.worker input
      refine h.busy (by rw [hpc]; rfl) ?_ hl.2.1 hl.2.2
      change ((b.worker.live input).run.pc).parked = false
      rw [hfill]
      rfl
  | pass hpc hready hreq hfill =>
      have hl := live_pc b.worker input
      refine h.busy (by rw [hpc]; rfl) ?_ hl.2.1 hl.2.2
      rcases hl.1 with ht | hf
      · change ((b.worker.live input).run.pc).parked = false
        rw [ht]
        rfl
      · exact absurd hf hfill
  | fill hpc =>
      have hf := fill_barrier crc32 b.worker
      exact h.busy (by rw [hpc]; rfl) rfl hf.1 hf.2
  | accept kind hpc =>
      have ha := accept_barrier crc32 b.worker kind
      exact h.busy (by rw [hpc]; rfl) ha.1 ha.2.1 ha.2.2
  | pushCopy kind hpc => exact h.busy (by rw [hpc]; rfl) rfl rfl rfl
  | pushStore kind hpc => exact h.busy (by rw [hpc]; rfl) rfl rfl rfl
  | finish kind accepted hpc => exact h.busy (by rw [hpc]; rfl) rfl rfl rfl

theorem failed_barrier (w : Worker) (kind : RequestKind) (rx : CwFrame) :
    (w.failed kind rx).run.pc = .top ∧
      (w.failed kind rx).stream.acknowledged = w.stream.acknowledged ∧
      (w.failed kind rx).stream.requested = w.stream.requested := by
  cases kind <;> exact ⟨rfl, rfl, rfl⟩

theorem barrier_transfer {c : Codecs E D} {crc32 : List UInt8 → UInt32} {b b' : Link E D}
    (h : Barrier b.worker b.coordinator) (hm : TransferMove c crc32 b b') :
    Barrier b'.worker b'.coordinator := by
  cases hm with
  | missed kind hpc =>
      have hf := failed_barrier b.worker kind b.worker.stream.rx
      exact h.busy (by rw [hpc]; rfl) (by rw [hf.1]; rfl) hf.2.1 hf.2.2
  | crossed kind hpc now reported toSlave bits toWorker hslave hworker =>
      have hf := failed_barrier b.worker kind toWorker
      cases reported with
      | true => exact h.busy (by rw [hpc]; rfl) rfl rfl rfl
      | false => exact h.busy (by rw [hpc]; rfl) (by rw [if_neg (by decide), hf.1]; rfl) hf.2.1 hf.2.2

theorem barrier_coordinator {b b' : Link E D} (h : Barrier b.worker b.coordinator)
    (hm : CoordinatorMove b b') : Barrier b'.worker b'.coordinator := by
  obtain ⟨hack, hheld, hquiet, hdropped⟩ := h
  cases hm with
  | refused hk =>
      exact ⟨hack, (nomatch ·), (nomatch ·),
        fun hp => hdropped (hp.imp_right (nomatch ·))⟩
  | clear hk =>
      exact ⟨hack, (nomatch ·), (nomatch ·),
        fun hp => hdropped (hp.imp_right (nomatch ·))⟩
  | hold hk =>
      exact ⟨hack, fun _ => rfl, (nomatch ·),
        fun hp => hdropped (hp.imp_right (nomatch ·))⟩
  | found hk hset =>
      -- the acknowledgement was up: the worker is between raising and lowering it
      rw [hset] at hack
      have hpc : b.worker.run.pc = .waiting ∨ b.worker.run.pc = .depart := by
        cases hp : b.worker.run.pc <;> rw [hp] at hack <;>
          first | exact .inl rfl | exact .inr rfl | exact nomatch hack
      have hparked : b.worker.run.pc.parked = true := by
        rcases hpc with hp | hp <;> rw [hp] <;> rfl
      have hq : b.worker.run.pc.quiet = true := by
        rcases hpc with hp | hp <;> rw [hp] <;> rfl
      exact ⟨hset.trans hack, fun _ => hheld (by rw [hk]; rfl), fun _ => hq,
        fun _ => hdropped (.inl hparked)⟩
  | loadWritten hk =>
      exact ⟨hack, fun _ => hheld (by rw [hk]; rfl), fun _ => hquiet (by rw [hk]; rfl),
        fun _ => hdropped (.inr (by rw [hk]; rfl))⟩
  | loadRead written hk =>
      exact ⟨hack, fun _ => hheld (by rw [hk]; rfl), fun _ => hquiet (by rw [hk]; rfl),
        fun _ => hdropped (.inr (by rw [hk]; rfl))⟩
  | discard written read hk =>
      exact ⟨hack, fun _ => hheld (by rw [hk]; rfl), fun _ => hquiet (by rw [hk]; rfl),
        fun _ => hdropped (.inr (by rw [hk]; rfl))⟩
  | store written hk =>
      exact ⟨hack, fun _ => hheld (by rw [hk]; rfl), fun _ => hquiet (by rw [hk]; rfl),
        fun _ => hdropped (.inr (by rw [hk]; rfl))⟩
  | rearmed hk =>
      exact ⟨hack, (nomatch ·), (nomatch ·),
        fun _ => hdropped (.inr (by rw [hk]; rfl))⟩

theorem barrier_outside {b b' : Link E D} (h : Barrier b.worker b.coordinator)
    (hm : OutsideMove b b') : Barrier b'.worker b'.coordinator := by
  obtain ⟨hack, hheld, hquiet, hdropped⟩ := h
  cases hm with
  | coordinator k hk =>
      have hc : k.checked = false := by
        rcases hk with ⟨rfl, _⟩ | ⟨rfl, _⟩ | ⟨rfl, _⟩ | ⟨rfl, _⟩ <;> rfl
      refine ⟨hack, ?_, ?_, ?_⟩
      · intro hhold
        rcases hk with ⟨rfl, _⟩ | ⟨rfl, _⟩ | ⟨rfl, hp⟩ | ⟨rfl, _, hreq⟩
        · exact nomatch hhold
        · exact nomatch hhold
        · exact hheld (by rw [hp]; rfl)
        · exact hreq
      · intro hf
        rw [hc] at hf
        exact nomatch hf
      · rintro (hp | hf)
        · exact hdropped (.inl hp)
        · rw [hc] at hf
          exact nomatch hf
  | resume hk =>
      have hidle : b.coordinator.holding = true → False := by
        rw [hk]
        exact (nomatch ·)
      exact ⟨hack, fun hf => (hidle hf).elim, hquiet, hdropped⟩
  | select event buffer hk => exact ⟨hack, hheld, hquiet, hdropped⟩
  | outside epoch micEnabled packets written => exact ⟨hack, hheld, hquiet, hdropped⟩

theorem barrier_step {c : Codecs E D} {crc32 : List UInt8 → UInt32} {b b' : Link E D}
    {a : LinkAction} (h : Barrier b.worker b.coordinator) (hs : Link.Step c crc32 b a b') :
    Barrier b'.worker b'.coordinator := by
  rcases step_move hs with ⟨input, _, hm⟩ | hm | hm | hm
  · exact barrier_worker h hm
  · exact barrier_transfer h hm
  · exact barrier_coordinator h hm
  · exact barrier_outside h hm

end UllReceiver.Bridge
