import UllReceiver.Bridge.MicTaken
import UllReceiver.Bridge.Rounds

/-!
# The age of microphone packets

Which packets of the ring the worker discards for their age, over every run.
-/

namespace UllReceiver.Bridge

open Library

variable {E D : Type} {c : Codecs E D} {crc32 : List UInt8 → UInt32}

/-! ## The ring over a run -/

/-- The slot holds the stamp of a past moment. -/
def MicLink.Stamped (s : MicLink E D) (slot : Fin 16) : Prop :=
  (s.link.worker.stream.packets slot).atUs = UInt32.ofNat (s.stamps slot) ∧
    s.stamps slot ≤ s.clock

/-- How many packets the ring holds. -/
def MicLink.queued (s : MicLink E D) : Nat :=
  (s.link.worker.stream.written - s.link.worker.stream.readPos).toNat

/-- The index the controller is writing to. -/
def MicProducer.writing : MicProducer → Option UInt32
  | .idle | .active _ => none
  | .room _ w | .stamp _ w | .publish _ w => some w

/-- The index up to which the worker is taking packets. -/
def MicFill.upTo : MicFill → Option UInt32
  | .load | .seal => none
  | .drop mw | .loop mw | .taken mw _ _ => some mw

structure MicGood (s : MicLink E D) : Prop where
  room : s.queued ≤ 16
  ring : ∀ k, k < s.queued → s.Stamped (ringSlot 16 (s.link.worker.stream.readPos.toNat + k))
  writing : ∀ w, s.producer.writing = some w → w = s.link.worker.stream.written ∧ s.queued < 16
  stamped : ∀ call w, s.producer = .publish call w → s.Stamped (ringSlot 16 w.toNat)
  upTo : ∀ mw, s.fill.upTo = some mw → (mw - s.link.worker.stream.readPos).toNat ≤ s.queued
  held : ∀ mw p q, s.fill = .taken mw p q → mw ≠ s.link.worker.stream.readPos ∧
    p.atUs = UInt32.ofNat q ∧ q ≤ s.clock
  away : s.link.worker.run.pc ≠ .fill → s.fill = .load
  time : s.link.worker.run.pc = .fill → ∃ n, n ≤ s.clock ∧ s.link.worker.run.now = Int.ofNat n
  sample : ∀ n, s.sampled = some n → n ≤ s.clock
  last : s.link.worker.Remembers s.taken
  history : ∀ before d after, s.taken = before ++ d :: after → TakenRight before d

theorem micGood_start {b : Link E D} (clock : Nat)
    (hring : b.worker.stream.readPos = b.worker.stream.written)
    (hlast : b.worker.run.haveMic = false) (hpc : b.worker.run.pc ≠ .fill) :
    MicGood (.start b clock) := by
  have hempty : (MicLink.start b clock).queued = 0 := by
    show (b.worker.stream.written - b.worker.stream.readPos).toNat = 0
    rw [hring, UInt32.sub_self]
    rfl
  refine ⟨by omega, fun k hk => by omega, fun _ h => (nomatch h), fun _ _ h => (nomatch h),
    fun _ h => (nomatch h), fun _ _ _ h => (nomatch h), fun _ => rfl, fun h => absurd h hpc,
    fun _ h => (nomatch h), fun h => ?_, ?_⟩
  · change b.worker.run.haveMic = true at h
    rw [hlast] at h
    cases h
  · intro before d after h
    exact absurd h.symm (List.append_ne_nil_of_right_ne_nil before (List.cons_ne_nil d after))

theorem MicLink.Stamped.later {s s' : MicLink E D} {slot : Fin 16} (h : s.Stamped slot)
    (hpackets : s'.link.worker.stream.packets slot = s.link.worker.stream.packets slot)
    (hstamps : s'.stamps slot = s.stamps slot) (hclock : s.clock ≤ s'.clock) :
    s'.Stamped slot := by
  unfold MicLink.Stamped
  rw [hpackets, hstamps]
  exact ⟨h.1, Nat.le_trans h.2 hclock⟩

theorem MicGood.tick {s : MicLink E D} (h : MicGood s) (us : Nat) :
    MicGood { s with clock := s.clock + us } where
  room := h.room
  ring := fun k hk => (h.ring k hk).later rfl rfl (Nat.le_add_right _ _)
  writing := h.writing
  stamped := fun call w hw => (h.stamped call w hw).later rfl rfl (Nat.le_add_right _ _)
  upTo := h.upTo
  held := fun mw p q hf => by
    obtain ⟨hne, hstamp, hle⟩ := h.held mw p q hf
    exact ⟨hne, hstamp, Nat.le_trans hle (Nat.le_add_right _ _)⟩
  away := h.away
  time := fun hpc => by
    obtain ⟨n, hle, hnow⟩ := h.time hpc
    exact ⟨n, Nat.le_trans hle (Nat.le_add_right _ _), hnow⟩
  sample := fun n hn => Nat.le_trans (h.sample n hn) (Nat.le_add_right _ _)
  last := h.last
  history := h.history

theorem MicGood.sampled {s : MicLink E D} (h : MicGood s) :
    MicGood { s with sampled := some s.clock } where
  room := h.room
  ring := h.ring
  writing := h.writing
  stamped := h.stamped
  upTo := h.upTo
  held := h.held
  away := h.away
  time := h.time
  sample := fun n hn => by
    cases hn
    exact Nat.le_refl _
  last := h.last
  history := h.history

/-- Only where the producer stands changes. -/
theorem MicGood.producer {s : MicLink E D} (h : MicGood s) {producer : MicProducer}
    (hwriting : ∀ w, producer.writing = some w → w = s.link.worker.stream.written ∧ s.queued < 16)
    (hpublish : ∀ call w, producer ≠ .publish call w) : MicGood { s with producer } where
  room := h.room
  ring := h.ring
  writing := hwriting
  stamped := fun call w hw => absurd hw (hpublish call w)
  upTo := h.upTo
  held := h.held
  away := h.away
  time := h.time
  sample := h.sample
  last := h.last
  history := h.history

/-- The rest of the bridge takes a step; `sampled` is what is left of the clock's reading. -/
theorem MicGood.beside {s : MicLink E D} (h : MicGood s) {a : LinkAction} {b : Link E D}
    {sampled : Option Nat} (hb : Beside a s.link b)
    (hsampled : sampled = s.sampled ∨ sampled = none)
    (hnow : ∀ input, a = .worker input → s.link.worker.run.pc = .iterate →
      s.sampled.map Int.ofNat = some input.now) :
    MicGood { s with link := b, sampled } := by
  -- the ring is as it was, or emptied by a pause
  have hqueued : MicLink.queued { s with link := b, sampled } = s.queued ∨
      MicLink.queued { s with link := b, sampled } = 0 := by
    rcases hb.readPos with hsame | ⟨hpark, -⟩
    · left
      show (b.worker.stream.written - b.worker.stream.readPos).toNat = _
      rw [hb.written, hsame]
      rfl
    · right
      show (b.worker.stream.written - b.worker.stream.readPos).toNat = _
      rw [hb.written, hpark, UInt32.sub_self]
      rfl
  have hfill : s.fill ≠ .load → b.worker.run = s.link.worker.run ∧
      b.worker.stream.readPos = s.link.worker.stream.readPos := by
    intro hfill
    have hpc : s.link.worker.run.pc = .fill := by
      by_contra haway
      exact hfill (h.away haway)
    refine ⟨hb.scanning hpc, ?_⟩
    rcases hb.readPos with hsame | ⟨-, htop⟩
    · exact hsame
    · rw [hpc] at htop
      cases htop
  constructor
  · have hroom := h.room
    rcases hqueued with hq | hq <;> omega
  · intro k hk
    rcases hb.readPos with hsame | ⟨hpark, -⟩
    · have hk : k < s.queued := by
        rcases hqueued with hq | hq <;> omega
      show MicLink.Stamped _ (ringSlot 16 (b.worker.stream.readPos.toNat + k))
      rw [hsame]
      exact (h.ring k hk).later (congrFun hb.packets _) rfl (Nat.le_refl _)
    · exfalso
      have hzero : MicLink.queued { s with link := b, sampled } = 0 := by
        show (b.worker.stream.written - b.worker.stream.readPos).toNat = _
        rw [hb.written, hpark, UInt32.sub_self]
        rfl
      omega
  · intro w hw
    obtain ⟨hwritten, hroom⟩ := h.writing w hw
    refine ⟨hwritten.trans hb.written.symm, ?_⟩
    rcases hqueued with hq | hq <;> omega
  · intro call w hw
    exact (h.stamped call w hw).later (congrFun hb.packets _) rfl (Nat.le_refl _)
  · intro mw hmw
    have hload : s.fill ≠ .load := fun hload => by
      change s.fill.upTo = some mw at hmw
      rw [hload] at hmw
      cases hmw
    have hbound := h.upTo mw hmw
    show (mw - b.worker.stream.readPos).toNat ≤ (b.worker.stream.written - _).toNat
    rw [(hfill hload).2, hb.written]
    exact hbound
  · intro mw p q hf
    have hload : s.fill ≠ .load := fun hload => by
      change s.fill = _ at hf
      rw [hload] at hf
      cases hf
    show mw ≠ b.worker.stream.readPos ∧ _
    rw [(hfill hload).2]
    exact h.held mw p q hf
  · intro haway
    change b.worker.run.pc ≠ .fill at haway
    show s.fill = .load
    by_contra hload
    rw [(hfill hload).1] at haway
    exact hload (h.away haway)
  · intro hpc
    rcases hb.fills hpc with hstill | ⟨input, ha, hiterate, htime⟩
    · show ∃ n, n ≤ s.clock ∧ b.worker.run.now = Int.ofNat n
      rw [hb.scanning hstill]
      exact h.time hstill
    · obtain ⟨n, hn, hinput⟩ := Option.map_eq_some_iff.mp (hnow input ha hiterate)
      exact ⟨n, h.sample n hn, htime.trans hinput.symm⟩
  · intro n hn
    change sampled = some n at hn
    rcases hsampled with hsame | hnone
    · rw [hsame] at hn
      exact h.sample n hn
    · rw [hnone] at hn
      cases hn
  · intro hhave
    obtain ⟨hhad, hframe, hseq⟩ := hb.last hhave
    show ∃ p : MicPacket, _ ∧ p.frame = b.worker.run.lastMicFrame ∧ p.seq = b.worker.run.lastMicSeq
    rw [hframe, hseq]
    exact h.last hhad
  · exact h.history

theorem MicGood.link {s s' : MicLink E D} (h : MicGood s) {a : LinkAction}
    (hs : s.linkStep c crc32 a = some s') : MicGood s' := by
  have hact : ∀ {sampled : Option Nat}, sampled = s.sampled ∨ sampled = none →
      ((s.link.act c crc32 a).map fun link => { s with link, sampled }) = some s' →
      (∀ input, a = .worker input → s.link.worker.run.pc ≠ .fill ∧
        (s.link.worker.run.pc = .iterate → s.sampled.map Int.ofNat = some input.now)) →
      (∀ frame atUs seq payload, a ≠ .microphone frame atUs seq payload) → MicGood s' := by
    intro sampled hsampled hs hworker hmic
    obtain ⟨b, hb, rfl⟩ := Option.map_eq_some_iff.mp hs
    exact h.beside (act_beside hb (fun input ha => (hworker input ha).1) hmic) hsampled
      fun input ha => (hworker input ha).2
  cases a with
  | microphone => cases hs
  | worker input =>
    simp only [MicLink.linkStep] at hs
    split at hs
    · cases hs
    next hfill =>
      split at hs
      · split at hs
        next hsample =>
          refine hact (.inr rfl) hs ?_ fun _ _ _ _ h => nomatch h
          intro _ ha
          cases ha
          exact ⟨hfill, fun _ => hsample⟩
        · cases hs
      next hiterate =>
        refine hact (.inl rfl) hs ?_ fun _ _ _ _ h => nomatch h
        intro _ ha
        cases ha
        exact ⟨hfill, fun hpc => absurd hpc hiterate⟩
  | transfer t now =>
    simp only [MicLink.linkStep] at hs
    split at hs
    · exact hact (.inl rfl) hs (fun _ h => nomatch h) fun _ _ _ _ h => nomatch h
    · cases hs
  | pause => exact hact (.inl rfl) hs (fun _ h => nomatch h) fun _ _ _ _ h => nomatch h
  | poll => exact hact (.inl rfl) hs (fun _ h => nomatch h) fun _ _ _ _ h => nomatch h
  | rearm => exact hact (.inl rfl) hs (fun _ h => nomatch h) fun _ _ _ _ h => nomatch h
  | coordinator => exact hact (.inl rfl) hs (fun _ h => nomatch h) fun _ _ _ _ h => nomatch h
  | resume => exact hact (.inl rfl) hs (fun _ h => nomatch h) fun _ _ _ _ h => nomatch h
  | select => exact hact (.inl rfl) hs (fun _ h => nomatch h) fun _ _ _ _ h => nomatch h
  | newSession => exact hact (.inl rfl) hs (fun _ h => nomatch h) fun _ _ _ _ h => nomatch h
  | enableMic => exact hact (.inl rfl) hs (fun _ h => nomatch h) fun _ _ _ _ h => nomatch h

/-! ## Steps on the ring -/

/-- What is left when the worker has gone on to `m`. -/
theorem MicGood.ring_from {s : MicLink E D} (h : MicGood s) {m : UInt32}
    (hm : (m - s.link.worker.stream.readPos).toNat ≤ s.queued) :
    (s.link.worker.stream.written - m).toNat =
      s.queued - (m - s.link.worker.stream.readPos).toNat ∧
    ∀ k, k < (s.link.worker.stream.written - m).toNat → s.Stamped (ringSlot 16 (m.toNat + k)) := by
  have hleft := counter_sub_jump (w := s.link.worker.stream.written) hm
  refine ⟨hleft, fun k hk => ?_⟩
  rw [ringSlot_sub m s.link.worker.stream.readPos k]
  apply h.ring
  unfold MicLink.queued at hm ⊢
  omega

/-- The worker goes on to `m`, with variables that remember the packets taken so far. -/
theorem MicGood.goto {s s' : MicLink E D} (h : MicGood s) (hpc : s.link.worker.run.pc = .fill)
    {m : UInt32} (hm : (m - s.link.worker.stream.readPos).toNat ≤ s.queued)
    (hreadPos : s'.link.worker.stream.readPos = m)
    (hpackets : s'.link.worker.stream.packets = s.link.worker.stream.packets)
    (hwritten : s'.link.worker.stream.written = s.link.worker.stream.written)
    (hrun : s'.link.worker.run.pc = .fill ∧ s'.link.worker.run.now = s.link.worker.run.now)
    (hclock : s'.clock = s.clock) (hsampled : s'.sampled = s.sampled)
    (hproducer : s'.producer = s.producer) (hstamps : s'.stamps = s.stamps)
    (hfill : s'.fill = .seal ∨ ∃ mw, s'.fill = .loop mw ∧ (mw - m).toNat ≤
      (s.link.worker.stream.written - m).toNat)
    (hlast : s'.link.worker.Remembers s'.taken)
    (hhistory : ∀ before d after, s'.taken = before ++ d :: after → TakenRight before d) :
    MicGood s' := by
  obtain ⟨hleft, hring⟩ := h.ring_from hm
  have hqueued : s'.queued = (s.link.worker.stream.written - m).toNat := by
    unfold MicLink.queued
    rw [hwritten, hreadPos]
  have hlater : ∀ {slot}, s.Stamped slot → s'.Stamped slot := fun hslot =>
    hslot.later (congrFun hpackets _) (congrFun hstamps _) (Nat.le_of_eq hclock.symm)
  have hroom := h.room
  constructor
  · omega
  · intro k hk
    rw [hreadPos]
    exact hlater (hring k (by omega))
  · intro w hw
    rw [hproducer] at hw
    obtain ⟨heq, hlt⟩ := h.writing w hw
    exact ⟨heq.trans hwritten.symm, by omega⟩
  · intro call w hw
    rw [hproducer] at hw
    exact hlater (h.stamped call w hw)
  · intro mw hmw
    rcases hfill with hseal | ⟨mw', hloop, hbound⟩
    · rw [hseal] at hmw
      cases hmw
    · rw [hloop] at hmw
      cases hmw
      rw [hreadPos, hqueued]
      exact hbound
  · intro mw p q hf
    rcases hfill with hseal | ⟨mw', hloop, -⟩
    · rw [hseal] at hf
      cases hf
    · rw [hloop] at hf
      cases hf
  · exact fun haway => absurd hrun.1 haway
  · intro _
    rw [hrun.2, hclock]
    exact h.time hpc
  · intro n hn
    rw [hclock]
    rw [hsampled] at hn
    exact h.sample n hn
  · exact hlast
  · exact hhistory

/-- Only where the worker stands on the ring changes. -/
theorem MicGood.stand {s : MicLink E D} (h : MicGood s) {fill : MicFill}
    (hpc : s.link.worker.run.pc = .fill)
    (hupTo : ∀ mw, fill.upTo = some mw → (mw - s.link.worker.stream.readPos).toNat ≤ s.queued)
    (hheld : ∀ mw p q, fill = .taken mw p q → mw ≠ s.link.worker.stream.readPos ∧
      p.atUs = UInt32.ofNat q ∧ q ≤ s.clock) : MicGood { s with fill } where
  room := h.room
  ring := h.ring
  writing := h.writing
  stamped := h.stamped
  upTo := hupTo
  held := hheld
  away := fun haway => absurd hpc haway
  time := h.time
  sample := h.sample
  last := h.last
  history := h.history

theorem MicGood.fill {s s' : MicLink E D} (h : MicGood s) (hs : s.fillStep crc32 = some s') :
    MicGood s' := by
  unfold MicLink.fillStep at hs
  simp only at hs
  split at hs
  · cases hs
  next hpc =>
    have hpc : s.link.worker.run.pc = .fill := not_not.mp hpc
    split at hs
    next hfill =>
      cases hs
      have hall : (s.link.worker.stream.written - s.link.worker.stream.readPos).toNat ≤ s.queued :=
        Nat.le_refl _
      split
      · exact h.stand hpc (fun mw hmw => by cases hmw; exact hall) fun _ _ _ hf => (by cases hf)
      · exact h.stand hpc (fun mw hmw => by cases hmw; exact hall) fun _ _ _ hf => (by cases hf)
    next mw hfill =>
      cases hs
      have hbound := h.upTo mw (by rw [hfill]; rfl)
      exact h.goto hpc hbound rfl rfl rfl ⟨hpc, rfl⟩ rfl rfl rfl rfl (.inl rfl)
        (fun hhave => (by cases hhave)) h.history
    next mw hfill =>
      have hbound := h.upTo mw (by rw [hfill]; rfl)
      split at hs
      · cases hs
        exact h.stand hpc (fun _ hmw => (by cases hmw)) fun _ _ _ hf => (by cases hf)
      next hmore =>
        cases hs
        have hne : mw ≠ s.link.worker.stream.readPos := fun heq => hmore heq.symm
        have hpos := counter_sub_pos hne
        have hslot := h.ring 0 (by omega)
        refine h.stand hpc (fun _ hmw => by cases hmw; exact hbound) fun _ _ _ hf => ?_
        cases hf
        exact ⟨hne, hslot.1, hslot.2⟩
    next mw p q hfill =>
      cases hs
      obtain ⟨hne, hstamp, hle⟩ := h.held mw p q hfill
      have hbound := h.upTo mw (by rw [hfill]; rfl)
      have hpos := counter_sub_pos hne
      obtain ⟨n, hn, hnow⟩ := h.time hpc
      obtain ⟨hright, hremembers⟩ := h.last.take hstamp hle hnow hn
      obtain ⟨hpackets, hwritten, hreadPos, hpc', hnow'⟩ :=
        takeMicPacket_stream s.link.worker p
      have hone : (s.link.worker.stream.readPos + 1 - s.link.worker.stream.readPos).toNat ≤
          s.queued := by
        rw [counter_step_sub]
        omega
      refine h.goto hpc hone hreadPos hpackets hwritten ⟨hpc'.trans hpc, hnow'⟩ rfl rfl rfl rfl ?_
        hremembers (takenRight_snoc h.history hright)
      cases (s.link.worker.takeMicPacket p).1 with
      | true => exact .inl rfl
      | false =>
        refine .inr ⟨mw, rfl, ?_⟩
        have hleft := (h.ring_from hone).1
        have hone' : (s.link.worker.stream.readPos + 1 - s.link.worker.stream.readPos).toNat ≤
            (mw - s.link.worker.stream.readPos).toNat := by
          rw [counter_step_sub]
          omega
        rw [counter_sub_jump hone', hleft]
        omega
    next hfill =>
      cases hs
      exact ⟨h.room, h.ring, h.writing, h.stamped, fun _ hmw => (by cases hmw),
        fun _ _ _ hf => (by cases hf), fun _ => rfl, fun hpc => (by cases hpc), h.sample, h.last,
        h.history⟩

/-- The slot being written is none of the ring's. -/
theorem MicGood.slot_free {s : MicLink E D} (hroom : s.queued < 16) {k : Nat} (hk : k < s.queued) :
    ringSlot 16 (s.link.worker.stream.readPos.toNat + k) ≠
      ringSlot 16 s.link.worker.stream.written.toNat := by
  have hslot := ringSlot_sub s.link.worker.stream.written s.link.worker.stream.readPos 0
  rw [Nat.add_zero, Nat.add_zero] at hslot
  rw [hslot]
  change _ ≠ ringSlot 16 (_ + s.queued)
  intro heq
  apply ringSlot_injective_of_lt (N := 16) (i := s.link.worker.stream.readPos.toNat + k)
    (k := s.queued - k) (by omega) (by omega)
  rw [heq, Nat.add_assoc, Nat.add_sub_of_le (Nat.le_of_lt hk)]

/-- The controller writes to its slot, and stays there. -/
theorem MicGood.write {s : MicLink E D} (h : MicGood s) {w : UInt32} {p : MicPacket}
    {producer : MicProducer} {stamps : Fin 16 → Nat}
    (hwriting : s.producer.writing = some w) (hstill : producer.writing = some w)
    (hstamps : ∀ slot, slot ≠ ringSlot 16 w.toNat → stamps slot = s.stamps slot)
    (hstamped : ∀ call w', producer = .publish call w' → w' = w ∧
      p.atUs = UInt32.ofNat (stamps (ringSlot 16 w.toNat)) ∧
      stamps (ringSlot 16 w.toNat) ≤ s.clock) :
    MicGood { s.withStream { s.link.worker.stream with
      packets := Function.update s.link.worker.stream.packets (ringSlot 16 w.toNat) p } with
        producer, stamps } := by
  obtain ⟨hw, hroom⟩ := h.writing w hwriting
  constructor
  · exact h.room
  · intro k hk
    have hne := MicGood.slot_free hroom hk
    rw [← hw] at hne
    exact (h.ring k hk).later (Function.update_of_ne hne _ _) (hstamps _ hne) (Nat.le_refl _)
  · intro w' hw'
    change producer.writing = some w' at hw'
    rw [hstill] at hw'
    cases hw'
    exact ⟨hw, hroom⟩
  · intro call w' hw'
    obtain ⟨rfl, hstamp, hle⟩ := hstamped call w' hw'
    refine ⟨?_, hle⟩
    show (Function.update s.link.worker.stream.packets _ p _).atUs = _
    rw [Function.update_self]
    exact hstamp
  · exact h.upTo
  · exact h.held
  · exact h.away
  · exact h.time
  · exact h.sample
  · exact h.last
  · exact h.history

/-- The controller makes the slot it has written part of the ring. -/
theorem MicGood.publish {s : MicLink E D} (h : MicGood s) {call : MicCall} {w : UInt32}
    (hproducer : s.producer = .publish call w) :
    MicGood { s.withStream { s.link.worker.stream with
      packets := Function.update s.link.worker.stream.packets (ringSlot 16 w.toNat)
        { s.link.worker.stream.packets (ringSlot 16 w.toNat) with payload := call.payload }
      written := w + 1 } with producer := .idle } := by
  obtain ⟨hw, hroom⟩ := h.writing w (by rw [hproducer]; rfl)
  obtain ⟨hstamp, hle⟩ := h.stamped call w hproducer
  have hmore : (w + 1 - s.link.worker.stream.readPos).toNat = s.queued + 1 := by
    unfold MicLink.queued at hroom ⊢
    rw [hw, counter_sub_succ _ _ (by omega)]
  constructor
  · show (w + 1 - s.link.worker.stream.readPos).toNat ≤ 16
    omega
  · intro k hk
    change k < (w + 1 - s.link.worker.stream.readPos).toNat at hk
    by_cases hold : k < s.queued
    · have hne := MicGood.slot_free hroom hold
      rw [← hw] at hne
      exact (h.ring k hold).later (Function.update_of_ne hne _ _) rfl (Nat.le_refl _)
    · -- the newest packet
      have hslot := ringSlot_sub w s.link.worker.stream.readPos 0
      have hk : k = (w - s.link.worker.stream.readPos).toNat + 0 := by
        unfold MicLink.queued at hmore hold
        rw [hw]
        omega
      show MicLink.Stamped _ (ringSlot 16 (s.link.worker.stream.readPos.toNat + k))
      rw [hk, ← hslot, Nat.add_zero]
      refine ⟨?_, hle⟩
      show (Function.update s.link.worker.stream.packets _ _ _).atUs = _
      rw [Function.update_self]
      exact hstamp
  · exact fun _ hw => nomatch hw
  · exact fun _ _ hw => nomatch hw
  · intro mw hmw
    have hbound := h.upTo mw hmw
    show _ ≤ (w + 1 - s.link.worker.stream.readPos).toNat
    rw [hmore]
    exact Nat.le_succ_of_le hbound
  · exact h.held
  · exact h.away
  · exact h.time
  · exact h.sample
  · exact h.last
  · exact h.history

theorem MicGood.append {s s' : MicLink E D} (h : MicGood s) (hs : s.appendStep = some s') :
    MicGood s' := by
  unfold MicLink.appendStep at hs
  simp only at hs
  split at hs
  · cases hs
  next call hproducer =>
    split at hs
    · cases hs
      exact h.producer (fun _ hw => (by cases hw)) fun _ _ hp => (by cases hp)
    next hfree =>
      cases hs
      refine h.producer (fun _ hw => ?_) fun _ _ hp => (by cases hp)
      cases hw
      exact ⟨rfl, UInt32.lt_iff_toNat_lt.mp (UInt32.not_le.mp hfree)⟩
  next call w hproducer =>
    cases hs
    exact h.write (by rw [hproducer]; rfl) rfl (fun _ _ => rfl) fun _ _ hp => (by cases hp)
  next call w hproducer =>
    cases hs
    refine h.write (by rw [hproducer]; rfl) rfl (fun _ hne => Function.update_of_ne hne _ _) ?_
    intro _ _ hp
    cases hp
    rw [Function.update_self]
    exact ⟨rfl, rfl, Nat.le_refl _⟩
  next call w hproducer =>
    cases hs
    exact h.publish hproducer

theorem MicGood.step {s s' : MicLink E D} {a : MicAction} (h : MicGood s)
    (hs : MicLink.Step c crc32 s a s') : MicGood s' := by
  unfold MicLink.Step at hs
  cases a with
  | tick us =>
    cases hs
    exact h.tick us
  | sample =>
    simp only [MicLink.act] at hs
    split at hs
    · cases hs
      exact h.sampled
    · cases hs
  | link a => exact h.link hs
  | fill => exact h.fill hs
  | call call =>
    simp only [MicLink.act] at hs
    split at hs
    · cases hs
      split
      · exact h.producer (fun _ hw => nomatch hw) fun _ _ hp => nomatch hp
      · exact h.producer (fun _ hw => nomatch hw) fun _ _ hp => nomatch hp
    · cases hs
  | append => exact h.append hs

/-! ## When a packet is discarded for its age -/

/-- A packet of the current epoch is discarded for its age only when it is more than 40 ms old, and
is otherwise forwarded or a duplicate of the one forwarded last. -/
def TakenFairly (before : List MicTaken) (d : MicTaken) : Prop :=
  d.packet.epoch = d.epoch →
    (d.verdict = .aged → d.takenAt - d.queuedAt > 40000) ∧
    (d.verdict ≠ .aged → d.verdict = .forwarded ∨ d.verdict = .duplicate ∧
      ∃ l, lastForwarded before = some l ∧
        (d.packet.frame = l.frame ∨ d.packet.seq = l.seq ∧ d.packet.frame - l.frame < 16))

/-- The packet was stamped before the iteration read its clock. Where it was not, the difference of
the two may still come round to 40 ms or less, or the packet grow old before it is taken. -/
def StampedInTime (d : MicTaken) : Prop :=
  d.packet.epoch = d.epoch → d.queuedAt ≤ d.sampledAt ∨
    (d.queuedAt - d.sampledAt + 40000) % 2 ^ 32 ≤ 40000 ∨ d.takenAt - d.queuedAt > 40000

/-- The age as the code computes it. -/
theorem age_toNat (sampledAt queuedAt : Nat) :
    (UInt32.ofNat sampledAt - UInt32.ofNat queuedAt).toNat =
      (sampledAt % 2 ^ 32 + (2 ^ 32 - queuedAt % 2 ^ 32)) % 2 ^ 32 := by
  rw [counter_sub_toNat, UInt32.toNat_ofNat', UInt32.toNat_ofNat']

theorem TakenRight.fairly_iff {before : List MicTaken} {d : MicTaken} (h : TakenRight before d) :
    TakenFairly before d ↔ StampedInTime d := by
  have hrest : d.packet.epoch = d.epoch → d.verdict ≠ .aged → d.verdict = .forwarded ∨
      d.verdict = .duplicate ∧ ∃ l, lastForwarded before = some l ∧
        (d.packet.frame = l.frame ∨ d.packet.seq = l.seq ∧ d.packet.frame - l.frame < 16) := by
    intro hepoch hnot
    cases hverdict : d.verdict with
    | otherEpoch => exact absurd hepoch (h.other hverdict)
    | aged => exact absurd hverdict hnot
    | duplicate => exact .inr ⟨rfl, h.duplicate hverdict⟩
    | forwarded => exact .inl rfl
  have haged : d.packet.epoch = d.epoch → (d.verdict = .aged ↔
      40000 < (d.sampledAt % 2 ^ 32 + (2 ^ 32 - d.queuedAt % 2 ^ 32)) % 2 ^ 32) := by
    intro hepoch
    rw [h.aged hepoch, h.stamp, ← age_toNat]
    exact UInt32.lt_iff_toNat_lt
  have hsampled := h.sampled
  constructor
  · intro hfair hepoch
    by_cases hage : d.verdict = .aged
    · exact .inr (.inr ((hfair hepoch).1 hage))
    · rw [haged hepoch] at hage
      omega
  · intro htime hepoch
    refine ⟨fun hage => ?_, hrest hepoch⟩
    have hold := (haged hepoch).mp hage
    rcases htime hepoch with hbefore | hround | hlate
    · omega
    · omega
    · exact hlate

/-- In every run from an empty ring, as after start-up, of each packet the worker takes. -/
theorem mic_age_exact {b : Link E D} {clock : Nat} {trace : List MicAction} {s : MicLink E D}
    (hring : b.worker.stream.readPos = b.worker.stream.written)
    (hlast : b.worker.run.haveMic = false) (hpc : b.worker.run.pc ≠ .fill)
    (hrun : Run (MicLink.Step c crc32) (.start b clock) trace s) (before : List MicTaken)
    (d : MicTaken) (after : List MicTaken) (htaken : s.taken = before ++ d :: after) :
    TakenFairly before d ↔ StampedInTime d := by
  have hgood := hrun.invariant MicGood (micGood_start clock hring hlast hpc)
    fun _ _ _ h hs => h.step hs
  exact (hgood.history before d after htaken).fairly_iff

/-! ## A packet stamped after the clock was read -/

/-- The packet appended there. -/
def lateCall : MicCall :=
  { frame := 5, seq := 1, payload := Vector.replicate 40 0 }

/-- A live iteration begins at time 0. -/
theorem run_live {s : MicLink E D} (hpc : s.link.worker.run.pc = .top)
    (hreq : s.link.worker.stream.requested = false) (hready : s.link.worker.stream.ready = true)
    (hsource : s.link.worker.stream.source.requested = true)
    (hplay : s.link.worker.wantsPlay playingInput = true) (hclock : s.clock = 0)
    (hsampled : s.sampled = none) :
    ∃ trace s', Run (MicLink.Step c crc32) s trace s' ∧
      s'.link.worker = (s.link.worker.goto .iterate).live playingInput ∧ s'.clock = 0 ∧
      s'.producer = s.producer ∧ s'.fill = s.fill ∧ s'.taken = s.taken := by
  obtain ⟨hfill, -, -⟩ := live_playSent crc32 (s.link.worker.goto .iterate) playingInput hplay
  have h1 : MicLink.Step c crc32 s (.link (.worker playingInput))
      { s with link := { s.link with worker := s.link.worker.goto .iterate } } := by
    simp [MicLink.Step, MicLink.act, MicLink.linkStep, Link.act, Link.workerStep, hpc, Worker.top,
      hreq]
  have h2 : MicLink.Step c crc32
      { s with link := { s.link with worker := s.link.worker.goto .iterate } } .sample
      { s with link := { s.link with worker := s.link.worker.goto .iterate }
               sampled := some s.clock } := by
    simp [MicLink.Step, MicLink.act, Worker.goto, hsampled]
  have hlive : Link.act c crc32 { s.link with worker := s.link.worker.goto .iterate }
      (.worker playingInput) =
      some (({ s.link with worker := s.link.worker.goto .iterate } : Link E D).request
        (some playingInput.pcm) ((s.link.worker.goto .iterate).live playingInput)) := by
    have hwants : (s.link.worker.goto .iterate).wantsPlay playingInput = true := hplay
    unfold Link.act Link.workerStep
    change (if (!s.link.worker.stream.ready) = true then _ else
      if (!s.link.worker.stream.source.requested) = true then _ else _) = _
    rw [hready, hsource]
    simp [hfill, hwants]
  have h3 : MicLink.Step c crc32
      { s with link := { s.link with worker := s.link.worker.goto .iterate }
               sampled := some s.clock } (.link (.worker playingInput))
      { s with
        link := ({ s.link with worker := s.link.worker.goto .iterate } : Link E D).request
          (some playingInput.pcm) ((s.link.worker.goto .iterate).live playingInput)
        sampled := none } := by
    unfold MicLink.Step MicLink.act MicLink.linkStep
    simp only
    rw [if_neg (fun h => (by cases h)),
      if_pos (show (s.link.worker.goto .iterate).run.pc = .iterate from rfl),
      if_pos (by rw [hclock]; rfl), hlive]
    rfl
  exact ⟨_, _, ((Run.single h1).snoc h2).snoc h3, rfl, hclock, rfl, rfl, rfl⟩

/-- A packet is appended 10 us later. -/
theorem run_appended {s : MicLink E D} (hactive : s.link.worker.stream.micActive = true)
    (hempty : s.link.worker.stream.readPos = s.link.worker.stream.written)
    (hproducer : s.producer = .idle) :
    ∃ trace s', Run (MicLink.Step c crc32) s trace s' ∧ s'.link.worker.run = s.link.worker.run ∧
      s'.link.worker.stream.readPos = s.link.worker.stream.written ∧
      s'.link.worker.stream.written = s.link.worker.stream.written + 1 ∧
      s'.link.worker.stream.packets (ringSlot 16 s.link.worker.stream.written.toNat) =
        { frame := 5, epoch := s.link.worker.stream.epoch, atUs := UInt32.ofNat (s.clock + 10)
          seq := 1, payload := lateCall.payload } ∧
      s'.stamps (ringSlot 16 s.link.worker.stream.written.toNat) = s.clock + 10 ∧
      s'.clock = s.clock + 10 ∧ s'.fill = s.fill ∧ s'.taken = s.taken := by
  have hcall : MicLink.Step c crc32 { s with clock := s.clock + 10 } (.call lateCall)
      { s with clock := s.clock + 10, producer := .active lateCall } := by
    simp [MicLink.Step, MicLink.act, hproducer, hactive]
  have hroom : MicLink.Step c crc32 { s with clock := s.clock + 10, producer := .active lateCall }
      .append { s with clock := s.clock + 10
                       producer := .room lateCall s.link.worker.stream.written } := by
    show (if _ then _ else _) = _
    rw [if_neg (by rw [hempty, UInt32.sub_self]; decide)]
  have hwrite : Run (MicLink.Step c crc32)
      { s with clock := s.clock + 10, producer := .room lateCall s.link.worker.stream.written }
      [.append, .append, .append] _ := Run.of_foldlM (f := MicLink.act c crc32) rfl
  have hstart := ((Run.single (show MicLink.Step c crc32 s (.tick 10) _ from rfl)).snoc hcall).snoc
    hroom
  have hrun := hstart.append hwrite
  simp only [MicLink.withStream, Function.update_self, Function.update_idem] at hrun
  exact ⟨_, _, hrun, rfl, hempty, rfl, Function.update_self .., Function.update_self .., rfl, rfl,
    rfl⟩

/-- The worker looks at the ring after that. -/
theorem run_late {s : MicLink E D} (hpc : s.link.worker.run.pc = .fill)
    (hactive : s.link.worker.stream.micActive = true) (hcapture : s.link.worker.run.capture = true)
    (hempty : s.link.worker.stream.readPos = s.link.worker.stream.written)
    (hepoch : s.link.worker.run.currentEpoch = s.link.worker.stream.epoch)
    (hnow : s.link.worker.run.now = 0) (hclock : s.clock = 0) (hproducer : s.producer = .idle)
    (hfill : s.fill = .load) (htaken : s.taken = []) :
    ∃ trace s' d, Run (MicLink.Step c crc32) s trace s' ∧ s'.taken = [d] ∧
      d.packet.epoch = d.epoch ∧ d.verdict = .aged ∧ d.queuedAt = 10 ∧ d.takenAt = 10 ∧
      d.sampledAt = 0 := by
  obtain ⟨trace, t, hrun, hsame, hread, hwritten, hpacket, hstamp, hlater, hfill', htaken'⟩ :
      ∃ trace t, Run (MicLink.Step c crc32) s trace t ∧ _ :=
    run_appended hactive hempty hproducer
  have hpc' : ¬t.link.worker.run.pc ≠ .fill := by
    rw [hsame]
    exact not_not.mpr hpc
  have h1 : MicLink.Step c crc32 t .fill
      { t with fill := .loop (s.link.worker.stream.written + 1) } := by
    unfold MicLink.Step MicLink.act MicLink.fillStep
    simp only [if_neg hpc', hfill', hfill]
    rw [hsame, hcapture, hwritten]
    rfl
  have hmore : ¬t.link.worker.stream.readPos = s.link.worker.stream.written + 1 := by
    rw [hread]
    intro heq
    have hone := counter_step_sub s.link.worker.stream.written
    rw [← heq, UInt32.sub_self] at hone
    cases hone
  generalize hp : MicPacket.mk 5 s.link.worker.stream.epoch (UInt32.ofNat (s.clock + 10)) 1
    lateCall.payload = p at hpacket
  have h2 : MicLink.Step c crc32 { t with fill := .loop (s.link.worker.stream.written + 1) } .fill
      { t with fill := .taken (s.link.worker.stream.written + 1) p (s.clock + 10) } := by
    unfold MicLink.Step MicLink.act MicLink.fillStep
    simp only [if_neg hpc', if_neg hmore]
    rw [hread, hpacket, hstamp]
  have haged : t.link.worker.verdict p = .aged := by
    unfold Worker.verdict
    rw [hsame, hepoch, ← hp, hnow, hclock]
    have hwrapped : UInt32.ofInt 0 - UInt32.ofNat (0 + 10) > 40000 := by decide
    rw [if_neg (fun h => h rfl), if_pos hwrapped]
  have h3 := Run.of_foldlM (f := MicLink.act c crc32) (l := [.fill])
    (s := { t with fill := .taken (s.link.worker.stream.written + 1) p (s.clock + 10) })
    (t := _) (by
      simp only [List.foldlM_cons, List.foldlM_nil, MicLink.act, MicLink.fillStep, if_neg hpc']
      rfl)
  refine ⟨_, _, ⟨p, s.clock + 10, t.link.worker.run.now.toNat, t.clock,
    t.link.worker.run.currentEpoch, t.link.worker.verdict p⟩,
    ((hrun.snoc h1).snoc h2).append h3, ?_, ?_, ?_, ?_, ?_, ?_⟩
  · show t.taken ++ _ = _
    rw [htaken', htaken]
    rfl
  · show p.epoch = t.link.worker.run.currentEpoch
    rw [hsame, hepoch, ← hp]
  · exact haged
  · show s.clock + 10 = 10
    rw [hclock]
  · show t.clock = 10
    rw [hlater, hclock]
  · show t.link.worker.run.now.toNat = 0
    rw [hsame, hnow]
    rfl

/-- From start-up the bridge gets to a live iteration that takes a packet stamped within it. -/
theorem run_discarded :
    ∃ (t0 : List LinkAction) (b : Link Unit Unit) (trace : List MicAction)
      (s : MicLink Unit Unit) (d : MicTaken),
      Run (Link.Step markedCodecs crc32Le) (Link.init crc32Le 1 noPackets () () .zero) t0 b ∧
      b.worker.stream.readPos = b.worker.stream.written ∧ b.worker.run.haveMic = false ∧
      b.worker.run.pc ≠ .fill ∧ Run (MicLink.Step markedCodecs crc32Le) (.start b 0) trace s ∧
      s.taken = [d] ∧ d.packet.epoch = d.epoch ∧ d.verdict = .aged ∧ d.queuedAt = 10 ∧
      d.takenAt = 10 ∧ d.sampledAt = 0 := by
  obtain ⟨t0, b, hboot, h, hsource, -, -, -, -, -, -, -, hmic⟩ :=
    run_selecting markedCodecs crc32Le noPackets () () .zero
  have hring : b.worker.stream.readPos = b.worker.stream.written :=
    hmic.readPos.trans hmic.written.symm
  have hplay : b.worker.wantsPlay playingInput = true := by
    unfold Worker.wantsPlay
    rw [hsource]
    rfl
  obtain ⟨t1, s1, hrun1, hworker, hclock, hproducer, hfill, htaken⟩ :
      ∃ trace s', Run (MicLink.Step markedCodecs crc32Le) (.start b 0) trace s' ∧ _ :=
    run_live h.pc h.requested h.ready
      (by rw [show (MicLink.start b 0).link = b from rfl, hsource]; rfl) hplay rfl rfl
  obtain ⟨hpc, -, -⟩ := live_playSent crc32Le (b.worker.goto .iterate) playingInput hplay
  have hlive : (b.worker.goto .iterate).live playingInput = s1.link.worker := hworker.symm
  have hfields : s1.link.worker.stream.micActive = b.worker.stream.micEnabled ∧
      s1.link.worker.run.capture = b.worker.stream.micEnabled ∧
      s1.link.worker.run.currentEpoch = s1.link.worker.stream.epoch := by
    rw [← hlive]
    unfold Worker.live
    simp only
    split
    · exact ⟨rfl, rfl, rfl⟩
    · exact ⟨rfl, rfl, rfl⟩
  obtain ⟨-, hwritten, hreadPos, -, -, -, hnow⟩ := live_beside (b.worker.goto .iterate) playingInput
  rw [hlive] at hpc hwritten hreadPos hnow
  obtain ⟨hactive, hcapture, hepoch⟩ := hfields
  rw [hmic.enabled] at hactive hcapture
  obtain ⟨t2, s2, d, hrun2, hd⟩ := run_late hpc hactive hcapture
    (hreadPos.trans (hring.trans hwritten.symm)) hepoch hnow hclock hproducer hfill htaken
  refine ⟨t0, b, _, s2, d, hboot, hring, hmic.haveMic, ?_, hrun1.append hrun2, hd⟩
  rw [h.pc]
  exact fun h => nomatch h

/-- The packet of that run is not 40 ms old, but discarded for its age. -/
theorem late_packet_discarded :
    ∃ (t0 : List LinkAction) (b : Link Unit Unit) (trace : List MicAction)
      (s : MicLink Unit Unit) (before : List MicTaken) (d : MicTaken) (after : List MicTaken),
      Run (Link.Step markedCodecs crc32Le) (Link.init crc32Le 1 noPackets () () .zero) t0 b ∧
      Run (MicLink.Step markedCodecs crc32Le) (.start b 0) trace s ∧
      s.taken = before ++ d :: after ∧ ¬TakenFairly before d := by
  obtain ⟨t0, b, trace, s, d, hboot, -, -, -, hrun, htaken, hepoch, haged, hqueued, htakenAt, -⟩ :=
    run_discarded
  refine ⟨t0, b, trace, s, [], d, [], hboot, hrun, htaken, fun hfair => ?_⟩
  have hold := (hfair hepoch).1 haged
  omega

theorem mic_age_exact_late :
    ∃ (s : MicLink Unit Unit) (d : MicTaken), s.taken = [d] ∧
      (TakenFairly [] d ↔ StampedInTime d) := by
  obtain ⟨_, b, _, s, d, -, hring, hlast, hpc, hrun, htaken, -⟩ := run_discarded
  exact ⟨s, d, htaken, mic_age_exact hring hlast hpc hrun [] d [] htaken⟩

end UllReceiver.Bridge
