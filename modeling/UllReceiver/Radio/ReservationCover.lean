import UllReceiver.Air.SessionGrid
import UllReceiver.Radio.Reservation

/-!
# Reservations cover what is programmed inside them

All times here are half microseconds from the coarse tick of the start.
-/

namespace UllReceiver.Radio

open Air (clockMask)

/-- Coarse ticks from `a` to `b` on the 28-bit clock. -/
def clockTicks (a b : UInt32) : Nat :=
  ((b - a) &&& clockMask).toNat

def TxSpan.startsAt (s : TxSpan) (origin : UInt32) : Nat :=
  625 * clockTicks origin s.hs + s.hus.toNat

def TxSpan.endsAt (s : TxSpan) (origin : UInt32) : Nat :=
  s.startsAt origin + s.durationHus.toNat

/-- The alarm fires at a coarse tick. -/
def alarmAt (origin alarmHs : UInt32) : Nat :=
  625 * clockTicks origin alarmHs

namespace RadioTxRequest

/-- Something on the air is planned to end so many microseconds after the start. A receiver keeps a
packet of 64 bytes. -/
inductive PlansUntil (r : RadioTxRequest) : Nat → Prop where
  | receive (h : r.receiveUs ≠ 0) : PlansUntil r r.receiveUs.toNat
  | transmit (h : r.receiveUs = 0) : PlansUntil r r.airUs
  | answer (h : r.txReceiveUs ≠ 0) : PlansUntil r
      (r.airUs + 150 + r.txReceiveUs.toNat + if r.phy = 1 then (64 + 10) * 8 else (64 + 11) * 4)
  | reply (h : r.prequeuedReply ≠ 0) : PlansUntil r
      (r.followupDelayUs.toNat + r.followupWindowUs.toNat + 300)

/-- `air_us` in the natural numbers. -/
def plannedExact (r : RadioTxRequest) : Nat :=
  if r.receiveUs ≠ 0 then r.receiveUs.toNat
  else if r.prequeuedReply ≠ 0 then
    r.followupDelayUs.toNat + r.followupWindowUs.toNat + 300 +
      (if r.repeatPayload ≠ 0 then r.airUs + 150 else 0)
  else if r.txReceiveUs ≠ 0 then
    r.airUs + (150 + r.txReceiveUs.toNat + if r.phy = 1 then (64 + 10) * 8 else (64 + 11) * 4)
  else r.airUs

/-- Every sum, product and difference is the one of the natural numbers, which fits in 32 bits. -/
structure Unwrapped (r : RadioTxRequest) : Prop where
  packet : r.packetUs.toNat = r.airUs
  planned : r.plannedUs.toNat = r.plannedExact
  burst : r.burstTicks.toNat = (r.startHus.toNat + 2 * r.plannedExact + 624) / 625 + 1
  burst_fits : r.startHus.toNat + 2 * r.plannedExact + 624 < 2 ^ 32
  duration : r.txPlan.arb.durationHus.toNat + r.startHus.toNat = (r.burstTicks.toNat + 2) * 625
  duration_fits : (r.burstTicks.toNat + 2) * 625 < 2 ^ 32
  alarm_fits : r.startHs.toNat + r.burstTicks.toNat < 2 ^ 32
  fine : (r.startHus.toUInt32 + 2 * r.followupDelayUs.toUInt32).toNat =
    r.startHus.toNat + 2 * r.followupDelayUs.toNat
  followup_fits : r.startHs.toNat + (r.startHus.toNat + 2 * r.followupDelayUs.toNat) / 625 < 2 ^ 32
  reply : r.prequeuedReply ≠ 0 → 2 * r.followupDelayUs.toNat ≤ r.txPlan.arb.durationHus.toNat
  stop : r.stopTicks.toNat = (r.startHus.toNat + 5950 + 40 + 624) / 625
  stop_fits : r.startHs.toNat + (r.startHus.toNat + 5950 + 40 + 624) / 625 < 2 ^ 32

/-- The reservation of a request covers what is planned inside it. -/
structure Covered (r : RadioTxRequest) : Prop where
  unwrapped : r.Unwrapped
  starts : r.txPlan.arb.startsAt r.startHs = r.startHus.toNat ∧
    r.txPlan.program.startsAt r.startHs = r.startHus.toNat
  margin : r.repeatPayload = 0 →
    alarmAt r.startHs r.txPlan.alarmHs + 2 * 625 ≤ r.txPlan.arb.endsAt r.startHs
  activity : r.repeatPayload = 0 → ∀ us, r.PlansUntil us →
    r.startHus.toNat + 2 * us ≤ alarmAt r.startHs r.txPlan.alarmHs
  whole : r.prequeuedReply = 0 → r.txPlan.program = r.txPlan.arb
  prequeued : r.prequeuedReply ≠ 0 → ∃ reply, r.txPlan.reply = some reply ∧
    r.txPlan.program.durationHus.toNat = 2 * r.followupDelayUs.toNat ∧
    r.airUs + 300 ≤ r.followupDelayUs.toNat ∧
    reply.startsAt r.startHs = r.startHus.toNat + 2 * r.followupDelayUs.toNat ∧
    0 < reply.durationHus.toNat ∧
    r.txPlan.program.durationHus.toNat + reply.durationHus.toNat =
      r.txPlan.arb.durationHus.toNat
  repeated : r.repeatPayload ≠ 0 → ∃ stop, r.txPlan.stop = some stop ∧
    stop.hus.toNat < 625 ∧ stop.hs ≤ clockMask ∧
    r.startHus.toNat + 2 * (r.followupDelayUs.toNat + r.airUs) < stop.startsAt r.startHs ∧
    stop.endsAt r.startHs ≤ r.txPlan.arb.endsAt r.startHs ∧
    stop.endsAt r.startHs ≤ alarmAt r.startHs r.txPlan.alarmHs ∧
    alarmAt r.startHs r.txPlan.alarmHs ≤ r.txPlan.arb.endsAt r.startHs
  followup : r.followupDelayUs ≠ 0 → ∃ hs hus, r.txPlan.followup = some (hs, hus) ∧
    hus.toNat < 625 ∧ hs ≤ clockMask ∧
    625 * hs.toNat + hus.toNat ≡
      625 * r.startHs.toNat + r.startHus.toNat + 2 * r.followupDelayUs.toNat [MOD 625 * 2 ^ 28]
  queued : r.followupDelayUs ≠ 0 → ∀ scene arb program alarmHs,
    txQueueFollowup scene r.followupAt r.followupWindowUs = .programmed arb program alarmHs →
      program = arb ∧ arb.hs = r.followupAt.1 ∧ arb.hus = r.followupAt.2.toUInt32 ∧
      r.followupAt.2.toNat + 2 * r.followupWindowUs.toNat + 624 < 2 ^ 32 ∧
      arb.durationHus.toNat + r.followupAt.2.toNat =
        ((r.followupAt.2.toNat + 2 * r.followupWindowUs.toNat + 624) / 625 + 3) * 625 ∧
      r.followupAt.2.toNat + 2 * r.followupWindowUs.toNat ≤ alarmAt arb.hs alarmHs ∧
      alarmAt arb.hs alarmHs + 2 * 625 ≤ arb.endsAt arb.hs

end RadioTxRequest

/-! ## The clock -/

theorem masked_toNat (a : UInt32) : (a &&& clockMask).toNat = a.toNat % 2 ^ 28 := by
  rw [UInt32.toNat_and]
  change _ &&& (2 ^ 28 - 1) = _
  rw [Nat.and_two_pow_sub_one_eq_mod]

theorem clockTicks_self (a : UInt32) : clockTicks a a = 0 := by
  unfold clockTicks
  rw [UInt32.sub_self]
  rfl

/-- `k` ticks later. -/
theorem clockTicks_add {a k : UInt32} (ha : a.toNat < 2 ^ 28) (hk : k.toNat < 2 ^ 28) :
    clockTicks a ((a + k) &&& clockMask) = k.toNat := by
  unfold clockTicks
  rw [Air.coarse_sub_toNat, masked_toNat, UInt32.toNat_add]
  omega

/-! ## What the checks promise -/

/-- The bounds of an accepted request. -/
structure RadioTxRequest.Bounds (r : RadioTxRequest) : Prop where
  length : r.length ≤ 251
  startHs : r.startHs.toNat < 2 ^ 28
  startHus : r.startHus.toNat ≤ 624
  receiveUs : r.receiveUs.toNat ≤ 1000
  txReceiveUs : r.txReceiveUs.toNat ≤ 1000
  exclusive : r.receiveUs = 0 ∨ r.txReceiveUs = 0
  prequeued : r.prequeuedReply ≠ 0 → r.followupDelayUs ≠ 0 ∧
    r.airUs + 300 ≤ r.followupDelayUs.toNat
  repeated : r.repeatPayload ≠ 0 → r.prequeuedReply ≠ 0 ∧
    (r.length = 203 ∨ r.length = 205) ∧ r.phy = 2 ∧
    r.followupDelayUs.toNat = 1420
  followup : r.followupDelayUs ≠ 0 → r.receiveUs = 0 ∧ r.txReceiveUs = 0 ∧
    r.followupDelayUs.toNat ≤ 3500 ∧ 0 < r.followupWindowUs.toNat ∧
    r.followupWindowUs.toNat ≤ 1000
  window : r.followupWindowUs.toNat ≤ 1000

theorem le_of_not_gt16 {a b : UInt16} (h : ¬a > b) : a.toNat ≤ b.toNat :=
  UInt16.le_iff_toNat_le.mp (UInt16.not_lt.mp h)

theorem RadioTxRequest.bounds_of_accepted {r : RadioTxRequest} (h : ¬r.refused) : r.Bounds := by
  unfold RadioTxRequest.refused at h
  simp only [not_or] at h
  obtain ⟨-, hlength, -, -, -, -, hhs, hhus, -, hreceive, htx, hboth, -, -, hrepeat, hprequeued,
    hfollowup, hwindow⟩ := h
  have hfollow (hdelay : r.followupDelayUs ≠ 0) : r.receiveUs = 0 ∧ r.txReceiveUs = 0 ∧
      r.followupDelayUs.toNat ≤ 3500 ∧ 0 < r.followupWindowUs.toNat ∧
      r.followupWindowUs.toNat ≤ 1000 := by
    unfold RadioTxRequest.followupRefused at hfollowup
    have hrest := not_and.mp hfollowup hdelay
    simp only [not_or, not_not] at hrest
    obtain ⟨hnoReceive, hnoTx, -, hlong, hsome, hwide, -⟩ := hrest
    refine ⟨hnoReceive, hnoTx, le_of_not_gt16 hlong, ?_, le_of_not_gt16 hwide⟩
    exact Nat.pos_of_ne_zero fun hzero => hsome (UInt16.toNat_inj.mp hzero)
  exact {
    length := Nat.not_lt.mp hlength
    startHs := by
      have hle := UInt32.le_iff_toNat_le.mp (UInt32.not_lt.mp hhs)
      change _ ≤ 268435455 at hle
      omega
    startHus := le_of_not_gt16 hhus
    receiveUs := le_of_not_gt16 hreceive
    txReceiveUs := le_of_not_gt16 htx
    exclusive := Decidable.or_iff_not_not_and_not.mpr hboth
    prequeued := by
      intro hreply
      have hrest := fun hbad => hprequeued ⟨hreply, hbad⟩
      exact ⟨fun hzero => hrest (Or.inl hzero), Nat.not_lt.mp fun hshort => hrest (Or.inr hshort)⟩
    repeated := by
      intro hagain
      have hrest := fun hbad => hrepeat ⟨hagain, hbad⟩
      have hframe : r.length = 203 ∧ r.header = 0x30 ∨ r.length = 205 ∧ r.header = 0x32 :=
        Decidable.not_not.mp fun hnot => hrest (Or.inr (Or.inl hnot))
      refine ⟨fun hzero => hrest (Or.inl hzero), hframe.imp And.left And.left, ?_, ?_⟩
      · exact Decidable.not_not.mp fun hphy => hrest (Or.inr (Or.inr (Or.inl hphy)))
      · have hdelay : r.followupDelayUs = 1420 :=
          Decidable.not_not.mp fun hnot => hrest (Or.inr (Or.inr (Or.inr hnot)))
        rw [hdelay]
        rfl
    followup := hfollow
    window := by
      by_cases hdelay : r.followupDelayUs = 0
      · have hzero : r.followupWindowUs = 0 :=
          Decidable.not_not.mp fun hnot => hwindow ⟨hdelay, hnot⟩
        rw [hzero]
        exact Nat.zero_le _
      · exact (hfollow hdelay).2.2.2.2 }

namespace RadioTxRequest.Bounds

variable {r : RadioTxRequest} (h : r.Bounds)

include h

/-! ## No step wraps -/

theorem packet : r.packetUs.toNat = r.airUs ∧ r.airUs ≤ 2096 := by
  have hlength := h.length
  have hword : (UInt32.ofNat r.length).toNat = r.length :=
    UInt32.toNat_ofNat_of_lt' (by
      change _ < 4294967296
      omega)
  unfold packetUs airUs
  split
  · rw [UInt32.toNat_mul, UInt32.toNat_add, hword]
    change (r.length + 10) % 4294967296 * 8 % 4294967296 = _ ∧ _
    omega
  · rw [UInt32.toNat_mul, UInt32.toNat_add, hword]
    change (r.length + 11) % 4294967296 * 4 % 4294967296 = _ ∧ _
    omega

theorem planned : r.plannedUs.toNat = r.plannedExact ∧ r.plannedExact ≤ 7100 := by
  obtain ⟨hpacket, hair⟩ := h.packet
  have hreceive := h.receiveUs
  have htx := h.txReceiveUs
  have hwindow := h.window
  have hreply (hyes : r.prequeuedReply ≠ 0) : r.followupDelayUs.toNat ≤ 3500 :=
    (h.followup (h.prequeued hyes).1).2.2.1
  unfold plannedUs plannedExact
  split
  next => exact ⟨UInt16.toNat_toUInt32 .., by omega⟩
  next =>
    split
    next hyes =>
      have hdelay := hreply hyes
      split
      · simp only [UInt32.toNat_add, UInt16.toNat_toUInt32, hpacket]
        change ((_ + 300) % 4294967296 + (r.airUs + 150) % 4294967296) % 4294967296 = _ ∧ _
        omega
      · simp only [UInt32.toNat_add, UInt16.toNat_toUInt32]
        change ((_ + 300) % 4294967296 + 0) % 4294967296 = _ ∧ _
        omega
    next =>
      split
      next =>
        dsimp only
        split
        · simp only [UInt32.toNat_add, UInt16.toNat_toUInt32, hpacket]
          change (r.airUs + ((150 + r.txReceiveUs.toNat) % 4294967296 + 592) % 4294967296) %
            4294967296 = _ ∧ _
          omega
        · simp only [UInt32.toNat_add, UInt16.toNat_toUInt32, hpacket]
          change (r.airUs + ((150 + r.txReceiveUs.toNat) % 4294967296 + 300) % 4294967296) %
            4294967296 = _ ∧ _
          omega
      next => exact ⟨hpacket, by omega⟩

theorem burst : r.burstTicks.toNat = (r.startHus.toNat + 2 * r.plannedExact + 624) / 625 + 1 := by
  obtain ⟨hplanned, hbound⟩ := h.planned
  have hhus := h.startHus
  unfold burstTicks
  simp only [UInt32.toNat_add, UInt32.toNat_div, UInt32.toNat_mul, UInt16.toNat_toUInt32, hplanned]
  change (((r.startHus.toNat + 2 * r.plannedExact % 4294967296) % 4294967296 + 624) % 4294967296 /
    625 + 1) % 4294967296 = _
  simp (disch := omega) only [Nat.mod_eq_of_lt]

theorem burst_le : r.burstTicks.toNat ≤ 25 := by
  have hplanned := h.planned.2
  have hhus := h.startHus
  rw [h.burst]
  omega

end RadioTxRequest.Bounds

/-! ## The parts of a plan -/

namespace RadioTxRequest

variable (r : RadioTxRequest)

theorem txPlan_arb : r.txPlan.arb =
    { hs := r.startHs, hus := r.startHus.toUInt32
      durationHus := (r.burstTicks + 2) * 625 - r.startHus.toUInt32 } := by
  unfold txPlan
  dsimp only
  split <;> rfl

theorem txPlan_followup :
    r.txPlan.followup = if r.followupDelayUs ≠ 0 then some r.followupAt else none := by
  unfold txPlan
  dsimp only
  split <;> rfl

variable {r}

theorem txPlan_single (h : r.prequeuedReply = 0) : r.txPlan.program = r.txPlan.arb ∧
    r.txPlan.alarmHs = (r.startHs + r.burstTicks) &&& clockMask := by
  unfold txPlan
  dsimp only
  rw [if_neg (not_not.mpr h)]
  exact ⟨rfl, rfl⟩

theorem txPlan_reply (h : r.prequeuedReply ≠ 0) :
    r.txPlan.program = { r.txPlan.arb with durationHus := 2 * r.followupDelayUs.toUInt32 } ∧
      r.txPlan.reply = some
        { hs := r.followupAt.1, hus := r.followupAt.2.toUInt32
          durationHus := r.txPlan.arb.durationHus - 2 * r.followupDelayUs.toUInt32 } ∧
      r.txPlan.stop = (if r.repeatPayload ≠ 0 then some r.stopSpan else none) ∧
      r.txPlan.alarmHs = if r.repeatPayload ≠ 0 then (r.startHs + r.stopTicks) &&& clockMask
        else (r.startHs + r.burstTicks) &&& clockMask := by
  unfold txPlan
  dsimp only
  rw [if_pos h]
  exact ⟨rfl, rfl, rfl, rfl⟩

end RadioTxRequest

/-- `(ticks + 2) * 625 - hus`: two ticks behind the tick of the alarm. -/
theorem spanTo_toNat {ticks : UInt32} {hus : UInt16} (hticks : ticks.toNat ≤ 25)
    (hhus : hus.toNat ≤ 624) :
    ((ticks + 2) * 625 - hus.toUInt32).toNat + hus.toNat = (ticks.toNat + 2) * 625 := by
  have hproduct : ((ticks + 2) * 625).toNat = (ticks.toNat + 2) * 625 := by
    rw [UInt32.toNat_mul, UInt32.toNat_add]
    change (ticks.toNat + 2) % 4294967296 * 625 % 4294967296 = _
    omega
  rw [UInt32.toNat_sub_of_le _ _ (UInt32.le_iff_toNat_le.mpr (by
    rw [hproduct, UInt16.toNat_toUInt32]
    omega)), hproduct, UInt16.toNat_toUInt32]
  omega

/-- An instant that is normalised again after half microseconds were added to it. -/
theorem fine_toNat {hus : UInt16} {more : UInt32} (hhus : hus.toNat ≤ 624)
    (hmore : more.toNat ≤ 7000) : (hus.toUInt32 + more).toNat = hus.toNat + more.toNat := by
  rw [UInt32.toNat_add, UInt16.toNat_toUInt32]
  exact Nat.mod_eq_of_lt (by omega)

/-- Its coarse tick. -/
theorem clockTicks_fine {hs : UInt32} {hus : UInt16} {more : UInt32} (hhs : hs.toNat < 2 ^ 28)
    (hhus : hus.toNat ≤ 624) (hmore : more.toNat ≤ 7000) :
    clockTicks hs ((hs + (hus.toUInt32 + more) / 625) &&& clockMask) =
      (hus.toNat + more.toNat) / 625 := by
  have hticks : ((hus.toUInt32 + more) / 625).toNat = (hus.toNat + more.toNat) / 625 := by
    rw [UInt32.toNat_div, fine_toNat hhus hmore]
    rfl
  rw [clockTicks_add hhs (by omega), hticks]

namespace RadioTxRequest.Bounds

variable {r : RadioTxRequest} (h : r.Bounds)

include h

theorem duration :
    r.txPlan.arb.durationHus.toNat + r.startHus.toNat = (r.burstTicks.toNat + 2) * 625 := by
  rw [r.txPlan_arb]
  exact spanTo_toNat h.burst_le h.startHus

theorem delay_le : r.followupDelayUs.toNat ≤ 3500 := by
  by_cases hzero : r.followupDelayUs = 0
  · rw [hzero]
    exact Nat.zero_le _
  · exact (h.followup hzero).2.2.1

theorem delayHus : (2 * r.followupDelayUs.toUInt32).toNat = 2 * r.followupDelayUs.toNat := by
  have hdelay := h.delay_le
  rw [UInt32.toNat_mul, UInt16.toNat_toUInt32]
  change 2 * _ % 4294967296 = _
  omega

theorem fine : (r.startHus.toUInt32 + 2 * r.followupDelayUs.toUInt32).toNat =
    r.startHus.toNat + 2 * r.followupDelayUs.toNat := by
  have hdelay := h.delay_le
  rw [fine_toNat h.startHus (by rw [h.delayHus]; omega), h.delayHus]

theorem stopTicks : r.stopTicks.toNat = (r.startHus.toNat + 5950 + 40 + 624) / 625 := by
  have hhus := h.startHus
  unfold RadioTxRequest.stopTicks
  rw [UInt32.toNat_div, UInt32.toNat_add, UInt32.toNat_add, UInt32.toNat_add,
    UInt16.toNat_toUInt32]
  change (((r.startHus.toNat + 5950) % 4294967296 + 40) % 4294967296 + 624) % 4294967296 / 625 = _
  simp (disch := omega) only [Nat.mod_eq_of_lt]

theorem plannedExact_reply (hreply : r.prequeuedReply ≠ 0) :
    r.plannedExact = r.followupDelayUs.toNat + r.followupWindowUs.toNat + 300 +
      (if r.repeatPayload ≠ 0 then r.airUs + 150 else 0) := by
  have hreceive := (h.followup (h.prequeued hreply).1).1
  unfold plannedExact
  rw [if_neg (not_not.mpr hreceive), if_pos hreply]

theorem unwrapped : r.Unwrapped := by
  have hhs := h.startHs
  have hhus := h.startHus
  have hburst := h.burst_le
  have hdelay := h.delay_le
  exact {
    packet := h.packet.1
    planned := h.planned.1
    burst := h.burst
    burst_fits := by
      have hplanned := h.planned.2
      omega
    duration := h.duration
    duration_fits := by omega
    alarm_fits := by omega
    fine := h.fine
    followup_fits := by omega
    reply := by
      intro hreply
      have hplanned := h.plannedExact_reply hreply
      have hduration := h.duration
      rw [h.burst] at hduration
      omega
    stop := h.stopTicks
    stop_fits := by omega }

/-! ## Coverage -/

theorem arb_endsAt :
    r.txPlan.arb.startsAt r.startHs = r.startHus.toNat ∧
      r.txPlan.arb.endsAt r.startHs = (r.burstTicks.toNat + 2) * 625 := by
  have hstart : r.txPlan.arb.startsAt r.startHs = r.startHus.toNat := by
    rw [r.txPlan_arb, TxSpan.startsAt, clockTicks_self, UInt16.toNat_toUInt32]
    omega
  refine ⟨hstart, ?_⟩
  have hduration := h.duration
  rw [TxSpan.endsAt, hstart]
  omega

theorem alarm_single (hrepeat : r.repeatPayload = 0) :
    alarmAt r.startHs r.txPlan.alarmHs = 625 * r.burstTicks.toNat := by
  have halarm : r.txPlan.alarmHs = (r.startHs + r.burstTicks) &&& clockMask := by
    by_cases hreply : r.prequeuedReply = 0
    · exact (RadioTxRequest.txPlan_single hreply).2
    · rw [(RadioTxRequest.txPlan_reply hreply).2.2.2, if_neg (not_not.mpr hrepeat)]
  have hburst := h.burst_le
  rw [halarm, alarmAt, clockTicks_add h.startHs (by omega)]

/-- The reservation is made for the longest of what is planned. -/
theorem plannedExact_ge {us : Nat} (hus : r.PlansUntil us) : us ≤ r.plannedExact := by
  unfold plannedExact
  cases hus with
  | receive hreceive =>
    rw [if_pos hreceive]
  | transmit hsend =>
    rw [if_neg (not_not.mpr hsend)]
    split
    next hreply =>
      have hdelay := (h.prequeued hreply).2
      omega
    next =>
      split
      · exact Nat.le_add_right _ _
      · exact Nat.le_refl _
  | answer htx =>
    have hreceive : r.receiveUs = 0 := h.exclusive.resolve_right htx
    have hreply : ¬r.prequeuedReply ≠ 0 :=
      fun hreply => htx (h.followup (h.prequeued hreply).1).2.1
    rw [if_neg (not_not.mpr hreceive), if_neg hreply, if_pos htx]
    omega
  | reply hreply =>
    have hreceive := (h.followup (h.prequeued hreply).1).1
    rw [if_neg (not_not.mpr hreceive), if_pos hreply]
    exact Nat.le_add_right _ _

theorem activity (hrepeat : r.repeatPayload = 0) {us : Nat} (hus : r.PlansUntil us) :
    r.startHus.toNat + 2 * us ≤ alarmAt r.startHs r.txPlan.alarmHs := by
  have hplanned := h.plannedExact_ge hus
  rw [h.alarm_single hrepeat, h.burst]
  omega

theorem followup_ticks :
    clockTicks r.startHs r.followupAt.1 =
        (r.startHus.toNat + 2 * r.followupDelayUs.toNat) / 625 ∧
      r.followupAt.2.toNat = (r.startHus.toNat + 2 * r.followupDelayUs.toNat) % 625 := by
  have hdelay := h.delay_le
  have hhus := h.delayHus
  constructor
  · rw [← hhus]
    exact clockTicks_fine h.startHs h.startHus (by omega)
  · have hfine := h.fine
    unfold followupAt
    dsimp only
    rw [UInt32.toNat_toUInt16, UInt32.toNat_mod, hfine]
    change _ % 625 % 65536 = _
    omega

theorem prequeued_span (hreply : r.prequeuedReply ≠ 0) : ∃ reply, r.txPlan.reply = some reply ∧
    r.txPlan.program.durationHus.toNat = 2 * r.followupDelayUs.toNat ∧
    r.airUs + 300 ≤ r.followupDelayUs.toNat ∧
    reply.startsAt r.startHs = r.startHus.toNat + 2 * r.followupDelayUs.toNat ∧
    0 < reply.durationHus.toNat ∧
    r.txPlan.program.durationHus.toNat + reply.durationHus.toNat =
      r.txPlan.arb.durationHus.toNat := by
  obtain ⟨hprogram, hspan, -, -⟩ := RadioTxRequest.txPlan_reply hreply
  have hinside : 2 * r.followupDelayUs.toNat < r.txPlan.arb.durationHus.toNat := by
    have hplanned := h.plannedExact_reply hreply
    have hduration := h.duration
    rw [h.burst] at hduration
    omega
  have hrest : (r.txPlan.arb.durationHus - 2 * r.followupDelayUs.toUInt32).toNat =
      r.txPlan.arb.durationHus.toNat - 2 * r.followupDelayUs.toNat := by
    rw [UInt32.toNat_sub_of_le _ _ (UInt32.le_iff_toNat_le.mpr (by rw [h.delayHus]; omega)),
      h.delayHus]
  have hfirst : r.txPlan.program.durationHus.toNat = 2 * r.followupDelayUs.toNat := by
    rw [hprogram]
    exact h.delayHus
  refine ⟨_, hspan, hfirst, (h.prequeued hreply).2, ?_, ?_, ?_⟩
  · obtain ⟨hticks, hhus⟩ := h.followup_ticks
    rw [TxSpan.startsAt, hticks, UInt16.toNat_toUInt32, hhus]
    omega
  · rw [hrest]
    omega
  · rw [hrest, hfirst]
    omega

theorem repeated_span (hrepeat : r.repeatPayload ≠ 0) : ∃ stop, r.txPlan.stop = some stop ∧
    stop.hus.toNat < 625 ∧ stop.hs ≤ clockMask ∧
    r.startHus.toNat + 2 * (r.followupDelayUs.toNat + r.airUs) < stop.startsAt r.startHs ∧
    stop.endsAt r.startHs ≤ r.txPlan.arb.endsAt r.startHs ∧
    stop.endsAt r.startHs ≤ alarmAt r.startHs r.txPlan.alarmHs ∧
    alarmAt r.startHs r.txPlan.alarmHs ≤ r.txPlan.arb.endsAt r.startHs := by
  obtain ⟨hreply, hlength, hphy, hdelay⟩ := h.repeated hrepeat
  obtain ⟨-, -, hstop, halarm⟩ := RadioTxRequest.txPlan_reply hreply
  rw [if_pos hrepeat] at hstop halarm
  have hhus := h.startHus
  have hticks := h.stopTicks
  have hair : r.airUs = (r.length + 11) * 4 := by
    unfold airUs
    rw [hphy]
    exact if_neg (by decide)
  have hnonempty := (h.followup (h.prequeued hreply).1).2.2.2.1
  have hplanned := h.plannedExact_reply hreply
  rw [if_pos hrepeat] at hplanned
  have hstart : r.stopSpan.startsAt r.startHs = r.startHus.toNat + 5950 := by
    have hfine : (r.startHus.toUInt32 + 5950).toNat = r.startHus.toNat + 5950 :=
      fine_toNat hhus (by decide)
    have hcoarse := @clockTicks_fine _ _ 5950 h.startHs hhus (by decide)
    unfold TxSpan.startsAt stopSpan
    dsimp only
    rw [hcoarse, UInt32.toNat_mod, hfine]
    change 625 * ((r.startHus.toNat + 5950) / 625) + (r.startHus.toNat + 5950) % 625 = _
    omega
  have hend : r.stopSpan.endsAt r.startHs = r.startHus.toNat + 5990 := by
    rw [TxSpan.endsAt, hstart]
    rfl
  have halarmAt : alarmAt r.startHs r.txPlan.alarmHs = 625 * r.stopTicks.toNat := by
    rw [halarm, alarmAt, clockTicks_add h.startHs (by omega)]
  have harbEnd := h.arb_endsAt.2
  rw [h.burst] at harbEnd
  refine ⟨_, hstop, ?_, ?_, ?_, ?_, ?_, ?_⟩
  · change ((r.startHus.toUInt32 + 5950) % 625).toNat < 625
    rw [UInt32.toNat_mod]
    exact Nat.mod_lt _ (by decide)
  · exact UInt32.and_le_right
  · rw [hstart, hdelay, hair]
    omega
  · rw [hend, harbEnd, hplanned, hdelay, hair]
    omega
  · rw [hend, halarmAt, hticks]
    omega
  · rw [halarmAt, hticks, harbEnd, hplanned, hdelay, hair]
    omega

theorem followup_normal (hdelay : r.followupDelayUs ≠ 0) :
    ∃ hs hus, r.txPlan.followup = some (hs, hus) ∧ hus.toNat < 625 ∧ hs ≤ clockMask ∧
      625 * hs.toNat + hus.toNat ≡
        625 * r.startHs.toNat + r.startHus.toNat + 2 * r.followupDelayUs.toNat
        [MOD 625 * 2 ^ 28] := by
  obtain ⟨-, hhus⟩ := h.followup_ticks
  have hbound := h.delay_le
  have hstart := h.startHus
  have hhsBound := h.startHs
  refine ⟨r.followupAt.1, r.followupAt.2, r.txPlan_followup.trans (if_pos hdelay), ?_,
    UInt32.and_le_right, ?_⟩
  · rw [hhus]
    exact Nat.mod_lt _ (by decide)
  · have hhs : r.followupAt.1.toNat =
        (r.startHs.toNat + (r.startHus.toNat + 2 * r.followupDelayUs.toNat) / 625) % 2 ^ 28 := by
      unfold followupAt
      dsimp only
      rw [masked_toNat, UInt32.toNat_add, UInt32.toNat_div, h.fine]
      change (_ + _ / 625) % 4294967296 % _ = _
      omega
    rw [hhs, hhus, Nat.ModEq]
    omega

theorem queued {scene : FollowupScene} {arb program : TxSpan}
    {alarmHs : UInt32} (hqueued : txQueueFollowup scene r.followupAt r.followupWindowUs =
      .programmed arb program alarmHs) :
    program = arb ∧ arb.hs = r.followupAt.1 ∧ arb.hus = r.followupAt.2.toUInt32 ∧
      r.followupAt.2.toNat + 2 * r.followupWindowUs.toNat + 624 < 2 ^ 32 ∧
      arb.durationHus.toNat + r.followupAt.2.toNat =
        ((r.followupAt.2.toNat + 2 * r.followupWindowUs.toNat + 624) / 625 + 3) * 625 ∧
      r.followupAt.2.toNat + 2 * r.followupWindowUs.toNat ≤ alarmAt arb.hs alarmHs ∧
      alarmAt arb.hs alarmHs + 2 * 625 ≤ arb.endsAt arb.hs := by
  have hwindow := h.window
  have hhus : r.followupAt.2.toNat ≤ 624 := by
    have hmod := h.followup_ticks.2
    omega
  have hhs : r.followupAt.1.toNat < 2 ^ 28 := by
    have hle := UInt32.le_iff_toNat_le.mp (UInt32.and_le_right (a :=
      r.startHs + (r.startHus.toUInt32 + 2 * r.followupDelayUs.toUInt32) / 625) (b := clockMask))
    change r.followupAt.1.toNat ≤ 268435455 at hle
    omega
  have hticks : (followupTicks r.followupAt.2 r.followupWindowUs).toNat =
      (r.followupAt.2.toNat + 2 * r.followupWindowUs.toNat + 624) / 625 + 1 := by
    unfold followupTicks
    simp only [UInt32.toNat_add, UInt32.toNat_div, UInt32.toNat_mul, UInt16.toNat_toUInt32]
    change (((_ + 2 * _ % 4294967296) % 4294967296 + 624) % 4294967296 / 625 + 1) % 4294967296 = _
    simp (disch := omega) only [Nat.mod_eq_of_lt]
  have hfew : (followupTicks r.followupAt.2 r.followupWindowUs).toNat ≤ 25 := by
    rw [hticks]
    omega
  have hspan := spanTo_toNat hfew hhus
  have hexact : ((followupTicks r.followupAt.2 r.followupWindowUs + 2) * 625 -
      r.followupAt.2.toUInt32).toNat + r.followupAt.2.toNat =
      ((r.followupAt.2.toNat + 2 * r.followupWindowUs.toNat + 624) / 625 + 3) * 625 := by
    rw [hspan, hticks]
  unfold txQueueFollowup at hqueued
  dsimp only at hqueued
  split at hqueued
  next => cases hqueued
  next =>
    split at hqueued
    next => cases hqueued
    next =>
      split at hqueued
      next => cases hqueued
      next =>
        cases hqueued
        dsimp only
        have halarm : alarmAt r.followupAt.1 ((r.followupAt.1 +
            followupTicks r.followupAt.2 r.followupWindowUs) &&& clockMask) =
            625 * (followupTicks r.followupAt.2 r.followupWindowUs).toNat := by
          rw [alarmAt, clockTicks_add hhs (by omega)]
        refine ⟨rfl, rfl, rfl, by omega, hexact, ?_, ?_⟩
        · rw [halarm, hticks]
          omega
        · rw [halarm]
          unfold TxSpan.endsAt TxSpan.startsAt
          dsimp only
          rw [clockTicks_self, UInt16.toNat_toUInt32]
          omega

end RadioTxRequest.Bounds

/-- What the checks let through is covered by its reservation. -/
theorem reservation_covers {r : RadioTxRequest} (haccepted : ¬r.refused) : r.Covered := by
  have h := RadioTxRequest.bounds_of_accepted haccepted
  exact {
    unwrapped := h.unwrapped
    starts := by
      refine ⟨h.arb_endsAt.1, ?_⟩
      by_cases hreply : r.prequeuedReply = 0
      · rw [(RadioTxRequest.txPlan_single hreply).1]
        exact h.arb_endsAt.1
      · rw [(RadioTxRequest.txPlan_reply hreply).1]
        exact h.arb_endsAt.1
    margin := by
      intro hrepeat
      rw [h.alarm_single hrepeat, h.arb_endsAt.2]
      omega
    activity := fun hrepeat _ hus => h.activity hrepeat hus
    whole := fun hreply => (RadioTxRequest.txPlan_single hreply).1
    prequeued := h.prequeued_span
    repeated := h.repeated_span
    followup := h.followup_normal
    queued := fun _ _ _ _ _ hqueued => h.queued hqueued }

/-- A stereo packet, sent twice and with the reply queued. -/
def repeatedRequest : RadioTxRequest :=
  { startHs := 0x0fffffff, startHus := 600, accessAddress := 0x71764129, crcInit := 0x555555
    payload := List.replicate 205 0, channel := 7, header := 0x32, phy := 2, receiveUs := 0
    txReceiveUs := 0, followupDelayUs := 1420, followupWindowUs := 250, followupChannel := 9
    prequeuedReply := 1, repeatPayload := 1 }

theorem reservation_covers_repeated : ¬repeatedRequest.refused ∧ repeatedRequest.Covered :=
  ⟨by decide +kernel, reservation_covers (by decide +kernel)⟩

end UllReceiver.Radio
