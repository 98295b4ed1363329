import UllReceiver.Air.PacketShape
import UllReceiver.Air.SessionGrid
import UllReceiver.Radio.Arguments
import UllReceiver.Trial.FrameRun

/-!
# Requests to the transmitter

What a frame built by the trial asks of the radio is never refused for its arguments.
-/

namespace UllReceiver.Trial

open Air Audio Parent Radio

variable {W : Type} {ccm : Ccm} {tone : UInt32 → Stereo} {plan : AirSessionPlan} {k : FrameKey}
  {audio : FrameAudio} {packet : TonePacket}

namespace FrameKey

theorem poll_mask (h : k.poll = true) : k.streamMask = 2 ∧ k.parentAck = false := by
  unfold poll at h
  unfold parentAck
  have hmask : k.streamMask = 2 := by
    have hand := (Bool.and_eq_true _ _).mp h
    exact beq_iff_eq.mp hand.1
  rw [hmask]
  exact ⟨rfl, rfl⟩

theorem parentAck_mask (h : k.parentAck = true) : k.streamMask = 6 ∧ k.poll = false := by
  unfold parentAck at h
  unfold poll
  have hmask : k.streamMask = 6 := by
    have hand := (Bool.and_eq_true _ _).mp ((Bool.and_eq_true _ _).mp h).1
    exact beq_iff_eq.mp hand.1
  rw [hmask]
  exact ⟨rfl, rfl⟩

/-- The streams of a key a packet was built for. -/
theorem mask_of_shape {n : Nat} (h : PacketShape k.options n packet) :
    k.options.requested = k.streamMask ∧
      (k.streamMask = 2 ∨ k.streamMask = 4 ∨ k.streamMask = 6) := by
  by_cases hzero : k.streamMask = 0
  · have hpoll : k.poll = false := by
      unfold poll
      rw [hzero]
      rfl
    have hack : k.parentAck = false := by
      unfold parentAck
      rw [hzero]
      rfl
    have hheader := h.header
    simp only [TonePacketOptions.requested, options, header, hzero, hpoll, hack] at hheader
    exact absurd hheader (by decide)
  · have hrequested : k.options.requested = k.streamMask := if_pos hzero
    exact ⟨hrequested, hrequested ▸ h.requested⟩

theorem ack_shape (hack : k.parentAck = true)
    (h : k.packet ccm tone plan audio = .ok packet) :
    ∃ n, PacketShape k.options n packet ∧ n + 6 = k.packetLength audio := by
  obtain ⟨hmask, hpoll⟩ := parentAck_mask hack
  have hrequested : k.options.requested = 6 := by
    rw [TonePacketOptions.requested, options, hmask]
    rfl
  unfold packetLength
  rw [hack, hpoll, hmask]
  unfold FrameKey.packet at h
  rw [if_pos hack] at h
  cases audio with
  | empty =>
      have hshape := (buildPacket_shape h).1
      rw [hrequested] at hshape
      exact ⟨_, hshape, rfl⟩
  | frames frames =>
      have hshape := (buildPacket_shape h).1
      rw [hrequested] at hshape
      exact ⟨_, hshape, rfl⟩
  | cue =>
      have hshape := (buildPacket_shape h).1
      rw [hrequested] at hshape
      exact ⟨_, hshape, rfl⟩

theorem poll_shape (hpoll : k.poll = true) (h : k.packet ccm tone plan audio = .ok packet) :
    ∃ n, PacketShape k.options n packet ∧ n + 6 = k.packetLength audio := by
  obtain ⟨hmask, hack⟩ := poll_mask hpoll
  have hrequested : k.options.requested = 2 := by
    rw [TonePacketOptions.requested, options, hmask]
    rfl
  have haggregate : aggregateLength 2 0 = 5 := by decide
  unfold packetLength
  rw [if_pos hpoll]
  unfold FrameKey.packet at h
  rw [hack, if_neg (by decide), if_pos hpoll] at h
  split at h
  next hlength =>
    unfold controlPacketBuild at h
    split at h
    next =>
      obtain ⟨hshape, hcontrol⟩ := buildPacket_shape h
      rw [hrequested, if_pos rfl, haggregate] at hshape
      refine ⟨_, hshape, ?_⟩
      have hfits := hcontrol rfl
      simp only [parentLength, Option.isSome_some, if_true, List.length_take, Vector.length_toList]
      omega
    · cases h
  next hlength =>
    have hshape := (buildPacket_shape h).1
    rw [hrequested, if_pos rfl, haggregate] at hshape
    refine ⟨_, hshape, ?_⟩
    rw [not_not.mp hlength]
    rfl

theorem plain_shape (hack : k.parentAck = false) (hpoll : k.poll = false)
    (h : k.packet ccm tone plan audio = .ok packet) :
    ∃ n, PacketShape k.options n packet ∧ n + 6 = k.packetLength audio := by
  unfold packetLength
  simp only [hack, hpoll, Bool.false_eq_true, if_false]
  unfold FrameKey.packet at h
  simp only [hack, hpoll, Bool.false_eq_true, if_false] at h
  cases audio with
  | empty =>
      have hshape := (buildPacket_shape h).1
      obtain ⟨hrequested, hmask⟩ := mask_of_shape hshape
      rw [hrequested] at hshape
      refine ⟨_, hshape, ?_⟩
      rcases hmask with hmask | hmask | hmask <;> rw [hmask] <;> rfl
  | frames frames =>
      have hshape := (buildPacket_shape h).1
      obtain ⟨hrequested, hmask⟩ := mask_of_shape hshape
      rw [hrequested] at hshape
      refine ⟨_, hshape, ?_⟩
      rcases hmask with hmask | hmask | hmask <;> rw [hmask] <;> rfl
  | cue =>
      have hshape := (buildPacket_shape h).1
      obtain ⟨hrequested, hmask⟩ := mask_of_shape hshape
      rw [hrequested] at hshape
      refine ⟨_, hshape, ?_⟩
      rcases hmask with hmask | hmask | hmask <;> rw [hmask] <;> rfl

theorem packet_shape (h : k.packet ccm tone plan audio = .ok packet) :
    ∃ n, PacketShape k.options n packet ∧ n + 6 = k.packetLength audio := by
  cases hack : k.parentAck with
  | true => exact ack_shape hack h
  | false =>
      cases hpoll : k.poll with
      | true => exact poll_shape hpoll h
      | false => exact plain_shape hack hpoll h

/-- The checks `build_prepared_frame` makes of a packet never fail. -/
theorem packet_check (h : k.packet ccm tone plan audio = .ok packet) :
    packet.length.toNat = k.packetLength audio ∧
      packet.pdu.take 2 = [k.header, packet.length - 2] := by
  obtain ⟨n, hshape, hlength⟩ := packet_shape h
  have hfits := hshape.fits
  obtain ⟨body, _, hpdu⟩ := hshape.pdu
  rw [hpdu, hshape.length]
  constructor
  · rw [UInt8.toNat_ofNat']
    omega
  · have hminus : UInt8.ofNat (n + 6) - 2 = UInt8.ofNat (n + 4) := by
      apply UInt8.toNat_inj.mp
      rw [UInt8.toNat_sub, UInt8.toNat_ofNat', UInt8.toNat_ofNat']
      change (2 ^ 8 - 2 + (n + 6) % 2 ^ 8) % 2 ^ 8 = (n + 4) % 2 ^ 8
      omega
    rw [hminus]
    rfl

theorem header_cases {n : Nat} (h : PacketShape k.options n packet) :
    k.header = 0x10 ∨ k.header = 0x11 ∨ k.header = 0x20 ∨ k.header = 0x30 ∨
      (k.header = 0x32 ∧ k.parentAck = true) := by
  unfold FrameKey.header
  cases hack : k.parentAck with
  | true =>
      obtain ⟨hmask, hpoll⟩ := parentAck_mask hack
      rw [hmask, hpoll]
      decide
  | false =>
      cases hpoll : k.poll with
      | true =>
          rw [(poll_mask hpoll).1]
          decide
      | false =>
          rcases (mask_of_shape h).2 with hmask | hmask | hmask <;> rw [hmask] <;> decide

end FrameKey

/-! ## Frames -/

/-- What the transmitter relies on in a frame. -/
structure FrameShape (p : PreparedFrame) : Prop where
  wire : p.wire.length = p.length
  length : 0 < p.length ∧ p.length ≤ 205
  startHs : p.outerHs ≤ clockMask
  startHus : p.outerHus ≤ 624
  channel : p.channel.toNat < 37
  header : p.header = 0x10 ∨ p.header = 0x11 ∨ p.header = 0x20 ∨ p.header = 0x30 ∨
    (p.header = 0x32 ∧ (p.length = 205 ∨ p.length = 15))

theorem shiftTime_valid (later hs : UInt32) (hus : UInt16) :
    (shiftTime later hs hus).1 ≤ clockMask ∧ (shiftTime later hs hus).2 ≤ 624 := by
  constructor
  · exact UInt32.and_le_right
  · change ((hus.toUInt32 + later) % 625).toUInt16 ≤ 624
    rw [UInt16.le_iff_toNat_le, UInt32.toNat_toUInt16, UInt32.toNat_mod]
    change _ % 625 % 2 ^ 16 ≤ 624
    omega

theorem FrameKey.start_valid {hs : UInt32} {hus : UInt16} (hhs : hs ≤ clockMask)
    (hhus : hus ≤ 624) : (k.start hs hus).1 ≤ clockMask ∧ (k.start hs hus).2 ≤ 624 := by
  unfold FrameKey.start
  split
  · exact shiftTime_valid _ _ _
  · split
    · exact shiftTime_valid _ _ _
    · exact ⟨hhs, hhus⟩

theorem FrameKey.event_channel {hs : UInt32} {hus : UInt16} {channel : UInt8}
    (hpacket : packet.channel.toNat < 37) (h : k.event plan packet = some (hs, hus, channel)) :
    channel.toNat < 37 := by
  unfold FrameKey.event at h
  simp only at h
  split at h
  · obtain ⟨c, hc, heq⟩ := Option.map_eq_some_iff.mp h
    simp only [Prod.mk.injEq] at heq
    rw [← heq.2.2]
    exact csa2Subevent_lt hc
  · simp only [Option.some.injEq, Prod.mk.injEq] at h
    rw [← h.2.2]
    exact hpacket

theorem buildFrame_shape {g : UInt32} {p : PreparedFrame}
    (h : buildFrame ccm tone plan k audio g = some p) : FrameShape p := by
  obtain ⟨hs, hus, htime, hstart⟩ := buildFrame_start h
  obtain ⟨hhs, hhus⟩ := sessionTime_valid htime
  have hvalid := FrameKey.start_valid (k := k) hhs hhus
  rw [← hstart] at hvalid
  unfold buildFrame at h
  split at h
  · exact (nomatch h)
  · split at h
    · exact (nomatch h)
    next packet hpacket =>
      split at h
      · exact (nomatch h)
      next hcheck =>
        obtain ⟨n, hshape, hn⟩ := FrameKey.packet_shape hpacket
        obtain ⟨⟨hs, hus, channel⟩, hevent, rfl⟩ := Option.map_eq_some_iff.mp h
        have hlength : packet.length.toNat = n + 6 := by
          rw [(FrameKey.packet_check hpacket).1, hn]
        have hfits := hshape.fits
        obtain ⟨body, hbody, hpdu⟩ := hshape.pdu
        refine ⟨?_, ?_, hvalid.1, hvalid.2, FrameKey.event_channel hshape.channel hevent, ?_⟩
        · change (packet.pdu.drop 2).length = packet.length.toNat - 2
          rw [hpdu, hlength]
          exact hbody
        · change 0 < packet.length.toNat - 2 ∧ packet.length.toNat - 2 ≤ 205
          omega
        · change k.header = _ ∨ k.header = _ ∨ k.header = _ ∨ k.header = _ ∨
            (k.header = _ ∧ (packet.length.toNat - 2 = 205 ∨ packet.length.toNat - 2 = 15))
          -- the header of an acknowledgement to the parent goes with two lengths only
          rcases FrameKey.header_cases hshape with hh | hh | hh | hh | ⟨hh, hack⟩
          · exact .inl hh
          · exact .inr (.inl hh)
          · exact .inr (.inr (.inl hh))
          · exact .inr (.inr (.inr (.inl hh)))
          · refine .inr (.inr (.inr (.inr ⟨hh, ?_⟩)))
            rw [(FrameKey.packet_check hpacket).1]
            obtain ⟨hmask, hpoll⟩ := FrameKey.parentAck_mask hack
            unfold FrameKey.packetLength
            rw [hmask, hpoll, hack]
            cases audio with
            | empty => exact .inr rfl
            | cue => exact .inl rfl
            | frames frames => exact .inl rfl
/-! ## Requests -/

/-- The frame a request is made for: as it was built, or taken from a cache since. -/
def Served (p q : PreparedFrame) : Prop :=
  q = p ∨ ∃ g, q = p.reused g

theorem FrameShape.served {p q : PreparedFrame} (h : FrameShape p) (hq : Served p q) :
    FrameShape q := by
  rcases hq with rfl | ⟨g, rfl⟩
  · exact h
  · exact ⟨h.wire, h.length, h.startHs, h.startHus, h.channel, h.header⟩

theorem replyChannel_lt {t : ToneTrial} {p : PreparedFrame} {again : Bool} {channel : UInt8}
    (h : TrialSystem.replyChannel t p again = some channel) : channel.toNat < 37 := by
  unfold TrialSystem.replyChannel at h
  split at h
  · exact csa2Subevent_lt h
  · rw [← Option.some.inj h]
    decide

/-- The clauses about the frame itself. -/
theorem FrameShape.not_refused {t : ToneTrial} {q : PreparedFrame} (h : FrameShape q)
    (hcrc : t.crcInit ≤ 0xffffff) {again : Bool} {channel : UInt8} {r : RadioTxRequest}
    (hr : r = { TrialSystem.frameRequest t q again channel with
      repeatPayload := r.repeatPayload, prequeuedReply := r.prequeuedReply
      followupDelayUs := r.followupDelayUs })
    (hflags : r.prequeuedReply ≤ 1 ∧ r.repeatPayload ≤ 1)
    (hkind : ¬r.repeatRefused ∧ ¬r.prequeuedRefused ∧ ¬r.followupRefused ∧
      ¬(r.followupDelayUs = 0 ∧ r.followupWindowUs ≠ 0)) : ¬r.refused := by
  have hlength : r.length = q.length := by
    rw [hr]
    exact h.wire
  have hheader : r.header = q.header := by rw [hr]; rfl
  have hphy : r.phy = 2 := by rw [hr]; rfl
  have hreceive : r.receiveUs = if q.receive then 600 else 0 := by rw [hr]; rfl
  have htx : r.txReceiveUs = 0 := by rw [hr]; rfl
  obtain ⟨hlow, hhigh⟩ := h.length
  obtain ⟨hrepeat, hprequeued, hfollowup, hwindow⟩ := hkind
  -- the clauses of `submit` in their order
  simp only [RadioTxRequest.refused, not_or]
  refine ⟨by omega, by omega, ?_, ?_, ?_, ?_, ?_, ?_, ?_, ?_, ?_, ?_, ?_, ?_, hrepeat, hprequeued,
    hfollowup, hwindow⟩
  · rw [hr, gt_iff_lt, UInt8.lt_iff_toNat_lt]
    have hchannel := h.channel
    change ¬39 < q.channel.toNat
    omega
  · rw [RadioTxRequest.headerRefused, hheader, hlength, hphy]
    rcases h.header with hh | hh | hh | hh | ⟨hh, hn⟩
    · simp [hh]
    · simp [hh]
    · simp [hh]
    · simp [hh]
    · simp [hh, hn]
  · rw [hphy]
    decide
  · rw [hphy]
    decide
  · rw [hr]
    exact UInt32.not_lt.mpr h.startHs
  · rw [hr]
    exact UInt16.not_lt.mpr h.startHus
  · rw [hr]
    exact UInt32.not_lt.mpr hcrc
  · rw [hreceive]
    split <;> decide
  · rw [htx]
    decide
  · rw [htx]
    exact fun hf => hf.2 rfl
  · exact UInt8.not_lt.mpr hflags.1
  · exact UInt8.not_lt.mpr hflags.2

/-- A reply is awaited after a packet that goes out alone. -/
theorem followup_not_refused {r : RadioTxRequest} (hdelay : r.followupDelayUs = 2350)
    (hreceive : r.receiveUs = 0 ∧ r.txReceiveUs = 0) (hwindow : r.followupWindowUs = 150)
    (hchannel : r.followupChannel.toNat < 37) (hflags : r.prequeuedReply = 0) :
    ¬r.followupRefused := by
  have hlast : ¬r.followupChannel > 39 := by
    rw [gt_iff_lt, UInt8.lt_iff_toNat_lt]
    change ¬39 < r.followupChannel.toNat
    omega
  rw [RadioTxRequest.followupRefused, hdelay, hreceive.1, hreceive.2, hwindow, hflags]
  simp only [hlast]
  decide

section Kinds

variable {t : ToneTrial} {q : PreparedFrame} {channel : UInt8}

/-- A frame that only listens. -/
theorem FrameShape.receive_accepted (h : FrameShape q) (hcrc : t.crcInit ≤ 0xffffff)
    (hreceive : q.receive = true) : ¬(TrialSystem.frameRequest t q false channel).refused := by
  have hdelay : (TrialSystem.frameRequest t q false channel).followupDelayUs = 0 := by
    simp [TrialSystem.frameRequest, hreceive]
  have hwindow : (TrialSystem.frameRequest t q false channel).followupWindowUs = 0 := by
    simp [TrialSystem.frameRequest, hreceive]
  apply h.not_refused hcrc rfl
  · exact ⟨show (0 : UInt8) ≤ 1 by decide, show (0 : UInt8) ≤ 1 by decide⟩
  · exact ⟨fun hf => hf.1 rfl, fun hf => hf.1 rfl, fun hf => hf.1 hdelay, fun hf => hf.2 hwindow⟩

/-- A frame sent once, whatever was tried before. -/
theorem FrameShape.once_accepted (h : FrameShape q) (hcrc : t.crcInit ≤ 0xffffff)
    (hchannel : channel.toNat < 37) (hreceive : q.receive = false) (again : Bool) :
    ¬({ TrialSystem.frameRequest t q again channel with
      repeatPayload := 0, prequeuedReply := 0, followupDelayUs := 2350 } :
        RadioTxRequest).refused := by
  have hlisten : (TrialSystem.frameRequest t q again channel).receiveUs = 0 := by
    simp [TrialSystem.frameRequest, hreceive]
  have hwindow : (TrialSystem.frameRequest t q again channel).followupWindowUs = 150 := by
    simp [TrialSystem.frameRequest, hreceive]
  apply h.not_refused hcrc rfl
  · exact ⟨show (0 : UInt8) ≤ 1 by decide, show (0 : UInt8) ≤ 1 by decide⟩
  · refine ⟨fun hf => hf.1 rfl, fun hf => hf.1 rfl, ?_,
      fun hf => absurd hf.1 (show ¬(2350 : UInt16) = 0 by decide)⟩
    exact followup_not_refused rfl ⟨hlisten, rfl⟩ hwindow hchannel rfl

theorem FrameShape.single_accepted (h : FrameShape q) (hcrc : t.crcInit ≤ 0xffffff)
    (hchannel : channel.toNat < 37) (hreceive : q.receive = false) :
    ¬(TrialSystem.frameRequest t q false channel).refused := by
  have honce := h.once_accepted hcrc hchannel hreceive false
  have hsame : ({ TrialSystem.frameRequest t q false channel with
      repeatPayload := 0, prequeuedReply := 0, followupDelayUs := 2350 } : RadioTxRequest) =
      TrialSystem.frameRequest t q false channel := by
    simp [TrialSystem.frameRequest, hreceive]
  rw [hsame] at honce
  exact honce

/-- A frame sent twice is one of the two stereo packets. -/
theorem FrameShape.repeat_accepted (h : FrameShape q) (hcrc : t.crcInit ≤ 0xffffff)
    (hchannel : channel.toNat < 37) (hreceive : q.receive = false)
    (hstereo : q.length = 203 ∧ q.header = 0x30 ∨ q.length = 205 ∧ q.header = 0x32) :
    ¬(TrialSystem.frameRequest t q true channel).refused := by
  have hlength : (TrialSystem.frameRequest t q true channel).length = q.length := h.wire
  have hheader : (TrialSystem.frameRequest t q true channel).header = q.header := rfl
  have hphy : (TrialSystem.frameRequest t q true channel).phy = 2 := rfl
  have hdelay : (TrialSystem.frameRequest t q true channel).followupDelayUs = 1420 := rfl
  have hlisten : (TrialSystem.frameRequest t q true channel).receiveUs = 0 := by
    simp [TrialSystem.frameRequest, hreceive]
  have htx : (TrialSystem.frameRequest t q true channel).txReceiveUs = 0 := rfl
  have hwindow : (TrialSystem.frameRequest t q true channel).followupWindowUs = 150 := by
    simp [TrialSystem.frameRequest]
  have hflag : (TrialSystem.frameRequest t q true channel).prequeuedReply = 1 := rfl
  have hlast : ¬(TrialSystem.frameRequest t q true channel).followupChannel > 39 := by
    rw [gt_iff_lt, UInt8.lt_iff_toNat_lt]
    change ¬39 < channel.toNat
    omega
  apply h.not_refused hcrc rfl
  · exact ⟨show (1 : UInt8) ≤ 1 by decide, show (1 : UInt8) ≤ 1 by decide⟩
  · refine ⟨?_, ?_, ?_, fun hf => absurd hf.1 (show ¬(1420 : UInt16) = 0 by decide)⟩
    · rw [RadioTxRequest.repeatRefused, hlength, hheader, hflag, hphy, hdelay]
      simp [hstereo]
    · rw [RadioTxRequest.prequeuedRefused, RadioTxRequest.airUs, hphy, hdelay, hlength]
      -- 1420 us is more than the 300 us margin after a packet of 205 bytes
      rintro ⟨_, hzero | hshort⟩
      · exact absurd hzero (by decide)
      · have hhigh := h.length.2
        change 1420 < (q.length + 11) * 4 + 300 at hshort
        omega
    · rw [RadioTxRequest.followupRefused, hdelay, hlisten, htx, hwindow, hflag]
      simp only [hlast]
      decide

end Kinds

theorem audioEligible_stereo {now : UInt32} {s : TrialSystem W} {q : PreparedFrame}
    (h : s.audioEligible now q = true) : q.receive = false ∧
      (q.length = 203 ∧ q.header = 0x30 ∨ q.length = 205 ∧ q.header = 0x32) := by
  unfold TrialSystem.audioEligible at h
  simp only [Bool.and_eq_true, Bool.or_eq_true, Bool.not_eq_true', beq_iff_eq] at h
  refine ⟨h.1.1.1.2, ?_⟩
  rcases h.2 with hplain | hcontrol
  · exact .inl hplain
  · exact .inr hcontrol.1.1.1

/-- A packet that was built passes the checks made of it.  The request formed from its frame is
accepted, and so is the one that replaces a repeated request the scheduler had no room for. -/
theorem request_accepted {s : TrialSystem W} (hcrc : s.trial.crcInit ≤ 0xffffff) (ccm : Ccm)
    (tone : UInt32 → Stereo) (k : FrameKey) (audio : FrameAudio) (generation : UInt32) :
    (∀ packet, k.packet ccm tone s.trial.plan audio = .ok packet →
      packet.length.toNat = k.packetLength audio ∧
        packet.pdu.take 2 = [k.header, packet.length - 2]) ∧
    ∀ p, buildFrame ccm tone s.trial.plan k audio generation = some p →
      ∀ q, Served p q → ∀ now again, (again = true → s.audioEligible now q = true) →
        ∀ channel, TrialSystem.replyChannel s.trial q again = some channel →
          ¬(TrialSystem.frameRequest s.trial q again channel).refused ∧
          (again = true → ¬({ TrialSystem.frameRequest s.trial q again channel with
            repeatPayload := 0, prequeuedReply := 0, followupDelayUs := 2350 } :
              RadioTxRequest).refused) := by
  refine ⟨fun packet hpacket => FrameKey.packet_check hpacket, ?_⟩
  intro p hp q hq now again hagain channel hchannel
  have hshape := (buildFrame_shape hp).served hq
  have hlt := replyChannel_lt hchannel
  cases again with
  | true =>
      obtain ⟨hreceive, hstereo⟩ := audioEligible_stereo (hagain rfl)
      exact ⟨hshape.repeat_accepted hcrc hlt hreceive hstereo,
        fun _ => hshape.once_accepted hcrc hlt hreceive true⟩
  | false =>
      refine ⟨?_, fun hf => (nomatch hf)⟩
      cases hreceive : q.receive with
      | true => exact hshape.receive_accepted hcrc hreceive
      | false => exact hshape.single_accepted hcrc hlt hreceive

/-- A stereo frame that is sent twice. -/
theorem request_accepted_stereo :
    let P := Platform.prompt .pending
    let s : TrialSystem Unit := { TrialSystem.init () with
      audioSource := true
      trial := { ToneTrial.zero with
        plan := { planZero with
          accessAddress := 0x71764129, e2 := (Vector.replicate 68 0x1f).set 0 0xe2 e2_kind }
        crcInit := 0x555555 } }
    let k : FrameKey := { index := 4, streamMask := 6, txSequence := #v[1, 2]
                          ackSequence := #v[3, 4], parent := .zero }
    ∃ p channel, buildFrame P.ccm P.tone s.trial.plan k (.frames default) 0 = some p ∧
      p.length = 203 ∧ TrialSystem.replyChannel s.trial p true = some channel ∧
      ¬(TrialSystem.frameRequest s.trial p true channel).refused ∧
      ¬({ TrialSystem.frameRequest s.trial p true channel with
        repeatPayload := 0, prequeuedReply := 0, followupDelayUs := 2350 } :
          RadioTxRequest).refused := by
  intro P s k
  have hbuilt : ((buildFrame P.ccm P.tone s.trial.plan k (.frames default) 0).map fun p =>
      (p.length, s.audioEligible 0 p, (TrialSystem.replyChannel s.trial p true).isSome)) =
        some (203, true, true) := by
    decide +kernel
  obtain ⟨p, hp, hfields⟩ := Option.map_eq_some_iff.mp hbuilt
  simp only [Prod.mk.injEq] at hfields
  obtain ⟨channel, hchannel⟩ := Option.isSome_iff_exists.mp hfields.2.2
  have haccepted := (request_accepted (s := s) (by decide) P.ccm P.tone k (.frames default) 0).2 p hp
    p (.inl rfl) 0 true (fun _ => hfields.2.1) channel hchannel
  exact ⟨p, channel, hp, hfields.1, hchannel, haccepted.1, haccepted.2 rfl⟩

end UllReceiver.Trial
