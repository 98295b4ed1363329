import UllReceiver.Air.TonePacket

/-!
# Shape of a packet

How long the packets of `tone_packet.c` are, and what their builders leave in the header.
-/

namespace UllReceiver.Air

theorem csa2Subevent_lt {aa : UInt32} {counter : UInt16} {map : Vector UInt8 5}
    {subevent channel : UInt8} (h : csa2Subevent aa counter map subevent = some channel) :
    channel.toNat < 37 := by
  unfold csa2Subevent at h
  simp only at h
  split at h
  · exact (nomatch h)
  · obtain ⟨i, _, hi⟩ := Option.map_eq_some_iff.mp h
    have hlt := i.isLt
    rw [← hi, UInt8.toNat_ofNat']
    omega

/-! ## Records -/

theorem recordBytes_length (r : AirTxRecord) : (recordBytes r).length = 4 + r.payload.length := by
  simp only [recordBytes, recordHeader, List.length_append, List.length_cons, List.length_nil]
  omega

theorem downlinkBuild_ok {capacity : Nat} {records : List AirTxRecord} {sizes : List UInt8}
    {flags : UInt8} {built : List UInt8 × UInt8}
    (h : downlinkBuild capacity records sizes flags = .ok built) :
    built.1.length = 1 + (records.map fun r => 4 + r.payload.length).sum ∧
      built.1.length ≤ capacity ∧ built.2 = streamMask records := by
  unfold downlinkBuild at h
  split at h
  · exact (nomatch h)
  · split at h
    · exact (nomatch h)
    · simp only at h
      split at h
      · exact (nomatch h)
      next hfits =>
        have hlength : (records.flatMap recordBytes).length =
            (records.map fun r => 4 + r.payload.length).sum := by
          rw [List.length_flatMap]
          simp only [recordBytes_length]
        rw [← Except.ok.inj h]
        simp only [List.length_cons, hlength, not_or, not_lt, gt_iff_lt] at hfits ⊢
        exact ⟨by omega, by omega, trivial⟩

/-- The streams of a mask. -/
def maskStreams (mask : UInt8) : List (Fin 2) :=
  (List.finRange 2).filter fun i => mask &&& (1 : UInt8) <<< UInt8.ofNat (i.val + 1) != 0

/-- Bytes of the aggregate of the records of `mask` with `bytes` of audio each. -/
def aggregateLength (mask : UInt8) (bytes : Nat) : Nat :=
  1 + (maskStreams mask).length * (4 + bytes)

theorem packetRecords_length (mask : UInt8) (tx ack : Vector UInt8 2) (audio : Option Stereo) :
    1 + ((packetRecords mask tx ack audio).map fun r => 4 + r.payload.length).sum =
      aggregateLength mask (if audio.isSome then 95 else 0) := by
  have hpayload (i : Fin 2) :
      ((audio.map fun frames => frames[i].toList).getD []).length =
        if audio.isSome then 95 else 0 := by
    cases audio <;> simp
  unfold packetRecords aggregateLength maskStreams
  rw [List.map_map]
  congr 1
  induction (List.finRange 2).filter fun i =>
      mask &&& (1 : UInt8) <<< UInt8.ofNat (i.val + 1) != 0 with
  | nil => simp
  | cons i rest ih =>
      rw [List.map_cons, List.sum_cons, ih, List.length_cons, Nat.succ_mul]
      simp only [Function.comp, hpayload]
      omega

theorem packetRecords_mask {mask : UInt8} (hmask : mask = 2 ∨ mask = 4 ∨ mask = 6)
    (tx ack : Vector UInt8 2) (audio : Option Stereo) :
    streamMask (packetRecords mask tx ack audio) = mask := by
  have hfold : streamMask (packetRecords mask tx ack audio) =
      (maskStreams mask).foldl (fun m i => m ||| (1 : UInt8) <<< UInt8.ofNat (i.val + 1)) 0 := by
    unfold streamMask packetRecords maskStreams
    rw [List.foldl_map]
  rw [hfold]
  rcases hmask with rfl | rfl | rfl <;> decide

/-! ## Packets -/

/-- The streams a packet is for. -/
def TonePacketOptions.requested (o : TonePacketOptions) : UInt8 :=
  if o.streamMask ≠ 0 then o.streamMask else 6

theorem toneBuildMask_ok {tone : UInt32 → Stereo} {index : UInt32} {tx ack : Vector UInt8 2}
    {mask : UInt8} {capacity : Nat} {built : List UInt8 × UInt8}
    (h : toneBuildMask tone index tx ack mask capacity = .ok built) :
    built.1.length = aggregateLength mask 95 ∧ built.2 = mask := by
  unfold toneBuildMask at h
  split at h
  · exact (nomatch h)
  next hmask =>
    have hmask : mask = 2 ∨ mask = 4 ∨ mask = 6 := by
      by_contra hne
      exact hmask (.inr (by simpa only [not_or] using hne))
    obtain ⟨hlength, _, hbuilt⟩ := downlinkBuild_ok h
    rw [packetRecords_length] at hlength
    exact ⟨hlength, hbuilt.trans (packetRecords_mask hmask _ _ _)⟩

theorem toOption_ok {x : Except AirFrameError (List UInt8 × UInt8)} {built : List UInt8 × UInt8}
    (h : x.toOption = some built) : x = .ok built := by
  cases x with
  | error e => exact (nomatch h)
  | ok b => exact congrArg _ (Option.some.inj h)

theorem packetAggregate_ok {tone : UInt32 → Stereo} {o : TonePacketOptions} {empty : Bool}
    {audio : Option Stereo} {built : List UInt8 × UInt8}
    (h : packetAggregate tone o empty audio = some built) :
    built.1.length = aggregateLength o.requested (if empty then 0 else 95) ∧
      built.2 = o.requested ∧
      (o.requested = 2 ∨ o.requested = 4 ∨ o.requested = 6) := by
  unfold packetAggregate at h
  change (if o.requested ≠ 2 ∧ o.requested ≠ 4 ∧ o.requested ≠ 6 then _ else _) = _ at h
  split at h
  · exact (nomatch h)
  next hmask =>
    have hmask : o.requested = 2 ∨ o.requested = 4 ∨ o.requested = 6 := by
      by_contra hne
      exact hmask (by simpa only [not_or] using hne)
    split at h
    next hrecords =>
      have hbuilt : downlinkBuild 201 (packetRecords o.requested o.txSequence o.ackSequence
          (if empty then none else audio)) [UInt8.ofNat airAudioChannelBytes] 0 = .ok built :=
        toOption_ok h
      obtain ⟨hlength, _, hmasked⟩ := downlinkBuild_ok hbuilt
      rw [packetRecords_length] at hlength
      refine ⟨?_, hmasked.trans (packetRecords_mask hmask _ _ _), hmask⟩
      rw [hlength]
      cases empty with
      | true => rfl
      | false =>
          have hsome : audio.isSome = true := by simpa using hrecords
          simp [hsome]
    next hcue =>
      obtain ⟨hbuilt, _⟩ := Option.filter_eq_some_iff.mp h
      have hbuilt := toneBuildMask_ok (toOption_ok hbuilt)
      have hempty : empty = false := by
        cases empty with
        | true => exact absurd (.inl rfl) hcue
        | false => rfl
      rw [hempty]
      exact ⟨hbuilt.1, hbuilt.2, hmask⟩

/-- Bytes of a parent PDU in the aggregate. -/
def parentLength (pollHeader : Option UInt8) (control : List UInt8) (n : Nat) : Nat :=
  if pollHeader.isSome then 2 + (control.take n).length else 0

theorem appendParent_ok {o : TonePacketOptions} {empty : Bool} {pollHeader : Option UInt8}
    {stereoAck : Bool} {control : List UInt8} {n : Nat} {aggregate built : List UInt8}
    (h : appendParent o empty pollHeader stereoAck control n aggregate = some built) :
    built.length = aggregate.length + parentLength pollHeader control n ∧
      (pollHeader.isSome → n ≤ 68) := by
  cases pollHeader with
  | none =>
      rw [← Option.some.inj h]
      exact ⟨rfl, fun hf => (nomatch hf)⟩
  | some header =>
      simp only [appendParent] at h
      generalize (if stereoAck = true then _ else _ : Bool) = misused at h
      generalize (if n ≠ 0 then _ else _ : UInt8) = kind at h
      split at h
      · exact (nomatch h)
      next hfits =>
        rw [← Option.some.inj h]
        simp only [not_or, not_lt, gt_iff_lt] at hfits
        simp only [parentLength, List.length_append, List.length_cons, List.length_nil,
          Option.isSome_some, if_true]
        exact ⟨by omega, fun _ => hfits.2.1⟩

theorem ccmEncrypt_length {ccm : Ccm} {key : Vector UInt8 16} {iv : Vector UInt8 8}
    {counter : UInt64} {direction aad : UInt8} {payload body : List UInt8} {capacity : Nat}
    (h : ccmEncrypt ccm key iv counter direction aad payload capacity = .ok body) :
    body.length = payload.length + 4 ∧ payload.length + 4 ≤ capacity := by
  unfold ccmEncrypt at h
  split at h
  · exact (nomatch h)
  next hfits =>
    split at h
    · exact (nomatch h)
    next c _ =>
      rw [← Except.ok.inj h]
      simp only [not_or, not_lt] at hfits
      exact ⟨c.property, hfits.2.2.1⟩

/-- A packet around an aggregate of `n` bytes. -/
structure PacketShape (o : TonePacketOptions) (n : Nat) (packet : TonePacket) : Prop where
  fits : n ≤ 201
  length : packet.length = UInt8.ofNat (n + 6)
  pdu : ∃ body : List UInt8, body.length = n + 4 ∧
    packet.pdu = o.header :: UInt8.ofNat (n + 4) :: body
  channel : packet.channel.toNat < 37
  requested : o.requested = 2 ∨ o.requested = 4 ∨ o.requested = 6
  header : o.header >>> 3 &&& 15 = o.requested

theorem buildPacket_shape {ccm : Ccm} {tone : UInt32 → Stereo} {plan : AirSessionPlan}
    {o : TonePacketOptions} {empty : Bool} {pollHeader : Option UInt8} {stereoAck : Bool}
    {control : List UInt8} {n : Nat} {audio : Option Stereo} {packet : TonePacket}
    (h : buildPacket ccm tone plan o empty pollHeader stereoAck control n audio = .ok packet) :
    PacketShape o (aggregateLength o.requested (if empty then 0 else 95) +
      parentLength pollHeader control n) packet ∧ (pollHeader.isSome → n ≤ 68) := by
  unfold buildPacket at h
  split at h
  · exact (nomatch h)
  · split at h
    next records mask startHs startHus channel hrecords htime hchannel =>
      obtain ⟨hlength, hmask, hrequested⟩ := packetAggregate_ok hrecords
      split at h
      · exact (nomatch h)
      next hheader =>
        split at h
        · exact (nomatch h)
        next aggregate happend =>
          obtain ⟨happended, hcontrol⟩ := appendParent_ok happend
          split at h
          · exact (nomatch h)
          next body hbody =>
            obtain ⟨hbody, hfits⟩ := ccmEncrypt_length hbody
            have haggregate : aggregate.length = aggregateLength o.requested
                (if empty then 0 else 95) + parentLength pollHeader control n := by
              rw [happended, hlength]
            rw [← Except.ok.inj h, ← haggregate]
            refine ⟨⟨?_, rfl, ⟨body, hbody, rfl⟩, csa2Subevent_lt hchannel, hrequested, ?_⟩, hcontrol⟩
            · omega
            · rw [← hmask]
              exact not_not.mp hheader
    · exact (nomatch h)

end UllReceiver.Air
