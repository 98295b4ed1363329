import UllReceiver.Air.CcmCache
import UllReceiver.Air.DownlinkDecode

/-!
# Packets in memory

`build_packet` over its buffers: an aggregate of 201 bytes on the stack, a packet of 207, and the
caller's packet, with the cached session cipher between them.
-/

namespace UllReceiver.Air

open Library

/-- `struct ull_tone_packet`, with all of its 207 bytes. -/
structure TonePacketBuffer where
  startHs : UInt32
  startHus : UInt16
  channel : UInt8
  length : UInt8
  pdu : List UInt8
deriving DecidableEq

/-- An aggregate on the stack: its buffer and how much of it is written. -/
structure StackAggregate where
  bytes : List UInt8
  length : Nat

/-- `ull_tone_build_mask`. -/
def toneBuildMaskAt (tone : UInt32 → Stereo) (frameIndex : UInt32) (tx ack : Vector UInt8 2)
    (mask : UInt8) (out : DownlinkOut) : Option (Except AirFrameError Unit × DownlinkOut) :=
  if frameIndex ≥ toneFrameCount ∨ (mask ≠ 2 ∧ mask ≠ 4 ∧ mask ≠ 6) then
    some (.error .argument, out)
  else downlinkBuildAt (packetRecords mask tx ack (some (tone frameIndex)))
    [UInt8.ofNat airAudioChannelBytes] 0 out

/-- The records of the packet in the buffer `stack`, and their mask; `none` is a return of -1. -/
def packetAggregateAt (tone : UInt32 → Stereo) (o : TonePacketOptions) (empty : Bool)
    (audio : Option Stereo) (stack : List UInt8) : Option (Option (StackAggregate × UInt8)) := do
  let requested := if o.streamMask ≠ 0 then o.streamMask else 6
  if requested ≠ 2 ∧ requested ≠ 4 ∧ requested ≠ 6 then return none
  if empty ∨ audio.isSome then
    let (result, built) ← downlinkBuildAt
      (packetRecords requested o.txSequence o.ackSequence (if empty then none else audio))
      [UInt8.ofNat airAudioChannelBytes] 0 { dst := stack, written := 0, streamMask := 0 }
    if result ≠ .ok () then return none
    return some ({ bytes := built.dst, length := built.written }, built.streamMask)
  let (result, built) ← toneBuildMaskAt tone o.eventIndex o.txSequence o.ackSequence requested
    { dst := stack, written := 0, streamMask := 0 }
  if result ≠ .ok () ∨ (built.written ≠ 100 ∧ built.written ≠ 199) then return none
  return some ({ bytes := built.dst, length := built.written }, built.streamMask)

/-- The parent PDU behind the records; `none` is a return of -1. -/
def appendParentAt (o : TonePacketOptions) (empty : Bool) (pollHeader : Option UInt8)
    (stereoAck : Bool) (control : List UInt8) (a : StackAggregate) :
    Option (Option StackAggregate) := do
  match pollHeader with
  | none => return some a
  | some header =>
    let requested := if o.streamMask ≠ 0 then o.streamMask else 6
    let misused := if stereoAck then
        requested != 6 || o.header != 0x32 || o.aad != 0x22 || control.length != 0
      else !empty || requested != 2 || o.header != 0x11 || o.aad != 1
    if misused ∨ control.length > 68 ∨
        header &&& ~~~12 ≠ (if control.length ≠ 0 then 3 else 1) ∨
        a.length + 2 + control.length > 201 then return none
    let bytes ← storeSpan a.bytes a.length [header]
    let bytes ← storeSpan bytes (a.length + 1) [UInt8.ofNat control.length]
    let bytes ← storeSpan bytes (a.length + 2) control
    return some { bytes, length := a.length + 2 + control.length }

/-- `build_packet`, from a cache in state `s` and with `stack` in its aggregate. -/
def buildPacketAt (ccm : Ccm) (tone : UInt32 → Stereo) (stack : List UInt8) (setkey : Int)
    (plan : AirSessionPlan) (o : TonePacketOptions) (empty : Bool) (pollHeader : Option UInt8)
    (stereoAck : Bool) (control : List UInt8) (audio : Option Stereo) (out : TonePacketBuffer)
    (s : CcmState) : Option ((Int × TonePacketBuffer) × CcmState) := do
  if getElem plan.e2 0 e2_kind ≠ 0xe2 ∨ (audio.isNone ∧ !empty ∧ o.eventIndex ≥ toneFrameCount) then
    return ((-1, out), s)
  match ← packetAggregateAt tone o empty audio stack with
  | none => return ((-1, out), s)
  | some (aggregate, mask) =>
    if o.header >>> 3 &&& 15 ≠ mask then return ((-1, out), s)
    match sessionTime plan o.eventIndex 0,
        csa2Subevent plan.accessAddress (plan.eventCounter + o.eventIndex).toUInt16
          (planMap plan) 1 with
    | some (startHs, startHus), some channel =>
      match ← appendParentAt o empty pollHeader stereoAck control aggregate with
      | none => return ((-1, out), s)
      | some aggregate =>
        let pdu ← storeSpan (List.replicate 207 0) 0 [o.header]
        let pdu ← storeSpan pdu 1 [UInt8.ofNat (aggregate.length + 4)]
        let payload ← loadSpan aggregate.bytes 0 aggregate.length
        let body ← loadSpan pdu 2 205
        let (result, s) ← bleCcmEncrypt ccm setkey
          { key := some (planKey plan), iv := some (planIv plan), counter := o.packetCounter
            direction := o.direction, aad := o.aad, payload := some payload, out := some body } s
        if result.1 ≠ 0 then return ((-2, out), s)
        let pdu ← storeSpan pdu 2 (result.2.getD [])
        return ((0, { startHs, startHus, channel, length := UInt8.ofNat (aggregate.length + 6)
                      pdu }), s)
    | _, _ => return ((-1, out), s)

/-! ## The aggregate -/

/-- `bytes` at the front of a buffer. -/
def StackAggregate.of (bytes stack : List UInt8) : StackAggregate :=
  { bytes := bytes ++ stack.drop bytes.length, length := bytes.length }

theorem toneBuildMaskAt_eq (tone : UInt32 → Stereo) (frameIndex : UInt32) (tx ack : Vector UInt8 2)
    (mask : UInt8) (out : DownlinkOut) :
    toneBuildMaskAt tone frameIndex tx ack mask out =
      some (out.after (toneBuildMask tone frameIndex tx ack mask out.dst.length)) := by
  unfold toneBuildMaskAt toneBuildMask
  by_cases hbad : frameIndex ≥ toneFrameCount ∨ (mask ≠ 2 ∧ mask ≠ 4 ∧ mask ≠ 6)
  · rw [if_pos hbad, if_pos hbad]
    rfl
  · rw [if_neg hbad, if_neg hbad]
    exact downlinkBuildAt_eq _ _ _ _

theorem packetAggregateAt_eq (tone : UInt32 → Stereo) (o : TonePacketOptions) (empty : Bool)
    (audio : Option Stereo) {stack : List UInt8} (hstack : stack.length = 201) :
    packetAggregateAt tone o empty audio stack =
      some ((packetAggregate tone o empty audio).map fun b => (.of b.1 stack, b.2)) := by
  unfold packetAggregateAt packetAggregate
  generalize (if o.streamMask ≠ 0 then o.streamMask else 6) = requested
  simp only
  by_cases hmask : requested ≠ 2 ∧ requested ≠ 4 ∧ requested ≠ 6
  · rw [if_pos hmask, if_pos hmask]
    rfl
  rw [if_neg hmask, if_neg hmask]
  by_cases hrecords : empty = true ∨ audio.isSome = true
  · rw [if_pos hrecords, if_pos hrecords, downlinkBuildAt_eq]
    simp only [hstack, Option.bind_eq_bind, Option.bind_some]
    cases downlinkBuild 201 _ [UInt8.ofNat airAudioChannelBytes] 0 with
    | error e => rfl
    | ok built => rfl
  · rw [if_neg hrecords, if_neg hrecords, toneBuildMaskAt_eq]
    simp only [hstack, Option.bind_eq_bind, Option.bind_some]
    cases toneBuildMask tone o.eventIndex o.txSequence o.ackSequence requested 201 with
    | error e => rfl
    | ok built =>
      obtain ⟨bytes, mask⟩ := built
      show (if (Except.ok () : Except AirFrameError Unit) ≠ .ok () ∨
        (bytes.length ≠ 100 ∧ bytes.length ≠ 199) then _ else _) =
          some (Option.map _ (Option.filter _ (some (bytes, mask))))
      by_cases hlength : bytes.length ≠ 100 ∧ bytes.length ≠ 199
      · rw [if_pos (Or.inr hlength), Option.filter_some_neg (by simpa using hlength)]
        rfl
      · have hgood : (bytes.length == 100 || bytes.length == 199) = true := by
          by_contra hbad
          exact hlength (by simpa using hbad)
        rw [if_neg (by simpa using hlength)]
        simp only [Option.filter_some, hgood, if_true]
        rfl

theorem appendParentAt_eq (o : TonePacketOptions) (empty : Bool) (pollHeader : Option UInt8)
    (stereoAck : Bool) (control : List UInt8) {aggregate stack : List UInt8}
    (hstack : stack.length = 201) :
    appendParentAt o empty pollHeader stereoAck control (.of aggregate stack) =
      some ((appendParent o empty pollHeader stereoAck control control.length aggregate).map
        fun bytes => .of bytes stack) := by
  unfold appendParentAt appendParent
  cases pollHeader with
  | none => rfl
  | some header =>
    simp only
    generalize (if stereoAck = true then _ else _ : Bool) = misused
    generalize (if control.length ≠ 0 then (3 : UInt8) else 1) = kind
    change (if misused = true ∨ control.length > 68 ∨ header &&& ~~~12 ≠ kind ∨
      aggregate.length + 2 + control.length > 201 then _ else _) = _
    by_cases hbad : misused = true ∨ control.length > 68 ∨ header &&& ~~~12 ≠ kind ∨
        aggregate.length + 2 + control.length > 201
    · rw [if_pos hbad, if_pos hbad]
      rfl
    rw [if_neg hbad, if_neg hbad]
    push Not at hbad
    have h1 := @storeSpan_append _ aggregate (stack.drop aggregate.length) [header]
      (by rw [List.length_drop, List.length_singleton]; omega)
    have h2 := @storeSpan_append _ (aggregate ++ [header]) (stack.drop (aggregate.length + 1))
      [UInt8.ofNat control.length] (by rw [List.length_drop, List.length_singleton]; omega)
    have h3 := @storeSpan_append _ (aggregate ++ [header] ++ [UInt8.ofNat control.length])
      (stack.drop (aggregate.length + 2)) control (by rw [List.length_drop]; omega)
    rw [List.drop_drop, List.length_singleton] at h1
    rw [List.length_append, List.drop_drop, List.length_singleton, List.length_singleton] at h2
    rw [List.length_append, List.length_append, List.drop_drop, List.length_singleton,
      List.length_singleton] at h3
    simp only [StackAggregate.of, h1, h2, h3, Option.bind_eq_bind, Option.bind_some,
      Option.map_some, List.take_length]
    simp only [List.length_append, List.length_cons, List.append_assoc,
      List.cons_append, List.nil_append]
    rw [show aggregate.length + (control.length + 1 + 1) = aggregate.length + 2 + control.length by
      omega]
    rfl

/-! ## The packet -/

/-- A packet in a buffer of zeros. -/
def TonePacket.buffer (p : TonePacket) : TonePacketBuffer :=
  { startHs := p.startHs, startHus := p.startHus, channel := p.channel, length := p.length
    pdu := p.pdu ++ (List.replicate 207 0).drop p.pdu.length }

/-- What `build_packet` returns and leaves, when the session key's setup ends with `status`. -/
def packetResult (status : Int) (built : Except PacketError TonePacket) (out : TonePacketBuffer) :
    Int × TonePacketBuffer :=
  match built with
  | .error .argument => (-1, out)
  | .error .cipher => (-2, out)
  | .ok p => if status ≠ 0 then (-2, out) else (0, p.buffer)

theorem appendParent_length {o : TonePacketOptions} {empty : Bool} {pollHeader : Option UInt8}
    {stereoAck : Bool} {control : List UInt8} {n : Nat} {aggregate built : List UInt8}
    (hlength : aggregate.length ≤ 201)
    (h : appendParent o empty pollHeader stereoAck control n aggregate = some built) :
    built.length ≤ 201 := by
  cases pollHeader with
  | none =>
    cases h
    exact hlength
  | some header =>
    simp only [appendParent] at h
    generalize (if stereoAck = true then _ else _ : Bool) = misused at h
    generalize (if n ≠ 0 then _ else _ : UInt8) = kind at h
    split at h
    · cases h
    next hfits =>
      cases h
      push Not at hfits
      simp only [List.length_append, List.length_take, List.length_cons, List.length_nil]
      omega

theorem aggregateLength_le (mask : UInt8) {bytes : Nat} (hbytes : bytes ≤ 95) :
    aggregateLength mask bytes ≤ 199 := by
  unfold aggregateLength
  have htwo : (maskStreams mask).length ≤ 2 := List.length_filter_le _ _
  have := Nat.mul_le_mul htwo (Nat.add_le_add_left hbytes 4)
  omega

/-- The encryption of an aggregate into the packet, behind its two header bytes. -/
theorem sealPacketAt_eq (ccm : Ccm) (setkey : Int) (plan : AirSessionPlan) (o : TonePacketOptions)
    {aggregate : List UInt8} (h0 h1 : UInt8) {s : CcmState} (hs : s.Good) :
    ∃ (status : Int) (t : CcmState) (r : Int × Option (List UInt8)),
      bleCcmEncrypt ccm setkey
        { key := some (planKey plan), iv := some (planIv plan), counter := o.packetCounter
          direction := o.direction, aad := o.aad, payload := some aggregate
          out := some (List.replicate 205 0) } s = some (r, t) ∧
      t.Good ∧ (status = 0 ∨ status = setkey) ∧
      match ccmEncrypt ccm (planKey plan) (planIv plan) o.packetCounter o.direction o.aad
        aggregate 205 with
      | .error _ => r.1 ≠ 0
      | .ok body => if status ≠ 0 then r.1 ≠ 0 else r.1 = 0 ∧
          storeSpan (h0 :: h1 :: List.replicate 205 0) 2 (r.2.getD []) =
            some (h0 :: h1 :: (body ++ (List.replicate 205 0).drop body.length)) := by
  obtain ⟨t, hcall, ht, -⟩ := hs.call ccm setkey (.encrypt
    { key := some (planKey plan), iv := some (planIv plan), counter := o.packetCounter
      direction := o.direction, aad := o.aad, payload := some aggregate
      out := some (List.replicate 205 0) })
  have hcapacity : (List.replicate 205 (0 : UInt8)).length = 205 := List.length_replicate
  have hsetup : ∀ c, s.status setkey c = 0 ∨ s.status setkey c = setkey := by
    intro c
    unfold CcmState.status
    split
    · exact .inl rfl
    · exact .inr rfl
  generalize hs : s.status setkey _ = status at hcall
  refine ⟨status, t, _, hcall, ht, hs ▸ hsetup _, ?_⟩
  · simp only [CcmCall.fresh, hcapacity]
    cases hcipher : ccmEncrypt ccm (planKey plan) (planIv plan) o.packetCounter o.direction o.aad
        aggregate 205 with
    | error e =>
      cases e
      · exact fun h => nomatch h
      · exact fun h => nomatch h
    | ok body =>
      have hbody := ccmEncrypt_length hcipher
      by_cases hstatus : status ≠ 0
      · simp only [withFreshKey, if_pos hstatus]
        exact fun h => nomatch h
      · simp only [withFreshKey, if_neg hstatus]
        refine ⟨trivial, ?_⟩
        generalize hpad : body ++ (List.replicate 205 (0 : UInt8)).drop body.length = padded
        have hlength : padded.length = 205 := by
          rw [← hpad, List.length_append, List.length_drop, hcapacity]
          omega
        have hstore := @storeSpan_append _ [h0, h1] (List.replicate 205 (0 : UInt8)) padded
          (by omega)
        rw [List.drop_of_length_le (by omega), List.append_nil] at hstore
        exact hstore

theorem buildPacketAt_eq (ccm : Ccm) (tone : UInt32 → Stereo) {stack : List UInt8} (setkey : Int)
    (plan : AirSessionPlan) (o : TonePacketOptions) (empty : Bool) (pollHeader : Option UInt8)
    (stereoAck : Bool) (control : List UInt8) (audio : Option Stereo) (out : TonePacketBuffer)
    {s : CcmState} (hs : s.Good) (hstack : stack.length = 201) :
    ∃ (status : Int) (t : CcmState),
      buildPacketAt ccm tone stack setkey plan o empty pollHeader stereoAck control audio out s =
        some (packetResult status (buildPacket ccm tone plan o empty pollHeader stereoAck control
          control.length audio) out, t) ∧ t.Good ∧ (status = 0 ∨ status = setkey) := by
  unfold buildPacketAt buildPacket
  by_cases hargs : plan.e2[0] ≠ 0xe2 ∨ (audio.isNone ∧ !empty ∧ o.eventIndex ≥ toneFrameCount)
  · rw [if_pos hargs, if_pos hargs]
    exact ⟨0, s, rfl, hs, .inl rfl⟩
  rw [if_neg hargs, if_neg hargs, packetAggregateAt_eq tone o empty audio hstack]
  simp only [Option.bind_eq_bind, Option.bind_some]
  cases haggregate : packetAggregate tone o empty audio with
  | none => exact ⟨0, s, rfl, hs, .inl rfl⟩
  | some built =>
    obtain ⟨aggregate, mask⟩ := built
    have hshape := packetAggregate_ok haggregate
    have hlength : aggregate.length ≤ 201 := by
      have hbytes : (if empty = true then 0 else 95) ≤ 95 := by split <;> omega
      have := aggregateLength_le o.requested hbytes
      have := hshape.1
      simp only at this
      omega
    simp only [Option.map_some]
    by_cases hmask : o.header >>> 3 &&& 15 ≠ mask
    · refine ⟨0, s, ?_, hs, .inl rfl⟩
      rw [if_pos hmask]
      cases sessionTime plan o.eventIndex 0 with
      | none => rfl
      | some time =>
        cases csa2Subevent plan.accessAddress (plan.eventCounter + o.eventIndex).toUInt16
            (planMap plan) 1 with
        | none => rfl
        | some channel =>
          simp only [if_pos hmask]
          rfl
    rw [if_neg hmask]
    cases sessionTime plan o.eventIndex 0 with
    | none => exact ⟨0, s, rfl, hs, .inl rfl⟩
    | some time =>
      cases csa2Subevent plan.accessAddress (plan.eventCounter + o.eventIndex).toUInt16
          (planMap plan) 1 with
      | none => exact ⟨0, s, rfl, hs, .inl rfl⟩
      | some channel =>
        obtain ⟨startHs, startHus⟩ := time
        simp only [if_neg hmask, appendParentAt_eq o empty pollHeader stereoAck control hstack]
        cases happend : appendParent o empty pollHeader stereoAck control control.length aggregate with
        | none => exact ⟨0, s, rfl, hs, .inl rfl⟩
        | some aggregate =>
          have hfits := appendParent_length hlength happend
          have hload : loadSpan (aggregate ++ stack.drop aggregate.length) 0 aggregate.length =
              some aggregate := by
            rw [loadSpan_of_le (by rw [List.length_append]; omega), List.drop_zero, List.take_left]
          obtain ⟨status, t, r, hcall, ht, hstatus, hresult⟩ := sealPacketAt_eq ccm setkey plan o
            o.header (UInt8.ofNat (aggregate.length + 4)) hs
          refine ⟨status, t, ?_, ht, hstatus⟩
          have hfirst : storeSpan (List.replicate 207 (0 : UInt8)) 0 [o.header] =
              some (o.header :: List.replicate 206 0) := by
            rw [storeSpan_front (by rw [List.length_replicate, List.length_singleton]; omega),
              List.drop_replicate]
            rfl
          have hsecond : storeSpan (o.header :: List.replicate 206 0) 1
              [UInt8.ofNat (aggregate.length + 4)] =
              some (o.header :: UInt8.ofNat (aggregate.length + 4) :: List.replicate 205 0) := by
            have := @storeSpan_append _ [o.header] (List.replicate 206 (0 : UInt8))
              [UInt8.ofNat (aggregate.length + 4)]
              (by rw [List.length_replicate, List.length_singleton]; omega)
            rwa [List.drop_replicate] at this
          have hbody : loadSpan
              (o.header :: UInt8.ofNat (aggregate.length + 4) :: List.replicate 205 0) 2 205 =
              some (List.replicate 205 0) := by
            rw [loadSpan_of_le (by simp only [List.length_cons, List.length_replicate]; decide)]
            show some ((List.replicate 205 0).take 205) = _
            rw [List.take_of_length_le (by rw [List.length_replicate])]
          simp only [Option.map_some, StackAggregate.of, hload, Option.bind_some, hfirst, hsecond,
            hbody]
          rw [hcall]
          simp only [Option.bind_some]
          cases hcipher : ccmEncrypt ccm (planKey plan) (planIv plan) o.packetCounter o.direction
              o.aad aggregate 205 with
          | error e =>
            simp only [hcipher] at hresult
            rw [if_pos hresult]
            rfl
          | ok body =>
            simp only [hcipher] at hresult
            by_cases hset : status ≠ 0
            · simp only [if_pos hset] at hresult
              rw [if_pos hresult]
              simp only [packetResult, if_pos hset]
              rfl
            · simp only [if_neg hset] at hresult
              rw [if_neg (not_not_intro hresult.1), hresult.2]
              simp only [packetResult, if_neg hset]
              rfl

end UllReceiver.Air
