import UllReceiver.Air.PacketMemory

/-!
# What a built packet carries

A packet that `build_packet` hands out decrypts to the aggregate of its streams and its parent PDU.
-/

namespace UllReceiver.Air

open Library

/-- Decryption gives back what was encrypted under the same key, nonce and additional data. -/
def Ccm.Inverts (ccm : Ccm) : Prop :=
  ∀ {key nonce aad plain cipher}, ccm.encrypt key nonce aad plain = some cipher →
    (ccm.decrypt key nonce aad cipher.val).map Subtype.val = some plain

/-- The audio of a packet: none for an empty one, else the caller's or a stored frame. -/
def packetSource (tone : UInt32 → Stereo) (o : TonePacketOptions) (empty : Bool)
    (audio : Option Stereo) : Option Stereo :=
  if empty then none else some (audio.getD (tone o.eventIndex))

/-- The parent PDU in the aggregate. -/
def parentBytes (pollHeader : Option UInt8) (control : List UInt8) : List UInt8 :=
  match pollHeader with
  | none => []
  | some header => header :: UInt8.ofNat control.length :: control

theorem buildPacket_parts {ccm : Ccm} {tone : UInt32 → Stereo} {plan : AirSessionPlan}
    {o : TonePacketOptions} {empty : Bool} {pollHeader : Option UInt8} {stereoAck : Bool}
    {control : List UInt8} {n : Nat} {audio : Option Stereo} {p : TonePacket}
    (h : buildPacket ccm tone plan o empty pollHeader stereoAck control n audio = .ok p) :
    ∃ records aggregate body, packetAggregate tone o empty audio = some (records, o.requested) ∧
      o.header >>> 3 &&& 15 = o.requested ∧
      sessionTime plan o.eventIndex 0 = some (p.startHs, p.startHus) ∧
      csa2Subevent plan.accessAddress (plan.eventCounter + o.eventIndex).toUInt16
        (planMap plan) 1 = some p.channel ∧
      appendParent o empty pollHeader stereoAck control n records = some aggregate ∧
      ccmEncrypt ccm (planKey plan) (planIv plan) o.packetCounter o.direction o.aad aggregate 205 =
        .ok body ∧
      p.length = UInt8.ofNat (aggregate.length + 6) ∧
      p.pdu = o.header :: UInt8.ofNat (aggregate.length + 4) :: body := by
  -- the refusals one after another; what is left is the packet
  unfold buildPacket at h
  split at h
  · cases h
  split at h
  next records mask startHs startHus channel hrecords htime hchannel =>
    split at h
    · cases h
    next hheader =>
      split at h
      · cases h
      next aggregate happend =>
        split at h
        · cases h
        next body hbody =>
          cases h
          have hmask := (packetAggregate_ok hrecords).2.1
          simp only at hmask
          subst hmask
          exact ⟨records, aggregate, body, hrecords, not_not.mp hheader, htime, hchannel, happend,
            hbody, rfl, rfl⟩
  · cases h

/-- The records of a packet are the builder's for the streams asked for. -/
theorem packetAggregate_built {tone : UInt32 → Stereo} {o : TonePacketOptions} {empty : Bool}
    {audio : Option Stereo} {built : List UInt8 × UInt8}
    (h : packetAggregate tone o empty audio = some built) :
    downlinkBuild 201 (packetRecords o.requested o.txSequence o.ackSequence
      (packetSource tone o empty audio)) [UInt8.ofNat airAudioChannelBytes] 0 = .ok built := by
  unfold packetAggregate at h
  change (if o.requested ≠ 2 ∧ o.requested ≠ 4 ∧ o.requested ≠ 6 then _ else _) = _ at h
  split at h
  · cases h
  split at h
  next hrecords =>
    have hsource : packetSource tone o empty audio = if empty then none else audio := by
      cases empty with
      | true => rfl
      | false =>
        rcases hrecords with hempty | haudio
        · cases hempty
        · obtain ⟨frames, rfl⟩ := Option.isSome_iff_exists.mp haudio
          rfl
    rw [hsource]
    exact toOption_ok h
  next hcue =>
    -- without audio of its own the packet carries the tone
    have hsource : packetSource tone o empty audio = some (tone o.eventIndex) := by
      push Not at hcue
      unfold packetSource
      rw [if_neg hcue.1]
      cases audio with
      | none => rfl
      | some frames => exact absurd rfl hcue.2
    obtain ⟨hbuilt, -⟩ := Option.filter_eq_some_iff.mp h
    have hbuilt : toneBuildMask tone o.eventIndex o.txSequence o.ackSequence o.requested 201 =
        .ok built := toOption_ok hbuilt
    rw [hsource]
    generalize o.requested = requested at hbuilt ⊢
    unfold toneBuildMask at hbuilt
    split at hbuilt
    · cases hbuilt
    · exact hbuilt

theorem appendParent_bytes {o : TonePacketOptions} {empty : Bool} {pollHeader : Option UInt8}
    {stereoAck : Bool} {control aggregate built : List UInt8}
    (h : appendParent o empty pollHeader stereoAck control control.length aggregate = some built) :
    built = aggregate ++ parentBytes pollHeader control := by
  cases pollHeader with
  | none =>
    cases h
    exact (List.append_nil _).symm
  | some header =>
    simp only [appendParent] at h
    generalize (if stereoAck = true then _ else _ : Bool) = misused at h
    generalize (if control.length ≠ 0 then _ else _ : UInt8) = kind at h
    split at h
    · cases h
    · cases h
      rw [List.take_length, List.append_assoc]
      rfl

/-- A decryption of what was encrypted, with room for it. -/
theorem ccmDecrypt_encrypt {ccm : Ccm} (hccm : ccm.Inverts) {key : Vector UInt8 16}
    {iv : Vector UInt8 8} {counter : UInt64} {direction aad : UInt8} {payload body : List UInt8}
    {capacity : Nat}
    (h : ccmEncrypt ccm key iv counter direction aad payload capacity = .ok body) :
    ccmDecrypt ccm key iv counter direction aad body 240 = .ok payload := by
  have hlength := (ccmEncrypt_length h).1
  unfold ccmEncrypt at h
  split at h
  · cases h
  next hargs =>
    split at h
    · cases h
    next cipher hcipher =>
      cases h
      push Not at hargs
      obtain ⟨hempty, hmost, -, hcounter, hdirection⟩ := hargs
      unfold ccmDecrypt
      -- what the sender checks is enough for the checks of the receiver
      have hgood : ¬(cipher.val.length < 5 ∨ cipher.val.length > 244 ∨
          240 < cipher.val.length - 4 ∨ counter ≥ (1 : UInt64) <<< 39 ∨ direction > 1) := by
        intro hbad
        rcases hbad with h | h | h | h | h
        · omega
        · omega
        · omega
        · exact hcounter h
        · exact hdirection h
      rw [if_neg hgood]
      have hback := hccm hcipher
      cases hdecrypt : ccm.decrypt key.reverse (ccmNonce iv counter direction) aad cipher.val with
      | none =>
        rw [hdecrypt] at hback
        cases hback
      | some plain =>
        rw [hdecrypt] at hback
        exact congrArg Except.ok (Option.some.inj hback)

/-- The packet `q` that is handed out for the options `o`. -/
structure CarriesExactly (ccm : Ccm) (tone : UInt32 → Stereo) (plan : AirSessionPlan)
    (o : TonePacketOptions) (empty : Bool) (pollHeader : Option UInt8) (control : List UInt8)
    (audio : Option Stereo) (q : TonePacketBuffer) : Prop where
  header : q.pdu[0]? = some o.header
  length : ∃ n : UInt8, q.pdu[1]? = some n ∧ n.toNat + 2 = q.length.toNat ∧
    q.length.toNat ≤ 207 ∧ q.pdu.length = 207 ∧
    ∃ bytes, downlinkBuild 201 (packetRecords o.requested o.txSequence o.ackSequence
        (packetSource tone o empty audio)) [UInt8.ofNat airAudioChannelBytes] 0 =
        .ok (bytes, o.header >>> 3 &&& 15) ∧
      ccmDecrypt ccm (planKey plan) (planIv plan) o.packetCounter o.direction o.aad
        ((q.pdu.drop 2).take n.toNat) 240 = .ok (bytes ++ parentBytes pollHeader control)
  start : sessionTime plan o.eventIndex 0 = some (q.startHs, q.startHus)
  channel : csa2Subevent plan.accessAddress (plan.eventCounter + o.eventIndex).toUInt16
    (planMap plan) 1 = some q.channel

theorem buildPacket_carries {ccm : Ccm} (hccm : ccm.Inverts) {tone : UInt32 → Stereo}
    {plan : AirSessionPlan} {o : TonePacketOptions} {empty : Bool} {pollHeader : Option UInt8}
    {stereoAck : Bool} {control : List UInt8} {audio : Option Stereo} {p : TonePacket}
    (h : buildPacket ccm tone plan o empty pollHeader stereoAck control control.length audio =
      .ok p) :
    CarriesExactly ccm tone plan o empty pollHeader control audio p.buffer := by
  obtain ⟨records, aggregate, body, hrecords, hheader, htime, hchannel, happend, hbody, hlength,
    hpdu⟩ := buildPacket_parts h
  obtain ⟨hsize, hcapacity⟩ := ccmEncrypt_length hbody
  -- neither length byte wraps
  have hn : (UInt8.ofNat (aggregate.length + 4)).toNat = aggregate.length + 4 := by
    rw [UInt8.toNat_ofNat', Nat.mod_eq_of_lt (by omega)]
  have hm : (UInt8.ofNat (aggregate.length + 6)).toNat = aggregate.length + 6 := by
    rw [UInt8.toNat_ofNat', Nat.mod_eq_of_lt (by omega)]
  refine ⟨?_, ⟨UInt8.ofNat (aggregate.length + 4), ?_, ?_, ?_, ?_, records, ?_, ?_⟩, htime, hchannel⟩
  · show (p.pdu ++ _)[0]? = _
    rw [hpdu]
    rfl
  · show (p.pdu ++ _)[1]? = _
    rw [hpdu]
    rfl
  · show _ = p.length.toNat
    rw [hlength, hn, hm]
  · show p.length.toNat ≤ 207
    rw [hlength, hm]
    omega
  · show (p.pdu ++ _).length = 207
    rw [List.length_append, List.length_drop, List.length_replicate, hpdu, List.length_cons,
      List.length_cons]
    omega
  · rw [hheader]
    exact packetAggregate_built hrecords
  · show ccmDecrypt _ _ _ _ _ _ (((p.pdu ++ _).drop 2).take _) _ = _
    rw [hpdu, hn, ← hsize]
    show ccmDecrypt _ _ _ _ _ _ ((body ++ _).take _) _ = _
    rw [List.take_left, ccmDecrypt_encrypt hccm hbody, appendParent_bytes happend]

/-- Whatever the cipher's cache holds by then, `build_packet` stays in its buffers, and hands out
a packet that carries what it was asked for, or nothing. -/
theorem packet_exact (ccm : Ccm) (hccm : ccm.Inverts) (tone : UInt32 → Stereo)
    (history : List (CcmCall × Int)) (setkey : Int) (stack : Vector UInt8 201)
    (plan : AirSessionPlan) (o : TonePacketOptions) (empty : Bool) (pollHeader : Option UInt8)
    (stereoAck : Bool) (control : List UInt8) (audio : Option Stereo) (out : TonePacketBuffer) :
    ∃ results s r t, CcmState.boot.calls ccm history = some (results, s) ∧
      buildPacketAt ccm tone stack.toList setkey plan o empty pollHeader stereoAck control audio
        out s = some (r, t) ∧
      (r.1 = 0 → CarriesExactly ccm tone plan o empty pollHeader control audio r.2) ∧
      (r.1 ≠ 0 → r.2 = out) := by
  obtain ⟨s, hcalls, hs⟩ := CcmState.boot_good.calls ccm history
  obtain ⟨status, t, hbuild, -, -⟩ := buildPacketAt_eq ccm tone setkey plan o empty pollHeader
    stereoAck control audio out hs (show stack.toList.length = 201 from Vector.length_toList)
  refine ⟨_, s, _, t, hcalls, hbuild, ?_, ?_⟩
  · intro hok
    cases hbuilt : buildPacket ccm tone plan o empty pollHeader stereoAck control control.length
        audio with
    | error e =>
      rw [hbuilt] at hok
      cases e <;> cases hok
    | ok p =>
      rw [hbuilt] at hok
      -- a key that the cipher does not take refuses the packet as well
      by_cases hset : status ≠ 0
      · simp only [packetResult, if_pos hset] at hok
        cases hok
      · simp only [packetResult, if_neg hset]
        exact buildPacket_carries hccm hbuilt
  · intro hbad
    cases hbuilt : buildPacket ccm tone plan o empty pollHeader stereoAck control control.length
        audio with
    | error e => cases e <;> rfl
    | ok p =>
      rw [hbuilt] at hbad
      by_cases hset : status ≠ 0
      · simp only [packetResult, if_pos hset]
      · simp only [packetResult, if_neg hset] at hbad
        exact absurd rfl hbad

theorem tagCcm_inverts : tagCcm.Inverts := by
  intro key nonce aad plain cipher h
  cases h
  have hsize : (plain ++ List.replicate 4 key[0]).length - 4 = plain.length := by
    rw [List.length_append, List.length_replicate]
    omega
  simp only [tagCcm, hsize, List.drop_left, if_true, Option.map_some, List.take_left]

/-- A plan with a channel map, and the options of an empty packet for the first stream. -/
def pollPlan : AirSessionPlan where
  startHs := 0
  startHus := 0
  aclInstant := 0
  eventCounter := 0
  accessAddress := 0x71764129
  offsetUs := 0
  e2 := Vector.ofFn fun i => if i.val = 0 then 0xe2 else if i.val = 23 then 0x1f else 0xff

def pollOptions : TonePacketOptions :=
  ⟨3, 3, 1, 0x11, 1, #v[1, 2], #v[3, 4], 2⟩

/-- A poll with one byte of a parent PDU, after one packet under another key. -/
theorem packet_exact_poll :
    ∃ results s r t, CcmState.boot.calls tagCcm [(oneByte 1, 0)] = some (results, s) ∧
      buildPacketAt tagCcm (fun _ => Vector.replicate 2 (Vector.replicate 95 5))
        (Vector.replicate 201 0xaa).toList 0 pollPlan pollOptions true (some 3) false [9] none
        ⟨0, 0, 0, 0, List.replicate 207 0⟩ s = some (r, t) ∧
      r.1 = 0 ∧
      CarriesExactly tagCcm (fun _ => Vector.replicate 2 (Vector.replicate 95 5)) pollPlan
        pollOptions true (some 3) [9] none r.2 := by
  obtain ⟨results, s, r, t, hcalls, hbuild, hcarries, -⟩ :=
    packet_exact tagCcm tagCcm_inverts (fun _ => Vector.replicate 2 (Vector.replicate 95 5))
      [(oneByte 1, 0)] 0 (Vector.replicate 201 0xaa) pollPlan pollOptions true (some 3) false [9]
      none ⟨0, 0, 0, 0, List.replicate 207 0⟩
  have hstatus : ((CcmState.boot.calls tagCcm [(oneByte 1, 0)]).bind fun done =>
      (buildPacketAt tagCcm (fun _ => Vector.replicate 2 (Vector.replicate 95 5))
        (Vector.replicate 201 0xaa).toList 0 pollPlan pollOptions true (some 3) false [9] none
        ⟨0, 0, 0, 0, List.replicate 207 0⟩ done.2).map fun built => built.1.1) = some 0 := by
    decide +kernel
  rw [hcalls, Option.bind_some, hbuild] at hstatus
  have hok : r.1 = 0 := Option.some.inj hstatus
  exact ⟨results, s, r, t, hcalls, hbuild, hok, hcarries hok⟩

end UllReceiver.Air
