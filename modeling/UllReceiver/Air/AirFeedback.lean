import UllReceiver.Air.CcmCache
import UllReceiver.Air.SessionGrid
import UllReceiver.Air.TonePacket
import UllReceiver.Air.UplinkGrammar
import UllReceiver.Library.Buffer
import UllReceiver.Library.Counter
import UllReceiver.Library.Tiling
import UllReceiver.Parent.RawLlcp
import UllReceiver.Radio.Request

/-!
# Air feedback

`air_feedback.c`: what authenticated replies say about each stream, and the sequence numbers of the
next packet that follow from it.
-/

namespace UllReceiver.Air

open Parent Radio

structure AirFeedbackChannel where
  frame : UInt32
  expectedTx : UInt8
  nextAck : UInt8
  valid : Bool
  afterTx : Bool
deriving DecidableEq

structure AirFeedback where
  generation : UInt32
  channels : Vector AirFeedbackChannel 2
deriving DecidableEq

def AirFeedbackChannel.zero : AirFeedbackChannel :=
  { frame := 0, expectedTx := 0, nextAck := 0, valid := false, afterTx := false }

def AirFeedback.zero : AirFeedback :=
  { generation := 0, channels := Vector.replicate 2 .zero }

/-- A microphone frame handed to `ull_air_microphone_frame`. -/
structure MicrophoneFrame where
  frame : UInt32
  txSequence : UInt8
  payload : List UInt8
deriving DecidableEq

/-- Half-microseconds since the start of event `frame`, if the snapshot lies in its interval. -/
def snapshotInFrame (plan : AirSessionPlan) (s : RadioRxSnapshot) (frame : UInt32) : Bool :=
  match sessionTime plan frame 0 with
  | none => false
  | some (expectedHs, expectedHus) =>
      let coarse := (s.hs - expectedHs) &&& clockMask
      let elapsed : Int := coarse.toNat * 625 + s.hus.toNat - expectedHus.toNat
      coarse < 0x08000000 && decide (0 ≤ elapsed) && decide (elapsed < 10000)

/-- What record `r` of event `frame` does to the channel of its stream. -/
def AirFeedbackChannel.accept (ch : AirFeedbackChannel) (frame : UInt32) (r : AirRxRecord) :
    AirFeedbackChannel × Bool :=
  let ack := if r.flags &&& 8 ≠ 0 then 0 else (r.txSequence + 1) &&& 15
  if ch.valid ∧ frame < ch.frame then (ch, false)
  else if !ch.valid ∨ ch.frame ≠ frame ∨ ch.expectedTx ≠ r.ackSequence ∨ ch.nextAck ≠ ack then
    ({ frame, expectedTx := r.ackSequence, nextAck := ack, valid := true
       afterTx := ch.afterTx &&
        !(!ch.valid || ch.frame != frame || ch.expectedTx != r.ackSequence) }, true)
  else (ch, false)

/-- All records in order; `none` when one belongs to neither stream. -/
def acceptRecords (channels : Vector AirFeedbackChannel 2) (changed : Bool) (frame : UInt32) :
    List AirRxRecord → Option (Vector AirFeedbackChannel 2 × Bool)
  | [] => some (channels, changed)
  | r :: rest =>
      if h : r.streamId.toNat = 1 ∨ r.streamId.toNat = 2 then
        let i : Fin 2 := ⟨r.streamId.toNat - 1, by omega⟩
        let (ch, now) := channels[i].accept frame r
        acceptRecords (channels.set i ch) (changed || now) frame rest
      else none

/-- The caller's own copy of a control trailer; `none` when it is too long. -/
def ownedControl (control : AirControlRecord) : Option AirControlRx :=
  if control.present then
    if control.payload.length > 60 then none
    else some
      { present := 1, header := control.header, length := UInt8.ofNat control.payload.length
        payload := Vector.ofFn fun i => control.payload.getD i 0 }
  else some { present := 0, header := 0, length := 0, payload := Vector.replicate 60 0 }

/-- `ull_air_feedback_accept_frame`, with the value it returns as the error. -/
def acceptFrame (ccm : Ccm) (state : AirFeedback) (plan : AirSessionPlan) (s : RadioRxSnapshot)
    (frame : UInt32) : Except Int (AirFeedback × AirControlRx × List MicrophoneFrame) :=
  let header := (getElem s.descriptor 2 descriptor_length).toUInt8
  let length := (getElem s.descriptor 2 descriptor_length >>> 8).toNat
  if getElem plan.e2 0 e2_kind ≠ 0xe2 ∨ s.hs > clockMask ∨ s.hus > 624 ∨
      plan.startHus > 624 then .error (-1)
  else if getElem s.descriptor 1 descriptor_status &&& 9 ≠ 0 ∨ length < 7 ∨
      length ≠ s.copied.toNat ∨ length > 64 then
    .error (-2)
  else if !snapshotInFrame plan s frame then .error (-1)
  else
    match ccmDecrypt ccm (planKey plan) (planIv plan) 0 0 (header &&& 0xe3)
      (s.payload.toList.take length) 64 with
    | .error _ => .error (-3)
    | .ok plain =>
        match airUplinkParseControl plain header [40, 95] 4 with
        | .error _ => .error (-4)
        | .ok (records, control) =>
            if records.length = 0 then .error (-4)
            else
              match acceptRecords state.channels false frame records, ownedControl control with
              | some (channels, changed), some owned => .ok
                  (if changed then { generation := state.generation + 1, channels } else state,
                    owned,
                    (records.filter fun r => r.streamId == 1 && r.payload.length == 40).map fun r =>
                      { frame, txSequence := r.txSequence, payload := r.payload })
              | _, _ => .error (-4)

/-- The event `ull_air_feedback_accept_control` derives from the time of a reply, `none` out of its
range. -/
def controlFrame (plan : AirSessionPlan) (s : RadioRxSnapshot) : Option UInt32 :=
  if s.hus > 624 ∨ plan.startHus > 624 then none
  else
    let coarse := (s.hs - plan.startHs) &&& clockMask
    let elapsed : Int := coarse.toNat * 625 + s.hus.toNat - plan.startHus.toNat
    if coarse ≥ 0x08000000 ∨ elapsed < 0 ∨ elapsed ≥ toneFrameCount.toNat * 10000 then none
    else some (UInt32.ofNat (elapsed / 10000).toNat)

/-- `ull_air_feedback_accept_control`. -/
def acceptControl (ccm : Ccm) (state : AirFeedback) (plan : AirSessionPlan) (s : RadioRxSnapshot) :
    Except Int (AirFeedback × AirControlRx × List MicrophoneFrame) :=
  match controlFrame plan s with
  | none => .error (-1)
  | some frame => acceptFrame ccm state plan s frame

/-- Whether `sequences` sent in event `frame` are what channel `i` now expects the successor of. -/
def noteChannel (ch : AirFeedbackChannel) (frame : UInt32) (streamMask : UInt8)
    (sequences : Vector UInt8 2) (i : Fin 2) : Bool :=
  streamMask &&& (1 : UInt8) <<< UInt8.ofNat (i.val + 1) != 0 && ch.valid && ch.frame == frame &&
    ch.expectedTx == (sequences[i] + 1) &&& 15 && !ch.afterTx

section

local instance twoStreams : NeZero 2 :=
  ⟨by decide⟩

/-- `ull_air_feedback_note_tx`. -/
def AirFeedback.noteTx (state : AirFeedback) (frame : UInt32) (streamMask : UInt8)
    (sequences : Vector UInt8 2) : AirFeedback :=
  let noted (i : Fin 2) : Bool := noteChannel state.channels[i] frame streamMask sequences i
  { generation := if noted 0 || noted 1 then state.generation + 1 else state.generation
    channels := Vector.ofFn fun i =>
      if noted i then { state.channels[i] with afterTx := true } else state.channels[i] }

end

def expiryAge (frame start : UInt32) : UInt32 :=
  if frame > start then frame - start - 1 else 0

/-- Channel `i` of `ull_air_feedback_sequences`: the TX and ACK sequence. -/
def AirFeedback.sequence (state : AirFeedback) (frame : UInt32) (starts : Vector UInt32 2)
    (i : Fin 2) : UInt8 × UInt8 :=
  let ch := state.channels[i]
  let age := expiryAge frame starts[i]
  if ch.valid ∧ ch.frame ≥ starts[i] ∧ frame ≥ ch.frame then
    let advance := age - expiryAge ch.frame starts[i]
    let advance := if ch.afterTx ∧ advance ≠ 0 then advance - 1 else advance
    (((ch.expectedTx.toUInt32 + advance) &&& 15).toUInt8, ch.nextAck)
  else ((age &&& 15).toUInt8, 0)

/-- `ull_air_feedback_sequences`. -/
def AirFeedback.sequences (state : AirFeedback) (frame : UInt32) (starts : Vector UInt32 2) :
    Vector UInt8 2 × Vector UInt8 2 :=
  (Vector.ofFn fun i => (state.sequence frame starts i).1,
    Vector.ofFn fun i => (state.sequence frame starts i).2)

end UllReceiver.Air

/-!
# Accepting a reply

What a call of `ull_air_feedback_accept_frame` writes, and what the same reply does a second time.
-/

namespace UllReceiver.Air

open Parent Radio

/-- What a call can write: the state, `control_out` (`none` where it is `NULL`) and the frames that
the microphone has been given. -/
structure FeedbackMemory where
  state : AirFeedback
  controlOut : Option AirControlRx
  microphone : List MicrophoneFrame
deriving DecidableEq

/-- `ull_air_feedback_accept_frame` on its memory, with the writes where the source has them. -/
def acceptFrameAt (ccm : Ccm) (plan : AirSessionPlan) (s : RadioRxSnapshot) (frame : UInt32)
    (m : FeedbackMemory) : Int × FeedbackMemory :=
  let header := (getElem s.descriptor 2 descriptor_length).toUInt8
  let length := (getElem s.descriptor 2 descriptor_length >>> 8).toNat
  if getElem plan.e2 0 e2_kind ≠ 0xe2 ∨ s.hs > clockMask ∨ s.hus > 624 ∨
      plan.startHus > 624 then (-1, m)
  else if getElem s.descriptor 1 descriptor_status &&& 9 ≠ 0 ∨ length < 7 ∨
      length ≠ s.copied.toNat ∨ length > 64 then
    (-2, m)
  else if !snapshotInFrame plan s frame then (-1, m)
  else
    match ccmDecrypt ccm (planKey plan) (planIv plan) 0 0 (header &&& 0xe3)
      (s.payload.toList.take length) 64 with
    | .error _ => (-3, m)
    | .ok plain =>
        match airUplinkParseControl plain header [40, 95] 4 with
        | .error _ => (-4, m)
        | .ok (records, control) =>
            if records.length = 0 then (-4, m)
            else
              match acceptRecords m.state.channels false frame records with
              | none => (-4, m)
              | some (updated, changed) =>
                  match ownedControl control with
                  | none => (-4, m)
                  | some owned =>
                      let m := if changed then
                          { m with state := { generation := m.state.generation + 1
                                              channels := updated } }
                        else m
                      let m := { m with controlOut := m.controlOut.map fun _ => owned }
                      let capture := records.filter fun r =>
                        r.streamId == 1 && r.payload.length == 40
                      (0, { m with microphone := m.microphone ++ capture.map fun r =>
                              { frame, txSequence := r.txSequence, payload := r.payload } })

/-- The records that a reply decrypts to. -/
def replyRecords (ccm : Ccm) (plan : AirSessionPlan) (s : RadioRxSnapshot) :
    Option (List AirRxRecord) :=
  let header := (getElem s.descriptor 2 descriptor_length).toUInt8
  let length := (getElem s.descriptor 2 descriptor_length >>> 8).toNat
  match ccmDecrypt ccm (planKey plan) (planIv plan) 0 0 (header &&& 0xe3)
    (s.payload.toList.take length) 64 with
  | .error _ => none
  | .ok plain => (airUplinkParseControl plain header [40, 95] 4).toOption.map Prod.fst

theorem acceptFrameAt_eq (ccm : Ccm) (plan : AirSessionPlan) (s : RadioRxSnapshot)
    (frame : UInt32) (m : FeedbackMemory) :
    acceptFrameAt ccm plan s frame m = match acceptFrame ccm m.state plan s frame with
      | .error e => (e, m)
      | .ok (state, owned, frames) => (0, { state
                                            controlOut := m.controlOut.map fun _ => owned
                                            microphone := m.microphone ++ frames }) := by
  unfold acceptFrameAt acceptFrame
  simp only
  by_cases h1 : plan.e2[0] ≠ 0xe2 ∨ s.hs > clockMask ∨ s.hus > 624 ∨ plan.startHus > 624
  · rw [if_pos h1, if_pos h1]
  rw [if_neg h1, if_neg h1]
  by_cases h2 : s.descriptor[1] &&& 9 ≠ 0 ∨ (s.descriptor[2] >>> 8).toNat < 7 ∨
      (s.descriptor[2] >>> 8).toNat ≠ s.copied.toNat ∨ (s.descriptor[2] >>> 8).toNat > 64
  · rw [if_pos h2, if_pos h2]
  rw [if_neg h2, if_neg h2]
  by_cases h3 : (!snapshotInFrame plan s frame) = true
  · rw [if_pos h3, if_pos h3]
  rw [if_neg h3, if_neg h3]
  cases ccmDecrypt ccm (planKey plan) (planIv plan) 0 0 (s.descriptor[2].toUInt8 &&& 0xe3)
      (s.payload.toList.take (s.descriptor[2] >>> 8).toNat) 64 with
  | error e => rfl
  | ok plain =>
    simp only
    cases airUplinkParseControl plain s.descriptor[2].toUInt8 [40, 95] 4 with
    | error e => rfl
    | ok parsed =>
      obtain ⟨records, control⟩ := parsed
      simp only
      by_cases h4 : records.length = 0
      · rw [if_pos h4, if_pos h4]
      rw [if_neg h4, if_neg h4]
      cases acceptRecords m.state.channels false frame records with
      | none => rfl
      | some found =>
        obtain ⟨updated, changed⟩ := found
        cases ownedControl control with
        | none => rfl
        | some owned => cases changed <;> rfl

/-- What an accepted reply holds, and the state it leaves. -/
theorem acceptFrame_ok {ccm : Ccm} {state next : AirFeedback} {plan : AirSessionPlan}
    {s : RadioRxSnapshot} {frame : UInt32} {owned : AirControlRx} {frames : List MicrophoneFrame}
    (h : acceptFrame ccm state plan s frame = .ok (next, owned, frames)) :
    ∃ records channels changed, replyRecords ccm plan s = some records ∧
      acceptRecords state.channels false frame records = some (channels, changed) ∧
      next = if changed then { generation := state.generation + 1, channels } else state := by
  unfold acceptFrame at h
  simp only at h
  split at h
  · cases h
  split at h
  · cases h
  split at h
  · cases h
  split at h
  · cases h
  next plain hplain =>
    split at h
    · cases h
    next records control hparse =>
      split at h
      · cases h
      split at h
      next channels changed _ hrecords _ =>
        cases h
        refine ⟨records, channels, changed, ?_, hrecords, rfl⟩
        simp only [replyRecords, hplain, hparse, Except.toOption, Option.map_some]
      · cases h

theorem acceptFrame_error {ccm : Ccm} {state : AirFeedback} {plan : AirSessionPlan}
    {s : RadioRxSnapshot} {frame : UInt32} {e : Int}
    (h : acceptFrame ccm state plan s frame = .error e) : e ≠ 0 := by
  unfold acceptFrame at h
  simp only at h
  split at h
  · cases h
    decide
  split at h
  · cases h
    decide
  split at h
  · cases h
    decide
  split at h
  · cases h
    decide
  · split at h
    · cases h
      decide
    · split at h
      · cases h
        decide
      · split at h
        · cases h
        · cases h
          decide

/-- A reply that was accepted once is accepted whenever its records are. -/
theorem acceptFrame_again {ccm : Ccm} {state again : AirFeedback} {plan : AirSessionPlan}
    {s : RadioRxSnapshot} {frame : UInt32}
    {taken : AirFeedback × AirControlRx × List MicrophoneFrame} {records : List AirRxRecord}
    (h : acceptFrame ccm state plan s frame = .ok taken)
    (hreply : replyRecords ccm plan s = some records)
    (hrecords : acceptRecords again.channels false frame records = some (again.channels, false)) :
    ∃ owned frames, acceptFrame ccm again plan s frame = .ok (again, owned, frames) := by
  unfold acceptFrame at h ⊢
  simp only at h ⊢
  split at h
  · cases h
  next h1 =>
    rw [if_neg h1]
    split at h
    · cases h
    next h2 =>
      rw [if_neg h2]
      split at h
      · cases h
      next h3 =>
        rw [if_neg h3]
        split at h
        · cases h
        next plain hplain =>
          split at h
          · cases h
          next found control hparse =>
            split at h
            · cases h
            next h4 =>
              have hfound : found = records := by
                simp only [replyRecords, hplain, hparse, Except.toOption, Option.map_some,
                  Option.some.injEq] at hreply
                exact hreply
              subst hfound
              rw [if_neg h4]
              split at h
              next _ _ _ _ howned => exact ⟨_, _, by rw [hrecords, howned]; rfl⟩
              · cases h

/-! ## One channel -/

/-- The ACK that answers a record. -/
def AirRxRecord.nextAck (r : AirRxRecord) : UInt8 :=
  if r.flags &&& 8 ≠ 0 then 0 else (r.txSequence + 1) &&& 15

theorem AirFeedbackChannel.accept_eq (ch : AirFeedbackChannel) (frame : UInt32) (r : AirRxRecord) :
    ch.accept frame r = if ch.valid ∧ frame < ch.frame then (ch, false)
      else if !ch.valid ∨ ch.frame ≠ frame ∨ ch.expectedTx ≠ r.ackSequence ∨
        ch.nextAck ≠ r.nextAck then
        ({ frame, expectedTx := r.ackSequence, nextAck := r.nextAck, valid := true
           afterTx := ch.afterTx &&
            !(!ch.valid || ch.frame != frame || ch.expectedTx != r.ackSequence) }, true)
      else (ch, false) :=
  rfl

theorem AirFeedbackChannel.accept_stale {ch : AirFeedbackChannel} {frame : UInt32}
    (r : AirRxRecord) (h : ch.valid = true ∧ frame < ch.frame) : ch.accept frame r = (ch, false) := by
  rw [accept_eq, if_pos h]

/-- A record of an event that is not stale is what the channel holds then. -/
theorem AirFeedbackChannel.accept_heard {ch : AirFeedbackChannel} {frame : UInt32} (r : AirRxRecord)
    (h : ¬(ch.valid = true ∧ frame < ch.frame)) :
    (ch.accept frame r).1 = { frame, expectedTx := r.ackSequence, nextAck := r.nextAck, valid := true
                              afterTx := (ch.accept frame r).1.afterTx } := by
  rw [accept_eq, if_neg h]
  split
  · rfl
  next hsame =>
    push Not at hsame
    obtain ⟨hvalid, hframe, htx, hack⟩ := hsame
    have hvalid : ch.valid = true := by simpa using hvalid
    show ch = _
    rw [← hframe, ← htx, ← hack, ← hvalid]

theorem AirFeedbackChannel.accept_changed (ch : AirFeedbackChannel) (frame : UInt32)
    (r : AirRxRecord) : (ch.accept frame r).2 = true ↔ (ch.accept frame r).1 ≠ ch := by
  rw [accept_eq]
  split
  · simp
  · split
    next hnew =>
      refine iff_of_true rfl fun hsame => ?_
      have hframe := congrArg AirFeedbackChannel.frame hsame
      have htx := congrArg AirFeedbackChannel.expectedTx hsame
      have hack := congrArg AirFeedbackChannel.nextAck hsame
      have hvalid := congrArg AirFeedbackChannel.valid hsame
      rcases hnew with h | h | h | h
      · change true = ch.valid at hvalid
        rw [← hvalid] at h
        cases h
      · exact h hframe.symm
      · exact h htx.symm
      · exact h hack.symm
    · simp

/-- `after_tx` apart, the channel holds what the record says, or something newer. -/
theorem AirFeedbackChannel.accept_settled {ch settled : AirFeedbackChannel} {frame : UInt32}
    {r : AirRxRecord}
    (h : settled = { (ch.accept frame r).1 with afterTx := settled.afterTx }) :
    settled.accept frame r = (settled, false) := by
  by_cases hstale : ch.valid = true ∧ frame < ch.frame
  · rw [accept_stale r hstale] at h
    apply accept_stale r
    rw [h]
    exact hstale
  · rw [accept_heard r hstale] at h
    rw [h, accept_eq, if_neg (by simp), if_neg (by simp)]

/-! ## All records -/

theorem parseRecords_ids {size : Nat} {mask : UInt8} (ids : List UInt8) :
    ∀ (src : List UInt8) (records : List AirRxRecord) (rest : List UInt8),
      parseRecords size mask src ids = .ok (records, rest) →
        records.map AirRxRecord.streamId = streamsOf mask ids := by
  induction ids with
  | nil =>
    intro src records rest h
    cases h
    rfl
  | cons id ids ih =>
    intro src records rest h
    unfold parseRecords at h
    by_cases hid : mask &&& 1 <<< id = 0
    · rw [if_pos hid] at h
      rw [ih src records rest h, streamsOf, streamsOf,
        List.filter_cons_of_neg (by simpa using hid)]
    · rw [if_neg hid] at h
      split at h
      next h1 _ =>
        simp only at h
        generalize (if h1 &&& 0x0c ≠ 0 then 0 else size) = bytes at h
        split at h
        · cases h
        · split at h
          · cases h
          next found left hparse =>
            cases h
            rw [List.map_cons, ih _ _ _ hparse, streamsOf, streamsOf,
              List.filter_cons_of_pos (by simpa using hid)]
      · cases h

/-- No stream has two records. -/
theorem replyRecords_nodup {ccm : Ccm} {plan : AirSessionPlan} {s : RadioRxSnapshot}
    {records : List AirRxRecord} (h : replyRecords ccm plan s = some records) :
    (records.map AirRxRecord.streamId).Nodup := by
  unfold replyRecords at h
  simp only at h
  split at h
  · cases h
  next plain _ =>
    obtain ⟨parsed, hparsed, rfl⟩ := Option.map_eq_some_iff.mp h
    have hparsed : airUplinkParseControl plain s.descriptor[2].toUInt8 [40, 95] 4 = .ok parsed := by
      cases hall : airUplinkParseControl plain s.descriptor[2].toUInt8 [40, 95] 4 with
      | error e =>
        rw [hall] at hparsed
        cases hparsed
      | ok found =>
        rw [hall] at hparsed
        cases hparsed
        rfl
    unfold airUplinkParseControl uplinkParse at hparsed
    split at hparsed
    · cases hparsed
    split at hparsed
    · cases hparsed
    split at hparsed
    · cases hparsed
    split at hparsed
    · cases hparsed
    split at hparsed
    · cases hparsed
    next found rest hrecords =>
      split at hparsed
      · cases hparsed
      split at hparsed
      · cases hparsed
      · cases hparsed
        rw [parseRecords_ids _ _ _ _ hrecords]
        exact List.Nodup.filter _ (by decide)

theorem acceptRecords_cons {channels : Vector AirFeedbackChannel 2} {changed : Bool}
    {frame : UInt32} {r : AirRxRecord} {i : Fin 2} (hi : r.streamId.toNat = i.val + 1)
    (rest : List AirRxRecord) :
    acceptRecords channels changed frame (r :: rest) =
      acceptRecords (channels.set i (channels[i].accept frame r).1)
        (changed || (channels[i].accept frame r).2) frame rest := by
  have hid : r.streamId.toNat = 1 ∨ r.streamId.toNat = 2 := by omega
  obtain ⟨k, hk⟩ := i
  have hindex : k = r.streamId.toNat - 1 := by
    change r.streamId.toNat = k + 1 at hi
    omega
  subst hindex
  rw [acceptRecords, dif_pos hid]

/-- What the records of different streams do, channel by channel. -/
theorem acceptRecords_channels {frame : UInt32} (records : List AirRxRecord) :
    ∀ {channels out : Vector AirFeedbackChannel 2} {changed now : Bool},
      (records.map AirRxRecord.streamId).Nodup →
      acceptRecords channels changed frame records = some (out, now) →
        (∀ i : Fin 2, (∀ r ∈ records, r.streamId.toNat ≠ i.val + 1) → out[i] = channels[i]) ∧
        (∀ r ∈ records, ∀ i : Fin 2, r.streamId.toNat = i.val + 1 →
          out[i] = (channels[i].accept frame r).1) ∧
        (∀ r ∈ records, r.streamId.toNat = 1 ∨ r.streamId.toNat = 2) ∧
        (now = true ↔ changed = true ∨ out ≠ channels) := by
  induction records with
  | nil =>
    intro channels out changed now _ h
    cases h
    refine ⟨fun _ _ => rfl, fun r hr => absurd hr List.not_mem_nil,
      fun r hr => absurd hr List.not_mem_nil, ?_⟩
    simp
  | cons r rest ih =>
    intro channels out changed now hids h
    by_cases hid : r.streamId.toNat = 1 ∨ r.streamId.toNat = 2
    · have hrid : ∃ i : Fin 2, r.streamId.toNat = i.val + 1 :=
        ⟨⟨r.streamId.toNat - 1, by omega⟩, by
          show _ = r.streamId.toNat - 1 + 1
          omega⟩
      obtain ⟨i, hrid⟩ := hrid
      rw [acceptRecords_cons hrid] at h
      obtain ⟨hfresh, hids⟩ := List.nodup_cons.mp hids
      obtain ⟨hsame, hheard, hstreams, hnow⟩ := ih hids h
      -- the channel of this record is left alone by the others
      have hother : ∀ q ∈ rest, q.streamId.toNat ≠ i.val + 1 := by
        intro q hq heq
        apply hfresh
        rw [show r.streamId = q.streamId from UInt8.toNat_inj.mp (by rw [hrid, heq])]
        exact List.mem_map_of_mem hq
      have hone : out[i] = (channels[i].accept frame r).1 := by
        rw [hsame i hother]
        exact Vector.getElem_set_self i.isLt
      have hrest : ∀ j : Fin 2, j ≠ i → (channels.set i (channels[i].accept frame r).1)[j] =
          channels[j] := by
        intro j hj
        exact Vector.getElem_set_ne _ _ fun h => hj (Fin.ext h.symm)
      refine ⟨?_, ?_, ?_, ?_⟩
      · intro j hj
        have hne : j ≠ i := by
          intro heq
          exact hj r List.mem_cons_self (by rw [heq]; exact hrid)
        rw [hsame j fun q hq => hj q (List.mem_cons_of_mem _ hq)]
        exact hrest j hne
      · intro q hq j hj
        rcases List.mem_cons.mp hq with rfl | hq
        · have heq : j = i := Fin.ext (by omega)
          rw [heq]
          exact hone
        · have hne : j ≠ i := by
            intro heq
            rw [heq] at hj
            exact hother q hq hj
          rw [hheard q hq j hj]
          rw [hrest j hne]
      · intro q hq
        rcases List.mem_cons.mp hq with rfl | hq
        · exact hid
        · exact hstreams q hq
      · rw [hnow, Bool.or_eq_true, AirFeedbackChannel.accept_changed, or_assoc]
        refine or_congr_right ?_
        by_cases hnew : (channels[i].accept frame r).1 = channels[i]
        · have hset : channels.set i (channels[i].accept frame r).1 = channels := by
            rw [hnew]
            exact Vector.set_getElem_self i.isLt
          rw [hset]
          constructor
          · rintro (h | h)
            · exact absurd hnew h
            · exact h
          · exact .inr
        · refine iff_of_true (.inl hnew) fun heq => hnew ?_
          rw [← hone, heq]
    · rw [acceptRecords, dif_neg hid] at h
      cases h

/-- Records that say nothing new. -/
theorem acceptRecords_settled {channels : Vector AirFeedbackChannel 2} {frame : UInt32}
    (records : List AirRxRecord)
    (hstreams : ∀ r ∈ records, r.streamId.toNat = 1 ∨ r.streamId.toNat = 2)
    (h : ∀ r ∈ records, ∀ i : Fin 2, r.streamId.toNat = i.val + 1 →
      channels[i].accept frame r = (channels[i], false)) :
    acceptRecords channels false frame records = some (channels, false) := by
  induction records with
  | nil => rfl
  | cons r rest ih =>
    have hid := hstreams r List.mem_cons_self
    have hrid : r.streamId.toNat = (⟨r.streamId.toNat - 1, by omega⟩ : Fin 2).val + 1 := by
      show _ = r.streamId.toNat - 1 + 1
      omega
    generalize (⟨r.streamId.toNat - 1, by omega⟩ : Fin 2) = i at hrid
    rw [acceptRecords_cons hrid, h r List.mem_cons_self i hrid,
      show channels.set i channels[i] = channels from Vector.set_getElem_self i.isLt]
    exact ih (fun q hq => hstreams q (List.mem_cons_of_mem _ hq))
      fun q hq => h q (List.mem_cons_of_mem _ hq)

/-! ## Noted transmissions -/

theorem AirFeedback.noteTx_channel (state : AirFeedback) (frame : UInt32) (streamMask : UInt8)
    (sequences : Vector UInt8 2) (i : Fin 2) :
    (state.noteTx frame streamMask sequences).channels[i] =
      if noteChannel state.channels[i] frame streamMask sequences i then
        { state.channels[i] with afterTx := true }
      else state.channels[i] := by
  unfold noteTx
  simp only
  exact Vector.getElem_ofFn i.isLt

/-- Calls of `ull_air_feedback_note_tx` one after the other. -/
def AirFeedback.noteAll (state : AirFeedback) (notes : List (UInt32 × UInt8 × Vector UInt8 2)) :
    AirFeedback :=
  notes.foldl (fun state note => state.noteTx note.1 note.2.1 note.2.2) state

/-- Only `after_tx` of a channel is ever noted. -/
theorem AirFeedback.noteAll_channel (notes : List (UInt32 × UInt8 × Vector UInt8 2)) (i : Fin 2) :
    ∀ state : AirFeedback, (state.noteAll notes).channels[i] =
      { state.channels[i] with afterTx := (state.noteAll notes).channels[i].afterTx } := by
  induction notes with
  | nil =>
    intro state
    rfl
  | cons note rest ih =>
    intro state
    have hrest := ih (state.noteTx note.1 note.2.1 note.2.2)
    rw [noteTx_channel] at hrest
    change ((state.noteTx note.1 note.2.1 note.2.2).noteAll rest).channels[i] =
      { state.channels[i] with
        afterTx := ((state.noteTx note.1 note.2.1 note.2.2).noteAll rest).channels[i].afterTx }
    split at hrest
    · exact hrest
    · exact hrest

/-! ## The whole call -/

/-- What records of event `frame` do to the feedback state. -/
structure Commits (records : List AirRxRecord) (frame : UInt32) (before after : AirFeedback) :
    Prop where
  /-- Other streams and newer channels stay. -/
  kept : ∀ i : Fin 2, (∀ r ∈ records, r.streamId.toNat ≠ i.val + 1) ∨
    (before.channels[i].valid = true ∧ frame < before.channels[i].frame) →
      after.channels[i] = before.channels[i]
  heard : ∀ r ∈ records, ∀ i : Fin 2, r.streamId.toNat = i.val + 1 →
    ¬(before.channels[i].valid = true ∧ frame < before.channels[i].frame) →
      after.channels[i] = { frame, expectedTx := r.ackSequence, nextAck := r.nextAck, valid := true
                            afterTx := after.channels[i].afterTx }
  generation : after.generation =
    if after.channels = before.channels then before.generation else before.generation + 1
  monotone : ∀ i : Fin 2, before.channels[i].valid = true →
    after.channels[i].valid = true ∧ before.channels[i].frame ≤ after.channels[i].frame
  /-- Where an unset channel holds frame 0, no condition on `valid` is needed. -/
  unset : (∀ i : Fin 2, before.channels[i].valid = false → before.channels[i].frame = 0) →
    (∀ i : Fin 2, after.channels[i].valid = false → after.channels[i].frame = 0) ∧
    ∀ i : Fin 2, before.channels[i].frame ≤ after.channels[i].frame ∧
      (frame < before.channels[i].frame → after.channels[i] = before.channels[i])

theorem acceptFrame_commits {ccm : Ccm} {state next : AirFeedback} {plan : AirSessionPlan}
    {s : RadioRxSnapshot} {frame : UInt32} {owned : AirControlRx} {frames : List MicrophoneFrame}
    (h : acceptFrame ccm state plan s frame = .ok (next, owned, frames)) :
    ∃ records, replyRecords ccm plan s = some records ∧ Commits records frame state next ∧
      (∀ r ∈ records, r.streamId.toNat = 1 ∨ r.streamId.toNat = 2) ∧
      ∀ r ∈ records, ∀ i : Fin 2, r.streamId.toNat = i.val + 1 →
        next.channels[i] = (state.channels[i].accept frame r).1 := by
  obtain ⟨records, channels, changed, hreply, hrecords, hnext⟩ := acceptFrame_ok h
  obtain ⟨hsame, hheard, hstreams, hchanged⟩ :=
    acceptRecords_channels records (replyRecords_nodup hreply) hrecords
  have hchannels : next.channels = channels := by
    rw [hnext]
    by_cases hnew : changed = true
    · rw [if_pos hnew]
    · rw [if_neg hnew]
      by_contra hdiff
      exact hnew (hchanged.mpr (.inr fun heq => hdiff heq.symm))
  have hstay : ∀ i : Fin 2, (∀ r ∈ records, r.streamId.toNat ≠ i.val + 1) ∨
      (state.channels[i].valid = true ∧ frame < state.channels[i].frame) →
        next.channels[i] = state.channels[i] := by
    intro i hi
    rw [hchannels]
    by_cases hnone : ∀ r ∈ records, r.streamId.toNat ≠ i.val + 1
    · exact hsame i hnone
    · push Not at hnone
      obtain ⟨r, hr, hid⟩ := hnone
      rw [hheard r hr i hid]
      rcases hi with hi | hi
      · exact absurd hid (hi r hr)
      · rw [AirFeedbackChannel.accept_stale r hi]
  have hnew : ∀ r ∈ records, ∀ i : Fin 2, r.streamId.toNat = i.val + 1 →
      ¬(state.channels[i].valid = true ∧ frame < state.channels[i].frame) →
        next.channels[i] = { frame, expectedTx := r.ackSequence, nextAck := r.nextAck, valid := true
                             afterTx := next.channels[i].afterTx } := by
    intro r hr i hid hfresh
    rw [hchannels, hheard r hr i hid]
    exact AirFeedbackChannel.accept_heard r hfresh
  -- a channel stays, or holds the given event
  have hcases : ∀ i : Fin 2, next.channels[i] = state.channels[i] ∨
      (¬(state.channels[i].valid = true ∧ frame < state.channels[i].frame) ∧
        next.channels[i].valid = true ∧ next.channels[i].frame = frame) := by
    intro i
    by_cases hkept : (∀ r ∈ records, r.streamId.toNat ≠ i.val + 1) ∨
        (state.channels[i].valid = true ∧ frame < state.channels[i].frame)
    · exact .inl (hstay i hkept)
    · push Not at hkept
      obtain ⟨⟨r, hr, hid⟩, hfresh⟩ := hkept
      have hfresh : ¬(state.channels[i].valid = true ∧ frame < state.channels[i].frame) :=
        fun h => hfresh h.1 h.2
      have hheld := hnew r hr i hid hfresh
      rw [hheld]
      exact .inr ⟨hfresh, rfl, rfl⟩
  refine ⟨records, hreply, ⟨hstay, hnew, ?_, ?_, ?_⟩, hstreams, ?_⟩
  · rw [hchannels]
    by_cases hdiff : channels = state.channels
    · have hold : ¬changed = true := by
        intro hnew
        rcases hchanged.mp hnew with h | h
        · cases h
        · exact h hdiff
      rw [if_pos hdiff, hnext, if_neg hold]
    · rw [if_neg hdiff, hnext, if_pos (hchanged.mpr (.inr hdiff))]
  · intro i hvalid
    rcases hcases i with heq | ⟨hfresh, hset, hframe⟩
    · rw [heq]
      exact ⟨hvalid, UInt32.le_refl _⟩
    · rw [hframe]
      exact ⟨hset, UInt32.not_lt.mp fun hlt => hfresh ⟨hvalid, hlt⟩⟩
  · intro hzero
    refine ⟨?_, ?_⟩
    · intro i hunset
      rcases hcases i with heq | ⟨-, hset, -⟩
      · rw [heq] at hunset ⊢
        exact hzero i hunset
      · rw [hset] at hunset
        cases hunset
    · intro i
      rcases hcases i with heq | ⟨hfresh, -, hframe⟩
      · rw [heq]
        exact ⟨UInt32.le_refl _, fun _ => rfl⟩
      · have hle : state.channels[i].frame ≤ frame := by
          cases hvalid : state.channels[i].valid with
          | true => exact UInt32.not_lt.mp fun hlt => hfresh ⟨hvalid, hlt⟩
          | false =>
            rw [hzero i hvalid]
            exact UInt32.zero_le
        rw [hframe]
        exact ⟨hle, fun hlt => absurd hlt (UInt32.not_lt.mpr hle)⟩
  · intro r hr i hid
    rw [hchannels]
    exact hheard r hr i hid

/-- A call that fails writes nothing. One that succeeds writes what the records say, and the same
call writes no state again, whatever has been noted since. -/
theorem accept_commits_once (ccm : Ccm) (plan : AirSessionPlan) (s : RadioRxSnapshot)
    (frame : UInt32) (m : FeedbackMemory) :
    ((acceptFrameAt ccm plan s frame m).1 ≠ 0 → (acceptFrameAt ccm plan s frame m).2 = m) ∧
    ((acceptFrameAt ccm plan s frame m).1 = 0 →
      (∃ records, replyRecords ccm plan s = some records ∧
        Commits records frame m.state (acceptFrameAt ccm plan s frame m).2.state) ∧
      ∀ (notes : List (UInt32 × UInt8 × Vector UInt8 2)) (again : FeedbackMemory),
        again.state = (acceptFrameAt ccm plan s frame m).2.state.noteAll notes →
          (acceptFrameAt ccm plan s frame again).1 = 0 ∧
          (acceptFrameAt ccm plan s frame again).2.state = again.state) := by
  rw [acceptFrameAt_eq]
  cases h : acceptFrame ccm m.state plan s frame with
  | error e =>
    refine ⟨fun _ => rfl, fun hzero => ?_⟩
    exact absurd hzero (acceptFrame_error h)
  | ok taken =>
    obtain ⟨next, owned, frames⟩ := taken
    obtain ⟨records, hreply, hcommits, hstreams, haccepts⟩ := acceptFrame_commits h
    refine ⟨fun hbad => absurd rfl hbad, fun _ => ⟨⟨records, hreply, hcommits⟩, ?_⟩⟩
    intro notes again hagain
    have hsettled : acceptRecords again.state.channels false frame records =
        some (again.state.channels, false) := by
      apply acceptRecords_settled records hstreams
      intro r hr i hid
      have hset : again.state.channels[i] = { (m.state.channels[i].accept frame r).1 with
          afterTx := again.state.channels[i].afterTx } := by
        rw [← haccepts r hr i hid, hagain]
        exact AirFeedback.noteAll_channel notes i next
      exact AirFeedbackChannel.accept_settled hset
    obtain ⟨owned, frames, hsecond⟩ := acceptFrame_again h hreply hsettled
    rw [acceptFrameAt_eq, hsecond]
    exact ⟨rfl, rfl⟩

/-- A reply with one record of stream 1 and no audio, under a plan of zeros. -/
def oneRecordReply : RadioRxSnapshot :=
  { hs := 0, hus := 0, copied := 7, descriptor := (Vector.replicate 10 0).set 2 0x0710 descriptor_length
    payload := Vector.ofFn fun i => ([0, 0x21, 4] : List UInt8).getD i 0 }

def zeroPlan : AirSessionPlan :=
  { startHs := 0, startHus := 0, aclInstant := 0, eventCounter := 0, accessAddress := 0
    offsetUs := 0, e2 := (Vector.replicate 68 0).set 0 0xe2 e2_kind }

/-- A first reply to event 0, which comes in again after its transmission was noted. -/
theorem accept_commits_once_twice :
    (acceptFrameAt tagCcm zeroPlan oneRecordReply 0 ⟨.zero, none, []⟩).1 = 0 ∧
    (∃ records, replyRecords tagCcm zeroPlan oneRecordReply = some records ∧
      Commits records 0 .zero
        (acceptFrameAt tagCcm zeroPlan oneRecordReply 0 ⟨.zero, none, []⟩).2.state) ∧
    (acceptFrameAt tagCcm zeroPlan oneRecordReply 0
      ⟨(acceptFrameAt tagCcm zeroPlan oneRecordReply 0 ⟨.zero, none, []⟩).2.state.noteAll
        [(0, 6, #v[0, 0])], none, []⟩).1 = 0 := by
  have hok : (acceptFrameAt tagCcm zeroPlan oneRecordReply 0 ⟨.zero, none, []⟩).1 = 0 := by
    decide +kernel
  obtain ⟨hcommits, hagain⟩ := (accept_commits_once tagCcm zeroPlan oneRecordReply 0
    ⟨.zero, none, []⟩).2 hok
  exact ⟨hok, hcommits, (hagain [(0, 6, #v[0, 0])] _ rfl).1⟩

/-- A channel that was never set but holds a later event goes back to the event of the reply. -/
theorem unset_channel_goes_back :
    ∃ (m : FeedbackMemory) (i : Fin 2),
      (acceptFrameAt tagCcm zeroPlan oneRecordReply 0 m).1 = 0 ∧
      0 < m.state.channels[i].frame ∧
      (acceptFrameAt tagCcm zeroPlan oneRecordReply 0 m).2.state.channels[i].frame <
        m.state.channels[i].frame := by
  refine ⟨⟨⟨0, #v[{ AirFeedbackChannel.zero with frame := 9 }, .zero]⟩, none, []⟩, 0, ?_⟩
  decide +kernel

end UllReceiver.Air

/-!
# Events on the clock

The 5 ms events of a session are slots on the circle of the 28-bit clock.  The start of an event is
computed without overflow, and a reply is accepted in the one event whose slot holds its time.
-/

namespace UllReceiver.Air

open Library Radio

/-- Half-microseconds in a turn of the 28-bit clock of 312.5 us. -/
def clockPeriod : Nat := 625 * 2 ^ 28

/-- A time on the clock in half-microseconds. -/
def halfUs (hs : UInt32) (hus : UInt16) : Nat :=
  hs.toNat * 625 + hus.toNat

/-! ## Without overflow -/

/-- `ull_air_session_time` over natural numbers; `none` also when a value does not fit the type the
source gives it. -/
def sessionTimeExact (plan : AirSessionPlan) (eventIndex : UInt32) (subevent : UInt8) :
    Option (Nat × Nat) :=
  if subevent ≥ airSubevents ∨ plan.startHs > clockMask ∨ plan.startHus > 624 then none
  else do
    let interval ← fits 32 (airIntervalUs.toNat * 2)
    let subinterval ← fits 32 (airSubintervalUs.toNat * 2)
    let events ← fits 64 (eventIndex.toNat * interval)
    let subevents ← fits 64 (subevent.toNat * subinterval)
    let fine ← fits 64 (plan.startHus.toNat + events)
    let fine ← fits 64 (fine + subevents)
    let coarse ← fits 64 (plan.startHs.toNat + fine / 625)
    let hs ← fits 32 (coarse &&& clockMask.toNat)
    let hus ← fits 16 (fine % 625)
    some (hs, hus)

section Time

variable {plan : AirSessionPlan} (hclock : plan.startHs ≤ clockMask) (hfine : plan.startHus ≤ 624)

include hclock hfine

/-- Every value fits its type. -/
theorem sessionTimeExact_eq {subevent : UInt8} (hsub : subevent < airSubevents)
    (eventIndex : UInt32) : sessionTimeExact plan eventIndex subevent = some
      ((plan.startHs.toNat + fineOffset plan eventIndex subevent / 625) % 2 ^ 28,
        fineOffset plan eventIndex subevent % 625) := by
  have hhs := UInt32.le_iff_toNat_le.mp hclock
  have hhus := UInt16.le_iff_toNat_le.mp hfine
  have hsubevent := UInt8.lt_iff_toNat_lt.mp hsub
  have hevent := eventIndex.toNat_lt
  change plan.startHs.toNat ≤ 2 ^ 28 - 1 at hhs
  change plan.startHus.toNat ≤ 624 at hhus
  change subevent.toNat < 3 at hsubevent
  have hinterval : airIntervalUs.toNat * 2 = 10000 := rfl
  have hsubinterval : airSubintervalUs.toNat * 2 = 2840 := rfl
  have hmask : clockMask.toNat = 2 ^ 28 - 1 := rfl
  unfold sessionTimeExact fineOffset
  rw [if_neg (by
    rintro (h | h | h)
    · exact absurd hsub (UInt8.not_lt.mpr h)
    · exact absurd hclock (UInt32.not_le.mpr h)
    · exact absurd hfine (UInt16.not_le.mpr h))]
  simp only [hinterval, hsubinterval, hmask, Nat.and_two_pow_sub_one_eq_mod]
  rw [fits_bind (by omega), fits_bind (by omega), fits_bind (by omega), fits_bind (by omega),
    fits_bind (by omega), fits_bind (by omega), fits_bind (by omega), fits_bind (by omega),
    fits_bind (by omega)]

/-- The start of a subevent, normalised, is its distance from the start of the plan further on. -/
theorem sessionTime_halfUs {subevent : UInt8} (hsub : subevent < airSubevents)
    (eventIndex : UInt32) : ∃ hs hus,
      sessionTime plan eventIndex subevent = some (hs, hus) ∧
      sessionTimeExact plan eventIndex subevent = some (hs.toNat, hus.toNat) ∧
      hs.toNat < 2 ^ 28 ∧ hus.toNat < 625 ∧
      halfUs hs hus = (halfUs plan.startHs plan.startHus + 10000 * eventIndex.toNat +
        2840 * subevent.toNat) % clockPeriod := by
  have hsession := sessionTime_eq hclock hfine eventIndex subevent
  rw [if_neg (UInt8.not_le.mpr hsub)] at hsession
  refine ⟨_, _, hsession, ?_, ?_⟩
  · rw [sessionTimeExact_eq hclock hfine hsub, UInt32.toNat_ofNat', UInt16.toNat_ofNat']
    congr 2
    · omega
    · omega
  · unfold halfUs
    rw [UInt32.toNat_ofNat', UInt16.toNat_ofNat']
    unfold fineOffset clockPeriod
    omega

end Time

/-! ## The event of a reply -/

/-- The slot of event `frame` holds the time of the reply. -/
def InEvent (plan : AirSessionPlan) (s : RadioRxSnapshot) (frame : UInt32) : Prop :=
  InSlot 10000 (2 ^ 24) (halfUs plan.startHs plan.startHus) (halfUs s.hs s.hus) frame.toNat

theorem inEvent_iff (plan : AirSessionPlan) (s : RadioRxSnapshot) (frame : UInt32) :
    InEvent plan s frame ↔ ((halfUs s.hs s.hus : Int) -
      (halfUs plan.startHs plan.startHus + 10000 * frame.toNat)) % clockPeriod < 10000 :=
  Iff.rfl

section Event

variable {plan : AirSessionPlan} (hclock : plan.startHs ≤ clockMask) (hfine : plan.startHus ≤ 624)
  {s : RadioRxSnapshot} (hhus : s.hus ≤ 624)

include hclock hfine hhus

/-- The time window of an event is its slot. -/
theorem snapshotInFrame_iff (frame : UInt32) :
    snapshotInFrame plan s frame = true ↔ InEvent plan s frame := by
  obtain ⟨hs, hus, htime, _, hhs, hlow, hstart⟩ :=
    sessionTime_halfUs hclock hfine (by decide : (0 : UInt8) < airSubevents) frame
  have hle := UInt16.le_iff_toNat_le.mp hhus
  change s.hus.toNat ≤ 624 at hle
  have hsnap := s.hs.toNat_lt
  rw [inEvent_iff]
  unfold snapshotInFrame
  rw [htime]
  simp only [Bool.and_eq_true, decide_eq_true_eq, UInt32.lt_iff_toNat_lt, coarse_sub_toNat]
  change (((_ < 2 ^ 27) ∧ _) ∧ _) ↔ _
  change _ = (_ + _ + 2840 * 0) % _ at hstart
  unfold halfUs clockPeriod at *
  omega

/-- Of 2^24 events in a row, whatever the wrap of the index, exactly one accepts the time. -/
theorem existsUnique_snapshotInFrame (first : UInt32) : ∃! n : Nat,
    n < 2 ^ 24 ∧ snapshotInFrame plan s (first + UInt32.ofNat n) = true := by
  have hevent (n : Nat) : snapshotInFrame plan s (first + UInt32.ofNat n) = true ↔
      InSlot 10000 (2 ^ 24) (halfUs plan.startHs plan.startHus) (halfUs s.hs s.hus)
        (first.toNat + n) := by
    rw [snapshotInFrame_iff hclock hfine hhus, InEvent]
    apply inSlot_congr (by decide) (by decide)
    rw [UInt32.toNat_add, UInt32.toNat_ofNat']
    -- 2^32 indices are 2^8 turns of the clock
    omega
  simp only [hevent]
  exact existsUnique_inSlot (by decide) (by decide) _

/-- The event derived from the time of a reply is the one that accepts it. -/
theorem controlFrame_inEvent {frame : UInt32} (h : controlFrame plan s = some frame) :
    InEvent plan s frame := by
  have hhs := UInt32.le_iff_toNat_le.mp hclock
  have hle := UInt16.le_iff_toNat_le.mp hhus
  have hstart := UInt16.le_iff_toNat_le.mp hfine
  change plan.startHs.toNat ≤ 2 ^ 28 - 1 at hhs
  change s.hus.toNat ≤ 624 at hle
  change plan.startHus.toNat ≤ 624 at hstart
  unfold controlFrame at h
  rw [if_neg (not_or.mpr ⟨UInt16.not_lt.mpr hhus, UInt16.not_lt.mpr hfine⟩)] at h
  simp only [coarse_sub_toNat] at h
  split at h
  · exact (nomatch h)
  next hrange =>
    simp only [not_or, Int.not_lt, ge_iff_le, Int.not_le] at hrange
    obtain ⟨_, hnow, hlast⟩ := hrange
    change _ < 201 * 10000 at hlast
    rw [← Option.some.inj h, inEvent_iff, UInt32.toNat_ofNat']
    unfold halfUs clockPeriod
    omega

end Event

/-- The start of every subevent is computed without overflow and without drift, and the events tile
the clock. -/
theorem events_tile_clock (plan : AirSessionPlan) (hclock : plan.startHs < 2 ^ 28)
    (hfine : plan.startHus < 625) :
    (∀ (eventIndex : UInt32) (subevent : UInt8), subevent < airSubevents → ∃ hs hus,
      sessionTime plan eventIndex subevent = some (hs, hus) ∧
      sessionTimeExact plan eventIndex subevent = some (hs.toNat, hus.toNat) ∧
      hs.toNat < 2 ^ 28 ∧ hus.toNat < 625 ∧
      halfUs hs hus = (halfUs plan.startHs plan.startHus + 10000 * eventIndex.toNat +
        2840 * subevent.toNat) % clockPeriod) ∧
    ∀ s : RadioRxSnapshot, s.hus ≤ 624 →
      (∀ frame, snapshotInFrame plan s frame = true ↔ ((halfUs s.hs s.hus : Int) -
        (halfUs plan.startHs plan.startHus + 10000 * frame.toNat)) % clockPeriod < 10000) ∧
      (∀ first : UInt32, ∃! n : Nat,
        n < 2 ^ 24 ∧ snapshotInFrame plan s (first + UInt32.ofNat n) = true) ∧
      ∀ frame, controlFrame plan s = some frame → snapshotInFrame plan s frame = true ∧
        ∀ ccm state, acceptControl ccm state plan s = acceptFrame ccm state plan s frame := by
  have hclock' : plan.startHs ≤ clockMask := by
    rw [UInt32.le_iff_toNat_le]
    change plan.startHs.toNat ≤ 2 ^ 28 - 1
    have := UInt32.lt_iff_toNat_lt.mp hclock
    change plan.startHs.toNat < 2 ^ 28 at this
    omega
  have hfine' : plan.startHus ≤ 624 := by
    rw [UInt16.le_iff_toNat_le]
    change plan.startHus.toNat ≤ 624
    have := UInt16.lt_iff_toNat_lt.mp hfine
    change plan.startHus.toNat < 625 at this
    omega
  refine ⟨fun index subevent hsub => sessionTime_halfUs hclock' hfine' hsub index,
    fun s hhus => ⟨fun frame => ?_, existsUnique_snapshotInFrame hclock' hfine' hhus,
      fun frame h => ?_⟩⟩
  · rw [snapshotInFrame_iff hclock' hfine' hhus, inEvent_iff]
  · constructor
    · rw [snapshotInFrame_iff hclock' hfine' hhus]
      exact controlFrame_inEvent hclock' hfine' hhus h
    · intro ccm state
      rw [acceptControl, h]

def lastTickPlan : AirSessionPlan :=
  { zeroPlan with startHs := clockMask, startHus := 624 }

theorem events_tile_clock_wrapped : ∃! n : Nat, n < 2 ^ 24 ∧
    snapshotInFrame lastTickPlan oneRecordReply (0xffff0000 + UInt32.ofNat n) = true :=
  ((events_tile_clock lastTickPlan (by decide) (by decide)).2 oneRecordReply
    (by decide)).2.1 0xffff0000

end UllReceiver.Air

/-!
# The clock of a stream

Sequence numbers advance once per event, whatever was answered.
-/

namespace UllReceiver.Air

open Library Radio

/-- A packet on the air. -/
structure SentPacket where
  frame : UInt32
  streamMask : UInt8
  sequences : Vector UInt8 2

/-- What `tone_trial.c` does with the reply `s` to the packet `p`. -/
def AirFeedback.reply (ccm : Ccm) (plan : AirSessionPlan) (p : SentPacket) (state : AirFeedback)
    (s : RadioRxSnapshot) : AirFeedback :=
  match acceptFrame ccm state plan s p.frame with
  | .error _ => state
  | .ok (next, _, _) => next.noteTx p.frame p.streamMask p.sequences

/-- The reply `s`, if it is one, acknowledges the sequence number of stream `i` in `p`, or the one
after it. -/
def SentPacket.AckedBy (ccm : Ccm) (plan : AirSessionPlan) (i : Fin 2) (p : SentPacket)
    (s : RadioRxSnapshot) : Prop :=
  ∀ records, replyRecords ccm plan s = some records → ∀ r ∈ records,
    r.streamId.toNat = i.val + 1 →
      r.ackSequence = p.sequences[i] ∨ r.ackSequence = (p.sequences[i] + 1) &&& 15

/-- The event `f` comes after the packet that was sent last. -/
def LaterThan (first : UInt32) : Option SentPacket → UInt32 → Prop
  | none, f => first ≤ f
  | some p, f => p.frame < f

/-- A history from event `first` on: the feedback states so far, the newest in front, and the packet
sent last. Packets go out in any later events, with the sequence number of stream `i` that one of
the states so far gave for their event. -/
inductive FeedbackHistory (ccm : Ccm) (plan : AirSessionPlan) (starts : Vector UInt32 2) (i : Fin 2)
    (state : AirFeedback) (first : UInt32) : List AirFeedback → Option SentPacket → Prop
  | start : FeedbackHistory ccm plan starts i state first [state] none
  | send {past : List AirFeedback} {sent : Option SentPacket} {prepared : AirFeedback}
      {p : SentPacket} (h : FeedbackHistory ccm plan starts i state first past sent)
      (hlater : LaterThan first sent p.frame) (hprepared : prepared ∈ past)
      (hsequence : p.sequences[i] = (prepared.sequence p.frame starts i).1) :
      FeedbackHistory ccm plan starts i state first past (some p)
  | reply {past : List AirFeedback} {now : AirFeedback} {p : SentPacket} {s : RadioRxSnapshot}
      (h : FeedbackHistory ccm plan starts i state first (now :: past) (some p))
      (hstream : p.streamMask &&& (1 : UInt8) <<< UInt8.ofNat (i.val + 1) ≠ 0)
      (hack : p.AckedBy ccm plan i s) :
      FeedbackHistory ccm plan starts i state first (now.reply ccm plan p s :: now :: past) (some p)

/-! ## What a channel says -/

theorem expiryAge_toNat {frame start : UInt32} (h : start < frame) :
    (expiryAge frame start).toNat = frame.toNat - start.toNat - 1 := by
  have hlt := UInt32.lt_iff_toNat_lt.mp h
  have hsub := UInt32.toNat_sub_of_le _ _ (UInt32.le_iff_toNat_le.mpr (Nat.le_of_lt hlt))
  unfold expiryAge
  rw [if_pos h, UInt32.toNat_sub_of_le, hsub]
  · rfl
  · rw [UInt32.le_iff_toNat_le, hsub]
    change 1 ≤ _
    omega

theorem low4_toNat (x : UInt32) : (x &&& 15).toUInt8.toNat = x.toNat % 16 := by
  rw [UInt32.toNat_toUInt8, counter_mask_toNat 4 x 15 rfl]
  omega

theorem succ4_toNat (q : UInt8) : ((q + 1) &&& 15).toNat = (q.toNat + 1) % 16 := by
  rw [UInt8.toNat_and, UInt8.toNat_add]
  change (_ + 1) % 256 &&& 2 ^ 4 - 1 = _
  rw [Nat.and_two_pow_sub_one_eq_mod]
  omega

theorem succ4_ne (q : UInt8) : (q + 1) &&& 15 ≠ q := by
  intro h
  have hnat := congrArg UInt8.toNat h
  rw [succ4_toNat] at hnat
  omega

/-- A channel that holds no event from `first` on. -/
def AirFeedbackChannel.Silent (ch : AirFeedbackChannel) (first : UInt32) : Prop :=
  ch.valid = true → ch.frame < first

/-- A channel that holds event `g`, in which `q` was sent. -/
def AirFeedbackChannel.Answered (ch : AirFeedbackChannel) (g : UInt32) (q : UInt8) : Prop :=
  ch.valid = true ∧ ch.frame = g ∧
    (ch.expectedTx = q ∧ ch.afterTx = false ∨ ch.expectedTx = (q + 1) &&& 15 ∧ ch.afterTx = true)

/-- A held event that has aged: the expected number moves on with the age, less the event that an
ACK after the transmission was ahead. -/
theorem sequence_held {state : AirFeedback} {starts : Vector UInt32 2} {i : Fin 2} {f : UInt32}
    (hvalid : state.channels[i].valid = true) (hfrom : starts[i] ≤ state.channels[i].frame)
    (hto : state.channels[i].frame ≤ f)
    (haged : (expiryAge state.channels[i].frame starts[i]).toNat < (expiryAge f starts[i]).toNat) :
    (state.sequence f starts i).1.toNat = (state.channels[i].expectedTx.toNat +
      ((expiryAge f starts[i]).toNat - (expiryAge state.channels[i].frame starts[i]).toNat) -
      state.channels[i].afterTx.toNat) % 16 := by
  unfold AirFeedback.sequence
  simp only
  generalize state.channels[i] = ch at hvalid hfrom hto haged ⊢
  have hsub := UInt32.toNat_sub_of_le _ _ (UInt32.le_iff_toNat_le.mpr (Nat.le_of_lt haged))
  generalize expiryAge f starts[i] = age at haged hsub ⊢
  generalize expiryAge ch.frame starts[i] = held at haged hsub ⊢
  have hsome : age - held ≠ 0 := by
    intro hzero
    rw [hzero] at hsub
    change 0 = _ at hsub
    omega
  rw [if_pos ⟨hvalid, hfrom, hto⟩]
  change ((_ + _) &&& 15 : UInt32).toUInt8.toNat = _
  rw [low4_toNat, UInt32.toNat_add, UInt8.toNat_toUInt32]
  have hage := age.toNat_lt
  cases hafter : ch.afterTx with
  | true =>
    have hone : (1 : UInt32) ≤ age - held := by
      rw [UInt32.le_iff_toNat_le, hsub]
      change 1 ≤ _
      omega
    rw [if_pos ⟨rfl, hsome⟩, UInt32.toNat_sub_of_le _ _ hone, hsub]
    change (_ + (_ - 1)) % _ % 16 = (_ - 1) % 16
    omega
  | false =>
    rw [if_neg (fun h => Bool.noConfusion h.1), hsub]
    change _ % 16 = (_ - 0) % 16
    omega

/-- Without an answer from `first` on the sequence number follows the event. -/
theorem sequence_silent {state : AirFeedback} {starts : Vector UInt32 2} {i : Fin 2}
    {first f : UInt32} (h : state.channels[i].Silent first)
    (hstart : starts[i].toNat + 2 ≤ first.toNat) (hf : first ≤ f) :
    (state.sequence f starts i).1.toNat =
      ((state.sequence first starts i).1.toNat + (f.toNat - first.toNat)) % 16 := by
  have hle := UInt32.le_iff_toNat_le.mp hf
  have hfirst : starts[i] < first := UInt32.lt_iff_toNat_lt.mpr (by omega)
  have hlater : starts[i] < f := UInt32.lt_iff_toNat_lt.mpr (by omega)
  have hage := expiryAge_toNat hfirst
  have hage' := expiryAge_toNat hlater
  by_cases hheld : state.channels[i].valid = true ∧ starts[i] ≤ state.channels[i].frame
  · obtain ⟨hvalid, hfrom⟩ := hheld
    have hlast := h hvalid
    have hold := UInt32.lt_iff_toNat_lt.mp hlast
    have haged : (expiryAge state.channels[i].frame starts[i]).toNat <
        first.toNat - starts[i].toNat - 1 := by
      by_cases hafter : starts[i] < state.channels[i].frame
      · rw [expiryAge_toNat hafter]
        have := UInt32.lt_iff_toNat_lt.mp hafter
        omega
      · rw [expiryAge, if_neg hafter]
        change 0 < _
        omega
    rw [sequence_held hvalid hfrom (UInt32.le_of_lt hlast) (by omega),
      sequence_held hvalid hfrom (UInt32.le_of_lt (UInt32.lt_of_lt_of_le hlast hf)) (by omega)]
    have hone := Bool.toNat_le state.channels[i].afterTx
    omega
  · unfold AirFeedback.sequence
    simp only
    rw [if_neg (fun hall => hheld ⟨hall.1, hall.2.1⟩),
      if_neg (fun hall => hheld ⟨hall.1, hall.2.1⟩), low4_toNat, low4_toNat, hage, hage']
    omega

/-- From an answered event on the sequence number follows the event, too. -/
theorem sequence_answered {state : AirFeedback} {starts : Vector UInt32 2} {i : Fin 2}
    {g f : UInt32} {q : UInt8} (h : state.channels[i].Answered g q) (hq : q.toNat < 16)
    (hstart : starts[i] < g) (hf : g < f) :
    (state.sequence f starts i).1.toNat = (q.toNat + (f.toNat - g.toNat)) % 16 := by
  obtain ⟨hvalid, hframe, hcases⟩ := h
  have hafter := UInt32.lt_iff_toNat_lt.mp hstart
  have hlater := UInt32.lt_iff_toNat_lt.mp hf
  have hage := expiryAge_toNat hstart
  have hage' := expiryAge_toNat (UInt32.lt_trans hstart hf)
  have hheld := @sequence_held state starts i f hvalid
  rw [hframe] at hheld
  rw [hheld (UInt32.le_of_lt hstart) (UInt32.le_of_lt hf) (by omega), hage, hage']
  rcases hcases with ⟨htx, hnoted⟩ | ⟨htx, hnoted⟩
  · rw [htx, hnoted]
    change (_ - 0) % 16 = _
    omega
  · rw [htx, hnoted, succ4_toNat]
    change (_ - 1) % 16 = _
    omega

/-! ## What a reply does -/

/-- An ACK of the packet in event `frame`, not noted yet. -/
def AirFeedbackChannel.Heard (ch : AirFeedbackChannel) (frame : UInt32) (q : UInt8) : Prop :=
  ch.valid = true ∧ ch.frame = frame ∧
    (ch.expectedTx = q ∧ ch.afterTx = false ∨ ch.expectedTx = (q + 1) &&& 15)

theorem AirFeedbackChannel.accept_ack {ch : AirFeedbackChannel} {frame : UInt32} {q : UInt8}
    {r : AirRxRecord} (hack : r.ackSequence = q ∨ r.ackSequence = (q + 1) &&& 15)
    (h : ch.Silent frame ∨ ch.Answered frame q) : (ch.accept frame r).1.Heard frame q := by
  have hfresh : ¬(ch.valid = true ∧ frame < ch.frame) := by
    rintro ⟨hvalid, hlt⟩
    rcases h with hsilent | ⟨-, hframe, -⟩
    · exact UInt32.lt_irrefl _ (UInt32.lt_trans hlt (hsilent hvalid))
    · rw [hframe] at hlt
      exact UInt32.lt_irrefl _ hlt
  have hheard := accept_heard r hfresh
  rcases hack with hack | hack
  · refine ⟨by rw [hheard], by rw [hheard], .inl ⟨by rw [hheard]; exact hack, ?_⟩⟩
    -- `after_tx` is only kept where the ACK was the same
    rw [accept_eq, if_neg hfresh]
    split
    · change (ch.afterTx && !(!ch.valid || ch.frame != frame || ch.expectedTx != r.ackSequence)) = _
      rcases h with hsilent | ⟨-, -, ⟨-, hnoted⟩ | ⟨htx, -⟩⟩
      · cases hvalid : ch.valid with
        | false => simp
        | true =>
          have hne : ch.frame ≠ frame := fun heq => by
            have hlt := hsilent hvalid
            rw [heq] at hlt
            exact UInt32.lt_irrefl _ hlt
          simp [hne]
      · rw [hnoted]
        rfl
      · have hne : ch.expectedTx ≠ r.ackSequence := by
          rw [htx, hack]
          exact succ4_ne q
        simp [hne]
    next hsame =>
      push Not at hsame
      obtain ⟨hvalid, hframe, htx, -⟩ := hsame
      have hvalid : ch.valid = true := by simpa using hvalid
      rcases h with hsilent | ⟨-, -, ⟨-, hnoted⟩ | ⟨hnext, -⟩⟩
      · have hlt := hsilent hvalid
        rw [hframe] at hlt
        exact absurd hlt (UInt32.lt_irrefl _)
      · exact hnoted
      · rw [htx, hack] at hnext
        exact absurd hnext.symm (succ4_ne q)
  · exact ⟨by rw [hheard], by rw [hheard], .inr (by rw [hheard]; exact hack)⟩

/-- After its packet was noted, an acknowledged channel is answered. -/
theorem noteTx_answered {state : AirFeedback} {p : SentPacket} {i : Fin 2}
    (hstream : p.streamMask &&& (1 : UInt8) <<< UInt8.ofNat (i.val + 1) ≠ 0)
    (h : state.channels[i].Heard p.frame p.sequences[i]) :
    (state.noteTx p.frame p.streamMask p.sequences).channels[i].Answered p.frame
      p.sequences[i] := by
  rw [AirFeedback.noteTx_channel]
  obtain ⟨hvalid, hframe, hcases⟩ := h
  split
  next hnote =>
    simp only [noteChannel, Bool.and_eq_true, beq_iff_eq] at hnote
    exact ⟨hvalid, hframe, .inr ⟨hnote.1.2, rfl⟩⟩
  next hnote =>
    refine ⟨hvalid, hframe, ?_⟩
    rcases hcases with hsame | hnext
    · exact .inl hsame
    · refine .inr ⟨hnext, ?_⟩
      by_contra hafter
      apply hnote
      have hclear : state.channels[i].afterTx = false := by simpa using hafter
      simp only [noteChannel, Bool.and_eq_true, beq_iff_eq, bne_iff_ne, Bool.not_eq_true']
      exact ⟨⟨⟨⟨hstream, hvalid⟩, hframe⟩, hnext⟩, hclear⟩

/-- A channel that does not hold the packet's event is left alone. -/
theorem noteTx_silent {state : AirFeedback} {p : SentPacket} {i : Fin 2}
    (h : state.channels[i].Silent p.frame) :
    (state.noteTx p.frame p.streamMask p.sequences).channels[i] = state.channels[i] := by
  rw [AirFeedback.noteTx_channel, if_neg]
  intro hnote
  simp only [noteChannel, Bool.and_eq_true, beq_iff_eq] at hnote
  obtain ⟨⟨⟨⟨-, hvalid⟩, hframe⟩, -⟩, -⟩ := hnote
  have hlt := h hvalid
  rw [hframe] at hlt
  exact UInt32.lt_irrefl _ hlt

/-- A reply leaves a channel as it was, or answered by the packet. -/
theorem reply_channel {ccm : Ccm} {plan : AirSessionPlan} {state : AirFeedback} {p : SentPacket}
    {s : RadioRxSnapshot} {i : Fin 2}
    (hstream : p.streamMask &&& (1 : UInt8) <<< UInt8.ofNat (i.val + 1) ≠ 0)
    (hack : p.AckedBy ccm plan i s)
    (h : state.channels[i].Silent p.frame ∨ state.channels[i].Answered p.frame p.sequences[i]) :
    (state.reply ccm plan p s).channels[i] = state.channels[i] ∨
      (state.reply ccm plan p s).channels[i].Answered p.frame p.sequences[i] := by
  unfold AirFeedback.reply
  split
  · exact .inl rfl
  next next _ _ haccept =>
    obtain ⟨records, hreply, hcommits, -, haccepts⟩ := acceptFrame_commits haccept
    by_cases hnone : ∀ r ∈ records, r.streamId.toNat ≠ i.val + 1
    · have hkept := hcommits.kept i (.inl hnone)
      rcases h with hsilent | hanswered
      · refine .inl ?_
        rw [noteTx_silent (by rw [hkept]; exact hsilent), hkept]
      · refine .inr (noteTx_answered hstream ?_)
        rw [hkept]
        obtain ⟨hvalid, hframe, hcases⟩ := hanswered
        exact ⟨hvalid, hframe, hcases.imp_right And.left⟩
    · push Not at hnone
      obtain ⟨r, hr, hid⟩ := hnone
      refine .inr (noteTx_answered hstream ?_)
      rw [haccepts r hr i hid]
      exact AirFeedbackChannel.accept_ack (hack records hreply r hr hid) h

/-! ## The whole history -/

/-- What every state of a history holds: the channel as it was at `first`, or the answer to a packet
of an event not after the last one, whose number followed the events. -/
def OnTheClock (first : UInt32) (q0 : Nat) (initial : AirFeedbackChannel)
    (sent : Option SentPacket) (ch : AirFeedbackChannel) : Prop :=
  ch = initial ∨ ∃ (g : UInt32) (q : UInt8), ch.Answered g q ∧ first ≤ g ∧
    q.toNat = (q0 + (g.toNat - first.toNat)) % 16 ∧ ∃ p, sent = some p ∧ g ≤ p.frame

variable {ccm : Ccm} {plan : AirSessionPlan} {starts : Vector UInt32 2} {i : Fin 2}
  {state : AirFeedback} {first : UInt32}

/-- A state on the clock gives any later event its number. -/
theorem OnTheClock.sequence {sent : Option SentPacket} {now : AirFeedback} {f : UInt32}
    (h : OnTheClock first (state.sequence first starts i).1.toNat state.channels[i] sent
      now.channels[i])
    (hsilent : state.channels[i].Silent first) (hstart : starts[i].toNat + 2 ≤ first.toNat)
    (hfirst : first ≤ f) (hlater : LaterThan first sent f) :
    (now.sequence f starts i).1.toNat =
      ((state.sequence first starts i).1.toNat + (f.toNat - first.toNat)) % 16 := by
  rcases h with hsame | ⟨g, q, hanswered, hg, hq, p, hsent, hgp⟩
  · have hsequence : now.sequence f starts i = state.sequence f starts i := by
      unfold AirFeedback.sequence
      rw [hsame]
    rw [hsequence]
    exact sequence_silent hsilent hstart hfirst
  · rw [hsent] at hlater
    have hgf : g < f := UInt32.lt_of_le_of_lt hgp hlater
    have hgNat := UInt32.le_iff_toNat_le.mp hg
    have hgfNat := UInt32.lt_iff_toNat_lt.mp hgf
    rw [sequence_answered hanswered (by omega) (UInt32.lt_iff_toNat_lt.mpr (by omega)) hgf, hq]
    omega

/-- Every state of a history is on the clock, and so is the packet that was sent last. -/
theorem FeedbackHistory.onTheClock {past : List AirFeedback} {sent : Option SentPacket}
    (h : FeedbackHistory ccm plan starts i state first past sent)
    (hsilent : state.channels[i].Silent first) (hstart : starts[i].toNat + 2 ≤ first.toNat) :
    (∀ now ∈ past, OnTheClock first (state.sequence first starts i).1.toNat state.channels[i] sent
      now.channels[i]) ∧
    ∀ p, sent = some p → first ≤ p.frame ∧ p.sequences[i].toNat =
      ((state.sequence first starts i).1.toNat + (p.frame.toNat - first.toNat)) % 16 := by
  induction h with
  | start =>
    refine ⟨?_, fun p hp => nomatch hp⟩
    intro now hnow
    rw [List.mem_singleton.mp hnow]
    exact .inl rfl
  | @send past sent prepared p _ hlater hprepared hsequence ih =>
    obtain ⟨hpast, hsent⟩ := ih
    have hfirst : first ≤ p.frame := by
      cases sent with
      | none => exact hlater
      | some last => exact UInt32.le_trans (hsent last rfl).1 (UInt32.le_of_lt hlater)
    refine ⟨?_, ?_⟩
    · intro now hnow
      rcases hpast now hnow with hsame | ⟨g, q, hanswered, hg, hq, last, hlast, hle⟩
      · exact .inl hsame
      · rw [hlast] at hlater
        exact .inr ⟨g, q, hanswered, hg, hq, p, rfl, UInt32.le_trans hle (UInt32.le_of_lt hlater)⟩
    · intro _ hp
      cases hp
      rw [hsequence]
      exact ⟨hfirst, (hpast prepared hprepared).sequence hsilent hstart hfirst hlater⟩
  | @reply past now p s _ hstream hack ih =>
    obtain ⟨hpast, hsent⟩ := ih
    refine ⟨?_, hsent⟩
    obtain ⟨hfirst, hnumber⟩ := hsent p rfl
    have hnow := hpast now List.mem_cons_self
    -- the reply finds an older event in the channel, or the packet's own
    have hbefore : now.channels[i].Silent p.frame ∨
        now.channels[i].Answered p.frame p.sequences[i] := by
      rcases hnow with hsame | ⟨g, q, hanswered, -, hq, last, hlast, hle⟩
      · rw [hsame]
        exact .inl fun hvalid => UInt32.lt_of_lt_of_le (hsilent hvalid) hfirst
      · cases hlast
        by_cases heq : g = p.frame
        · rw [heq] at hanswered hq
          have hsame : q = p.sequences[i] := UInt8.toNat_inj.mp (by rw [hq, hnumber])
          rw [hsame] at hanswered
          exact .inr hanswered
        · refine .inl fun _ => ?_
          rw [hanswered.2.1]
          exact UInt32.lt_of_le_of_ne hle heq
    intro later hmem
    rcases List.mem_cons.mp hmem with rfl | hmem
    · rcases reply_channel hstream hack hbefore with hsame | hanswered
      · rw [hsame]
        exact hnow
      · exact .inr ⟨p.frame, _, hanswered, hfirst, hnumber, p, rfl, UInt32.le_refl _⟩
    · exact hpast later hmem

/-- From a state with no answer from `first` on, every state of every history gives each later event
the number at `first` moved on by the events since, and that is what every packet has. -/
theorem sequence_clock (ccm : Ccm) (plan : AirSessionPlan) (starts : Vector UInt32 2) (i : Fin 2)
    (state : AirFeedback) (first : UInt32) (hstart : starts[i].toNat + 2 ≤ first.toNat)
    (hsilent : state.channels[i].valid = true → state.channels[i].frame < first)
    (past : List AirFeedback) (sent : Option SentPacket)
    (h : FeedbackHistory ccm plan starts i state first past sent) :
    (∀ now ∈ past, ∀ f, first ≤ f → LaterThan first sent f →
      (now.sequence f starts i).1.toNat =
        ((state.sequence first starts i).1.toNat + (f.toNat - first.toNat)) % 16) ∧
    ∀ p, sent = some p → p.sequences[i].toNat =
      ((state.sequence first starts i).1.toNat + (p.frame.toNat - first.toNat)) % 16 := by
  obtain ⟨hpast, hsent⟩ := h.onTheClock hsilent hstart
  refine ⟨?_, fun p hp => (hsent p hp).2⟩
  intro now hnow f hfirst hlater
  exact (hpast now hnow).sequence hsilent hstart hfirst hlater

/-- A packet of event 2 whose own number is acknowledged. -/
theorem sequence_clock_answered :
    ((AirFeedback.zero.reply tagCcm zeroPlan ⟨2, 6, #v[1, 1]⟩
      { oneRecordReply with hs := 32 }).sequence 20 #v[0, 0] 0).1.toNat = 3 := by
  have hrecords : replyRecords tagCcm zeroPlan { oneRecordReply with hs := 32 } =
      some [⟨[], 1, 2, 1, 0, 4⟩] := by
    decide +kernel
  have hack : SentPacket.AckedBy tagCcm zeroPlan 0 ⟨2, 6, #v[1, 1]⟩
      { oneRecordReply with hs := 32 } := by
    intro records hreply r hr _
    rw [hrecords] at hreply
    cases hreply
    rw [List.mem_singleton.mp hr]
    exact .inl rfl
  have hfirst : LaterThan 2 none (SentPacket.mk 2 6 #v[1, 1]).frame := UInt32.le_refl 2
  have hclock := sequence_clock tagCcm zeroPlan #v[0, 0] 0 .zero 2 (by decide) (by decide) _ _
    (.reply (.send .start hfirst List.mem_cons_self rfl) (by decide) hack)
  exact hclock.1 _ List.mem_cons_self 20 (by decide) (show (2 : UInt32) < 20 by decide)

end UllReceiver.Air
