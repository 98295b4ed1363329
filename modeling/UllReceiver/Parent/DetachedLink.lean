import UllReceiver.Library.LinkLayer
import UllReceiver.Library.Runs
import UllReceiver.Parent.RawLlcp

/-!
# The detached control link

The headset's link-layer endpoint against the detached receiver.  Events follow one another; each
carries what was read of the receiver when it was sent, any number of its copies are heard, and
replies reach the receiver in the order in which they were received, however late.
-/

namespace UllReceiver.Parent

open Library

scoped instance llidKinds : NeZero 4 :=
  ⟨by decide⟩

/-- A PDU of the headset's own sequence. -/
structure HeadsetPdu where
  llid : Fin 4
  payload : List UInt8
  short : payload.length ≤ 60

/-- What a PDU says, without its link-layer numbers. -/
abbrev PduContent := UInt8 × List UInt8

def HeadsetPdu.content (p : HeadsetPdu) : PduContent :=
  (UInt8.ofNat p.llid, p.payload)

def bit (b : Bool) : UInt8 :=
  if b then 1 else 0

def pduHeader (llid : Fin 4) (nesn sn more : Bool) : UInt8 :=
  UInt8.ofNat llid ||| bit nesn <<< 2 ||| bit sn <<< 3 ||| bit more <<< 4

/-- The PDU as an authenticated reply. -/
def HeadsetPdu.received (p : HeadsetPdu) (nesn sn more : Bool) : AirControlRx where
  present := 1
  header := pduHeader p.llid nesn sn more
  length := UInt8.ofNat p.payload.length
  payload := Vector.ofFn fun i => byteAt p.payload i

/-- A reply on its way to the receiver.  `pdu` is the place of its PDU in the headset's sequence. -/
structure Reply where
  rx : AirControlRx
  sent : ParentPdu
  pdu : Nat

def AirControlRx.content (rx : AirControlRx) : PduContent :=
  (rx.header &&& 3, rx.payload.toList.take rx.length.toNat)

/-- The USB action that belongs to a PDU. -/
def pduActions (c : PduContent) : List UsbAction :=
  if c = (2, [6, 0, 1, 1, 10, 1, 0, 1, 0, 2]) then [.volumeUp]
  else if c = (2, [6, 0, 1, 1, 10, 1, 0, 2, 0, 2]) then [.volumeDown]
  else if c = (2, [2, 0, 1, 1, 13, 2]) then [.playPause]
  else if c = (2, [3, 0, 1, 1, 5, 2, 0]) then [.micMute true]
  else if c = (2, [3, 0, 1, 1, 6, 2, 0]) then [.micMute false]
  else []

theorem byteAt_drop (l : List UInt8) (k i : Nat) : byteAt (l.drop k) i = byteAt l (k + i) := by
  unfold byteAt
  simp [List.getD_eq_getElem?_getD, List.getElem?_drop]

theorem take_bytes (l : List UInt8) {n : Nat} (h : n ≤ l.length) :
    l.take n = (List.range n).map (byteAt l) := by
  apply List.ext_getElem
  · simp [h]
  · intro i h1 h2
    have hi : i < l.length := by
      rw [List.length_take] at h1
      omega
    simp [byteAt, List.getD_eq_getElem?_getD, hi]

theorem parentScalar_fields {h : UInt8} {l : List UInt8} {n : UInt32} {size : UInt8}
    {scalar : List UInt8 → UInt32 → Bool} (hs : parentScalar h (some l) n size scalar = true) :
    h &&& 3 = 2 ∧ n = 4 + size.toUInt32 ∧ byteAt l 0 = size ∧ byteAt l 1 = 0 ∧ byteAt l 2 = 1 ∧
      byteAt l 3 = 1 ∧ scalar (l.drop 4) size.toUInt32 = true := by
  unfold parentScalar at hs
  simp only [Bool.and_eq_true, beq_iff_eq] at hs
  obtain ⟨⟨h0, h1⟩, ⟨⟨⟨h2, h3⟩, h4⟩, h5⟩, h6⟩ := hs
  exact ⟨h0, h1, h2, h3, h4, h5, h6⟩

/-- A consumed control PDU causes exactly its own action. -/
theorem controlAction_eq {rx : AirControlRx}
    (h : controlShape rx.header (some rx.payload.toList) rx.length.toUInt32 = true) :
    RawLlcp.controlAction rx = pduActions rx.content := by
  have hbyte (i : Nat) (hi : i < 60) : rx.payload[i] = byteAt rx.payload.toList i := by
    simp [byteAt, List.getD_eq_getElem?_getD, hi]
  have hlen : rx.payload.toList.length = 60 := by simp
  have hcontent (n : Nat) (hn : rx.length = UInt8.ofNat n) (hn' : n ≤ 60) :
      rx.content = (rx.header &&& 3, (List.range n).map (byteAt rx.payload.toList)) := by
    unfold AirControlRx.content
    have hto : rx.length.toNat = n := by
      rw [hn, UInt8.toNat_ofNat']
      omega
    rw [hto, take_bytes _ (by omega)]
  have hnat (k : UInt8) (hk : rx.length.toUInt32 = k.toUInt32) : rx.length = k := by
    apply UInt8.toNat_inj.mp
    have := congrArg UInt32.toNat hk
    simpa using this
  unfold RawLlcp.controlAction
  rw [hbyte 2 (by decide), hbyte 3 (by decide)]
  generalize rx.payload.toList = l at *
  unfold controlShape at h
  simp only [Bool.or_eq_true] at h
  rcases h with (h | h) | h
  · obtain ⟨h3, hn, h0, h1, h2, h3', hs⟩ := parentScalar_fields h
    have hlength : rx.length = 10 := hnat 10 hn
    rw [hcontent 10 hlength (by decide)]
    have hwheel := hs
    simp only [parentAckWheel, byteAt_drop, Bool.and_eq_true, Bool.or_eq_true, beq_iff_eq,
      decide_eq_true_eq] at hs
    obtain ⟨⟨⟨⟨_, h4⟩, h5⟩, h6⟩, h8⟩ := hs.1
    have hrange : (List.range 10).map (byteAt l) =
        [6, 0, 1, 1, 10, 1, 0, byteAt l 7, 0, byteAt l 9] := by
      simp [List.range_succ, h0, h1, h2, h3', h4, h5, h6, h8]
    rw [hrange]
    have hw : parentAckWheel (l.drop 4) 6 = true := hwheel
    rw [hlength, h3, h2, h3']
    rcases hs.2 with ⟨h7 | h7, h9⟩ | ⟨h7, _⟩
    · simp [pduActions, byteAt_drop, hw, h7, h9]
    · simp [pduActions, byteAt_drop, hw, h7, h9]
    · simp [pduActions, byteAt_drop, hw, h7]
  · obtain ⟨h3, hn, h0, h1, h2, h3', hs⟩ := parentScalar_fields h
    have hlength : rx.length = 6 := hnat 6 hn
    rw [hcontent 6 hlength (by decide)]
    have hmedia := hs
    simp only [parentAckMedia, byteAt_drop, Bool.and_eq_true, beq_iff_eq] at hs
    have hrange : (List.range 6).map (byteAt l) = [2, 0, 1, 1, 13, byteAt l 5] := by
      simp [List.range_succ, h0, h1, h2, h3', hs.2]
    rw [hrange]
    have hm : parentAckMedia (l.drop 4) 2 = true := hmedia
    rw [hlength, h3, h2, h3']
    by_cases h5 : byteAt l 5 = 2
    · simp [pduActions, byteAt_drop, hm, h5]
    · simp [pduActions, byteAt_drop, hm, h5]
  · obtain ⟨h3, hn, h0, h1, h2, h3', hs⟩ := parentScalar_fields h
    have hlength : rx.length = 7 := hnat 7 hn
    rw [hcontent 7 hlength (by decide)]
    have hmic := hs
    simp only [parentAckMic, byteAt_drop, Bool.and_eq_true, Bool.or_eq_true, beq_iff_eq] at hs
    obtain ⟨⟨⟨_, h4⟩, h5⟩, h6⟩ := hs
    have hrange : (List.range 7).map (byteAt l) = [3, 0, 1, 1, byteAt l 4, 2, 0] := by
      simp [List.range_succ, h0, h1, h2, h3', h5, h6]
    rw [hrange]
    have hm : parentAckMic (l.drop 4) 3 = true := hmic
    rw [hlength, h3, h2, h3']
    rcases h4 with h4 | h4
    · simp [pduActions, byteAt_drop, hm, h4]
    · simp [pduActions, byteAt_drop, hm, h4]

structure DetachedLink where
  raw : RawLlcp
  controller : Controller
  headset : Endpoint Unit
  sent : ParentPdu
  replies : List Reply
  /-- The PDUs consumed so far, with their places in the headset's sequence. -/
  consumed : List (Nat × PduContent)
  actions : List UsbAction

/-- Where an event's parent PDU comes from. -/
inductive ParentSource
  | none
  | airPdu
  | ackHeader

inductive DetachedAction
  | begin (source : ParentSource)
  | hear
  | reply (more : Bool)
  | deliver
  | environment (raw : RawLlcp) (controller : Controller)

namespace DetachedLink

/-- The parent PDU of a new event, and the statics after reading it. -/
def source (b : DetachedLink) : ParentSource → ParentPdu × RawLlcp
  | .none => (.zero, b.raw)
  | .airPdu =>
      let (pdu, raw) := b.raw.detachedParentAirPdu b.controller
      (pdu.getD .zero, raw)
  | .ackHeader => ({ ParentPdu.zero with header := b.raw.detached.header }, b.raw)

/-- The reply the headset makes with the PDU it holds. -/
def nextReply (pdus : Nat → HeadsetPdu) (b : DetachedLink) (more : Bool) : Reply where
  rx := (pdus b.headset.pdu).received b.headset.nesn b.headset.sn more
  sent := b.sent
  pdu := b.headset.pdu

def act (pdus : Nat → HeadsetPdu) (b : DetachedLink) : DetachedAction → Option DetachedLink
  | .begin source =>
      let (sent, raw) := b.source source
      some { b with raw, sent }
  | .hear =>
      let headset := b.headset.hear (snBit b.sent.header == 1) (nesnBit b.sent.header == 1) ()
      if b.sent.header = 0 then none else some { b with headset }
  | .reply more => some { b with replies := b.replies ++ [b.nextReply pdus more] }
  | .deliver =>
      match b.replies with
      | [] => none
      | r :: replies =>
          let (_, raw, actions) := b.raw.receiveAirControl b.controller r.rx r.sent
          some { b with
            raw, replies
            consumed :=
              if b.raw.detached.counted raw.detached then b.consumed ++ [(r.pdu, r.rx.content)]
              else b.consumed
            actions := b.actions ++ actions }
  | .environment raw controller =>
      if raw.detached = b.raw.detached then some { b with raw, controller } else none

def Step (pdus : Nat → HeadsetPdu) (b : DetachedLink) (a : DetachedAction) (b' : DetachedLink) :
    Prop :=
  b.act pdus a = some b'

/-- After `ull_raw_reset_sequence`; the headset may be anywhere in its sequence. -/
def init (raw : RawLlcp) (controller : Controller) (headset : Endpoint Unit) : DetachedLink where
  raw := { raw with detached := .reset }
  controller
  headset
  sent := .zero
  replies := []
  consumed := []
  actions := []

end DetachedLink

end UllReceiver.Parent
