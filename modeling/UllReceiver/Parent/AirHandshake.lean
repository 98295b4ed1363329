import UllReceiver.Parent.DetachedRun

/-!
# Sending E2 through Air

The transaction an Air E1 opens, against the headset's link-layer endpoint: empty polls until the
session is committed, then E2 under the number the next poll would have had.
-/

namespace UllReceiver.Parent

open Library Air

structure AirHandshake where
  raw : RawLlcp
  controller : Controller
  headset : Endpoint ParentPdu
  sent : ParentPdu
  replies : List Reply
  /-- The E2 committed last, and how many PDUs the headset had taken by then. -/
  committed : Option (Vector UInt8 68 × Nat)

inductive HandshakeAction
  | begin
  | hear
  | reply (pdu : HeadsetPdu) (more : Bool)
  | deliver
  | prepare (seed : AirSessionSeed) (offset : UInt32)
  | commit (plan : AirSessionPlan)
  | environment (raw : RawLlcp) (controller : Controller)

namespace AirHandshake

/-- The headset's reply, whatever PDU it carries. -/
def nextReply (b : AirHandshake) (pdu : HeadsetPdu) (more : Bool) : Reply where
  rx := pdu.received b.headset.nesn b.headset.sn more
  sent := b.sent
  pdu := b.headset.pdu

/-- The headset receives the PDU of the newest event. -/
def heard (b : AirHandshake) : AirHandshake :=
  let headset := b.headset.hear (snBit b.sent.header == 1) (nesnBit b.sent.header == 1) b.sent
  { b with headset }

def act (b : AirHandshake) : HandshakeAction → Option AirHandshake
  | .begin => some { b with sent := (b.raw.parentAirPdu b.controller).getD .zero }
  | .hear => if b.sent.header = 0 then none else some b.heard
  | .reply pdu more => some { b with replies := b.replies ++ [b.nextReply pdu more] }
  | .deliver =>
      match b.replies with
      | [] => none
      | r :: replies =>
          let raw := (b.raw.receiveAirControl b.controller r.rx r.sent).2.1
          some { b with raw, replies }
  | .prepare seed offset =>
      some { b with raw := (b.raw.prepareSession b.controller seed offset).2 }
  | .commit plan =>
      let (accepted, raw) := b.raw.commitAir b.controller plan
      some { b with
        raw
        committed := if accepted then some (plan.e2, b.headset.taken.length) else b.committed }
  | .environment raw controller =>
      if raw.airParent = b.raw.airParent ∧ raw.e2Confirmed = b.raw.e2Confirmed ∧
          raw.e1Expected = b.raw.e1Expected then some { b with raw, controller }
      else none

def Step (b : AirHandshake) (a : HandshakeAction) (b' : AirHandshake) : Prop :=
  b.act a = some b'

/-- The transaction right after the E1 that opened it. -/
def init (raw : RawLlcp) (controller : Controller) (headset : Endpoint ParentPdu) : AirHandshake where
  raw
  controller
  headset
  sent := .zero
  replies := []
  committed := none

/-- The headset has taken the E2 committed last as a new PDU. -/
def Taken (b : AirHandshake) : Prop :=
  ∃ e2 since, b.committed = some (e2, since) ∧
    ∃ p ∈ b.headset.taken.drop since, p.payload = e2 ∧ p.length = 68 ∧ p.header &&& 3 = 3

/-- The step does not let an empty poll stand for E2: at an accepted commit the headset still
expects the number E2 will have, and while E2 is pending no empty poll is taken as new. -/
def Clean (b : AirHandshake) : HandshakeAction → Prop
  | .commit plan => (b.raw.commitAir b.controller plan).1 = true →
      b.raw.airParent.txSn = bit b.headset.nesn
  | .hear => b.raw.airParent.pending = true → b.sent.header &&& 3 = 1 →
      snBit b.sent.header ≠ bit b.headset.nesn
  | _ => True

instance (b : AirHandshake) : (a : HandshakeAction) → Decidable (b.Clean a)
  | .commit plan => inferInstanceAs (Decidable ((b.raw.commitAir b.controller plan).1 = true →
      b.raw.airParent.txSn = bit b.headset.nesn))
  | .hear => inferInstanceAs (Decidable (b.raw.airParent.pending = true →
      b.sent.header &&& 3 = 1 → snBit b.sent.header ≠ bit b.headset.nesn))
  | .begin | .reply _ _ | .deliver | .prepare _ _ | .environment _ _ => .isTrue trivial

def CleanStep (b : AirHandshake) (a : HandshakeAction) (b' : AirHandshake) : Prop :=
  b.Clean a ∧ b.Step a b'

end AirHandshake

/-- A PDU's number, or 2 when nothing was sent. -/
def ParentPdu.tag (p : ParentPdu) : UInt8 :=
  if p.header = 0 then 2 else snBit p.header

/-- The transaction is open and its next PDU has number `sn`.  What is still in flight under that
number is an empty poll, or the pending E2. -/
structure Numbered (b : AirHandshake) (sn : Bool) : Prop where
  active : b.raw.airParent.active = true
  txSn : b.raw.airParent.txSn = bit sn
  rxNesn : ∃ nesn, b.raw.airParent.rxNesn = bit nesn
  tagged : Tagged 2 (bit sn) b.sent.tag (b.replies.map (·.sent.tag))
  kinds : ∀ r ∈ b.replies, r.sent.tag = bit sn →
    r.sent.header &&& 3 = 1 ∨ b.raw.airParent.pending = true
  sentKind : b.sent.tag = bit sn → b.sent.header &&& 3 = 1 ∨ b.raw.airParent.pending = true ∧
    b.sent.header &&& 3 = 3 ∧ b.sent.length = 68 ∧
    b.sent.payload = b.raw.airParent.message.payload

/-- E2 is pending under number `sn`: the headset still expects that number, or it has taken E2. -/
structure Pending (b : AirHandshake) (sn : Bool) : Prop where
  message : ∃ since, b.committed = some (b.raw.airParent.message.payload, since) ∧
    since ≤ b.headset.taken.length
  length : b.raw.airParent.message.length = 68
  expected : b.headset.nesn = sn ∨ b.Taken
  replies : ∀ r ∈ b.replies, r.sent.tag = bit sn → r.sent.header &&& 3 ≠ 1 →
    nesnBit r.rx.header = bit sn ∨ b.Taken

structure AirHandshake.Sound (b : AirHandshake) : Prop where
  noE1 : b.raw.e1Expected = false
  confirmed : b.raw.e2Confirmed = true → b.committed.isSome → b.Taken
  phase : b.raw.airParent.active = false ∧ b.raw.airParent.pending = false ∨
    ∃ sn, Numbered b sn ∧ (b.raw.airParent.pending = true → Pending b sn)

theorem and_one_eq_bit (x : UInt8) : x &&& 1 = bit (x &&& 1 == 1) := by
  have hmod : (x &&& 1).toNat = x.toNat % 2 := by
    rw [UInt8.toNat_and]
    exact Nat.and_one_is_mod _
  rcases Nat.mod_two_eq_zero_or_one x.toNat with h0 | h1
  · rw [UInt8.toNat_inj.mp (hmod.trans h0 : (x &&& 1).toNat = (0 : UInt8).toNat)]
    decide
  · rw [UInt8.toNat_inj.mp (hmod.trans h1 : (x &&& 1).toNat = (1 : UInt8).toNat)]
    decide

theorem snBit_eq_bit (h : UInt8) : snBit h = bit (snBit h == 1) :=
  and_one_eq_bit _

theorem nesnBit_eq_bit (h : UInt8) : nesnBit h = bit (nesnBit h == 1) :=
  and_one_eq_bit _

theorem zero_tag_ne (sn : Bool) : ParentPdu.zero.tag ≠ bit sn := by
  cases sn <;> decide

theorem airParentPdu_header {a : AirParent} {sn nesn : Bool} (htx : a.txSn = bit sn)
    (hrx : a.rxNesn = bit nesn) :
    (RawLlcp.airParentPdu a).tag = bit sn ∧
      (RawLlcp.airParentPdu a).header &&& 3 = if a.pending then 3 else 1 := by
  have hall : ∀ pending sn nesn : Bool,
      ((if pending then (3 : UInt8) else 1) ||| bit sn <<< 3 ||| bit nesn <<< 2) ≠ 0 ∧
      snBit ((if pending then (3 : UInt8) else 1) ||| bit sn <<< 3 ||| bit nesn <<< 2) = bit sn ∧
      ((if pending then (3 : UInt8) else 1) ||| bit sn <<< 3 ||| bit nesn <<< 2) &&& 3 =
        if pending then 3 else 1 := by
    decide
  obtain ⟨hne, hsn, hkind⟩ := hall a.pending sn nesn
  unfold RawLlcp.airParentPdu ParentPdu.tag
  rw [htx, hrx, if_neg hne]
  exact ⟨hsn, hkind⟩

theorem airParentPdu_pending {a : AirParent} (hpending : a.pending = true)
    (hlength : a.message.length = 68) :
    (RawLlcp.airParentPdu a).length = 68 ∧
      (RawLlcp.airParentPdu a).payload = a.message.payload := by
  unfold RawLlcp.airParentPdu
  simp only [hpending, if_true, hlength]
  refine ⟨trivial, ?_⟩
  apply Vector.ext
  intro i hi
  simp

/-- What the headset has taken stays taken. -/
theorem AirHandshake.Taken.mono {b b' : AirHandshake} (h : b.Taken)
    (hcommitted : b'.committed = b.committed) (htaken : b.headset.taken <+: b'.headset.taken) :
    b'.Taken := by
  obtain ⟨e2, since, hc, p, hp, hrest⟩ := h
  obtain ⟨more, hmore⟩ := htaken
  refine ⟨e2, since, hcommitted.trans hc, p, ?_, hrest⟩
  rw [← hmore, List.drop_append]
  exact List.mem_append_left _ hp

theorem taken_extends (e : Endpoint ParentPdu) (sn nesn : Bool) (p : ParentPdu) :
    e.taken <+: (e.hear sn nesn p).taken := by
  unfold Endpoint.hear
  simp only
  split
  · exact List.prefix_append _ _
  · exact List.prefix_refl _

/-! The steps that leave the statics of the transaction alone. -/

theorem Numbered.begin {b : AirHandshake} {sn : Bool} (hn : Numbered b sn)
    (hp : b.raw.airParent.pending = true → Pending b sn) :
    Numbered { b with sent := (b.raw.parentAirPdu b.controller).getD .zero } sn := by
  obtain ⟨hactive, htx, ⟨nesn, hrx⟩, htagged, hkinds, _⟩ := hn
  have hsent : (b.raw.parentAirPdu b.controller).getD .zero = .zero ∨
      (b.raw.parentAirPdu b.controller).getD .zero = RawLlcp.airParentPdu b.raw.airParent := by
    unfold RawLlcp.parentAirPdu
    rw [if_pos hactive]
    split
    · exact .inr rfl
    · exact .inl rfl
  generalize (b.raw.parentAirPdu b.controller).getD .zero = sent at hsent
  obtain ⟨htag, hkind⟩ := airParentPdu_header htx hrx
  refine ⟨hactive, htx, ⟨nesn, hrx⟩, htagged.send ?_, hkinds, fun hnow => ?_⟩
  · rcases hsent with rfl | rfl
    · exact .inr rfl
    · exact .inl htag
  · rcases hsent with rfl | rfl
    · exact absurd hnow (zero_tag_ne sn)
    · cases hpending : b.raw.airParent.pending with
      | false =>
          rw [hpending] at hkind
          exact .inl hkind
      | true =>
          rw [hpending] at hkind
          obtain ⟨hlength, hpayload⟩ := airParentPdu_pending hpending (hp hpending).length
          exact .inr ⟨rfl, hkind, hlength, hpayload⟩

/-- A PDU heard changes only the headset, which may thereby take E2. -/
theorem Pending.hear {b : AirHandshake} {sn : Bool} (hn : Numbered b sn) (hp : Pending b sn)
    (hsent : b.sent.header ≠ 0)
    (hclean : b.sent.header &&& 3 = 1 → snBit b.sent.header ≠ bit b.headset.nesn) :
    Pending b.heard sn := by
  have hprefix := taken_extends b.headset (snBit b.sent.header == 1) (nesnBit b.sent.header == 1) b.sent
  obtain ⟨⟨since, hmessage, hsince⟩, hlength, hexpected, hreplies⟩ := hp
  have hmono (h : b.Taken) : b.heard.Taken := h.mono rfl hprefix
  refine ⟨⟨since, hmessage, Nat.le_trans hsince hprefix.length_le⟩, hlength, ?_,
    fun r hr htag hkind => (hreplies r hr htag hkind).imp_right hmono⟩
  rcases hexpected with hnesn | htaken
  · by_cases hnumber : (snBit b.sent.header == 1) = b.headset.nesn
    · -- taken as new under the expected number: not a poll, so E2
      have htag : b.sent.tag = bit sn := by
        unfold ParentPdu.tag
        rw [if_neg hsent, snBit_eq_bit, hnumber, hnesn]
      have hpoll : ¬ b.sent.header &&& 3 = 1 := fun h => hclean h (by rw [snBit_eq_bit, hnumber])
      obtain ⟨_, hkind, hlen, hpayload⟩ := (hn.sentKind htag).resolve_left hpoll
      refine .inr ⟨_, since, hmessage, b.sent, ?_, hpayload, hlen, hkind⟩
      unfold AirHandshake.heard Endpoint.hear
      simp only [if_pos hnumber]
      rw [List.drop_append_of_le_length hsince]
      exact List.mem_append_right _ (List.mem_singleton_self _)
    · left
      unfold AirHandshake.heard Endpoint.hear
      simp only [if_neg hnumber]
      exact hnesn
  · exact .inr (hmono htaken)

theorem Numbered.reply {b : AirHandshake} {sn : Bool} (hn : Numbered b sn) (pdu : HeadsetPdu)
    (more : Bool) : Numbered { b with replies := b.replies ++ [b.nextReply pdu more] } sn := by
  obtain ⟨hactive, htx, hrx, htagged, hkinds, hkind⟩ := hn
  refine ⟨hactive, htx, hrx, ?_, fun r hr htag => ?_, hkind⟩
  · rw [List.map_append]
    exact htagged.push
  · rcases List.mem_append.mp hr with hr | hr
    · exact hkinds r hr htag
    · rw [List.mem_singleton.mp hr] at htag ⊢
      exact (hkind htag).imp_right (·.1)

theorem Pending.reply {b : AirHandshake} {sn : Bool} (hp : Pending b sn) (pdu : HeadsetPdu)
    (more : Bool) : Pending { b with replies := b.replies ++ [b.nextReply pdu more] } sn := by
  obtain ⟨hmessage, hlength, hexpected, hreplies⟩ := hp
  refine ⟨hmessage, hlength, hexpected, fun r hr htag hkind => ?_⟩
  rcases List.mem_append.mp hr with hr | hr
  · exact hreplies r hr htag hkind
  · rw [List.mem_singleton.mp hr]
    refine hexpected.imp_left fun hnesn => ?_
    change nesnBit (pduHeader pdu.llid b.headset.nesn b.headset.sn more) = _
    rw [(pduHeader_bits ..).2.1, hnesn]

/-! Deliveries. -/

/-- The part of the statics the transaction uses is untouched. -/
def RawLlcp.SameParent (s s' : RawLlcp) : Prop :=
  s'.airParent = s.airParent ∧ s'.e2Confirmed = s.e2Confirmed ∧ s'.e1Expected = s.e1Expected

/-- Without an expected E1, a reply either is no part of the transaction or is taken by it. -/
theorem receiveAirControl_reply (s : RawLlcp) (k : Controller) (rx : AirControlRx)
    (sent : ParentPdu) (hno : s.e1Expected = false) :
    s.SameParent (s.receiveAirControl k rx sent).2.1 ∨
      s.airParent.active = true ∧ (s.receiveAirControl k rx sent).2.1 = s.receiveReply k rx sent := by
  have hself : s.SameParent s := ⟨rfl, rfl, rfl⟩
  unfold RawLlcp.receiveAirControl
  split
  · exact .inl hself
  split
  · exact .inl ⟨rfl, rfl, rfl⟩
  simp only
  split
  · exact .inl hself
  split
  · split
    · left
      unfold RawLlcp.receiveE1
      simp only [hno]
      split
      · exact hself
      · simp only [Bool.false_eq_true, false_and, if_false]
        exact hself
    · exact .inl hself
  rename_i hactive
  split
  · exact .inr ⟨by simpa using hactive, rfl⟩
  · exact .inl hself

/-- What a reply does to the transaction. -/
inductive ReplyMove (s : RawLlcp) (rx : AirControlRx) (sent : ParentPdu) (s' : RawLlcp) : Prop
  /-- Nothing is acknowledged. -/
  | heard (htx : s'.airParent.txSn = s.airParent.txSn)
      (hpending : s'.airParent.pending = s.airParent.pending)
      (hactive : s'.airParent.active = s.airParent.active)
      (hmessage : s'.airParent.message = s.airParent.message)
      (hconfirmed : s'.e2Confirmed = s.e2Confirmed)
  /-- The outstanding poll is acknowledged. -/
  | polled (hexact : RawLlcp.exactPdu s.airParent sent = true)
      (hnone : s.airParent.pending = false) (hpending : s'.airParent.pending = false)
      (hactive : s'.airParent.active = s.airParent.active)
      (htx : s'.airParent.txSn = s.airParent.txSn ^^^ 1)
      (hconfirmed : s'.e2Confirmed = s.e2Confirmed)
  /-- The pending E2 is acknowledged. -/
  | confirmed (hexact : RawLlcp.exactPdu s.airParent sent = true)
      (hack : nesnBit rx.header ≠ s.airParent.txSn)
      (hsome : s.airParent.pending = true) (hpending : s'.airParent.pending = false)
      (htx : s'.airParent.txSn = s.airParent.txSn ^^^ 1)

theorem receiveReply_move (s : RawLlcp) (k : Controller) (rx : AirControlRx) (sent : ParentPdu) :
    ReplyMove s rx sent (s.receiveReply k rx sent) ∧
      (s.receiveReply k rx sent).e1Expected = s.e1Expected ∧
      ((s.receiveReply k rx sent).airParent.rxNesn = s.airParent.rxNesn ∨
        (s.receiveReply k rx sent).airParent.rxNesn = s.airParent.rxNesn ^^^ 1) := by
  unfold RawLlcp.receiveReply
  simp only
  generalize hacked : (RawLlcp.exactPdu s.airParent sent &&
    nesnBit rx.header != s.airParent.txSn) = acked
  obtain ⟨hactive, hpending, htx, hmessage, hrx⟩ := answered_fields s.airParent acked rx.header
  generalize RawLlcp.answered s.airParent acked rx.header = a at *
  generalize (k.parentSequence a.llc a.lld ==
    some (a.txSn.toUInt16 <<< 13 ||| a.rxNesn.toUInt16 <<< 12)) = same
  cases acked with
  | false =>
      simp only [Bool.false_and, Bool.false_eq_true, if_false, Bool.or_false]
      refine ⟨.heard htx ?_ hactive (hmessage rfl) rfl, trivial, hrx⟩
      simpa using hpending
  | true =>
      simp only [Bool.and_eq_true, bne_iff_ne] at hacked
      have hdone : a.pending = false := by simpa using hpending
      cases hsome : s.airParent.pending with
      | false =>
          simp only [Bool.true_and, Bool.false_and, Bool.false_eq_true, if_false, Bool.or_false]
          exact ⟨.polled hacked.1 hsome hdone hactive htx rfl, trivial, hrx⟩
      | true =>
          simp only [Bool.true_and]
          refine ⟨.confirmed hacked.1 hacked.2 hsome ?_ ?_, trivial, ?_⟩
          · split <;> exact hdone
          · split <;> exact htx
          · split <;> exact hrx

theorem exactPdu_tag {a : AirParent} {p : ParentPdu} {sn : Bool} (htx : a.txSn = bit sn)
    (h : RawLlcp.exactPdu a p = true) :
    p.tag = bit sn ∧ p.header &&& 3 = if a.pending then 3 else 1 := by
  unfold RawLlcp.exactPdu at h
  simp only [Bool.and_eq_true, beq_iff_eq] at h
  obtain ⟨⟨⟨hsn, _⟩, hkind⟩, _⟩ := h
  refine ⟨?_, hkind⟩
  have hne : p.header ≠ 0 := by
    intro hzero
    rw [hzero] at hkind
    cases hpending : a.pending <;> rw [hpending] at hkind <;> exact absurd hkind (by decide)
  unfold ParentPdu.tag
  rw [if_neg hne, hsn, htx]

theorem bit_not_ne (b : Bool) : bit (!b) ≠ bit b ∧ bit (!b) ≠ 2 := by
  cases b <;> decide

/-- The head of the queue is delivered, and the transaction goes on as before. -/
theorem Numbered.popped {b b' : AirHandshake} {r : Reply} {sn : Bool} (hn : Numbered b sn)
    (hpop : b.replies = r :: b'.replies) (hsent : b'.sent = b.sent)
    (hactive : b'.raw.airParent.active = b.raw.airParent.active)
    (hpending : b'.raw.airParent.pending = b.raw.airParent.pending)
    (htx : b'.raw.airParent.txSn = b.raw.airParent.txSn)
    (hmessage : b'.raw.airParent.message = b.raw.airParent.message)
    (hrx : ∃ nesn, b'.raw.airParent.rxNesn = bit nesn) : Numbered b' sn := by
  obtain ⟨hactive0, htx0, _, htagged, hkinds, hkind⟩ := hn
  rw [hpop, List.map_cons] at htagged
  refine ⟨hactive.trans hactive0, htx.trans htx0, hrx, ?_, fun r' hr' => ?_, ?_⟩
  · rw [hsent]
    exact htagged.pop
  · rw [hpending]
    exact hkinds r' (by rw [hpop]; exact List.mem_cons_of_mem _ hr')
  · rw [hsent, hpending, hmessage]
    exact hkind

theorem Pending.popped {b b' : AirHandshake} {r : Reply} {sn : Bool} (hp : Pending b sn)
    (hpop : b.replies = r :: b'.replies) (hheadset : b'.headset = b.headset)
    (hcommitted : b'.committed = b.committed)
    (hmessage : b'.raw.airParent.message = b.raw.airParent.message) : Pending b' sn := by
  obtain ⟨hcommit, hlength, hexpected, hreplies⟩ := hp
  have hmono (h : b.Taken) : b'.Taken :=
    h.mono hcommitted (by rw [hheadset])
  refine ⟨?_, ?_, ?_, fun r' hr' htag hkind => ?_⟩
  · rw [hmessage, hcommitted, hheadset]
    exact hcommit
  · rw [hmessage]
    exact hlength
  · rw [hheadset]
    exact hexpected.imp_right hmono
  · exact (hreplies r' (by rw [hpop]; exact List.mem_cons_of_mem _ hr') htag hkind).imp_right hmono

/-- An acknowledged PDU gives the next one the other number; nothing in flight carries it. -/
theorem Numbered.acknowledged {b b' : AirHandshake} {r : Reply} {sn : Bool} (hn : Numbered b sn)
    (hpop : b.replies = r :: b'.replies) (hsent : b'.sent = b.sent)
    (hexact : RawLlcp.exactPdu b.raw.airParent r.sent = true)
    (hactive : b'.raw.airParent.active = true)
    (htx : b'.raw.airParent.txSn = b.raw.airParent.txSn ^^^ 1)
    (hrx : ∃ nesn, b'.raw.airParent.rxNesn = bit nesn) : Numbered b' (!sn) := by
  obtain ⟨_, htx0, _, htagged, _, _⟩ := hn
  rw [hpop, List.map_cons, (exactPdu_tag htx0 hexact).1] at htagged
  obtain ⟨hrest, hnewest⟩ := htagged.arrived
  obtain ⟨hne, hvoid⟩ := bit_not_ne sn
  have hold (t : UInt8) (ht : t = bit sn ∨ t = 2) : t ≠ bit (!sn) := by
    rcases ht with rfl | rfl
    · exact hne.symm
    · exact hvoid.symm
  refine ⟨hactive, by rw [htx, htx0, bit_xor], hrx, ?_, fun r' hr' htag => ?_, fun htag => ?_⟩
  · rw [hsent]
    exact htagged.advance hne hvoid
  · exact absurd htag (hold _ (hrest _ (List.mem_map_of_mem hr')))
  · rw [hsent] at htag
    exact absurd htag (hold _ hnewest)

theorem AirHandshake.Sound.deliver {b b' : AirHandshake} {r : Reply} (hb : b.Sound)
    (hpop : b.replies = r :: b'.replies) (hsent : b'.sent = b.sent)
    (hheadset : b'.headset = b.headset) (hcommitted : b'.committed = b.committed)
    (hraw : b'.raw = (b.raw.receiveAirControl b.controller r.rx r.sent).2.1) : b'.Sound := by
  obtain ⟨hno, hconfirmed, hphase⟩ := hb
  have hmono (h : b.Taken) : b'.Taken :=
    h.mono hcommitted (by rw [hheadset])
  rcases receiveAirControl_reply b.raw b.controller r.rx r.sent hno with hsame | ⟨hactive, hreply⟩
  · rw [← hraw] at hsame
    obtain ⟨hparent, he2, he1⟩ := hsame
    refine ⟨he1.trans hno, ?_, ?_⟩
    · rw [he2, hcommitted]
      exact fun h h' => hmono (hconfirmed h h')
    · rw [hparent]
      refine hphase.imp id fun ⟨sn, hn, hp⟩ => ⟨sn, ?_, fun h => ?_⟩
      · exact hn.popped hpop hsent (by rw [hparent]) (by rw [hparent]) (by rw [hparent])
          (by rw [hparent]) (by rw [hparent]; exact hn.rxNesn)
      · exact (hp h).popped hpop hheadset hcommitted (by rw [hparent])
  · obtain ⟨sn, hn, hp⟩ := hphase.resolve_left fun h => by
      rw [hactive] at h
      exact nomatch h.1
    obtain ⟨hmove, he1, hrx⟩ := receiveReply_move b.raw b.controller r.rx r.sent
    rw [← hreply, ← hraw] at hmove he1 hrx
    have hrx' : ∃ nesn, b'.raw.airParent.rxNesn = bit nesn := by
      obtain ⟨nesn, h0⟩ := hn.rxNesn
      rcases hrx with h | h
      · exact ⟨nesn, h.trans h0⟩
      · exact ⟨!nesn, by rw [h, h0, bit_xor]⟩
    cases hmove with
    | heard htx hpending hactive' hmessage he2 =>
        refine ⟨he1.trans hno, ?_, .inr ⟨sn, ?_, fun h => ?_⟩⟩
        · rw [he2, hcommitted]
          exact fun h h' => hmono (hconfirmed h h')
        · exact hn.popped hpop hsent hactive' hpending htx hmessage hrx'
        · exact (hp (hpending ▸ h)).popped hpop hheadset hcommitted hmessage
    | polled hexact hnone hpending hactive' htx he2 =>
        refine ⟨he1.trans hno, ?_, .inr ⟨!sn, ?_, fun h => ?_⟩⟩
        · rw [he2, hcommitted]
          exact fun h h' => hmono (hconfirmed h h')
        · exact hn.acknowledged hpop hsent hexact (hactive'.trans hn.active) htx hrx'
        · rw [hpending] at h
          exact nomatch h
    | confirmed hexact hack hsome hpending htx =>
        obtain ⟨htag, hkind⟩ := exactPdu_tag hn.txSn hexact
        rw [hsome] at hkind
        have htaken : b.Taken := by
          refine ((hp hsome).replies r (by rw [hpop]; exact List.mem_cons_self ..) htag ?_).resolve_left
            fun h => hack (h.trans hn.txSn.symm)
          rw [hkind]
          decide
        refine ⟨he1.trans hno, fun _ _ => hmono htaken, ?_⟩
        cases hactive' : b'.raw.airParent.active with
        | false => exact .inl ⟨rfl, hpending⟩
        | true =>
            refine .inr ⟨!sn, hn.acknowledged hpop hsent hexact hactive' htx hrx', fun h => ?_⟩
            rw [hpending] at h
            exact nomatch h

/-! The other steps. -/

theorem prepareSession_same (s : RawLlcp) (k : Controller) (seed : AirSessionSeed)
    (offset : UInt32) : s.SameParent (s.prepareSession k seed offset).2 := by
  unfold RawLlcp.prepareSession
  split <;> exact ⟨rfl, rfl, rfl⟩

/-- Changes to the rest of the statics. -/
theorem AirHandshake.Sound.same {b b' : AirHandshake} (hb : b.Sound)
    (hraw : b.raw.SameParent b'.raw) (hsent : b'.sent = b.sent) (hreplies : b'.replies = b.replies)
    (hheadset : b'.headset = b.headset) (hcommitted : b'.committed = b.committed) : b'.Sound := by
  obtain ⟨hno, hconfirmed, hphase⟩ := hb
  obtain ⟨hparent, he2, he1⟩ := hraw
  have hmono (h : b.Taken) : b'.Taken := h.mono hcommitted (by rw [hheadset])
  refine ⟨he1.trans hno, ?_, ?_⟩
  · rw [he2, hcommitted]
    exact fun h h' => hmono (hconfirmed h h')
  · rw [hparent]
    refine hphase.imp id fun ⟨sn, hn, hp⟩ => ⟨sn, ?_, fun h => ?_⟩
    · obtain ⟨hactive, htx, hrx, htagged, hkinds, hkind⟩ := hn
      exact ⟨hparent ▸ hactive, hparent ▸ htx, hparent ▸ hrx, by rw [hsent, hreplies]; exact htagged,
        by rw [hparent, hreplies]; exact hkinds, by rw [hparent, hsent]; exact hkind⟩
    · obtain ⟨hmessage, hlength, hexpected, hwaiting⟩ := hp h
      exact ⟨by rw [hparent, hcommitted, hheadset]; exact hmessage, hparent ▸ hlength,
        by rw [hheadset]; exact hexpected.imp_right hmono, fun r hr htag hkind =>
          (hwaiting r (hreplies ▸ hr) htag hkind).imp_right hmono⟩

/-- E2 takes over the number of the next poll, which the headset still expects. -/
theorem AirHandshake.Sound.commit {b b' : AirHandshake} (hb : b.Sound) (plan : AirSessionPlan)
    (hclean : b.Clean (.commit plan)) (hs : b.Step (.commit plan) b') : b'.Sound := by
  unfold AirHandshake.Step AirHandshake.act at hs
  simp only [Option.some.injEq] at hs
  unfold AirHandshake.Clean at hclean
  unfold RawLlcp.commitAir at hs hclean
  simp only at hs hclean
  split at hs
  · rename_i haccepted
    rw [if_pos haccepted] at hclean
    obtain ⟨_, hcurrent, hidle, _⟩ := haccepted
    have hactive : b.raw.airParent.active = true := by
      unfold RawLlcp.airParentCurrent at hcurrent
      simp only [Bool.and_eq_true] at hcurrent
      exact hcurrent.1
    have hnone : b.raw.airParent.pending = false := by simpa using hidle
    obtain ⟨sn, hn, _⟩ := hb.phase.resolve_left fun h => by
      rw [hactive] at h
      exact nomatch h.1
    have hexpected : b.headset.nesn = sn :=
      bit_inj ((hclean rfl).symm.trans hn.txSn)
    obtain ⟨_, htx, hrx, htagged, hkinds, hkind⟩ := hn
    rw [hnone] at hkinds hkind
    have hpoll (r : Reply) (hr : r ∈ b.replies) (htag : r.sent.tag = bit sn) :
        r.sent.header &&& 3 = 1 := (hkinds r hr htag).resolve_right (nomatch ·)
    subst hs
    refine ⟨hb.noE1, (nomatch ·), .inr ⟨sn, ?_, fun _ => ?_⟩⟩
    · exact ⟨hactive, htx, hrx, htagged, fun r hr htag => .inl (hpoll r hr htag),
        fun htag => .inl ((hkind htag).resolve_right fun h => nomatch h.1)⟩
    · exact ⟨⟨_, rfl, Nat.le_refl _⟩, rfl, .inl hexpected,
        fun r hr htag hother => absurd (hpoll r hr htag) hother⟩
  · subst hs
    exact hb

theorem AirHandshake.Sound.step {b b' : AirHandshake} {a : HandshakeAction} (hb : b.Sound)
    (h : b.CleanStep a b') : b'.Sound := by
  obtain ⟨hclean, hs⟩ := h
  cases a with
  | begin =>
      cases hs
      refine ⟨hb.noE1, fun h h' => (hb.confirmed h h').mono rfl (List.prefix_refl _),
        hb.phase.imp id fun ⟨sn, hn, hp⟩ => ⟨sn, hn.begin hp, fun h => ?_⟩⟩
      obtain ⟨hmessage, hlength, hexpected, hreplies⟩ := hp h
      exact ⟨hmessage, hlength, hexpected, hreplies⟩
  | hear =>
      unfold AirHandshake.Step AirHandshake.act at hs
      simp only at hs
      split at hs
      · exact nomatch hs
      · rename_i hsent
        cases hs
        refine ⟨hb.noE1, fun h h' => (hb.confirmed h h').mono rfl (taken_extends _ _ _ _),
          hb.phase.imp id fun ⟨sn, hn, hp⟩ => ⟨sn, ?_, fun h => ?_⟩⟩
        · exact ⟨hn.active, hn.txSn, hn.rxNesn, hn.tagged, hn.kinds, hn.sentKind⟩
        · exact (hp h).hear hn hsent (hclean h)
  | reply pdu more =>
      cases hs
      refine ⟨hb.noE1, fun h h' => (hb.confirmed h h').mono rfl (List.prefix_refl _),
        hb.phase.imp id fun ⟨sn, hn, hp⟩ => ⟨sn, hn.reply pdu more, fun h => ?_⟩⟩
      obtain ⟨hmessage, hlength, hexpected, hreplies⟩ := (hp h).reply pdu more
      exact ⟨hmessage, hlength, hexpected, hreplies⟩
  | deliver =>
      unfold AirHandshake.Step AirHandshake.act at hs
      simp only at hs
      split at hs
      · exact nomatch hs
      · rename_i r replies hreplies
        simp only [Option.some.injEq] at hs
        subst hs
        exact hb.deliver hreplies rfl rfl rfl rfl
  | prepare seed offset =>
      cases hs
      exact hb.same (prepareSession_same _ _ _ _) rfl rfl rfl rfl
  | commit plan => exact hb.commit plan hclean hs
  | environment raw controller =>
      unfold AirHandshake.Step AirHandshake.act at hs
      simp only at hs
      split at hs
      · rename_i hsame
        cases hs
        exact hb.same hsame rfl rfl rfl rfl
      · exact nomatch hs

/-- An accepted E1 opens the transaction with nothing pending. -/
theorem receiveE1_opens {s : RawLlcp} {k : Controller} {rx : AirControlRx} {sent : ParentPdu}
    (hopen : (s.receiveE1 k rx sent).1 = true) :
    (s.receiveE1 k rx sent).2.e1Expected = false ∧
      (s.receiveE1 k rx sent).2.airParent.active = true ∧
      (s.receiveE1 k rx sent).2.airParent.pending = false ∧
      (s.receiveE1 k rx sent).2.airParent.txSn = nesnBit rx.header ∧
      (s.receiveE1 k rx sent).2.airParent.rxNesn = snBit rx.header ^^^ 1 := by
  unfold RawLlcp.receiveE1 at hopen ⊢
  simp only at hopen ⊢
  split at hopen
  · exact nomatch hopen
  · split at hopen
    · rename_i haccepted
      rw [if_pos haccepted]
      exact ⟨rfl, rfl, rfl, rfl, rfl⟩
    · exact nomatch hopen

/-- Over every run of an opened transaction in which no empty poll stands for E2: when E2 is
confirmed, the headset has taken it. -/
theorem airE2_confirmed_taken {raw : RawLlcp} {controller : Controller} {rx : AirControlRx}
    {sent : ParentPdu} {headset : Endpoint ParentPdu} {trace : List HandshakeAction}
    {b : AirHandshake} (hopen : (raw.receiveE1 controller rx sent).1 = true)
    (hrun : Run AirHandshake.CleanStep
      (.init (raw.receiveE1 controller rx sent).2 controller headset) trace b) :
    b.raw.e2Confirmed = true → b.committed.isSome → b.Taken := by
  obtain ⟨hno, hactive, hpending, htx, hrx⟩ := receiveE1_opens hopen
  have hinit : (AirHandshake.init (raw.receiveE1 controller rx sent).2 controller headset).Sound := by
    refine ⟨hno, fun _ h => (nomatch h), .inr ⟨nesnBit rx.header == 1, ?_, fun h => ?_⟩⟩
    · refine ⟨hactive, htx.trans (nesnBit_eq_bit _), ⟨!(snBit rx.header == 1), ?_⟩, tagged_nil,
        fun r hr => (nomatch hr), fun h => absurd h (zero_tag_ne _)⟩
      exact hrx.trans (by rw [← bit_xor, ← snBit_eq_bit])
    · exact nomatch hpending.symm.trans h
  exact (hrun.invariant AirHandshake.Sound hinit fun _ _ _ hb h => hb.step h).confirmed

/-! A transaction of the second stream, from its E1 to a confirmed E2. -/

/-- The proposal: instant 100. -/
def secondProposal : Vector UInt8 39 :=
  ⟨(e0SecondStream ++ [100, 0]).toArray, by decide⟩

/-- The matching E1, with the numbers `nesn = 1` and `sn = 0`. -/
def secondE1 : AirControlRx :=
  { present := 1, header := 7, length := 9
    payload := ⟨([0xe1] ++ secondProposal.toList.drop 31 ++ List.replicate 51 0).toArray, by decide⟩ }

/-- An encrypted connection ten events before the instant. -/
def liveController : Controller where
  llcEnv := 1
  lldEnv := 2
  llc := fun _ => { queued := false, flags := 0 }
  lld := fun _ =>
    { arbitrationHs := 1000, arbitrationHus := 0, descriptor := false, anchorHs := 1000
      intervalHs := 96, eventsPending := 0, flags := 0x60, csIndex := 0 }
  cs := fun _ _ => 0
  eventCounter := 90
  timeUs := 10

/-- The statics once the second stream's E0 has been sent. -/
def proposedRaw : RawLlcp :=
  { retiredRaw with
    e1Expected := true, e0Counter := 100, sentE0 := secondProposal, sessionLlc := 1, sessionLld := 2
    committedLlc := 1, committedLld := 2, e1Received := false, parentRetired := false
    originAnchor := { hs := 1000, intervalHs := 96, hus := 0, eventCounter := 90 } }

def secondSeed : AirSessionSeed :=
  { accessAddress := 0x12345678, eventCounter := 5
    channelMap := Vector.ofFn fun i => if i.val = 4 then 31 else 255
    receiveEnabled := 0, iv := Vector.replicate 8 1, key := Vector.replicate 16 2 }

def secondPlan : AirSessionPlan :=
  { startHs := 1969, startHus := 375, aclInstant := 100, eventCounter := 5
    accessAddress := 0x12345678, offsetUs := 3000, e2 := planE2 secondProposal secondSeed 3000 100 }

/-- The poll the E1 answers. -/
def hardwarePoll : ParentPdu :=
  { ParentPdu.zero with header := 1 }

def emptyPdu : HeadsetPdu :=
  { llid := 1, payload := [], short := by decide }

/-- The transaction after that E1, the headset expecting number 1. -/
def openedHandshake : AirHandshake :=
  .init (proposedRaw.receiveE1 liveController secondE1 hardwarePoll).2 liveController
    ⟨false, true, 0, []⟩

/-- Plan and seed agree, E2 is committed before any poll, and the headset takes it. -/
def cleanTrace : List HandshakeAction :=
  [.prepare secondSeed 3000, .commit secondPlan, .begin, .hear, .reply emptyPdu false, .deliver]

theorem airE2_confirmed_taken_clean :
    ∃ b, Run AirHandshake.CleanStep openedHandshake cleanTrace b ∧
      b.raw.e2Confirmed = true ∧ b.Taken := by
  let step (b : AirHandshake) (a : HandshakeAction) : Option AirHandshake :=
    if b.Clean a then b.act a else none
  have h : (cleanTrace.foldlM step openedHandshake).map (fun b =>
      (b.raw.e2Confirmed, b.committed.isSome)) = some (true, true) := by
    decide +kernel
  obtain ⟨b, hb, heq⟩ := Option.map_eq_some_iff.mp h
  obtain ⟨hconfirmed, hcommitted⟩ := Prod.mk.inj heq
  have hrun : Run AirHandshake.CleanStep openedHandshake cleanTrace b := by
    refine (Run.of_foldlM hb).mono fun b a b' hs => ?_
    simp only [step] at hs
    split at hs
    · exact ⟨‹_›, hs⟩
    · exact nomatch hs
  exact ⟨b, hrun, hconfirmed, airE2_confirmed_taken (by decide +kernel) hrun hconfirmed hcommitted⟩

/-- A poll is taken but its reply lost before E2 is committed. -/
def lostReplyTrace : List HandshakeAction :=
  [.begin, .hear, .prepare secondSeed 3000, .commit secondPlan, .begin, .hear,
    .reply emptyPdu false, .deliver]

/-- E2 is confirmed although all the headset has taken is the poll. -/
theorem airE2_confirmed_not_taken :
    (proposedRaw.receiveE1 liveController secondE1 hardwarePoll).1 = true ∧
    ∃ b, Run AirHandshake.Step openedHandshake lostReplyTrace b ∧
      b.raw.e2Confirmed = true ∧ b.committed.isSome ∧ ¬ b.Taken := by
  have h : (lostReplyTrace.foldlM AirHandshake.act openedHandshake).map (fun b =>
      (b.raw.e2Confirmed, b.committed.map (·.2), b.headset.taken.length)) =
        some (true, some 1, 1) := by
    decide +kernel
  obtain ⟨b, hb, heq⟩ := Option.map_eq_some_iff.mp h
  obtain ⟨hconfirmed, hrest⟩ := Prod.mk.inj heq
  obtain ⟨hsince, hlength⟩ := Prod.mk.inj hrest
  obtain ⟨c, hc, hsince⟩ := Option.map_eq_some_iff.mp hsince
  refine ⟨by decide +kernel, b, Run.of_foldlM hb, hconfirmed, by rw [hc]; rfl, ?_⟩
  rintro ⟨e2, since, hcommitted, p, hp, _⟩
  rw [hc, Option.some.injEq] at hcommitted
  subst hcommitted
  simp only at hsince
  subst hsince
  rw [List.drop_eq_nil_of_le (Nat.le_of_eq hlength)] at hp
  exact nomatch hp

end UllReceiver.Parent
