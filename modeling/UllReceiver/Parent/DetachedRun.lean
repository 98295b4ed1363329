import UllReceiver.Parent.DetachedLink

/-!
# Exactly-once delivery on the detached control link

Before the bootstrap the receiver can at most have moved the headset on by one PDU.  After it, the
headset holds the last PDU consumed or the one after it, and whatever is still in flight either
carries the receiver's current header or can change nothing.
-/

namespace UllReceiver.Parent

open Library

variable {pdus : Nat → HeadsetPdu} {first : Bool}

theorem bit_xor (b : Bool) : bit b ^^^ 1 = bit (!b) := by
  cases b <;> decide

theorem bit_inj {a b : Bool} (h : bit a = bit b) : a = b := by
  revert h
  cases a <;> cases b <;> decide

theorem pduHeader_bits (llid : Fin 4) (nesn sn more : Bool) :
    snBit (pduHeader llid nesn sn more) = bit sn ∧
      nesnBit (pduHeader llid nesn sn more) = bit nesn ∧
      pduHeader llid nesn sn more &&& 3 = UInt8.ofNat llid := by
  revert llid nesn sn more
  decide

/-- The header of an active receiver with these two bits. -/
def ackHeader (tx rx : Bool) : UInt8 :=
  (1 : UInt8) ||| bit tx <<< 3 ||| bit rx <<< 2

theorem ackHeader_ne_zero (tx rx : Bool) : ackHeader tx rx ≠ 0 := by
  revert tx rx
  decide

theorem nesnBit_ackHeader (tx rx : Bool) : nesnBit (ackHeader tx rx) = bit rx := by
  revert tx rx
  decide

theorem ackHeader_inj {tx rx tx' rx' : Bool} (h : ackHeader tx rx = ackHeader tx' rx') :
    tx = tx' ∧ rx = rx' := by
  revert tx rx tx' rx'
  decide

/-- `r` brings PDU `r.pdu` of the headset's sequence. -/
def Reply.Carries (pdus : Nat → HeadsetPdu) (first : Bool) (r : Reply) : Prop :=
  (∃ nesn more, r.rx = (pdus r.pdu).received nesn (number first r.pdu) more) ∧ r.sent.length = 0

theorem received_content (p : HeadsetPdu) (nesn sn more : Bool) :
    (p.received nesn sn more).content = p.content := by
  have hlen : (UInt8.ofNat p.payload.length).toNat = p.payload.length := by
    rw [UInt8.toNat_ofNat']
    have := p.short
    omega
  unfold AirControlRx.content HeadsetPdu.content HeadsetPdu.received
  simp only [(pduHeader_bits ..).2.2, hlen]
  refine congrArg (Prod.mk _) ?_
  apply List.ext_getElem
  · simp [p.short]
  · intro i h1 h2
    simp [byteAt, List.getD_eq_getElem?_getD, h2]

/-- The replies on their way, whatever state the receiver is in. -/
structure Offered (pdus : Nat → HeadsetPdu) (first : Bool) (b : DetachedLink) : Prop where
  numbered : b.headset.Numbered first
  carried : ∀ r ∈ b.replies, r.Carries pdus first
  sorted : b.replies.Pairwise fun r r' => r.pdu ≤ r'.pdu
  offered : ∀ r ∈ b.replies, r.pdu ≤ b.headset.pdu
  unsized : b.sent.length = 0

/-- Nothing has been consumed yet.  Polls ask with number 0, so the headset moves at most once. -/
structure Waiting (first : Bool) (b : DetachedLink) : Prop where
  inactive : b.raw.detached.active = false
  polled : b.sent.header = 0 ∨ b.sent.header = 1
  tags : ∀ r ∈ b.replies, r.sent.header = 0 ∨ r.sent.header = 1
  near : ∀ r ∈ b.replies, r.pdu = b.headset.pdu ∨
    r.pdu + 1 = b.headset.pdu ∧ number first b.headset.pdu = false
  nothing : b.consumed = [] ∧ b.actions = []

/-- PDUs `start` to `start + n` have been consumed. -/
structure Delivering (pdus : Nat → HeadsetPdu) (first : Bool) (start n : Nat) (b : DetachedLink) :
    Prop where
  active : b.raw.detached.active = true
  txSn : ∃ tx, b.raw.detached.txSn = bit tx
  rxNesn : b.raw.detached.rxNesn = bit (number first (start + n + 1))
  headset : b.headset.pdu = start + n ∨ b.headset.pdu = start + n + 1
  late : ∀ r ∈ b.replies, start + n ≤ r.pdu
  asked : b.sent.header = 0 ∨ nesnBit b.sent.header = b.raw.detached.rxNesn ∨
    b.headset.pdu = start + n ∧ nesnBit b.sent.header = bit (number first (start + n))
  tagged : Tagged 0 b.raw.detached.header b.sent.header (b.replies.map (·.sent.header))
  consumed : b.consumed = (List.range' start (n + 1)).map fun i => (i, (pdus i).content)
  actions : b.actions = b.consumed.flatMap fun p => pduActions p.2

/-- The invariant of the link. -/
def DetachedLink.Sound (pdus : Nat → HeadsetPdu) (first : Bool) (b : DetachedLink) : Prop :=
  Offered pdus first b ∧ (Waiting first b ∨ ∃ start n, Delivering pdus first start n b)

/-! The steps. -/

/-- What a new event carries: nothing, or what the receiver asks for. -/
theorem source_spec (b : DetachedLink) (source : ParentSource) :
    (b.source source).2.detached = b.raw.detached ∧ (b.source source).1.length = 0 ∧
      ((b.source source).1.header = 0 ∨ (b.source source).1.header =
        if b.raw.detached.active then b.raw.detached.header else 1) := by
  cases source with
  | none => exact ⟨rfl, rfl, .inl rfl⟩
  | ackHeader =>
      refine ⟨rfl, rfl, ?_⟩
      cases hactive : b.raw.detached.active with
      | true => exact .inr rfl
      | false =>
          left
          simp [DetachedLink.source, ParentAck.header, hactive]
  | airPdu =>
      unfold DetachedLink.source RawLlcp.detachedParentAirPdu
      simp only
      split
      · split
        · exact ⟨rfl, rfl, .inr rfl⟩
        · split
          · exact ⟨rfl, rfl, .inr rfl⟩
          · exact ⟨rfl, rfl, .inl rfl⟩
      · exact ⟨rfl, rfl, .inl rfl⟩

/-- Off the detached path nothing is consumed and no action issued. -/
theorem receiveAirControl_cases (s : RawLlcp) (k : Controller) (rx : AirControlRx)
    (sent : ParentPdu) :
    (∃ ok s', s.receiveAirControl k rx sent = (ok, s', []) ∧ s'.detached = s.detached) ∨
      s.receiveAirControl k rx sent = s.receiveDetached rx sent := by
  unfold RawLlcp.receiveAirControl
  split
  · exact .inl ⟨_, _, rfl, rfl⟩
  split
  · exact .inr rfl
  simp only
  split
  · exact .inl ⟨_, _, rfl, rfl⟩
  split
  · split
    · refine .inl ⟨_, _, rfl, ?_⟩
      unfold RawLlcp.receiveE1
      simp only
      split
      · rfl
      · split <;> rfl
    · exact .inl ⟨_, _, rfl, rfl⟩
  split
  · exact .inl ⟨_, _, rfl, rfl⟩
  · exact .inl ⟨_, _, rfl, rfl⟩

/-- An empty PDU has no action. -/
theorem emptyShape_actions {rx : AirControlRx}
    (h : emptyShape rx.header rx.length.toUInt32 = true) : pduActions rx.content = [] := by
  unfold emptyShape at h
  simp only [Bool.and_eq_true, beq_iff_eq] at h
  unfold AirControlRx.content
  rw [h.1]
  simp [pduActions]

/-- On the detached path a consumed PDU, and no other, causes its action. -/
theorem receiveDetached_spec (s : RawLlcp) (rx : AirControlRx) (sent : ParentPdu)
    (hzero : sent.length = 0) :
    ∃ ok, AckMove s.detached rx.header (some rx.payload.toList) rx.length.toUInt32 sent.header ok
        (s.receiveDetached rx sent).2.1.detached ∧
      (s.receiveDetached rx sent).2.2 =
        if s.detached.counted (s.receiveDetached rx sent).2.1.detached then pduActions rx.content
        else [] := by
  unfold RawLlcp.receiveDetached
  rw [hzero]
  have hmove := s.detached.receive_move rx.header (some rx.payload.toList) rx.length.toUInt32
    sent.header
  change ∃ ok, AckMove _ _ _ _ _ ok (s.detached.receive _ _ _ _ 0).2 ∧
    (if (s.detached.receive _ _ _ _ 0).1 && (s.detached.receive _ _ _ _ 0).2.accepted !=
      s.detached.accepted then _ else _) = if s.detached.counted (s.detached.receive _ _ _ _ 0).2
        then _ else _
  refine ⟨_, hmove, ?_⟩
  generalize s.detached.receive rx.header (some rx.payload.toList) rx.length.toUInt32 sent.header 0 =
    result at hmove
  obtain ⟨ok, s'⟩ := result
  simp only at hmove ⊢
  have hquiet (ha : s'.accepted = s.detached.accepted) (he : s'.empty = s.detached.empty) :
      (if (ok && s'.accepted != s.detached.accepted) = true then RawLlcp.controlAction rx else []) =
        if s.detached.counted s' = true then pduActions rx.content else [] := by
    simp [ParentAck.counted, ha, he]
  have hcounted (hok : ok = true) (hcount :
      emptyShape rx.header rx.length.toUInt32 = true ∧ s'.empty = s.detached.empty + 1 ∧
          s'.accepted = s.detached.accepted ∨
        controlShape rx.header (some rx.payload.toList) rx.length.toUInt32 = true ∧
          s'.accepted = s.detached.accepted + 1 ∧ s'.empty = s.detached.empty) :
      (if (ok && s'.accepted != s.detached.accepted) = true then RawLlcp.controlAction rx else []) =
        if s.detached.counted s' = true then pduActions rx.content else [] := by
    rw [if_pos (ParentAck.counted_of_count hcount), hok]
    rcases hcount with ⟨hempty, _, ha⟩ | ⟨hcontrol, ha, _⟩
    · rw [ha, emptyShape_actions hempty]
      simp
    · rw [controlAction_eq hcontrol, ha]
      simp
  cases hmove with
  | quiet _ _ _ _ _ ha he => exact hquiet ha he
  | acked _ _ _ _ _ _ _ ha he => exact hquiet ha he
  | bootstrap _ _ _ _ _ _ hcount => exact hcounted rfl hcount
  | consumed _ _ _ _ _ _ _ hcount => exact hcounted rfl hcount

/-- A reply is taken off the queue, and the receiver makes one move. -/
structure Delivered (b : DetachedLink) (r : Reply) (b' : DetachedLink) : Prop where
  popped : b.replies = r :: b'.replies
  headset : b'.headset = b.headset
  sent : b'.sent = b.sent
  move : ∃ ok, AckMove b.raw.detached r.rx.header (some r.rx.payload.toList)
    r.rx.length.toUInt32 r.sent.header ok b'.raw.detached
  consumed : b'.consumed =
    if b.raw.detached.counted b'.raw.detached then b.consumed ++ [(r.pdu, r.rx.content)]
    else b.consumed
  actions : b'.actions = b.actions ++
    if b.raw.detached.counted b'.raw.detached then pduActions r.rx.content else []

theorem deliver_spec {b b' : DetachedLink} (h : DetachedLink.Step pdus b .deliver b')
    (hunsized : ∀ r ∈ b.replies, r.sent.length = 0) : ∃ r, Delivered b r b' := by
  unfold DetachedLink.Step DetachedLink.act at h
  simp only at h
  split at h
  · exact nomatch h
  · rename_i r replies hreplies
    have hzero : r.sent.length = 0 := hunsized r (by rw [hreplies]; exact List.mem_cons_self ..)
    simp only [Option.some.injEq] at h
    rcases receiveAirControl_cases b.raw b.controller r.rx r.sent with ⟨ok, s', heq, hsame⟩ | heq
    · rw [heq] at h
      subst h
      refine ⟨r, hreplies, rfl, rfl, ⟨ok, ?_⟩, rfl, ?_⟩
      · exact .quiet _ _ (congrArg _ hsame) (congrArg _ hsame) (congrArg _ hsame)
          (congrArg _ hsame) (congrArg _ hsame)
      · simp [ParentAck.counted, hsame]
    · rw [heq] at h
      subst h
      obtain ⟨ok, hmove, hactions⟩ := receiveDetached_spec b.raw r.rx r.sent hzero
      exact ⟨r, hreplies, rfl, rfl, ⟨ok, hmove⟩, rfl, congrArg (b.actions ++ ·) hactions⟩

theorem Offered.popped {b b' : DetachedLink} {r : Reply} (ho : Offered pdus first b)
    (hd : Delivered b r b') : Offered pdus first b' ∧ r.Carries pdus first ∧
      r.pdu ≤ b.headset.pdu ∧ ∀ r' ∈ b'.replies, r.pdu ≤ r'.pdu := by
  obtain ⟨hnum, hcarried, hsorted, hoffered, hunsized⟩ := ho
  rw [hd.popped] at hcarried hsorted hoffered
  rw [List.pairwise_cons] at hsorted
  refine ⟨⟨?_, ?_, hsorted.2, ?_, ?_⟩, hcarried r (List.mem_cons_self ..),
    hoffered r (List.mem_cons_self ..), hsorted.1⟩
  · rw [hd.headset]
    exact hnum
  · exact fun r' hr' => hcarried r' (List.mem_cons_of_mem _ hr')
  · rw [hd.headset]
    exact fun r' hr' => hoffered r' (List.mem_cons_of_mem _ hr')
  · rw [hd.sent]
    exact hunsized

theorem Offered.hear {b : DetachedLink} (ho : Offered pdus first b) (sn nesn : Bool) :
    Offered pdus first { b with headset := b.headset.hear sn nesn () } where
  numbered := ho.numbered.hear sn nesn ()
  carried := ho.carried
  sorted := ho.sorted
  offered := fun r hr => Nat.le_trans (ho.offered r hr) (b.headset.le_hear_pdu sn nesn ())
  unsized := ho.unsized

theorem Offered.reply {b : DetachedLink} (ho : Offered pdus first b) (more : Bool) :
    Offered pdus first { b with replies := b.replies ++ [b.nextReply pdus more] } := by
  obtain ⟨hnum, hcarried, hsorted, hoffered, hunsized⟩ := ho
  refine ⟨hnum, ?_, ?_, ?_, hunsized⟩
  · intro r hr
    rcases List.mem_append.mp hr with hr | hr
    · exact hcarried r hr
    · rw [List.mem_singleton.mp hr]
      refine ⟨⟨b.headset.nesn, more, ?_⟩, hunsized⟩
      change (pdus b.headset.pdu).received b.headset.nesn b.headset.sn more = _
      rw [show b.headset.sn = number first b.headset.pdu from hnum]
      rfl
  · rw [List.pairwise_append]
    refine ⟨hsorted, List.pairwise_singleton _ _, fun r hr r' hr' => ?_⟩
    rw [List.mem_singleton.mp hr']
    exact hoffered r hr
  · intro r hr
    rcases List.mem_append.mp hr with hr | hr
    · exact hoffered r hr
    · rw [List.mem_singleton.mp hr]
      exact Nat.le_refl _

theorem header_active {s : ParentAck} (hactive : s.active = true) {tx rx : Bool}
    (htx : s.txSn = bit tx) (hrx : s.rxNesn = bit rx) : s.header = ackHeader tx rx := by
  unfold ParentAck.header ackHeader
  rw [if_pos hactive, htx, hrx]

/-! Before the bootstrap. -/

theorem Waiting.begin {b : DetachedLink} (hw : Waiting first b) (source : ParentSource) :
    Waiting first { b with raw := (b.source source).2, sent := (b.source source).1 } := by
  obtain ⟨hdetached, _, hheader⟩ := source_spec b source
  rw [hw.inactive] at hheader
  refine ⟨?_, hheader, hw.tags, hw.near, hw.nothing⟩
  change (b.source source).2.detached.active = false
  rw [hdetached]
  exact hw.inactive

/-- A poll before the bootstrap asks for number 0. -/
theorem Waiting.hear {b : DetachedLink} (hw : Waiting first b) (hnum : b.headset.Numbered first)
    (hsent : b.sent.header ≠ 0) : Waiting first { b with
      headset := b.headset.hear (snBit b.sent.header == 1) (nesnBit b.sent.header == 1) () } := by
  have hpoll : (nesnBit b.sent.header == 1) = false := by
    rw [hw.polled.resolve_left hsent]
    decide
  rw [hpoll]
  refine ⟨hw.inactive, hw.polled, hw.tags, fun r hr => ?_, hw.nothing⟩
  unfold Endpoint.hear
  cases hsn : b.headset.sn with
  | false => exact hw.near r hr
  | true =>
      -- the headset moves on to a PDU numbered 0
      have hn : number first b.headset.pdu = true := by
        rw [← hsn]
        exact hnum.symm
      rcases hw.near r hr with heq | ⟨_, hn'⟩
      · refine .inr ⟨?_, ?_⟩
        · simp [heq]
        · simp [hn]
      · rw [hn] at hn'
        exact nomatch hn'

theorem Waiting.reply {b : DetachedLink} (hw : Waiting first b) (more : Bool) :
    Waiting first { b with replies := b.replies ++ [b.nextReply pdus more] } := by
  refine ⟨hw.inactive, hw.polled, fun r hr => ?_, fun r hr => ?_, hw.nothing⟩
  · rcases List.mem_append.mp hr with hr | hr
    · exact hw.tags r hr
    · rw [List.mem_singleton.mp hr]
      exact hw.polled
  · rcases List.mem_append.mp hr with hr | hr
    · exact hw.near r hr
    · rw [List.mem_singleton.mp hr]
      exact .inl rfl

/-- The first PDU consumed starts the delivery. -/
theorem Waiting.bootstrap {b b' : DetachedLink} {r : Reply} (hw : Waiting first b)
    (ho : Offered pdus first b) (hd : Delivered b r b') (hactive : b'.raw.detached.active = true)
    (htx : b'.raw.detached.txSn = nesnBit r.rx.header)
    (hrx : b'.raw.detached.rxNesn = snBit r.rx.header ^^^ 1)
    (hcounted : b.raw.detached.counted b'.raw.detached = true) :
    Delivering pdus first r.pdu 0 b' := by
  obtain ⟨_, ⟨⟨nesn, more, hcarries⟩, _⟩, _, hlate⟩ := ho.popped hd
  have hbits := pduHeader_bits (pdus r.pdu).llid nesn (number first r.pdu) more
  have hheader : r.rx.header = pduHeader (pdus r.pdu).llid nesn (number first r.pdu) more := by
    rw [hcarries]
    rfl
  rw [hheader, hbits.2.1] at htx
  rw [hheader, hbits.1, bit_xor, ← number_succ] at hrx
  have hcurrent := header_active hactive htx hrx
  have hmem : r ∈ b.replies := by
    rw [hd.popped]
    exact List.mem_cons_self ..
  have hpdu : b'.headset.pdu = r.pdu ∨ b'.headset.pdu = r.pdu + 1 ∧ number first (r.pdu + 1) = false := by
    rw [hd.headset]
    rcases hw.near r hmem with h | ⟨h, hn⟩
    · exact .inl h.symm
    · exact .inr ⟨h.symm, h ▸ hn⟩
  refine ⟨hactive, ⟨nesn, htx⟩, hrx, hpdu.imp_right (·.1), hlate, ?_, ?_, ?_, ?_⟩
  · rw [hd.sent, hrx]
    rcases hw.polled with h | h
    · exact .inl h
    · rw [h]
      cases hn : number first (r.pdu + 1) with
      | false => exact .inr (.inl rfl)
      | true =>
          refine .inr (.inr ⟨?_, ?_⟩)
          · rcases hpdu with h | ⟨_, h⟩
            · exact h
            · rw [hn] at h
              exact nomatch h
          · rw [number_succ, Bool.not_eq_true'] at hn
            rw [Nat.add_zero, hn]
            rfl
  · -- the polls still in flight count as current if they happen to carry the current header
    rw [hd.sent, hcurrent]
    have htags (t : UInt8) (ht : t ∈ b'.replies.map (·.sent.header)) : t = 0 ∨ t = 1 := by
      obtain ⟨r', hr', rfl⟩ := List.mem_map.mp ht
      exact hw.tags r' (by rw [hd.popped]; exact List.mem_cons_of_mem _ hr')
    by_cases hone : ackHeader nesn (number first (r.pdu + 1)) = 1
    · rw [hone]
      exact ⟨[], _, rfl, by simp, fun t ht => (htags t ht).symm, by
        rcases hw.polled with h | h
        · exact .inr (.inl h)
        · exact .inl h⟩
    · refine tagged_outdated fun t ht heq => ?_
      rcases htags t ht with rfl | rfl
      · exact ackHeader_ne_zero _ _ heq.symm
      · exact hone heq.symm
  · rw [hd.consumed, if_pos hcounted, hw.nothing.1, hcarries, received_content]
    rfl
  · rw [hd.actions, hd.consumed, if_pos hcounted, if_pos hcounted, hw.nothing.1, hw.nothing.2]
    simp

/-! After the bootstrap. -/

variable {start n : Nat}

theorem Delivering.begin {b : DetachedLink} (hd : Delivering pdus first start n b)
    (source : ParentSource) :
    Delivering pdus first start n
      { b with raw := (b.source source).2, sent := (b.source source).1 } := by
  obtain ⟨hdetached, _, hheader⟩ := source_spec b source
  rw [hd.active, if_pos rfl] at hheader
  obtain ⟨hactive, ⟨tx, htx⟩, hrx, hheadset, hlate, _, htagged, hconsumed, hactions⟩ := hd
  have hcurrent := header_active hactive htx hrx
  refine ⟨?_, ⟨tx, ?_⟩, ?_, hheadset, hlate, ?_, ?_, hconsumed, hactions⟩
  · change (b.source source).2.detached.active = true
    rw [hdetached]
    exact hactive
  · change (b.source source).2.detached.txSn = _
    rw [hdetached]
    exact htx
  · change (b.source source).2.detached.rxNesn = _
    rw [hdetached]
    exact hrx
  · refine hheader.imp_right fun h => .inl ?_
    change nesnBit (b.source source).1.header = (b.source source).2.detached.rxNesn
    rw [hdetached, h, hcurrent, nesnBit_ackHeader, hrx]
  · change Tagged 0 (b.source source).2.detached.header (b.source source).1.header _
    rw [hdetached]
    exact htagged.send hheader.symm

theorem bit_beq_one (b : Bool) : (bit b == 1) = b := by
  cases b <;> decide

theorem Delivering.hear {b : DetachedLink} (hd : Delivering pdus first start n b)
    (hnum : b.headset.Numbered first) (hsent : b.sent.header ≠ 0) :
    Delivering pdus first start n { b with
      headset := b.headset.hear (snBit b.sent.header == 1) (nesnBit b.sent.header == 1) () } := by
  obtain ⟨hactive, htx, hrx, hheadset, hlate, hasked, htagged, hconsumed, hactions⟩ := hd
  rcases hasked.resolve_left hsent with hask | ⟨hpdu, hask⟩
  · -- the receiver asks for the next PDU
    have hmoved : (b.headset.hear (snBit b.sent.header == 1) (nesnBit b.sent.header == 1) ()).pdu =
        start + n + 1 := by
      rw [hask, hrx, bit_beq_one]
      exact hnum.hear_asked (hheadset.symm.imp_right (congrArg (· + 1))) _ _
    exact ⟨hactive, htx, hrx, .inr hmoved, hlate, .inr (.inl hask), htagged, hconsumed, hactions⟩
  · -- an outdated header asks for the PDU the headset holds
    have hstays : (b.headset.hear (snBit b.sent.header == 1) (nesnBit b.sent.header == 1) ()).pdu =
        start + n := by
      rw [hask, bit_beq_one]
      exact hnum.hear_asked (.inl hpdu) _ _
    exact ⟨hactive, htx, hrx, .inl hstays, hlate, .inr (.inr ⟨hstays, hask⟩), htagged, hconsumed,
      hactions⟩

theorem Delivering.reply {b : DetachedLink} (hd : Delivering pdus first start n b) (more : Bool) :
    Delivering pdus first start n { b with replies := b.replies ++ [b.nextReply pdus more] } := by
  obtain ⟨hactive, htx, hrx, hheadset, hlate, hasked, htagged, hconsumed, hactions⟩ := hd
  refine ⟨hactive, htx, hrx, hheadset, fun r hr => ?_, hasked, ?_, hconsumed, hactions⟩
  · rcases List.mem_append.mp hr with hr | hr
    · exact hlate r hr
    · rw [List.mem_singleton.mp hr]
      change start + n ≤ b.headset.pdu
      omega
  · rw [List.map_append]
    exact htagged.push

/-- A reply that consumes nothing leaves the delivery where it is. -/
theorem Delivering.unconsumed {b b' : DetachedLink} {r : Reply}
    (hd : Delivering pdus first start n b) (hpop : Delivered b r b')
    (hactive : b'.raw.detached.active = true) {tx : Bool}
    (htx : b'.raw.detached.txSn = bit tx)
    (hrx : b'.raw.detached.rxNesn = b.raw.detached.rxNesn)
    (hcounted : b.raw.detached.counted b'.raw.detached = false)
    (htagged : Tagged 0 b'.raw.detached.header b.sent.header (b'.replies.map (·.sent.header))) :
    Delivering pdus first start n b' := by
  refine ⟨hactive, ⟨tx, htx⟩, hrx.trans hd.rxNesn, ?_, ?_, ?_, ?_, ?_, ?_⟩
  · rw [hpop.headset]
    exact hd.headset
  · exact fun r' hr' => hd.late r' (by rw [hpop.popped]; exact List.mem_cons_of_mem _ hr')
  · rw [hpop.sent, hpop.headset, hrx]
    exact hd.asked
  · rw [hpop.sent]
    exact htagged
  · rw [hpop.consumed, hcounted]
    exact hd.consumed
  · rw [hpop.actions, hpop.consumed, hcounted]
    simpa using hd.actions

/-- The next PDU is consumed. -/
theorem Delivering.next {b b' : DetachedLink} {r : Reply} (hd : Delivering pdus first start n b)
    (ho : Offered pdus first b) (hpop : Delivered b r b')
    (hsent : r.sent.header = b.raw.detached.header)
    (hnew : snBit r.rx.header = b.raw.detached.rxNesn)
    (hactive' : b'.raw.detached.active = true)
    (htx' : b'.raw.detached.txSn = b.raw.detached.txSn ∨
      b'.raw.detached.txSn = b.raw.detached.txSn ^^^ 1)
    (hrx' : b'.raw.detached.rxNesn = b.raw.detached.rxNesn ^^^ 1)
    (hcounted : b.raw.detached.counted b'.raw.detached = true) :
    Delivering pdus first start (n + 1) b' := by
  obtain ⟨_, ⟨⟨nesn, more, hcarries⟩, _⟩, hoffered, hlate'⟩ := ho.popped hpop
  obtain ⟨hactive, ⟨tx, htx⟩, hrx, hheadset, hlate, hasked, htagged, hconsumed, hactions⟩ := hd
  have hcurrent := header_active hactive htx hrx
  obtain ⟨tx', htx'⟩ : ∃ tx', b'.raw.detached.txSn = bit tx' := by
    rcases htx' with h | h
    · exact ⟨tx, h.trans htx⟩
    · exact ⟨!tx, by rw [h, htx, bit_xor]⟩
  rw [hrx, bit_xor, ← number_succ] at hrx'
  have hcurrent' := header_active hactive' htx' hrx'
  -- its number is the one the receiver expects, so it is the PDU after the last one consumed
  have hpdu : r.pdu = start + n + 1 := by
    have hsn : snBit r.rx.header = bit (number first r.pdu) := by
      rw [hcarries]
      exact (pduHeader_bits ..).1
    have hnumber : number first r.pdu = number first (start + n + 1) :=
      bit_inj (hsn.symm.trans (hnew.trans hrx))
    have hge := hlate r (by rw [hpop.popped]; exact List.mem_cons_self ..)
    have hne : r.pdu ≠ start + n := fun h =>
      number_ne_succ first (start + n) (h ▸ hnumber)
    omega
  have hmoved : b.headset.pdu = start + n + 1 := by omega
  have hheader : b'.raw.detached.header ≠ b.raw.detached.header := by
    rw [hcurrent, hcurrent']
    exact fun h => number_ne_succ first (start + n + 1) (ackHeader_inj h).2.symm
  rw [hpop.popped, List.map_cons, hsent] at htagged
  refine ⟨hactive', ⟨tx', htx'⟩, hrx', ?_, ?_, ?_, ?_, ?_, ?_⟩
  · rw [hpop.headset]
    exact .inl hmoved
  · exact fun r' hr' => by
      have := hlate' r' hr'
      omega
  · rw [hpop.sent, hpop.headset]
    rcases htagged.arrived.2 with h | h
    · refine .inr (.inr ⟨hmoved, ?_⟩)
      rw [h, hcurrent, nesnBit_ackHeader]
      rfl
    · exact .inl h
  · rw [hpop.sent]
    exact htagged.advance hheader (hcurrent' ▸ ackHeader_ne_zero _ _)
  · have hrange : List.range' start (n + 1 + 1) = List.range' start (n + 1) ++ [r.pdu] := by
      rw [List.range'_concat, hpdu, Nat.one_mul, Nat.add_assoc]
    rw [hpop.consumed, if_pos hcounted, hconsumed, hcarries, received_content, hrange,
      List.map_append]
    rfl
  · rw [hpop.actions, hpop.consumed, if_pos hcounted, if_pos hcounted, hactions,
      List.flatMap_append]
    simp

theorem Delivering.deliver {b b' : DetachedLink} {r : Reply} (hd : Delivering pdus first start n b)
    (ho : Offered pdus first b) (hpop : Delivered b r b') :
    ∃ m, Delivering pdus first start m b' := by
  obtain ⟨tx, htx⟩ := hd.txSn
  have htagged := hd.tagged
  rw [hpop.popped, List.map_cons] at htagged
  obtain ⟨ok, hmove⟩ := hpop.move
  have hquiet (ha : b'.raw.detached.accepted = b.raw.detached.accepted)
      (he : b'.raw.detached.empty = b.raw.detached.empty) :
      b.raw.detached.counted b'.raw.detached = false := by
    simp [ParentAck.counted, ha, he]
  cases hmove with
  | quiet _ _ hactive htx' hrx ha he =>
      have hheader : b'.raw.detached.header = b.raw.detached.header := by
        simp only [ParentAck.header, hactive, htx', hrx]
      exact ⟨n, hd.unconsumed hpop (hactive.trans hd.active) (htx'.trans htx) hrx (hquiet ha he)
        (hheader ▸ htagged.pop)⟩
  | acked _ _ hactive hsent hactive' htx' hrx ha he =>
      rw [htx, bit_xor] at htx'
      have hcurrent := header_active hactive htx hd.rxNesn
      have hcurrent' := header_active hactive' htx' (hrx.trans hd.rxNesn)
      have hheader : b'.raw.detached.header ≠ b.raw.detached.header := by
        rw [hcurrent, hcurrent']
        intro h
        have := (ackHeader_inj h).1
        cases tx <;> exact nomatch this
      rw [hsent] at htagged
      exact ⟨n, hd.unconsumed hpop hactive' htx' hrx (hquiet ha he)
        (htagged.advance hheader (hcurrent' ▸ ackHeader_ne_zero _ _))⟩
  | bootstrap _ hactive _ _ _ _ _ =>
      rw [hd.active] at hactive
      exact nomatch hactive
  | consumed _ _ hsent hnew hactive' htx' hrx' hcount =>
      exact ⟨n + 1, hd.next ho hpop hsent hnew hactive' htx' hrx'
        (ParentAck.counted_of_count hcount)⟩

theorem Waiting.deliver {b b' : DetachedLink} {r : Reply} (hw : Waiting first b)
    (ho : Offered pdus first b) (hpop : Delivered b r b') :
    Waiting first b' ∨ ∃ start m, Delivering pdus first start m b' := by
  obtain ⟨ok, hmove⟩ := hpop.move
  cases hmove with
  | quiet _ _ hactive htx' hrx ha he =>
      have hcounted : b.raw.detached.counted b'.raw.detached = false := by
        simp [ParentAck.counted, ha, he]
      have hsub (r' : Reply) (hr' : r' ∈ b'.replies) : r' ∈ b.replies := by
        rw [hpop.popped]
        exact List.mem_cons_of_mem _ hr'
      refine .inl ⟨hactive.trans hw.inactive, ?_, fun r' hr' => hw.tags r' (hsub r' hr'), ?_, ?_⟩
      · rw [hpop.sent]
        exact hw.polled
      · rw [hpop.headset]
        exact fun r' hr' => hw.near r' (hsub r' hr')
      · rw [hpop.consumed, hpop.actions, hcounted, hw.nothing.2]
        exact ⟨hw.nothing.1, rfl⟩
  | acked _ _ hactive _ _ _ _ _ _ =>
      rw [hw.inactive] at hactive
      exact nomatch hactive
  | bootstrap _ _ _ hactive' htx hrx hcount =>
      exact .inr ⟨r.pdu, 0, hw.bootstrap ho hpop hactive' htx hrx
        (ParentAck.counted_of_count hcount)⟩
  | consumed _ hactive _ _ _ _ _ _ =>
      rw [hw.inactive] at hactive
      exact nomatch hactive

theorem sound_step {b b' : DetachedLink} {a : DetachedAction} (hb : b.Sound pdus first)
    (h : DetachedLink.Step pdus b a b') : b'.Sound pdus first := by
  obtain ⟨ho, hphase⟩ := hb
  cases a with
  | begin source =>
      cases h
      refine ⟨⟨ho.numbered, ho.carried, ho.sorted, ho.offered, (source_spec b source).2.1⟩, ?_⟩
      exact hphase.imp (·.begin source) fun ⟨start, n, hd⟩ => ⟨start, n, hd.begin source⟩
  | hear =>
      unfold DetachedLink.Step DetachedLink.act at h
      simp only at h
      split at h
      · exact nomatch h
      · rename_i hsent
        cases h
        refine ⟨ho.hear _ _, ?_⟩
        exact hphase.imp (·.hear ho.numbered hsent)
          fun ⟨start, n, hd⟩ => ⟨start, n, hd.hear ho.numbered hsent⟩
  | reply more =>
      cases h
      exact ⟨ho.reply more, hphase.imp (·.reply more)
        fun ⟨start, n, hd⟩ => ⟨start, n, hd.reply more⟩⟩
  | deliver =>
      obtain ⟨r, hpop⟩ := deliver_spec h fun r hr => (ho.carried r hr).2
      refine ⟨(ho.popped hpop).1, ?_⟩
      rcases hphase with hw | ⟨start, n, hd⟩
      · exact hw.deliver ho hpop
      · obtain ⟨m, hm⟩ := hd.deliver ho hpop
        exact .inr ⟨start, m, hm⟩
  | environment raw controller =>
      unfold DetachedLink.Step DetachedLink.act at h
      simp only at h
      split at h
      · rename_i hsame
        cases h
        refine ⟨⟨ho.numbered, ho.carried, ho.sorted, ho.offered, ho.unsized⟩, ?_⟩
        refine hphase.imp (fun hw => ?_) fun ⟨start, n, hd⟩ => ⟨start, n, ?_⟩
        · exact ⟨hsame ▸ hw.inactive, hw.polled, hw.tags, hw.near, hw.nothing⟩
        · exact ⟨hsame ▸ hd.active, hsame ▸ hd.txSn, hsame ▸ hd.rxNesn, hd.headset, hd.late,
            hsame ▸ hd.asked, hsame ▸ hd.tagged, hd.consumed, hd.actions⟩
      · exact nomatch h

/-- The detached link over every run from a reset.  The PDUs consumed are a stretch of the headset's
sequence, each once and in order; from its first one on the headset has given up none that was not
consumed; and the USB actions are those of the PDUs consumed. -/
theorem detachedLink_exactlyOnce {raw : RawLlcp} {controller : Controller}
    {headset : Endpoint Unit} {trace : List DetachedAction} {b : DetachedLink}
    (hrun : Run (DetachedLink.Step pdus) (DetachedLink.init raw controller headset) trace b) :
    ∃ start, b.consumed =
        (List.range' start b.consumed.length).map (fun i => (i, (pdus i).content)) ∧
      (b.consumed ≠ [] → b.headset.pdu ≤ start + b.consumed.length) ∧
      b.actions = b.consumed.flatMap fun p => pduActions p.2 := by
  let first := headset.sn ^^ headset.pdu.bodd
  have hinit : (DetachedLink.init raw controller headset).Sound pdus first := by
    refine ⟨⟨?_, ?_, .nil, ?_, rfl⟩, .inl ⟨rfl, .inl rfl, ?_, ?_, rfl, rfl⟩⟩
    · change headset.sn = number first headset.pdu
      simp [number, first]
    all_goals exact fun r hr => nomatch hr
  obtain ⟨_, hw | ⟨start, n, hd⟩⟩ := hrun.invariant _ hinit fun _ _ _ hb h => sound_step hb h
  · refine ⟨0, ?_, fun h => absurd hw.nothing.1 h, ?_⟩
    · rw [hw.nothing.1]
      rfl
    · rw [hw.nothing.1, hw.nothing.2]
      rfl
  · have hlen : b.consumed.length = n + 1 := by
      rw [hd.consumed, List.length_map, List.length_range']
    refine ⟨start, ?_, fun _ => ?_, hd.actions⟩
    · rw [hlen]
      exact hd.consumed
    · rw [hlen]
      have := hd.headset
      omega

/-- A controller without connections. -/
def idleController : Controller where
  llcEnv := 0
  lldEnv := 0
  llc := fun _ => { queued := false, flags := 0 }
  lld := fun _ =>
    { arbitrationHs := 0, arbitrationHus := 0, descriptor := false, anchorHs := 0, intervalHs := 0
      eventsPending := 0, flags := 0, csIndex := 0 }
  cs := fun _ _ => 0
  eventCounter := 0
  timeUs := 0

/-- The statics once both streams run and the native connection is retired. -/
def retiredRaw : RawLlcp where
  handedOff := false
  e1Expected := false
  e0Counter := 0
  e0SentUs := 0
  sentE0 := Vector.replicate 39 0
  receivedE1 := Vector.replicate 9 0
  originAnchor := { hs := 0, intervalHs := 0, hus := 0, eventCounter := 0 }
  preparedPlan :=
    { startHs := 0, startHus := 0, aclInstant := 0, eventCounter := 0, accessAddress := 0
      offsetUs := 0, e2 := Vector.replicate 68 0 }
  sessionLlc := 0
  sessionLld := 0
  e1Received := true
  sessionPrepared := false
  e2Confirmed := true
  committedLlc := 0
  committedLld := 0
  secondAvailable := false
  airParent := .zero
  parentRetired := true
  detachedStereo := true
  detached := .reset
  controlProbeFrames := 0
  controlAutoPoll := true

/-- A volume click, then play or pause for ever. -/
def clickThenPlay (i : Nat) : HeadsetPdu :=
  if i = 0 then { llid := 2, payload := [6, 0, 1, 1, 10, 1, 0, 1, 0, 2], short := by decide }
  else { llid := 2, payload := [2, 0, 1, 1, 13, 2], short := by decide }

theorem detachedLink_exactlyOnce_click :
    ∃ b, Run (DetachedLink.Step clickThenPlay)
        (DetachedLink.init retiredRaw idleController ⟨true, false, 0, []⟩)
        [.reply false, .deliver, .begin .airPdu, .hear, .reply true, .deliver] b ∧
      b.actions = [.volumeUp, .playPause] ∧
      ∃ start, b.consumed =
        (List.range' start b.consumed.length).map (fun i => (i, (clickThenPlay i).content)) := by
  have h : (([.reply false, .deliver, .begin .airPdu, .hear, .reply true, .deliver] :
      List DetachedAction).foldlM (DetachedLink.act clickThenPlay)
        (DetachedLink.init retiredRaw idleController ⟨true, false, 0, []⟩)).map (·.actions) =
      some [.volumeUp, .playPause] := by
    decide
  obtain ⟨b, hb, hactions⟩ := Option.map_eq_some_iff.mp h
  have hrun := Run.of_foldlM hb
  obtain ⟨start, hconsumed, _⟩ := detachedLink_exactlyOnce hrun
  exact ⟨b, hrun, hactions, start, hconsumed⟩

end UllReceiver.Parent
