import UllReceiver.Parent.ParentAck

/-!
# The counts of the parent acknowledgement

What one call of `ull_parent_ack_receive` counts, and what the sequence bits have to do with the
counts after any calls.
-/

namespace UllReceiver.Parent

/-- The arguments of `ull_parent_ack_receive`; `payload` is `none` for the null pointer. -/
structure AckCall where
  header : UInt8
  payload : Option (List UInt8)
  length : UInt32
  sent : UInt8
  sentLength : UInt32

def ParentAck.call (s : ParentAck) (c : AckCall) : Bool × ParentAck :=
  s.receive c.header c.payload c.length c.sent c.sentLength

/-- The state after the calls, oldest first. -/
def ParentAck.calls (s : ParentAck) (cs : List AckCall) : ParentAck :=
  cs.foldl (fun s c => (s.call c).2) s

/-- The counters of which a call increments one. -/
inductive AckVerdict
  | accepted
  | duplicate
  | empty
  | rejected
  | stale
deriving DecidableEq

/-- The calls that return true. -/
def AckVerdict.good : AckVerdict → Bool
  | .accepted | .duplicate | .empty => true
  | .rejected | .stale => false

def ParentAck.note (s : ParentAck) : AckVerdict → ParentAck
  | .accepted => { s with accepted := s.accepted + 1 }
  | .duplicate => { s with duplicates := s.duplicates + 1 }
  | .empty => { s with empty := s.empty + 1 }
  | .rejected => { s with rejected := s.rejected + 1 }
  | .stale => { s with stale := s.stale + 1 }

/-- The counter of a verdict. -/
def ParentAck.counter (s : ParentAck) : AckVerdict → UInt32
  | .accepted => s.accepted
  | .duplicate => s.duplicates
  | .empty => s.empty
  | .rejected => s.rejected
  | .stale => s.stale

/-- The header test, and those of the length and the pointer beside it. -/
def AckCall.Malformed (c : AckCall) : Prop :=
  c.header &&& 0xe0 ≠ 0 ∨ c.header &&& 3 = 0 ∨ c.length > 60 ∨
    (c.length ≠ 0 ∧ c.payload.isNone)

/-- An exact scalar: the wheel, a media key or the microphone switch, in a start PDU with the L2CAP
header of the control channel. -/
def ExactScalar (h : UInt8) (n : UInt32) (b : Nat → UInt8) : Prop :=
  h &&& 3 = 2 ∧ b 1 = 0 ∧ b 2 = 1 ∧ b 3 = 1 ∧
    (n = 10 ∧ b 0 = 6 ∧ b 4 = 10 ∧ b 5 = 1 ∧ b 6 = 0 ∧ b 8 = 0 ∧
        ((b 7 = 1 ∨ b 7 = 2) ∧ b 9 = 2 ∨ b 7 = 3 ∧ b 9 ≤ 100) ∨
      n = 6 ∧ b 0 = 2 ∧ b 4 = 13 ∨
      n = 7 ∧ b 0 = 3 ∧ (b 4 = 5 ∨ b 4 = 6) ∧ b 5 = 2 ∧ b 6 = 0)

/-- What a call does, by its reasons. -/
inductive AckDone (s : ParentAck) (c : AckCall) : Bool → ParentAck → Prop
  | malformed (h : c.Malformed) : AckDone s c false (s.note .rejected)
  | refused (hsound : ¬ c.Malformed) (hactive : s.active = false) :
      AckDone s c false (s.note .rejected)
  | first (v : AckVerdict) (hsound : ¬ c.Malformed) (hactive : s.active = false)
      (hv : v = .empty ∧ emptyShape c.header c.length = true ∨
        v = .accepted ∧ controlShape c.header c.payload c.length = true) :
      AckDone s c true
        ({ s with active := true, txSn := nesnBit c.header, rxNesn := snBit c.header ^^^ 1 }.note v)
  | stale (hsound : ¬ c.Malformed) (hactive : s.active = true) : AckDone s c false (s.note .stale)
  | duplicate (hsound : ¬ c.Malformed) (hactive : s.active = true)
      (hold : snBit c.header ≠ s.rxNesn) :
      AckDone s c true ((s.acknowledge c.header).note .duplicate)
  | unknown (hsound : ¬ c.Malformed) (hactive : s.active = true)
      (hempty : emptyShape c.header c.length = false)
      (hcontrol : controlShape c.header c.payload c.length = false) :
      AckDone s c false ((s.acknowledge c.header).note .rejected)
  | next (v : AckVerdict) (hsound : ¬ c.Malformed) (hactive : s.active = true)
      (hv : v = .empty ∧ emptyShape c.header c.length = true ∨
        v = .accepted ∧ controlShape c.header c.payload c.length = true) :
      AckDone s c true
        ({ s.acknowledge c.header with rxNesn := s.rxNesn ^^^ 1 }.note v)

theorem ParentAck.acknowledge_eq (s : ParentAck) (h : UInt8) :
    ∃ tx acked, s.acknowledge h = { s with txSn := tx, acked := acked } ∧
      (tx = s.txSn ∧ acked = s.acked ∨ tx = s.txSn ^^^ 1 ∧ acked = s.acked + 1) := by
  unfold ParentAck.acknowledge
  split
  · exact ⟨_, _, rfl, .inr ⟨rfl, rfl⟩⟩
  · exact ⟨_, _, rfl, .inl ⟨rfl, rfl⟩⟩

theorem ParentAck.call_done (s : ParentAck) (c : AckCall) :
    AckDone s c (s.call c).1 (s.call c).2 := by
  unfold ParentAck.call ParentAck.receive
  dsimp only
  split
  · next h => exact .malformed h
  next hsound =>
  by_cases hactive : s.active = true
  · rw [if_neg (by rw [hactive]; decide)]
    split
    · exact .stale hsound hactive
    unfold ParentAck.consume
    obtain ⟨tx, acked, hack, -⟩ := s.acknowledge_eq c.header
    have hrx : (s.acknowledge c.header).rxNesn = s.rxNesn := by
      rw [hack]
    split
    · next hold => exact .duplicate hsound hactive (by rw [← hrx]; exact hold)
    split
    · next hunknown =>
      simp only [Bool.and_eq_true, Bool.not_eq_true'] at hunknown
      exact .unknown hsound hactive hunknown.1 hunknown.2
    · next hknown =>
      rw [hrx]
      cases hc : controlShape c.header c.payload c.length with
      | true => exact .next .accepted hsound hactive (.inr ⟨rfl, hc⟩)
      | false =>
        refine .next .empty hsound hactive (.inl ⟨rfl, ?_⟩)
        simpa [hc] using hknown
  · have hoff : s.active = false := Bool.eq_false_iff.mpr hactive
    rw [if_pos (by rw [hoff]; rfl)]
    split
    · exact .refused hsound hoff
    · next hgo =>
      simp only [Bool.or_eq_true, not_or, Bool.not_eq_true'] at hgo
      cases he : emptyShape c.header c.length with
      | true => exact .first .empty hsound hoff (.inl ⟨rfl, he⟩)
      | false =>
        refine .first .accepted hsound hoff (.inr ⟨rfl, ?_⟩)
        simpa [he] using hgo.1.1.1.1

/-- Only an exact scalar has a control shape. -/
theorem controlShape_exact {h : UInt8} {p : Option (List UInt8)} {n : UInt32}
    (hshape : controlShape h p n = true) : ∃ b, p = some b ∧ ExactScalar h n (byteAt b) := by
  have hdrop : ∀ (b : List UInt8) i, byteAt (b.drop 4) i = byteAt b (4 + i) := by
    intro b i
    simp only [byteAt, List.getD_eq_getElem?_getD, List.getElem?_drop]
  cases p with
  | none => simp [controlShape, parentScalar] at hshape
  | some b =>
    refine ⟨b, rfl, ?_⟩
    simp only [controlShape, parentScalar, parentAckWheel, parentAckMedia, parentAckMic, hdrop,
      Bool.or_eq_true, Bool.and_eq_true, beq_iff_eq, decide_eq_true_eq, Nat.add_zero,
      Nat.reduceAdd] at hshape
    unfold ExactScalar
    rcases hshape with (hwheel | hmedia) | hmic
    · obtain ⟨⟨hh, hn⟩, ⟨⟨⟨h0, h1⟩, h2⟩, h3⟩, ⟨⟨⟨⟨-, h4⟩, h5⟩, h6⟩, h8⟩, hkind⟩ := hwheel
      exact ⟨hh, h1, h2, h3, .inl ⟨hn, h0, h4, h5, h6, h8, hkind⟩⟩
    · obtain ⟨⟨hh, hn⟩, ⟨⟨⟨h0, h1⟩, h2⟩, h3⟩, -, h4⟩ := hmedia
      exact ⟨hh, h1, h2, h3, .inr (.inl ⟨hn, h0, h4⟩)⟩
    · obtain ⟨⟨hh, hn⟩, ⟨⟨⟨h0, h1⟩, h2⟩, h3⟩, ⟨⟨⟨-, h4⟩, h5⟩, h6⟩⟩ := hmic
      exact ⟨hh, h1, h2, h3, .inr (.inr ⟨hn, h0, h4, h5, h6⟩)⟩

section Counting

variable {s : ParentAck} {v w : AckVerdict}

theorem ParentAck.note_counter (s : ParentAck) (v w : AckVerdict) :
    (s.note v).counter w = if w = v then s.counter w + 1 else s.counter w := by
  cases v <;> cases w <;> rfl

theorem ParentAck.note_bits (s : ParentAck) (v : AckVerdict) :
    (s.note v).active = s.active ∧ (s.note v).txSn = s.txSn ∧ (s.note v).rxNesn = s.rxNesn ∧
      (s.note v).acked = s.acked := by
  cases v <;> exact ⟨rfl, rfl, rfl, rfl⟩

end Counting

/-- One counter moves, and the rest of what a call may change depends on which and why. -/
structure AckCounted (s : ParentAck) (c : AckCall) (v : AckVerdict) : Prop where
  counters : ∀ w, (s.call c).2.counter w = if w = v then s.counter w + 1 else s.counter w
  result : (s.call c).1 = v.good
  outside : v = .stale ∨ c.Malformed → (s.call c).2 = s.note v
  unused : v = .duplicate ∨ (emptyShape c.header c.length = false ∧
    controlShape c.header c.payload c.length = false) →
    ∃ tx acked, (s.call c).2 = { s with txSn := tx, acked := acked }.note v
  scalar : v = .accepted →
    ∃ b, c.payload = some b ∧ ExactScalar c.header c.length (byteAt b)

/-- The shapes are what a PDU is consumed for. -/
theorem not_unused {c : AckCall} {v : AckVerdict}
    (hv : v = .empty ∧ emptyShape c.header c.length = true ∨
      v = .accepted ∧ controlShape c.header c.payload c.length = true) :
    ¬ (v = .duplicate ∨ (emptyShape c.header c.length = false ∧
      controlShape c.header c.payload c.length = false)) := by
  rcases hv with ⟨rfl, he⟩ | ⟨rfl, hc⟩
  · rintro (h | ⟨h, -⟩)
    · cases h
    · cases he.symm.trans h
  · rintro (h | ⟨-, h⟩)
    · cases h
    · cases hc.symm.trans h

theorem used_good {c : AckCall} {v : AckVerdict}
    (hv : v = .empty ∧ emptyShape c.header c.length = true ∨
      v = .accepted ∧ controlShape c.header c.payload c.length = true) :
    v.good = true ∧ v ≠ .stale ∧ (v = .accepted →
      ∃ b, c.payload = some b ∧ ExactScalar c.header c.length (byteAt b)) := by
  rcases hv with ⟨rfl, -⟩ | ⟨rfl, hc⟩
  · exact ⟨rfl, (fun h => nomatch h), fun h => nomatch h⟩
  · exact ⟨rfl, (fun h => nomatch h), fun _ => controlShape_exact hc⟩

theorem ParentAck.call_counted (s : ParentAck) (c : AckCall) : ∃ v, AckCounted s c v := by
  obtain ⟨tx, acked, hack, -⟩ := s.acknowledge_eq c.header
  have hcounter : ∀ w, (s.acknowledge c.header).counter w = s.counter w := by
    intro w
    rw [hack]
    cases w <;> rfl
  have hdone := s.call_done c
  generalize hcall : s.call c = r at hdone
  obtain ⟨ok, s'⟩ := r
  dsimp only at hdone
  cases hdone with
  | malformed h =>
    refine ⟨.rejected, fun w => ?_, ?_, fun _ => ?_, fun _ => ?_, fun h => nomatch h⟩ <;> rw [hcall]
    · exact s.note_counter _ w
    · rfl
    · exact ⟨s.txSn, s.acked, rfl⟩
  | refused hsound hactive =>
    refine ⟨.rejected, fun w => ?_, ?_, fun _ => ?_, fun _ => ?_, fun h => nomatch h⟩ <;> rw [hcall]
    · exact s.note_counter _ w
    · rfl
    · exact ⟨s.txSn, s.acked, rfl⟩
  | first v hsound hactive hv =>
    obtain ⟨hgood, hfresh, hscalar⟩ := used_good hv
    refine ⟨v, fun w => ?_, ?_, fun h => ?_, fun h => absurd h (not_unused hv), hscalar⟩
    · rw [hcall]
      refine (ParentAck.note_counter _ v w).trans ?_
      cases w <;> rfl
    · rw [hcall]
      exact hgood.symm
    · rcases h with h | h
      · exact absurd h hfresh
      · exact absurd h hsound
  | stale hsound hactive =>
    refine ⟨.stale, fun w => ?_, ?_, fun _ => ?_, fun _ => ?_, fun h => nomatch h⟩ <;> rw [hcall]
    · exact s.note_counter _ w
    · rfl
    · exact ⟨s.txSn, s.acked, rfl⟩
  | duplicate hsound hactive hold =>
    refine ⟨.duplicate, fun w => ?_, ?_, fun h => ?_, fun _ => ?_, fun h => nomatch h⟩
    · rw [hcall]
      refine (ParentAck.note_counter _ _ w).trans ?_
      rw [hcounter]
    · rw [hcall]
      rfl
    · rcases h with h | h
      · cases h
      · exact absurd h hsound
    · rw [hcall]
      exact ⟨tx, acked, by rw [hack]⟩
  | unknown hsound hactive hempty hcontrol =>
    refine ⟨.rejected, fun w => ?_, ?_, fun h => ?_, fun _ => ?_, fun h => nomatch h⟩
    · rw [hcall]
      refine (ParentAck.note_counter _ _ w).trans ?_
      rw [hcounter]
    · rw [hcall]
      rfl
    · rcases h with h | h
      · cases h
      · exact absurd h hsound
    · rw [hcall]
      exact ⟨tx, acked, by rw [hack]⟩
  | next v hsound hactive hv =>
    obtain ⟨hgood, hfresh, hscalar⟩ := used_good hv
    refine ⟨v, fun w => ?_, ?_, fun h => ?_, fun h => absurd h (not_unused hv), hscalar⟩
    · rw [hcall]
      refine (ParentAck.note_counter _ v w).trans ?_
      rw [hack]
      cases w <;> rfl
    · rw [hcall]
      exact hgood.symm
    · rcases h with h | h
      · exact absurd h hfresh
      · exact absurd h hsound

section Seeds

/-- A sequence bit. -/
def IsBit (b : UInt8) : Prop :=
  b = 0 ∨ b = 1

theorem IsBit.flip {b : UInt8} (h : IsBit b) : IsBit (b ^^^ 1) := by
  rcases h with rfl | rfl
  · exact .inr rfl
  · exact .inl rfl

theorem and_one_isBit (b : UInt8) : IsBit (b &&& 1) := by
  have hmod : (b &&& 1).toNat = b.toNat % 2 := by
    rw [UInt8.toNat_and]
    exact Nat.and_one_is_mod _
  rcases Nat.mod_two_eq_zero_or_one b.toNat with h | h
  · exact .inl (UInt8.toNat_inj.mp (hmod.trans h))
  · exact .inr (UInt8.toNat_inj.mp (hmod.trans h))

theorem nesnBit_isBit (h : UInt8) : IsBit (nesnBit h) :=
  and_one_isBit _

theorem snBit_isBit (h : UInt8) : IsBit (snBit h) :=
  and_one_isBit _

theorem IsBit.mod {b : UInt8} (h : IsBit b) : b.toNat = (b.toNat + 0) % 2 := by
  rcases h with rfl | rfl <;> rfl

/-- A bit flips with every count. -/
theorem IsBit.count {b seed : UInt8} {n : UInt32} (hb : IsBit b)
    (h : b.toNat = (seed.toNat + n.toNat) % 2) :
    (b ^^^ 1).toNat = (seed.toNat + (n + 1).toNat) % 2 := by
  have hn : (n + 1).toNat % 2 = (n.toNat + 1) % 2 := by
    rw [UInt32.toNat_add]
    show (n.toNat + 1) % 2 ^ 32 % 2 = _
    omega
  rcases hb with rfl | rfl
  · show 1 = _
    change 0 = _ at h
    omega
  · show 0 = _
    change 1 = _ at h
    omega

/-- The bits and the counts after the calls. -/
structure AckSeeded (cs : List AckCall) (s : ParentAck) : Prop where
  tx : IsBit s.txSn
  rx : IsBit s.rxNesn
  idle : s.active = false → s.acked = 0 ∧ s.accepted = 0 ∧ s.empty = 0
  active : s.active = true → ∃ before first after, cs = before ++ first :: after ∧
    (ParentAck.reset.calls before).active = false ∧
    ((ParentAck.reset.calls before).call first).1 = true ∧
    s.txSn.toNat = ((nesnBit first.header).toNat + s.acked.toNat) % 2 ∧
    s.rxNesn.toNat =
      ((snBit first.header ^^^ 1).toNat + (s.accepted + s.empty - 1).toNat) % 2

theorem calls_snoc (s : ParentAck) (cs : List AckCall) (c : AckCall) :
    s.calls (cs ++ [c]) = ((s.calls cs).call c).2 := by
  rw [ParentAck.calls, List.foldl_append]
  rfl

variable {cs : List AckCall} {s s' : ParentAck}

/-- An active receiver hears one more PDU. -/
theorem AckSeeded.more (h : AckSeeded cs s) (c : AckCall) (hactive : s.active = true)
    (hactive' : s'.active = true)
    (htx : s'.txSn = s.txSn ∧ s'.acked = s.acked ∨
      s'.txSn = s.txSn ^^^ 1 ∧ s'.acked = s.acked + 1)
    (hrx : s'.rxNesn = s.rxNesn ∧ s'.accepted + s'.empty = s.accepted + s.empty ∨
      s'.rxNesn = s.rxNesn ^^^ 1 ∧ s'.accepted + s'.empty = s.accepted + s.empty + 1) :
    AckSeeded (cs ++ [c]) s' := by
  obtain ⟨before, first, after, hcs, hoff, hfirst, hseedTx, hseedRx⟩ := h.active hactive
  refine ⟨?_, ?_, (fun hidle => nomatch hidle.symm.trans hactive'), fun _ => ?_⟩
  · rcases htx with ⟨ht, -⟩ | ⟨ht, -⟩ <;> rw [ht]
    · exact h.tx
    · exact h.tx.flip
  · rcases hrx with ⟨hr, -⟩ | ⟨hr, -⟩ <;> rw [hr]
    · exact h.rx
    · exact h.rx.flip
  · refine ⟨before, first, after ++ [c], by rw [hcs, List.append_assoc]; rfl, hoff, hfirst, ?_, ?_⟩
    · rcases htx with ⟨ht, ha⟩ | ⟨ht, ha⟩ <;> rw [ht, ha]
      · exact hseedTx
      · exact h.tx.count hseedTx
    · rcases hrx with ⟨hr, hsum⟩ | ⟨hr, hsum⟩ <;> rw [hr, hsum]
      · exact hseedRx
      · rw [UInt32.add_sub_cancel, ← UInt32.sub_add_cancel (s.accepted + s.empty) 1]
        exact h.rx.count hseedRx

/-- A call that leaves bits and counts alone. -/
theorem AckSeeded.same (h : AckSeeded cs s) (c : AckCall) (hactive : s'.active = s.active)
    (htx : s'.txSn = s.txSn) (hrx : s'.rxNesn = s.rxNesn) (hacked : s'.acked = s.acked)
    (haccepted : s'.accepted = s.accepted) (hempty : s'.empty = s.empty) :
    AckSeeded (cs ++ [c]) s' := by
  by_cases ha : s.active = true
  · exact h.more c ha (hactive.trans ha) (.inl ⟨htx, hacked⟩)
      (.inl ⟨hrx, by rw [haccepted, hempty]⟩)
  · have hidle := h.idle (Bool.eq_false_iff.mpr ha)
    refine ⟨htx ▸ h.tx, hrx ▸ h.rx, fun _ => ?_, fun hon => absurd (hactive.symm.trans hon) ha⟩
    rw [hacked, haccepted, hempty]
    exact hidle

theorem calls_seeded (cs : List AckCall) : AckSeeded cs (ParentAck.reset.calls cs) := by
  induction cs using List.reverseRecOn with
  | nil => exact ⟨.inl rfl, .inl rfl, fun _ => ⟨rfl, rfl, rfl⟩, fun h => nomatch h⟩
  | append_singleton cs c ih =>
    rw [calls_snoc]
    obtain ⟨tx, acked, hack, hbits⟩ := (ParentAck.reset.calls cs).acknowledge_eq c.header
    have hdone := (ParentAck.reset.calls cs).call_done c
    generalize hcall : (ParentAck.reset.calls cs).call c = r at hdone
    obtain ⟨ok, s'⟩ := r
    dsimp only at hdone ⊢
    cases hdone with
    | malformed h => exact ih.same c rfl rfl rfl rfl rfl rfl
    | refused hsound hactive => exact ih.same c rfl rfl rfl rfl rfl rfl
    | stale hsound hactive => exact ih.same c rfl rfl rfl rfl rfl rfl
    | duplicate hsound hactive hold =>
      rw [hack]
      exact ih.more c hactive hactive hbits (.inl ⟨rfl, rfl⟩)
    | unknown hsound hactive hempty hcontrol =>
      rw [hack]
      exact ih.more c hactive hactive hbits (.inl ⟨rfl, rfl⟩)
    | next v hsound hactive hv =>
      rw [hack]
      refine ih.more c hactive ?_ ?_ (.inr ?_)
      · rw [(ParentAck.note_bits _ v).1]
        exact hactive
      · rw [(ParentAck.note_bits _ v).2.1, (ParentAck.note_bits _ v).2.2.2]
        exact hbits
      · rcases hv with ⟨rfl, -⟩ | ⟨rfl, -⟩
        · exact ⟨rfl, (UInt32.add_assoc _ _ _).symm⟩
        · refine ⟨rfl, ?_⟩
          show (ParentAck.reset.calls cs).accepted + 1 + (ParentAck.reset.calls cs).empty = _
          rw [UInt32.add_assoc, UInt32.add_comm 1, ← UInt32.add_assoc]
    | first v hsound hactive hv =>
      obtain ⟨hacked, haccepted, hempty⟩ := ih.idle hactive
      have hbits' := ParentAck.note_bits { ParentAck.reset.calls cs with
        active := true, txSn := nesnBit c.header, rxNesn := snBit c.header ^^^ 1 } v
      refine ⟨?_, ?_, ?_, fun _ => ⟨cs, c, [], rfl, hactive, by rw [hcall], ?_, ?_⟩⟩
      · rw [hbits'.2.1]
        exact nesnBit_isBit _
      · rw [hbits'.2.2.1]
        exact (snBit_isBit _).flip
      · rw [hbits'.1]
        exact fun h => nomatch h
      · rw [hbits'.2.1, hbits'.2.2.2]
        dsimp only
        rw [hacked]
        exact (nesnBit_isBit _).mod
      · rw [hbits'.2.2.1]
        have hone : ∀ {x y : UInt32}, x + y = 1 → (x + y - 1).toNat = 0 := by
          intro x y hxy
          rw [hxy]
          rfl
        rw [hone (by rcases hv with ⟨rfl, -⟩ | ⟨rfl, -⟩ <;>
          (simp only [ParentAck.note]; rw [haccepted, hempty]; rfl))]
        exact (snBit_isBit _).flip.mod

end Seeds

/-- After any calls from a reset one more call counts once and touches no more than its kind may;
the sequence bits are the seeds of the first consumed PDU moved by the counts. -/
theorem ack_counts (cs : List AckCall) (c : AckCall) :
    (∃ v, AckCounted (ParentAck.reset.calls cs) c v) ∧
      AckSeeded cs (ParentAck.reset.calls cs) :=
  ⟨ParentAck.call_counted _ c, calls_seeded cs⟩

end UllReceiver.Parent
