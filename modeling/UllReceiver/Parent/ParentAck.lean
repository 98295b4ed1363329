import Mathlib

/-!
# Detached parent acknowledgement

`parent_ack.h` and `parent_ack.c`: the receiver's end of the parent control link once the native
connection is gone.
-/

namespace UllReceiver.Parent

/-- `(h>>3)&1`, the number of a PDU. -/
def snBit (h : UInt8) : UInt8 :=
  h >>> 3 &&& 1

/-- `(h>>2)&1`, the number its sender expects next. -/
def nesnBit (h : UInt8) : UInt8 :=
  h >>> 2 &&& 1

/-- Byte `i` behind the pointer `p`. -/
def byteAt (p : List UInt8) (i : Nat) : UInt8 :=
  p.getD i 0

def parentAckWheel (p : List UInt8) (n : UInt32) : Bool :=
  n == 6 && byteAt p 0 == 10 && byteAt p 1 == 1 && byteAt p 2 == 0 && byteAt p 4 == 0 &&
    (((byteAt p 3 == 1 || byteAt p 3 == 2) && byteAt p 5 == 2) ||
      (byteAt p 3 == 3 && byteAt p 5 ≤ 100))

def parentAckMedia (p : List UInt8) (n : UInt32) : Bool :=
  n == 2 && byteAt p 0 == 13

def parentAckMic (p : List UInt8) (n : UInt32) : Bool :=
  n == 3 && (byteAt p 0 == 5 || byteAt p 0 == 6) && byteAt p 1 == 2 && byteAt p 2 == 0

structure ParentAck where
  active : Bool
  txSn : UInt8
  rxNesn : UInt8
  accepted : UInt32
  duplicates : UInt32
  empty : UInt32
  acked : UInt32
  rejected : UInt32
  stale : UInt32
deriving DecidableEq

def ParentAck.reset : ParentAck :=
  { active := false, txSn := 0, rxNesn := 0, accepted := 0, duplicates := 0, empty := 0
    acked := 0, rejected := 0, stale := 0 }

def ParentAck.header (s : ParentAck) : UInt8 :=
  if s.active then (1 : UInt8) ||| s.txSn <<< 3 ||| s.rxNesn <<< 2 else 0

/-- A data PDU of `n` bytes with the L2CAP header of the control channel and `scalar` after it. -/
def parentScalar (h : UInt8) (p : Option (List UInt8)) (n : UInt32) (size : UInt8)
    (scalar : List UInt8 → UInt32 → Bool) : Bool :=
  h &&& 3 == 2 && n == 4 + size.toUInt32 &&
    match p with
    | some p => byteAt p 0 == size && byteAt p 1 == 0 && byteAt p 2 == 1 && byteAt p 3 == 1 &&
        scalar (p.drop 4) size.toUInt32
    | none => false

/-- A wheel, media or microphone PDU. -/
def controlShape (h : UInt8) (p : Option (List UInt8)) (n : UInt32) : Bool :=
  parentScalar h p n 6 parentAckWheel || parentScalar h p n 2 parentAckMedia ||
    parentScalar h p n 3 parentAckMic

def emptyShape (h : UInt8) (n : UInt32) : Bool :=
  h &&& 3 == 1 && n == 0

/-- The acknowledgement does not depend on what the PDU carries. -/
def ParentAck.acknowledge (s : ParentAck) (h : UInt8) : ParentAck :=
  if nesnBit h ≠ s.txSn then { s with txSn := s.txSn ^^^ 1, acked := s.acked + 1 } else s

/-- The PDU itself, after its acknowledgement. -/
def ParentAck.consume (s : ParentAck) (h : UInt8) (empty control : Bool) : Bool × ParentAck :=
  if snBit h ≠ s.rxNesn then (true, { s with duplicates := s.duplicates + 1 })
  else if !empty && !control then (false, { s with rejected := s.rejected + 1 })
  else
    let s := { s with rxNesn := s.rxNesn ^^^ 1 }
    (true, if control then { s with accepted := s.accepted + 1 }
      else { s with empty := s.empty + 1 })

/-- `ull_parent_ack_receive`; `p` is `none` for a null pointer. -/
def ParentAck.receive (s : ParentAck) (h : UInt8) (p : Option (List UInt8)) (n : UInt32)
    (sent : UInt8) (sentLength : UInt32) : Bool × ParentAck :=
  let empty := emptyShape h n
  let control := controlShape h p n
  if h &&& 0xe0 ≠ 0 ∨ h &&& 3 = 0 ∨ n > 60 ∨ (n ≠ 0 ∧ p.isNone) then
    (false, { s with rejected := s.rejected + 1 })
  else if !s.active then
    if !(control || empty) || (empty && sent != 1) || sentLength != 0 ||
        (sent != 0 && sent != 1) || (sent == 1 && nesnBit h != 1) then
      (false, { s with rejected := s.rejected + 1 })
    else
      let s := { s with active := true, txSn := nesnBit h, rxNesn := snBit h ^^^ 1 }
      (true, if empty then { s with empty := s.empty + 1 }
        else { s with accepted := s.accepted + 1 })
  else if sentLength ≠ 0 ∨ sent ≠ s.header then (false, { s with stale := s.stale + 1 })
  else (s.acknowledge h).consume h empty control

/-- Between `s` and `s'` a PDU has been consumed. -/
def ParentAck.counted (s s' : ParentAck) : Bool :=
  s'.accepted != s.accepted || s'.empty != s.empty

/-- What one reply does to the receiver. -/
inductive AckMove (s : ParentAck) (h : UInt8) (p : Option (List UInt8)) (n : UInt32)
    (sent : UInt8) : Bool → ParentAck → Prop
  /-- Refused, outdated or a repetition. -/
  | quiet (ok s') (hactive : s'.active = s.active) (htx : s'.txSn = s.txSn)
      (hrx : s'.rxNesn = s.rxNesn) (haccepted : s'.accepted = s.accepted)
      (hempty : s'.empty = s.empty) : AckMove s h p n sent ok s'
  /-- Only the receiver's own poll is acknowledged. -/
  | acked (ok s') (hactive : s.active = true) (hsent : sent = s.header) (hactive' : s'.active = true)
      (htx : s'.txSn = s.txSn ^^^ 1) (hrx : s'.rxNesn = s.rxNesn)
      (haccepted : s'.accepted = s.accepted) (hempty : s'.empty = s.empty) :
      AckMove s h p n sent ok s'
  /-- The first PDU. -/
  | bootstrap (s') (hactive : s.active = false) (hsent : sent = 0 ∨ sent = 1)
      (hactive' : s'.active = true) (htx : s'.txSn = nesnBit h) (hrx : s'.rxNesn = snBit h ^^^ 1)
      (hcount : emptyShape h n = true ∧ s'.empty = s.empty + 1 ∧ s'.accepted = s.accepted ∨
        controlShape h p n = true ∧ s'.accepted = s.accepted + 1 ∧ s'.empty = s.empty) :
      AckMove s h p n sent true s'
  /-- The next PDU. -/
  | consumed (s') (hactive : s.active = true) (hsent : sent = s.header) (hnew : snBit h = s.rxNesn)
      (hactive' : s'.active = true) (htx : s'.txSn = s.txSn ∨ s'.txSn = s.txSn ^^^ 1)
      (hrx : s'.rxNesn = s.rxNesn ^^^ 1)
      (hcount : emptyShape h n = true ∧ s'.empty = s.empty + 1 ∧ s'.accepted = s.accepted ∨
        controlShape h p n = true ∧ s'.accepted = s.accepted + 1 ∧ s'.empty = s.empty) :
      AckMove s h p n sent true s'

variable {s : ParentAck} {h : UInt8} {p : Option (List UInt8)} {n : UInt32} {sent : UInt8}

/-- An active receiver whose poll the reply answers. -/
theorem ParentAck.answer_move (hactive : s.active = true) (hsent : sent = s.header) :
    AckMove s h p n sent ((s.acknowledge h).consume h (emptyShape h n) (controlShape h p n)).1
      ((s.acknowledge h).consume h (emptyShape h n) (controlShape h p n)).2 := by
  obtain ⟨acked, duplicates, rejected, tx, hs, htx⟩ : ∃ acked duplicates rejected tx,
      s.acknowledge h = { s with txSn := tx, acked, duplicates, rejected } ∧
        (tx = s.txSn ∨ tx = s.txSn ^^^ 1) := by
    unfold ParentAck.acknowledge
    split
    · exact ⟨_, _, _, _, rfl, .inr rfl⟩
    · exact ⟨_, _, _, _, rfl, .inl rfl⟩
  have hrest (ok : Bool) (s' : ParentAck) (hs' : ∃ duplicates rejected,
      s' = { s with txSn := tx, acked, duplicates, rejected }) : AckMove s h p n sent ok s' := by
    obtain ⟨_, _, rfl⟩ := hs'
    rcases htx with rfl | rfl
    · exact .quiet _ _ rfl rfl rfl rfl rfl
    · exact .acked _ _ hactive hsent hactive rfl rfl rfl rfl
  rw [hs]
  unfold ParentAck.consume
  by_cases hnew : snBit h ≠ s.rxNesn
  · rw [if_pos hnew]
    exact hrest _ _ ⟨_, _, rfl⟩
  rw [if_neg hnew]
  cases hc : controlShape h p n with
  | true =>
      rw [if_neg (by simp)]
      refine .consumed _ hactive hsent (not_not.mp hnew) ?_ htx rfl (.inr ⟨hc, rfl, rfl⟩)
      exact hactive
  | false =>
      cases he : emptyShape h n with
      | true =>
          refine .consumed _ hactive hsent (not_not.mp hnew) ?_ htx rfl (.inl ⟨he, rfl, rfl⟩)
          exact hactive
      | false => exact hrest _ _ ⟨_, _, rfl⟩

/-- One of the two counters has moved on. -/
theorem ParentAck.counted_of_count {s s' : ParentAck} {empty control : Prop}
    (h : empty ∧ s'.empty = s.empty + 1 ∧ s'.accepted = s.accepted ∨
      control ∧ s'.accepted = s.accepted + 1 ∧ s'.empty = s.empty) : s.counted s' = true := by
  unfold counted
  rcases h with ⟨_, he, _⟩ | ⟨_, ha, _⟩
  · rw [he]
    simp
  · rw [ha]
    simp

theorem ParentAck.receive_move (s : ParentAck) (h : UInt8) (p : Option (List UInt8)) (n : UInt32)
    (sent : UInt8) :
    AckMove s h p n sent (s.receive h p n sent 0).1 (s.receive h p n sent 0).2 := by
  unfold ParentAck.receive
  simp only
  split
  · exact .quiet _ _ rfl rfl rfl rfl rfl
  cases hactive : s.active with
  | true =>
      simp only [Bool.not_true, Bool.false_eq_true, if_false]
      split
      · exact .quiet _ _ hactive.symm rfl rfl rfl rfl
      · rename_i hfresh
        exact answer_move hactive (by simpa using hfresh)
  | false =>
      simp only [Bool.not_false, if_true]
      split
      · exact .quiet _ _ hactive.symm rfl rfl rfl rfl
      · rename_i hgo
        simp only [Bool.or_eq_true, not_or, Bool.and_eq_true, bne_iff_ne, Bool.not_eq_true'] at hgo
        obtain ⟨⟨⟨⟨hknown, _⟩, _⟩, hsent⟩, _⟩ := hgo
        have hboot : sent = 0 ∨ sent = 1 := by
          by_cases h0 : sent = 0
          · exact .inl h0
          · exact .inr (not_not.mp fun h1 => hsent ⟨h0, h1⟩)
        cases he : emptyShape h n with
        | true => exact .bootstrap _ hactive hboot rfl rfl rfl (.inl ⟨he, rfl, rfl⟩)
        | false => exact .bootstrap _ hactive hboot rfl rfl rfl (.inr ⟨by simpa [he] using hknown, rfl, rfl⟩)

end UllReceiver.Parent
