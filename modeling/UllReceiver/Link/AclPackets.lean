import Mathlib
import UllReceiver.Library.Buffer

/-!
# ACL packets

`auto_link.c`: the cutting of an L2CAP PDU into ACL packets, and the reassembly of those that come
in.
-/

namespace UllReceiver.Link

open Library

/-- A word as it is sent. -/
def le16 (v : UInt16) : List UInt8 :=
  [v.toUInt8, (v >>> 8).toUInt8]

/-- Two bytes of a buffer from `i` on. -/
def loadLe16 (p : List UInt8) (i : Nat) : Option UInt16 := do
  let lo ← load p i
  let hi ← load p (i + 1)
  some (lo.toUInt16 ||| hi.toUInt16 <<< 8)

/-! ## Reassembly -/

/-- `handle`, `assembled` and `fragment` of the peer. -/
structure Assembly where
  handle : UInt16
  assembled : Nat
  fragment : List UInt8
deriving DecidableEq

/-- The size of `fragment`. -/
def fragmentBytes : Nat := 4096

inductive AclOutcome
  | ignored
  | kept (a : Assembly)
  /-- `failed` is set. -/
  | refused (a : Assembly)
  /-- `l2cap` is called. -/
  | delivered (a : Assembly) (cid : UInt16) (payload : List UInt8)

/-- What `process` does once the data of packet `p` belongs behind what is assembled. -/
def appendAcl (a : Assembly) (p : List UInt8) : Option AclOutcome :=
  if a.assembled + (p.length - 5) > fragmentBytes then some (.refused a)
  else do
    let data ← loadSpan p 5 (p.length - 5)
    let fragment ← storeSpan a.fragment a.assembled data
    let assembled := (a.assembled + (p.length - 5)) % 2 ^ 16
    if assembled < 4 then some (.kept { a with fragment, assembled })
    else
      let size ← loadLe16 fragment 0
      let expected := 4 + size.toNat
      if expected > fragmentBytes ∨ assembled > expected then
        some (.refused { a with fragment, assembled })
      else if assembled = expected then
        let cid ← loadLe16 fragment 2
        let payload ← loadSpan fragment 4 (expected - 4)
        some (.delivered { a with fragment, assembled } cid payload)
      else some (.kept { a with fragment, assembled })

/-- `process` of a packet that is no event, up to the call of `l2cap`; `none` is an access outside
the packet or the buffer. -/
def acceptAcl (a : Assembly) (p : List UInt8) : Option AclOutcome := do
  let kind ← load p 0
  if kind ≠ 2 ∨ p.length < 5 then some .ignored
  else
    let length ← loadLe16 p 3
    if length.toNat ≠ p.length - 5 then some .ignored
    else
      let flags ← loadLe16 p 1
      if flags &&& 0xfff ≠ a.handle then some .ignored
      else if flags >>> 12 &&& 3 = 0 ∨ flags >>> 12 &&& 3 = 2 then
        appendAcl { a with assembled := 0 } p
      else if flags >>> 12 &&& 3 ≠ 1 ∨ a.assembled = 0 then some .ignored
      else appendAcl a p

/-- A number of packets in order: `failed` as they set it, and the calls of `l2cap`, which leaves
the assembly alone. -/
structure Reassembled where
  assembly : Assembly
  failed : Bool
  calls : List (UInt16 × List UInt8)

def Reassembled.apply (r : Reassembled) : AclOutcome → Reassembled
  | .ignored => r
  | .kept a => { r with assembly := a }
  | .refused a => { r with assembly := a, failed := true }
  | .delivered a cid payload =>
      { r with assembly := { a with assembled := 0 }, calls := r.calls ++ [(cid, payload)] }

def Reassembled.accept (r : Reassembled) (p : List UInt8) : Option Reassembled :=
  (acceptAcl r.assembly p).map r.apply

/-! ## Cutting -/

/-- The packets `send_acl` makes of the first `total` bytes of its body, from `offset` on; `none` is
also a loop that does not end. -/
def aclPackets (handle : UInt16) (limit : Nat) (body : List UInt8) (total : Nat) :
    Nat → Nat → Option (List (List UInt8))
  | 0, _ => none
  | n + 1, offset =>
      if offset < total then do
        let size := min (total - offset) limit
        let flags := handle ||| if offset ≠ 0 then 0x1000 else 0
        let data ← loadSpan body offset size
        let packet ← storeSpan (List.replicate 305 (0 : UInt8)) 0
          ([2] ++ le16 flags ++ le16 (UInt16.ofNat size) ++ data)
        let rest ← aclPackets handle limit body total n (offset + size)
        some (packet.take (size + 5) :: rest)
      else some []

/-- The packets of `send_acl`, of a payload that has room in its body. -/
def sendAclPackets (handle : UInt16) (limit : Nat) (cid : UInt16) (payload : List UInt8) :
    Option (List (List UInt8)) := do
  let body ← storeSpan (List.replicate 300 (0 : UInt8)) 0
    (le16 (UInt16.ofNat payload.length) ++ le16 cid ++ payload)
  aclPackets handle limit body (payload.length + 4) 301 0

/-! ## Words -/

theorem le16_length (v : UInt16) : (le16 v).length = 2 :=
  rfl

theorem loadLe16_le16 (v : UInt16) (front rest : List UInt8) :
    loadLe16 (front ++ le16 v ++ rest) front.length = some v := by
  have hlo : (front ++ le16 v ++ rest)[front.length]? = some v.toUInt8 := by
    rw [List.append_assoc, List.getElem?_append_right (Nat.le_refl _), Nat.sub_self]
    rfl
  have hhi : (front ++ le16 v ++ rest)[front.length + 1]? = some (v >>> 8).toUInt8 := by
    rw [List.append_assoc, List.getElem?_append_right (by omega), Nat.add_sub_cancel_left]
    rfl
  unfold loadLe16 load
  rw [hlo, hhi]
  exact congrArg some (word_join v)

theorem loadLe16_isSome {p : List UInt8} {i : Nat} (h : i + 1 < p.length) :
    ∃ v, loadLe16 p i = some v := by
  unfold loadLe16 load
  rw [List.getElem?_eq_getElem (by omega), List.getElem?_eq_getElem h]
  exact ⟨_, rfl⟩

/-! ## No access out of bounds -/

structure Assembly.Good (a : Assembly) : Prop where
  assembled : a.assembled ≤ fragmentBytes
  fragment : a.fragment.length = fragmentBytes

/-- The assembly after a packet. -/
def AclOutcome.assembly (a : Assembly) : AclOutcome → Assembly
  | .ignored => a
  | .kept b => b
  | .refused b => b
  | .delivered b _ _ => { b with assembled := 0 }

theorem appendAcl_good {a : Assembly} (ha : a.Good) {p : List UInt8} (hp : 5 ≤ p.length)
    (b : Assembly) : ∃ o, appendAcl a p = some o ∧ (o.assembly b).Good := by
  unfold appendAcl
  by_cases hfull : a.assembled + (p.length - 5) > fragmentBytes
  · rw [if_pos hfull]
    exact ⟨_, rfl, ha⟩
  · rw [if_neg hfull]
    have hsmall : (a.assembled + (p.length - 5)) % 2 ^ 16 = a.assembled + (p.length - 5) := by
      unfold fragmentBytes at hfull
      omega
    have hspan : loadSpan p 5 (p.length - 5) = some ((p.drop 5).take (p.length - 5)) :=
      if_pos (by omega)
    have hdata : ((p.drop 5).take (p.length - 5)).length = p.length - 5 := by
      rw [List.length_take, List.length_drop]
      omega
    obtain ⟨fragment, hstore⟩ : ∃ fragment,
        storeSpan a.fragment a.assembled ((p.drop 5).take (p.length - 5)) = some fragment := by
      refine ⟨_, if_pos ?_⟩
      rw [hdata, ha.fragment]
      omega
    have hlength : fragment.length = fragmentBytes := (storeSpan_length hstore).trans ha.fragment
    have hgood : ∀ n ≤ fragmentBytes, Assembly.Good { a with fragment, assembled := n } :=
      fun n hn => ⟨hn, hlength⟩
    have hassembled : a.assembled + (p.length - 5) ≤ fragmentBytes := by omega
    rw [hspan, Option.bind_eq_bind, Option.bind_some, hstore, Option.bind_eq_bind,
      Option.bind_some]
    simp only [hsmall]
    split
    · exact ⟨_, rfl, hgood _ hassembled⟩
    next hheader =>
      have hbytes : fragmentBytes = 4096 := rfl
      obtain ⟨size, hsize⟩ : ∃ size, loadLe16 fragment 0 = some size :=
        loadLe16_isSome (by omega)
      obtain ⟨cid, hcid⟩ : ∃ cid, loadLe16 fragment 2 = some cid := loadLe16_isSome (by omega)
      rw [hsize, Option.bind_some]
      split
      · exact ⟨_, rfl, hgood _ hassembled⟩
      next hfits =>
        split
        next hcomplete =>
          have hpayload : loadSpan fragment 4 (4 + size.toNat - 4) =
              some ((fragment.drop 4).take (4 + size.toNat - 4)) := if_pos (by omega)
          rw [hcid, Option.bind_some, hpayload]
          exact ⟨_, rfl, hgood 0 (Nat.zero_le _)⟩
        · exact ⟨_, rfl, hgood _ hassembled⟩

/-- Whatever the packet, `process` stays inside it and inside the buffer. -/
theorem acceptAcl_good {a : Assembly} (ha : a.Good) {p : List UInt8} (hp : 3 ≤ p.length) :
    ∃ o, acceptAcl a p = some o ∧ (o.assembly a).Good := by
  have hkind : load p 0 = some p[0] := List.getElem?_eq_getElem (by omega)
  unfold acceptAcl
  rw [hkind, Option.bind_eq_bind, Option.bind_some]
  split
  · exact ⟨_, rfl, ha⟩
  next hshape =>
    have hlong : 5 ≤ p.length := by omega
    obtain ⟨length, hlength⟩ : ∃ v, loadLe16 p 3 = some v := loadLe16_isSome (by omega)
    obtain ⟨flags, hflags⟩ : ∃ v, loadLe16 p 1 = some v := loadLe16_isSome (by omega)
    rw [hlength, Option.bind_eq_bind, Option.bind_some]
    split
    · exact ⟨_, rfl, ha⟩
    · rw [hflags, Option.bind_some]
      split
      · exact ⟨_, rfl, ha⟩
      · split
        · have hstart : Assembly.Good { a with assembled := 0 } := ⟨Nat.zero_le _, ha.fragment⟩
          exact appendAcl_good hstart hlong a
        · split
          · exact ⟨_, rfl, ha⟩
          · exact appendAcl_good ha hlong a

/-! ## The inverse of cutting -/

/-- A PDU as it is sent. -/
def pduBytes (cid : UInt16) (payload : List UInt8) : List UInt8 :=
  le16 (UInt16.ofNat payload.length) ++ le16 cid ++ payload

/-- An ACL packet with its flags and data. -/
def aclPacket (flags : UInt16) (data : List UInt8) : List UInt8 :=
  [2] ++ le16 flags ++ le16 (UInt16.ofNat data.length) ++ data

/-- A packet of the connection `handle`: its data and boundary flags. -/
structure AclPiece (handle : UInt16) where
  flags : UInt16
  data : List UInt8
  ours : flags &&& 0xfff = handle
  -- with its header it fits an event of 512 bytes
  bound : data.length ≤ 507

def AclPiece.packet {handle : UInt16} (x : AclPiece handle) : List UInt8 :=
  aclPacket x.flags x.data

/-- A first packet of a PDU, one that starts it anew. -/
def AclPiece.First {handle : UInt16} (x : AclPiece handle) : Prop :=
  x.flags >>> 12 &&& 3 = 0 ∨ x.flags >>> 12 &&& 3 = 2

def AclPiece.Continuing {handle : UInt16} (x : AclPiece handle) : Prop :=
  x.flags >>> 12 &&& 3 = 1

/-- A PDU cut into packets: the first one is not empty, the others continue it. -/
structure AclCut (handle : UInt16) where
  cid : UInt16
  payload : List UInt8
  first : AclPiece handle
  rest : List (AclPiece handle)
  starts : first.First
  continues : ∀ x ∈ rest, x.Continuing
  nonempty : first.data ≠ []
  whole : first.data ++ rest.flatMap AclPiece.data = pduBytes cid payload
  fits : payload.length ≤ 4092

def AclCut.packets {handle : UInt16} (c : AclCut handle) : List (List UInt8) :=
  (c.first :: c.rest).map AclPiece.packet

/-- The first bytes of the buffer, `bytes`, are what is assembled. -/
structure Assembly.Holds (a : Assembly) (bytes : List UInt8) : Prop where
  assembled : a.assembled = bytes.length
  front : a.fragment.take bytes.length = bytes
  fragment : a.fragment.length = fragmentBytes

/-- The assembly once `bytes` are written to the front of the buffer. -/
def Assembly.holding (a : Assembly) (bytes : List UInt8) : Assembly :=
  { a with
    fragment := bytes ++ a.fragment.drop bytes.length
    assembled := bytes.length }

section Inverse

variable {handle : UInt16}

theorem aclPacket_length (flags : UInt16) (data : List UInt8) :
    (aclPacket flags data).length = 5 + data.length := by
  simp only [aclPacket, List.length_append, le16_length, List.length_singleton]

theorem packet_length (x : AclPiece handle) : x.packet.length = 5 + x.data.length :=
  aclPacket_length x.flags x.data

/-- What `process` reads of a packet of the connection. -/
theorem acceptAcl_piece {a : Assembly} (x : AclPiece handle) (ha : a.handle = handle) :
    acceptAcl a x.packet =
      if x.flags >>> 12 &&& 3 = 0 ∨ x.flags >>> 12 &&& 3 = 2 then
        appendAcl { a with assembled := 0 } x.packet
      else if x.flags >>> 12 &&& 3 ≠ 1 ∨ a.assembled = 0 then some .ignored
      else appendAcl a x.packet := by
  have hlength := packet_length x
  have hkind : load x.packet 0 = some 2 := rfl
  have hflags : loadLe16 x.packet 1 = some x.flags := by
    have h := loadLe16_le16 x.flags [2] (le16 (UInt16.ofNat x.data.length) ++ x.data)
    rwa [← List.append_assoc] at h
  have hsize : loadLe16 x.packet 3 = some (UInt16.ofNat x.data.length) :=
    loadLe16_le16 _ ([2] ++ le16 x.flags) x.data
  have hbound := x.bound
  have hnat : (UInt16.ofNat x.data.length).toNat = x.packet.length - 5 := by
    rw [UInt16.toNat_ofNat', hlength]
    omega
  have hshape : ¬((2 : UInt8) ≠ 2 ∨ x.packet.length < 5) := by
    rw [hlength]
    exact not_or.mpr ⟨not_not.mpr rfl, by omega⟩
  unfold acceptAcl
  rw [hkind, Option.bind_eq_bind, Option.bind_some, if_neg hshape, hsize,
    Option.bind_eq_bind, Option.bind_some, if_neg (not_not.mpr hnat), hflags, Option.bind_some,
    if_neg (not_not.mpr (x.ours.trans ha.symm))]

theorem acceptAcl_first {a : Assembly} {x : AclPiece handle} (ha : a.handle = handle)
    (hx : x.First) : acceptAcl a x.packet = appendAcl { a with assembled := 0 } x.packet :=
  (acceptAcl_piece x ha).trans (if_pos hx)

theorem acceptAcl_continuing {a : Assembly} {x : AclPiece handle} (ha : a.handle = handle)
    (hx : x.Continuing) :
    acceptAcl a x.packet = if a.assembled = 0 then some .ignored else appendAcl a x.packet := by
  unfold AclPiece.Continuing at hx
  rw [acceptAcl_piece x ha, if_neg (by rw [hx]; decide)]
  simp only [hx, ne_eq, not_true_eq_false, false_or]

theorem pduBytes_length (cid : UInt16) (payload : List UInt8) :
    (pduBytes cid payload).length = 4 + payload.length := by
  simp only [pduBytes, List.length_append, le16_length]

/-- A front of a PDU that has its header. -/
theorem held_front {acc rest payload : List UInt8} {cid : UInt16}
    (hwhole : acc ++ rest = pduBytes cid payload) (hheader : 4 ≤ acc.length) :
    acc = le16 (UInt16.ofNat payload.length) ++ le16 cid ++ payload.take (acc.length - 4) := by
  have htake := congrArg (List.take acc.length) hwhole
  rw [List.take_left] at htake
  have hlength : (le16 (UInt16.ofNat payload.length) ++ le16 cid).length = 4 := rfl
  conv_lhs => rw [htake]
  rw [pduBytes, List.take_append, hlength, List.take_of_length_le (by rw [hlength]; exact hheader)]

/-- The data of a packet behind what is held, as long as both are the front of a PDU. -/
theorem appendAcl_holds {a : Assembly} {acc rest payload : List UInt8} {cid : UInt16}
    (x : AclPiece handle) (ha : a.Holds acc)
    (hwhole : acc ++ x.data ++ rest = pduBytes cid payload) (hfits : payload.length ≤ 4092) :
    ∃ b : Assembly, b.handle = a.handle ∧ b.Holds (acc ++ x.data) ∧
      appendAcl a x.packet = some (if (acc ++ x.data).length = (pduBytes cid payload).length
        then .delivered b cid payload else .kept b) := by
  have hlength := packet_length x
  have hsize : x.packet.length - 5 = x.data.length := by omega
  have htotal := congrArg List.length hwhole
  rw [List.length_append, List.length_append, pduBytes_length] at htotal
  have hroom : a.assembled + x.data.length ≤ fragmentBytes := by
    rw [ha.assembled]
    unfold fragmentBytes
    omega
  have hsmall : (a.assembled + x.data.length) % 2 ^ 16 = (acc ++ x.data).length := by
    rw [List.length_append, ha.assembled]
    omega
  have hspan : loadSpan x.packet 5 x.data.length = some x.data := by
    unfold loadSpan
    rw [if_pos (by omega)]
    exact congrArg some (List.take_length)
  have hfragment := ha.fragment
  have hstore : storeSpan a.fragment a.assembled x.data =
      some (acc ++ x.data ++ a.fragment.drop (acc ++ x.data).length) := by
    unfold storeSpan
    rw [if_pos (by omega), ha.assembled, ha.front, List.length_append]
  -- what is written keeps the buffer's size
  have hheld : (a.holding (acc ++ x.data)).Holds (acc ++ x.data) := by
    refine ⟨rfl, List.take_left, ?_⟩
    rw [← storeSpan_length hstore] at hfragment
    exact hfragment
  refine ⟨a.holding (acc ++ x.data), rfl, hheld, ?_⟩
  unfold appendAcl
  rw [hsize, if_neg (by omega), hspan, Option.bind_eq_bind, Option.bind_some, hstore,
    Option.bind_eq_bind, Option.bind_some]
  simp only [hsmall]
  rw [pduBytes_length]
  by_cases hheader : (acc ++ x.data).length < 4
  · rw [if_pos hheader, if_neg (by omega)]
    rfl
  · rw [if_neg hheader]
    have hcount : (UInt16.ofNat payload.length).toNat = payload.length := by
      rw [UInt16.toNat_ofNat']
      omega
    have hmost : (acc ++ x.data).length ≤ 4 + payload.length := by
      rw [List.length_append]
      omega
    have hfront := held_front hwhole (Nat.not_lt.mp hheader)
    generalize hgot : payload.take ((acc ++ x.data).length - 4) = got at hfront
    have hload0 := loadLe16_le16 (UInt16.ofNat payload.length) []
      (le16 cid ++ got ++ a.fragment.drop (acc ++ x.data).length)
    have hload2 := loadLe16_le16 cid (le16 (UInt16.ofNat payload.length))
      (got ++ a.fragment.drop (acc ++ x.data).length)
    rw [List.nil_append, ← List.append_assoc, ← List.append_assoc, ← hfront] at hload0
    rw [← List.append_assoc, ← hfront] at hload2
    simp only [List.length_nil, le16_length] at hload0 hload2
    rw [hload0, Option.bind_some, hcount, if_neg (by unfold fragmentBytes; omega)]
    by_cases hcomplete : (acc ++ x.data).length = 4 + payload.length
    · rw [if_pos hcomplete, if_pos hcomplete, hload2, Option.bind_some]
      rw [hcomplete, Nat.add_sub_cancel_left, List.take_length] at hgot
      have hlast : loadSpan (acc ++ x.data ++ a.fragment.drop (acc ++ x.data).length) 4
          (4 + payload.length - 4) = some payload := by
        rw [loadSpan, if_pos (by rw [List.length_append]; omega), Nat.add_sub_cancel_left]
        conv_lhs => rw [hfront, ← hgot, List.append_assoc]
        exact congrArg some List.take_left
      rw [hlast]
      rfl
    · rw [if_neg hcomplete, if_neg hcomplete]
      rfl

/-- Between PDUs: nothing is assembled, and the buffer has its size. -/
structure Assembly.Idle (a : Assembly) (handle : UInt16) : Prop where
  handle : a.handle = handle
  assembled : a.assembled = 0
  fragment : a.fragment.length = fragmentBytes

/-- What a packet that continues no PDU comes to: nothing. -/
theorem accept_stray {r : Reassembled} (h : r.assembly.Idle handle) (xs : List (AclPiece handle))
    (hxs : ∀ x ∈ xs, x.Continuing) :
    (xs.map AclPiece.packet).foldlM Reassembled.accept r = some r := by
  induction xs with
  | nil => rfl
  | cons x xs ih =>
      have hx := hxs x List.mem_cons_self
      have hone : r.accept x.packet = some r := by
        unfold Reassembled.accept
        rw [acceptAcl_continuing h.handle hx, if_pos h.assembled]
        rfl
      rw [List.map_cons, List.foldlM_cons, hone]
      exact ih fun y hy => hxs y (List.mem_cons_of_mem x hy)

/-- The packets after one that left `acc` of a PDU: the PDU is delivered once. -/
theorem accept_rest {payload : List UInt8} {cid : UInt16} (hfits : payload.length ≤ 4092)
    (xs : List (AclPiece handle)) (hxs : ∀ x ∈ xs, x.Continuing) :
    ∀ (r : Reassembled) (acc : List UInt8), r.assembly.handle = handle → r.assembly.Holds acc →
      0 < acc.length → acc.length < (pduBytes cid payload).length →
      acc ++ xs.flatMap AclPiece.data = pduBytes cid payload →
      ∃ b : Assembly, b.Idle handle ∧ (xs.map AclPiece.packet).foldlM Reassembled.accept r =
        some { r with assembly := b, calls := r.calls ++ [(cid, payload)] } := by
  induction xs with
  | nil =>
      intro r acc _ _ _ hshort hwhole
      rw [List.flatMap_nil, List.append_nil] at hwhole
      rw [hwhole] at hshort
      exact absurd hshort (Nat.lt_irrefl _)
  | cons x xs ih =>
      intro r acc hhandle hholds hsome _ hwhole
      have hx := hxs x List.mem_cons_self
      have hcontinue : ∀ y ∈ xs, y.Continuing := fun y hy => hxs y (List.mem_cons_of_mem x hy)
      have hgoing : ¬ r.assembly.assembled = 0 := by
        rw [hholds.assembled]
        omega
      rw [List.flatMap_cons, ← List.append_assoc] at hwhole
      obtain ⟨b, hb, hheld, happend⟩ := appendAcl_holds x hholds hwhole hfits
      have haccept := acceptAcl_continuing hhandle hx
      rw [if_neg hgoing, happend] at haccept
      have hlength := congrArg List.length hwhole
      rw [List.length_append] at hlength
      rw [List.map_cons, List.foldlM_cons, Reassembled.accept, haccept]
      by_cases hcomplete : (acc ++ x.data).length = (pduBytes cid payload).length
      · rw [if_pos hcomplete]
        have hidle : Assembly.Idle { b with assembled := 0 } handle :=
          ⟨hb.trans hhandle, rfl, hheld.fragment⟩
        exact ⟨_, hidle, accept_stray hidle xs hcontinue⟩
      · rw [if_neg hcomplete]
        have hmore : 0 < (acc ++ x.data).length := by
          rw [List.length_append]
          omega
        exact ih hcontinue { r with assembly := b } (acc ++ x.data) (hb.trans hhandle) hheld hmore
          (by omega) hwhole

/-- The packets of one PDU, whatever was assembled before. -/
theorem accept_cut (c : AclCut handle) {r : Reassembled} (hhandle : r.assembly.handle = handle)
    (hfragment : r.assembly.fragment.length = fragmentBytes) :
    ∃ b : Assembly, b.Idle handle ∧ c.packets.foldlM Reassembled.accept r =
      some { r with assembly := b, calls := r.calls ++ [(c.cid, c.payload)] } := by
  have hwhole := c.whole
  have hempty : Assembly.Holds { r.assembly with assembled := 0 } [] := ⟨rfl, rfl, hfragment⟩
  obtain ⟨b, hb, hheld, happend⟩ :=
    @appendAcl_holds handle _ [] _ _ _ c.first hempty (by rwa [List.nil_append]) c.fits
  rw [List.nil_append] at happend hheld
  have haccept := acceptAcl_first hhandle c.starts
  rw [happend] at haccept
  have hlength := congrArg List.length hwhole
  rw [List.length_append] at hlength
  rw [AclCut.packets, List.map_cons, List.foldlM_cons, Reassembled.accept, haccept]
  by_cases hcomplete : c.first.data.length = (pduBytes c.cid c.payload).length
  · rw [if_pos hcomplete]
    have hidle : Assembly.Idle { b with assembled := 0 } handle :=
      ⟨hb.trans hhandle, rfl, hheld.fragment⟩
    exact ⟨_, hidle, accept_stray hidle c.rest c.continues⟩
  · rw [if_neg hcomplete]
    exact accept_rest c.fits c.rest c.continues { r with assembly := b } c.first.data
      (hb.trans hhandle) hheld (List.length_pos_of_ne_nil c.nonempty) (by omega) hwhole

/-- The packets of any number of PDUs: each is delivered once, in order, and none is refused. -/
theorem accept_cuts (cs : List (AclCut handle)) :
    ∀ r : Reassembled, r.assembly.handle = handle →
      r.assembly.fragment.length = fragmentBytes →
      ∃ b : Assembly, b.handle = handle ∧ b.fragment.length = fragmentBytes ∧
        (cs.flatMap AclCut.packets).foldlM Reassembled.accept r =
          some { r with
            assembly := b, calls := r.calls ++ cs.map fun c => (c.cid, c.payload) } := by
  induction cs with
  | nil =>
      intro r hhandle hfragment
      refine ⟨r.assembly, hhandle, hfragment, ?_⟩
      rw [List.map_nil, List.append_nil]
      rfl
  | cons c cs ih =>
      intro r hhandle hfragment
      obtain ⟨b, hidle, hone⟩ := accept_cut c hhandle hfragment
      obtain ⟨b', hhandle', hfragment', hrest⟩ := ih
        { r with assembly := b, calls := r.calls ++ [(c.cid, c.payload)] } hidle.handle
        hidle.fragment
      refine ⟨b', hhandle', hfragment', ?_⟩
      rw [List.flatMap_cons, List.foldlM_append, hone, Option.bind_eq_bind, Option.bind_some,
        hrest, List.map_cons, List.append_assoc]
      rfl

end Inverse

/-! ## The packets of `send_acl` -/

section Send

variable {handle : UInt16} (hhandle : handle ≤ 0xfff)

include hhandle

theorem first_flags : handle &&& 0xfff = handle ∧ handle >>> 12 &&& 3 = 0 := by
  have hle := UInt16.le_iff_toNat_le.mp hhandle
  change handle.toNat ≤ 2 ^ 12 - 1 at hle
  constructor
  · apply UInt16.toNat_inj.mp
    rw [UInt16.toNat_and]
    change handle.toNat &&& (2 ^ 12 - 1) = _
    rw [Nat.and_two_pow_sub_one_eq_mod]
    omega
  · apply UInt16.toNat_inj.mp
    rw [UInt16.toNat_and, UInt16.toNat_shiftRight]
    change handle.toNat >>> 12 &&& (2 ^ 2 - 1) = 0
    rw [Nat.and_two_pow_sub_one_eq_mod, Nat.shiftRight_eq_div_pow]
    omega

theorem continuing_flags : (handle ||| 0x1000) &&& 0xfff = handle ∧
    (handle ||| 0x1000) >>> 12 &&& 3 = 1 := by
  have hle := UInt16.le_iff_toNat_le.mp hhandle
  change handle.toNat ≤ 2 ^ 12 - 1 at hle
  have hor : (handle ||| 0x1000).toNat = 2 ^ 12 * 1 + handle.toNat := by
    rw [UInt16.toNat_or, Nat.or_comm]
    exact (Nat.two_pow_add_eq_or_of_lt (i := 12) (b := handle.toNat) (by omega) 1).symm
  constructor
  · apply UInt16.toNat_inj.mp
    rw [UInt16.toNat_and, hor]
    change _ &&& (2 ^ 12 - 1) = _
    rw [Nat.and_two_pow_sub_one_eq_mod]
    omega
  · apply UInt16.toNat_inj.mp
    rw [UInt16.toNat_and, UInt16.toNat_shiftRight, hor]
    change _ >>> 12 &&& (2 ^ 2 - 1) = 1
    rw [Nat.and_two_pow_sub_one_eq_mod, Nat.shiftRight_eq_div_pow]
    omega

omit hhandle in
/-- One turn of the loop: the packet goes through its array. -/
theorem aclPackets_step {limit total offset n : Nat} {body : List UInt8} (hlimit : limit ≤ 251)
    (htotal : total ≤ body.length) (hmore : offset < total) :
    aclPackets handle limit body total (n + 1) offset =
      (aclPackets handle limit body total n (offset + min (total - offset) limit)).map
        (aclPacket (handle ||| if offset ≠ 0 then 0x1000 else 0)
          ((body.drop offset).take (min (total - offset) limit)) :: ·) := by
  have hspan : loadSpan body offset (min (total - offset) limit) =
      some ((body.drop offset).take (min (total - offset) limit)) := if_pos (by omega)
  have hdata : ((body.drop offset).take (min (total - offset) limit)).length =
      min (total - offset) limit := by
    rw [List.length_take, List.length_drop]
    omega
  conv_lhs => unfold aclPackets
  rw [if_pos hmore]
  simp only [hspan, Option.bind_eq_bind, Option.bind_some]
  generalize (body.drop offset).take (min (total - offset) limit) = data at hdata
  generalize handle ||| (if offset ≠ 0 then 0x1000 else 0) = flags
  have hstore : storeSpan (List.replicate 305 (0 : UInt8)) 0 (aclPacket flags data) =
      some (aclPacket flags data ++ (List.replicate 305 0).drop (5 + data.length)) := by
    unfold storeSpan
    rw [aclPacket_length, List.length_replicate, if_pos (by omega), List.take_zero,
      List.nil_append, Nat.zero_add]
  have htake : (aclPacket flags data ++ (List.replicate 305 (0 : UInt8)).drop
      (5 + data.length)).take (data.length + 5) = aclPacket flags data := by
    rw [Nat.add_comm data.length, ← aclPacket_length flags data]
    exact List.take_left
  rw [← hdata]
  change ((storeSpan (List.replicate 305 (0 : UInt8)) 0 (aclPacket flags data)).bind _) = _
  rw [hstore, Option.bind_some, htake]
  cases aclPackets handle limit body total n (offset + data.length) with
  | none => rfl
  | some rest => rfl

omit hhandle in
/-- The loop of `send_acl` ends, inside its arrays. -/
theorem aclPackets_isSome {limit total : Nat} {body : List UInt8} (hpositive : 0 < limit)
    (hlimit : limit ≤ 251) (htotal : total ≤ body.length) (n : Nat) :
    ∀ offset, total - offset < n → ∃ packets,
      aclPackets handle limit body total n offset = some packets := by
  induction n with
  | zero => exact fun _ hfuel => absurd hfuel (Nat.not_lt_zero _)
  | succ n ih =>
      intro offset hfuel
      by_cases hmore : offset < total
      · obtain ⟨packets, hpackets⟩ := ih (offset + min (total - offset) limit) (by omega)
        rw [aclPackets_step hlimit htotal hmore, hpackets]
        exact ⟨_, rfl⟩
      · unfold aclPackets
        rw [if_neg hmore]
        exact ⟨_, rfl⟩

omit hhandle in
theorem sendBody {cid : UInt16} {payload : List UInt8} (hpayload : payload.length ≤ 296) :
    storeSpan (List.replicate 300 (0 : UInt8)) 0 (pduBytes cid payload) =
      some (pduBytes cid payload ++ (List.replicate 300 0).drop (4 + payload.length)) := by
  have hlength := pduBytes_length cid payload
  unfold storeSpan
  rw [hlength, List.length_replicate, if_pos (by omega), List.take_zero, List.nil_append,
    Nat.zero_add]

omit hhandle in
/-- `send_acl` stays inside its arrays, whatever the handle. -/
theorem sendAclPackets_isSome (handle : UInt16) {limit : Nat} (hpositive : 0 < limit)
    (hlimit : limit ≤ 251) (cid : UInt16) {payload : List UInt8}
    (hpayload : payload.length ≤ 296) :
    ∃ packets, sendAclPackets handle limit cid payload = some packets := by
  have htotal : payload.length + 4 ≤
      (pduBytes cid payload ++ (List.replicate 300 (0 : UInt8)).drop
        (4 + payload.length)).length := by
    rw [List.length_append, pduBytes_length]
    omega
  unfold sendAclPackets
  change ∃ packets,
    (storeSpan (List.replicate 300 (0 : UInt8)) 0 (pduBytes cid payload)).bind _ = some packets
  rw [sendBody hpayload, Option.bind_some]
  exact aclPackets_isSome hpositive hlimit htotal 301 0 (by omega)

/-- The packets behind the first one. -/
theorem aclPackets_rest {limit total : Nat} {body : List UInt8} (hpositive : 0 < limit)
    (hlimit : limit ≤ 251) (htotal : total ≤ body.length) (n : Nat) :
    ∀ offset, 0 < offset → offset ≤ total → total - offset < n →
      ∃ xs : List (AclPiece handle), (∀ x ∈ xs, x.Continuing) ∧
        aclPackets handle limit body total n offset = some (xs.map AclPiece.packet) ∧
        xs.flatMap AclPiece.data = (body.drop offset).take (total - offset) := by
  induction n with
  | zero => exact fun _ _ _ hfuel => absurd hfuel (Nat.not_lt_zero _)
  | succ n ih =>
      intro offset hoffset hle hfuel
      by_cases hmore : offset < total
      · obtain ⟨xs, hxs, hpackets, hdata⟩ :=
          ih (offset + min (total - offset) limit) (by omega) (by omega) (by omega)
        have hbound : ((body.drop offset).take (min (total - offset) limit)).length ≤ 507 := by
          rw [List.length_take]
          omega
        let x : AclPiece handle := ⟨_, _, (continuing_flags hhandle).1, hbound⟩
        refine ⟨x :: xs, ?_, ?_, ?_⟩
        · intro y hy
          rcases List.mem_cons.mp hy with rfl | hy
          · exact (continuing_flags hhandle).2
          · exact hxs y hy
        · rw [aclPackets_step hlimit htotal hmore, hpackets, if_pos (by omega)]
          rfl
        · rw [List.flatMap_cons, hdata]
          change (body.drop offset).take (min (total - offset) limit) ++ _ = _
          rw [← List.drop_drop, ← List.take_add]
          congr 1
          omega
      · refine ⟨[], fun _ h => absurd h List.not_mem_nil, ?_, ?_⟩
        · unfold aclPackets
          rw [if_neg hmore]
          rfl
        · rw [show total - offset = 0 by omega, List.take_zero]
          rfl

/-- What `send_acl` sends is a cut of its PDU. -/
theorem sendAclPackets_cut {limit : Nat} (hlow : 27 ≤ limit) (hlimit : limit ≤ 251) (cid : UInt16)
    {payload : List UInt8} (hpayload : payload.length ≤ 296) :
    ∃ c : AclCut handle, c.cid = cid ∧ c.payload = payload ∧
      sendAclPackets handle limit cid payload = some c.packets := by
  have hlength := pduBytes_length cid payload
  have hbody := @sendBody cid payload hpayload
  generalize hfill : (List.replicate 300 (0 : UInt8)).drop (4 + payload.length) = fill at hbody
  have htotal : payload.length + 4 ≤ (pduBytes cid payload ++ fill).length := by
    rw [List.length_append]
    omega
  obtain ⟨xs, hxs, hpackets, hdata⟩ := aclPackets_rest hhandle (by omega : 0 < limit) hlimit htotal
    300 (min (payload.length + 4) limit) (by omega) (by omega) (by omega)
  have hbound : ((pduBytes cid payload ++ fill).take (min (payload.length + 4) limit)).length ≤
      507 := by
    rw [List.length_take]
    omega
  let x : AclPiece handle := ⟨handle, _, (first_flags hhandle).1, hbound⟩
  have hwhole : x.data ++ xs.flatMap AclPiece.data = pduBytes cid payload := by
    rw [hdata]
    change (pduBytes cid payload ++ fill).take (min (payload.length + 4) limit) ++ _ = _
    rw [← List.take_add, Nat.add_sub_cancel' (Nat.min_le_left _ _), Nat.add_comm, ← hlength]
    exact List.take_left
  have hnonempty : x.data ≠ [] := by
    apply List.ne_nil_of_length_pos
    change 0 < ((pduBytes cid payload ++ fill).take (min (payload.length + 4) limit)).length
    rw [List.length_take]
    omega
  refine ⟨⟨cid, payload, x, xs, .inl (first_flags hhandle).2, hxs, hnonempty, hwhole, by omega⟩,
    rfl, rfl, ?_⟩
  unfold sendAclPackets
  change ((storeSpan (List.replicate 300 (0 : UInt8)) 0 (pduBytes cid payload)).bind _) = _
  rw [hbody, Option.bind_some]
  have hstep := @aclPackets_step handle limit (payload.length + 4) 0 300
    (pduBytes cid payload ++ fill) hlimit htotal (by omega)
  rw [Nat.zero_add, Nat.sub_zero] at hstep
  rw [hstep, hpackets, if_neg (not_not.mpr rfl)]
  change some (aclPacket (handle ||| 0) _ :: _) = _
  rw [UInt16.or_zero]
  rfl

end Send

end UllReceiver.Link
