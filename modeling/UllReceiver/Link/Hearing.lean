import UllReceiver.Link.KeeperRun

/-!
# What the keeper has heard

What a connection has told the keeper, out of the packets `process` was given and nothing else, and
what in the keeper's log belongs to the audio.
-/

namespace UllReceiver.Link

open Library

/-! ## Stages of a history -/

section History

variable {α : Type}

/-- The last thing first: things that pass the stages stand in the history in their order. -/
def Saw (stages : List (α → Prop)) (history : List α) : Prop :=
  ∃ things : List α, things.Sublist history ∧ List.Forall₂ (fun P x => P x) stages things

theorem Saw.cons {stages : List (α → Prop)} {history : List α} (h : Saw stages history) (x : α) :
    Saw stages (x :: history) := by
  obtain ⟨things, hsub, hpass⟩ := h
  exact ⟨things, hsub.cons x, hpass⟩

theorem Saw.next {stages : List (α → Prop)} {history : List α} {P : α → Prop} {x : α} (hx : P x)
    (h : Saw stages history) : Saw (P :: stages) (x :: history) := by
  obtain ⟨things, hsub, hpass⟩ := h
  exact ⟨x :: things, hsub.cons_cons x, .cons hx hpass⟩

theorem saw_nil (history : List α) : Saw [] history :=
  ⟨[], List.nil_sublist history, .nil⟩

end History

/-! ## Hearing -/

/-- What matters to the gate: the encryption changes and the messages that arrive whole. -/
inductive Heard
  | encryption (on : Bool)
  | message (encrypted : Bool) (cid : UInt16) (payload : List UInt8)
deriving DecidableEq

/-- Whether the last encryption change was a successful one. -/
def encryptionOn : List Heard → Bool
  | [] => false
  | .encryption on :: _ => on
  | _ :: heard => encryptionOn heard

/-- The reassembly, and what was heard since `start_connection`, the last thing first. -/
structure Hearing where
  assembly : Assembly
  heard : List Heard

namespace Hearing

/-- An event: a connection to the saved peer and a disconnection change the handle. -/
def hearEvent (bond : Bond) (p : List UInt8) (h : Hearing) : Hearing :=
  let d := p.drop 3
  let len := (byte p 2).toNat
  if byte p 1 = 0x3e ∧ len ≥ 12 ∧ (byte d 0 = 1 ∨ byte d 0 = 10) ∧ byte d 1 = 0 ∧
      span d 6 6 = bond.target.toList then
    { h with assembly := { h.assembly with handle := word d 2 } }
  else if byte p 1 = 5 ∧ len ≥ 4 then { h with assembly := { h.assembly with handle := 0xffff } }
  else if byte p 1 = 8 ∧ len ≥ 4 then
    { h with heard := .encryption (byte d 0 = 0 ∧ byte d 3 ≠ 0) :: h.heard }
  else h

/-- An ACL packet: a message it completes is heard. -/
def hearAcl (h : Hearing) : AclOutcome → Hearing
  | .delivered a cid payload =>
      { assembly := { a with assembled := 0 }
        heard := .message (encryptionOn h.heard) cid payload :: h.heard }
  | o => { h with assembly := o.assembly h.assembly }

def hear (bond : Bond) (p : List UInt8) (h : Hearing) : Hearing :=
  if p.length < 3 then h
  else if byte p 0 = 4 then
    if p.length = 3 + (byte p 2).toNat then h.hearEvent bond p else h
  else ((acceptAcl h.assembly p).map h.hearAcl).getD h

/-- What an event of the log adds; `start_connection` begins with a new session of the
microphone. -/
def after (bond : Bond) (e : LinkEvent) (h : Hearing) : Hearing :=
  match e with
  | .called .micNewSession => ⟨⟨0xffff, 0, List.replicate fragmentBytes 0⟩, []⟩
  | .processed p => h.hear bond p
  | _ => h

end Hearing

/-- What was heard, the log's last event first. -/
def hearing (bond : Bond) (log : List Entry) : Hearing :=
  log.foldr (fun y h => h.after bond y.event) ⟨⟨0, 0, List.replicate fragmentBytes 0⟩, []⟩

theorem hearing_cons (bond : Bond) (y : Entry) (log : List Entry) :
    hearing bond (y :: log) = (hearing bond log).after bond y.event :=
  rfl

/-! ## The gate -/

/-- The 45 bytes of the peer's setup, with the saved SIRK and the expected mode. -/
structure SetupOf (bond : Bond) (p : List UInt8) : Prop where
  length : p.length = 45
  head : span p 0 4 = [14, 2, 1, 1]
  sirk : span p 4 16 = bond.sirk.toList
  mode : span p 25 12 = expectedMode

/-- The four stages before the audio, the last one first. -/
def gate (bond : Bond) : List (Heard → Prop) :=
  [fun e => ∃ p, e = .message true 0x101 p ∧ p.length = 281 ∧ span p 0 1 = [15],
   fun e => e = .message true 0x101 idleRequest,
   fun e => ∃ p, e = .message true 0x101 p ∧ SetupOf bond p,
   fun e => e = .encryption true]

/-- A proprietary message in the clear, or a setup of another peer or mode. -/
def Offence (bond : Bond) (e : Heard) : Prop :=
  ∃ encrypted p, e = .message encrypted 0x101 p ∧
    (encrypted = false ∨ p.length = 45 ∧ span p 0 2 = [14, 2] ∧ ¬ SetupOf bond p)

/-! ## What belongs to the audio -/

/-- The commands of `audio_startup`: the look at the channel map, the controller's diagnostic, its
activities and their reservation, the data length, E4, E0 and the start of the trial. -/
def audioOpcodes : List UInt16 :=
  [0x2015, 0xfcf0, 0xfcfa, 0x2036, 0x2022, 0xfcf3, 0xfcf4, 0xfcfb]

/-- The messages that open the streams and those that start them. -/
def streamMessages : List (List UInt8) :=
  [[2, 1, 0], [4, 1, 0, 100, 100, 0], [2, 2, 0], [6, 1, 0], [6, 2, 0]]

/-- A packet of the audio: one of its commands, or ACL data that is a PDU of its streams. -/
def AudioPacket (packet : List UInt8) : Prop :=
  (∃ opcode ∈ audioOpcodes, packet.take 3 = 1 :: le16 opcode) ∨
    packet.take 1 = [2] ∧ ∃ message ∈ streamMessages, packet.drop 5 = pduBytes 0x101 message

/-- Anything `audio_startup` does that others see. -/
def StartsAudio : LinkEvent → Prop
  | .called callee => callee = .trialContinuous ∨ callee = .pumpContinuous
  | .sent packet => AudioPacket packet
  | _ => False

/-- What the keeper takes or does in a connection. -/
def ActsInConnection : LinkEvent → Prop
  | .processed _ | .sent _ => True
  | .called callee => callee ≠ .micNewSession
  | .message _ _ _ => False

/-- A PDU no piece of which is a PDU of the streams. -/
def Silent (pdu : List UInt8) : Prop :=
  ∀ i n, ∀ message ∈ streamMessages, (pdu.drop i).take n ≠ pduBytes 0x101 message

/-- The PDUs of the streams are of three or six bytes on their CID. -/
theorem streamMessages_head : ∀ message ∈ streamMessages,
    [3, 0, 1, 1] <+: pduBytes 0x101 message ∨ [6, 0, 1, 1] <+: pduBytes 0x101 message := by
  decide

theorem silent_of_tails {pdu : List UInt8}
    (h : ∀ tail ∈ pdu.tails, ¬ [3, 0, 1, 1] <+: tail ∧ ¬ [6, 0, 1, 1] <+: tail) :
    Silent pdu := by
  intro i n message hmessage heq
  have htail : pdu.drop i ∈ pdu.tails := (List.mem_tails _ _).mpr (List.drop_suffix i pdu)
  have hpiece : pduBytes 0x101 message <+: pdu.drop i := heq ▸ List.take_prefix n (pdu.drop i)
  rcases streamMessages_head message hmessage with hthree | hsix
  · exact (h _ htail).1 (hthree.trans hpiece)
  · exact (h _ htail).2 (hsix.trans hpiece)

theorem le16_inj {a b : UInt16} (h : le16 a = le16 b) : a = b := by
  have hload := loadLe16_le16 a [] []
  rw [h, loadLe16_le16 b [] []] at hload
  exact (Option.some.inj hload).symm

/-- A command is one of the audio only by its opcode. -/
theorem not_audio_command {opcode : UInt16} (hopcode : opcode ∉ audioOpcodes)
    (rest : List UInt8) : ¬ AudioPacket ([1] ++ le16 opcode ++ rest) := by
  rintro (⟨other, hother, htake⟩ | ⟨hkind, -⟩)
  · have hle : le16 opcode = le16 other := (List.cons.inj htake).2
    exact hopcode (le16_inj hle ▸ hother)
  · have hone : (1 : UInt8) = 2 := (List.cons.inj hkind).1
    exact absurd hone (by decide)

/-- Each packet of the loop of `send_acl` has a piece of the body. -/
theorem aclPackets_piece {handle : UInt16} {limit total : Nat} {body : List UInt8}
    (hlimit : limit ≤ 251) (htotal : total ≤ body.length) (n : Nat) :
    ∀ {offset : Nat} {packets : List (List UInt8)},
      aclPackets handle limit body total n offset = some packets → ∀ packet ∈ packets,
        packet.take 1 = [2] ∧ ∃ i m, i + m ≤ total ∧ packet.drop 5 = (body.drop i).take m := by
  induction n with
  | zero =>
      intro offset packets h
      cases h
  | succ n ih =>
      intro offset packets h packet hpacket
      by_cases hmore : offset < total
      · rw [aclPackets_step hlimit htotal hmore] at h
        obtain ⟨rest, hrest, rfl⟩ := Option.map_eq_some_iff.mp h
        rcases List.mem_cons.mp hpacket with rfl | hpacket
        · exact ⟨rfl, offset, min (total - offset) limit, by omega, rfl⟩
        · exact ih hrest packet hpacket
      · unfold aclPackets at h
        rw [if_neg hmore] at h
        cases h
        exact absurd hpacket List.not_mem_nil

theorem not_audio_acl {handle cid : UInt16} {limit : Nat} {payload : List UInt8}
    (hsilent : Silent (pduBytes cid payload)) (hlimit : limit ≤ 251)
    (hpayload : payload.length ≤ 296) {packets : List (List UInt8)}
    (h : sendAclPackets handle limit cid payload = some packets) :
    ∀ packet ∈ packets, ¬ AudioPacket packet := by
  have hlength := pduBytes_length cid payload
  generalize hfill : (List.replicate 300 (0 : UInt8)).drop (4 + payload.length) = fill
  have hbody := @sendBody cid payload hpayload
  rw [hfill] at hbody
  have htotal : payload.length + 4 ≤ (pduBytes cid payload ++ fill).length := by
    rw [List.length_append]
    omega
  unfold sendAclPackets at h
  change (storeSpan (List.replicate 300 (0 : UInt8)) 0 (pduBytes cid payload)).bind _ = _ at h
  rw [hbody, Option.bind_some] at h
  intro packet hpacket
  obtain ⟨hkind, i, m, hwithin, hdata⟩ := aclPackets_piece hlimit htotal 301 h packet hpacket
  rintro (⟨opcode, -, htake⟩ | ⟨-, message, hmessage, hpdu⟩)
  · -- a command begins with another byte
    have hfirst : packet.take 1 = [1] := by
      have := congrArg (List.take 1) htake
      rwa [List.take_take] at this
    rw [hkind] at hfirst
    exact absurd (List.cons.inj hfirst).1 (by decide)
  · rw [hdata, List.drop_append_of_le_length (by omega),
      List.take_append_of_le_length (by rw [List.length_drop]; omega)] at hpdu
    exact hsilent i m message hmessage hpdu

/-! ## The other messages -/

theorem silent_idleReply : Silent (pduBytes 0x101 idleReply) :=
  silent_of_tails (by decide +kernel)

theorem silent_idleMessage : Silent (pduBytes 0x101 idleMessage) :=
  silent_of_tails (by decide +kernel)

theorem silent_mtu : Silent (pduBytes 4 [3, 23, 0]) :=
  silent_of_tails (by decide)

theorem silent_search (id lo : UInt8) : Silent (pduBytes 4 [1, 6, id, lo, 10]) := by
  have hpdu : pduBytes 4 [1, 6, id, lo, 10] = [5, 0, 4, 0, 1, 6, id, lo, 10] :=
    congrArg (· ++ [1, 6, id, lo, 10]) (by decide : le16 (UInt16.ofNat 5) ++ le16 4 = [5, 0, 4, 0])
  apply silent_of_tails
  rw [hpdu]
  simp [List.cons_prefix_cons]

theorem silent_pairing : Silent (pduBytes 6 [5, 5]) :=
  silent_of_tails (by decide)

theorem silent_parameters (id : UInt8) : Silent (pduBytes 5 [0x13, id, 2, 0, 1, 0]) := by
  have hpdu : pduBytes 5 [0x13, id, 2, 0, 1, 0] = [6, 0, 5, 0, 0x13, id, 2, 0, 1, 0] :=
    congrArg (· ++ [0x13, id, 2, 0, 1, 0])
      (by decide : le16 (UInt16.ofNat 6) ++ le16 5 = [6, 0, 5, 0])
  apply silent_of_tails
  rw [hpdu]
  simp [List.cons_prefix_cons]

theorem silent_setup : Silent (pduBytes 0x101 ([14, 1] ++ List.replicate 43 0)) :=
  silent_of_tails (by decide +kernel)

end UllReceiver.Link
