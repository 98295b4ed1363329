import UllReceiver.Link.Hearing

/-!
# The gate before the audio

Only a peer that has gone through the whole proprietary exchange has audio started: what the sticky
flags of the keeper say of what it has heard since `start_connection`.
-/

namespace UllReceiver.Link

open Library Library.Halting

/-- What holds of an event of the keeper, given those before it. -/
structure Recordable (bond : Bond) (y : Entry) (earlier : List Entry) : Prop where
  audio : StartsAudio y.event → Saw (gate bond) (hearing bond earlier).heard
  failed : ActsInConnection y.event → (∃ e ∈ (hearing bond earlier).heard, Offence bond e) →
    y.failed = true

def Recorded (bond : Bond) : List Entry → Prop
  | [] => True
  | y :: earlier => Recordable bond y earlier ∧ Recorded bond earlier

theorem Recorded.at {bond : Bond} {later : List Entry} {y : Entry} {earlier : List Entry}
    (h : Recorded bond (later ++ y :: earlier)) : Recordable bond y earlier := by
  induction later with
  | nil => exact h.1
  | cons x later ih => exact ih h.2

/-- What the flags say of what was heard. -/
structure Flags (bond : Bond) (peer : Peer) (heard : List Heard) : Prop where
  encrypted : peer.encrypted = encryptionOn heard
  secured : peer.encrypted = true → Saw ((gate bond).drop 3) heard
  verified : peer.peerVerified = true → Saw ((gate bond).drop 2) heard
  idleSent : peer.idleSent = true → Saw ((gate bond).drop 1) heard
  holding : peer.holding = true → Saw (gate bond) heard
  failed : (∃ e ∈ heard, Offence bond e) → peer.failed = true

/-- No access outside an array, nor a packet size that leads to one. -/
structure Session.Safe (s : Session) : Prop where
  limit : 27 ≤ s.peer.aclLimit ∧ s.peer.aclLimit ≤ 251
  fault : s.fault = false

/-- The log has heard `h`, and the flags say what is `known`: between a packet in the log and its
effect that is what was heard before it.  Where the audio is `held` so is the connection. -/
structure Session.Knows (bond : Bond) (held : Bool) (h : Hearing) (known : List Heard)
    (s : Session) : Prop where
  heard : hearing bond s.log = h
  flags : Flags bond s.peer known
  recorded : Recorded bond s.log
  safe : s.Safe
  held : held = true → s.peer.holding = true

abbrev Session.Sound (bond : Bond) (held : Bool) (h : Hearing) (s : Session) : Prop :=
  s.Knows bond held h h.heard

/-- A change of the peer that leaves the flags of the gate alone. -/
structure Kept (p q : Peer) : Prop where
  encrypted : q.encrypted = p.encrypted
  verified : q.peerVerified = p.peerVerified
  idleSent : q.idleSent = p.idleSent
  holding : q.holding = p.holding
  failed : p.failed = true → q.failed = true
  limit : q.aclLimit = p.aclLimit

/-- What else the peer holds says nothing of the gate. -/
theorem Kept.of_same {p q : Peer}
    (h : (q.encrypted, q.peerVerified, q.idleSent, q.holding, q.failed, q.aclLimit) =
      (p.encrypted, p.peerVerified, p.idleSent, p.holding, p.failed, p.aclLimit)) : Kept p q := by
  simp only [Prod.mk.injEq] at h
  obtain ⟨hencrypted, hverified, hidle, hholding, hfailed, hlimit⟩ := h
  exact ⟨hencrypted, hverified, hidle, hholding, fun hf => hfailed.trans hf, hlimit⟩

theorem Kept.refl (p : Peer) : Kept p p :=
  .of_same rfl

theorem Kept.failing (p : Peer) : Kept p { p with failed := true } :=
  ⟨rfl, rfl, rfl, rfl, fun _ => rfl, rfl⟩

namespace Session

/-! ## Sending -/

section Sends

variable {I : Session → Prop} (hask : ∀ s, I s → I s.ask.2)

include hask

/-- What survives questions and the noting of a packet survives its sending. -/
theorem sendPacket_keeps {packet : List UInt8} (hnote : ∀ s, I s → I (s.note (.sent packet)))
    (n : Nat) : ∀ {s : Session}, I s → I (s.sendPacket packet n).2 := by
  induction n with
  | zero => exact fun h => h
  | succ n ih =>
      intro s h
      unfold Session.sendPacket
      split
      · split
        · exact hnote _ (hask _ (hask _ h))
        · exact ih (hask _ (hask _ h))
      · exact hask _ h

theorem sendPackets_keeps (packets : List (List UInt8))
    (hnote : ∀ packet ∈ packets, ∀ s, I s → I (s.note (.sent packet))) :
    ∀ {s : Session}, I s → I (s.sendPackets packets).2 := by
  induction packets with
  | nil => exact fun h => h
  | cons packet packets ih =>
      intro s h
      have hone := sendPacket_keeps hask (hnote packet List.mem_cons_self) 200 h
      have hothers : ∀ other ∈ packets, ∀ s, I s → I (s.note (.sent other)) :=
        fun other hother => hnote other (List.mem_cons_of_mem packet hother)
      unfold Session.sendPackets
      dsimp only
      split
      · exact ih hothers hone
      · exact hone

end Sends

/-! ## No access out of bounds -/

section Safe

variable {s : Session}

theorem Safe.ask (h : s.Safe) : s.ask.2.Safe :=
  ⟨h.limit, h.fault⟩

theorem Safe.note (h : s.Safe) (e : LinkEvent) : (s.note e).Safe :=
  ⟨h.limit, h.fault⟩

theorem Safe.update (h : s.Safe) {f : Peer → Peer}
    (hlimit : (f s.peer).aclLimit = s.peer.aclLimit) : (s.update f).Safe :=
  ⟨hlimit.symm ▸ h.limit, h.fault⟩

theorem Safe.fail (h : s.Safe) : s.fail.Safe :=
  h.update rfl

theorem Safe.sendPacket (h : s.Safe) (packet : List UInt8) (n : Nat) :
    (s.sendPacket packet n).2.Safe :=
  sendPacket_keeps (fun _ hs => hs.ask) (fun _ hs => hs.note _) n h

/-- The packets of `send_acl`, if it does not refuse. -/
theorem Safe.sendAcl_cases (h : s.Safe) (handle cid : UInt16) (payload : List UInt8) :
    (s.sendAcl handle cid payload).2 = s ∨ payload.length ≤ 296 ∧ ∃ packets,
      sendAclPackets handle s.peer.aclLimit cid payload = some packets ∧
        s.sendAcl handle cid payload = s.sendPackets packets := by
  unfold Session.sendAcl
  split
  · exact .inl rfl
  next hfits =>
    have hpayload : payload.length ≤ 296 := by omega
    have hpositive : 0 < s.peer.aclLimit := Nat.lt_of_lt_of_le (by decide) h.limit.1
    obtain ⟨packets, hpackets⟩ :=
      sendAclPackets_isSome handle hpositive h.limit.2 cid hpayload
    rw [hpackets]
    exact .inr ⟨hpayload, packets, rfl, rfl⟩

theorem Safe.sendAcl (h : s.Safe) (handle cid : UInt16) (payload : List UInt8) :
    (s.sendAcl handle cid payload).2.Safe := by
  rcases h.sendAcl_cases handle cid payload with hnone | ⟨-, packets, -, hsend⟩
  · rw [hnone]
    exact h
  · rw [hsend]
    exact sendPackets_keeps (fun _ hs => hs.ask) packets (fun _ _ _ hs => hs.note _) h

theorem Safe.sendIdle (h : s.Safe) (handle : UInt16) : (s.sendIdle handle).Safe := by
  have hreply := h.sendAcl handle 0x101 idleReply
  have hidle := hreply.sendAcl handle 0x101 idleMessage
  unfold Session.sendIdle
  dsimp only
  split
  · split
    · exact hidle
    · exact hidle.fail
  · exact hreply.fail

end Safe

end Session

section Gate

variable {bond : Bond}

theorem Flags.update {p q : Peer} {heard : List Heard} (h : Flags bond p heard)
    (hq : Kept p q) : Flags bond q heard where
  encrypted := hq.encrypted.trans h.encrypted
  secured := fun he => h.secured (hq.encrypted ▸ he)
  verified := fun hv => h.verified (hq.verified ▸ hv)
  idleSent := fun hi => h.idleSent (hq.idleSent ▸ hi)
  holding := fun hh => h.holding (hq.holding ▸ hh)
  failed := fun ho => hq.failed (h.failed ho)

/-- A message that changes no flag, and is no offence or is followed by the failure. -/
theorem Flags.message {p q : Peer} {heard : List Heard} (h : Flags bond p heard) (hq : Kept p q)
    {cid : UInt16} {payload : List UInt8}
    (hfailed : Offence bond (.message (encryptionOn heard) cid payload) → q.failed = true) :
    Flags bond q (.message (encryptionOn heard) cid payload :: heard) := by
  have hflags := h.update hq
  refine ⟨hflags.encrypted, fun he => (hflags.secured he).cons _,
    fun hv => (hflags.verified hv).cons _, fun hi => (hflags.idleSent hi).cons _,
    fun hh => (hflags.holding hh).cons _, ?_⟩
  rintro ⟨e, hmem, hoffence⟩
  rcases List.mem_cons.mp hmem with rfl | hmem
  · exact hfailed hoffence
  · exact hflags.failed ⟨e, hmem, hoffence⟩

/-- An encryption change, of which an unsuccessful one is a failure. -/
theorem Flags.encryption {p : Peer} {heard : List Heard} (h : Flags bond p heard) (on : Bool) :
    Flags bond { p with encrypted := on, failed := p.failed || !on }
      (.encryption on :: heard) := by
  refine ⟨rfl, ?_, fun hv => (h.verified hv).cons _, fun hi => (h.idleSent hi).cons _,
    fun hh => (h.holding hh).cons _, ?_⟩
  · intro he
    change on = true at he
    rw [he]
    exact .next rfl (saw_nil _)
  · rintro ⟨e, hmem, hoffence⟩
    rcases List.mem_cons.mp hmem with rfl | hmem
    · obtain ⟨_, _, he, _⟩ := hoffence
      exact Heard.noConfusion he
    · exact Bool.or_eq_true_iff.mpr (.inl (h.failed ⟨e, hmem, hoffence⟩))

namespace Session

variable {held : Bool} {h : Hearing} {known : List Heard} {s : Session}

theorem Knows.update (hs : s.Knows bond held h known) {f : Peer → Peer}
    (hf : ∀ p, Kept p (f p)) : (s.update f).Knows bond held h known :=
  ⟨hs.heard, hs.flags.update (hf s.peer), hs.recorded, hs.safe.update (hf s.peer).limit,
    fun hheld => (hf s.peer).holding.trans (hs.held hheld)⟩

theorem Knows.fail (hs : s.Knows bond held h known) : s.fail.Knows bond held h known :=
  hs.update Kept.failing

theorem Knows.ask (hs : s.Knows bond held h known) : s.ask.2.Knows bond held h known :=
  ⟨hs.heard, hs.flags, hs.recorded, hs.safe.ask, hs.held⟩

/-- The flags come up with what was heard. -/
theorem Knows.become (hs : s.Knows bond held h known) {f : Peer → Peer}
    (hflags : Flags bond (f s.peer) h.heard)
    (hlimit : (f s.peer).aclLimit = s.peer.aclLimit)
    (hholding : s.peer.holding = true → (f s.peer).holding = true) :
    (s.update f).Sound bond held h :=
  ⟨hs.heard, hflags, hs.recorded, hs.safe.update hlimit, fun hheld => hholding (hs.held hheld)⟩

/-- A call of `l2cap` comes into the log before its effect. -/
theorem Knows.noteMessage (hs : s.Knows bond held h known) (encrypted : Bool) (cid : UInt16)
    (payload : List UInt8) : (s.note (.message encrypted cid payload)).Knows bond held h known :=
  ⟨hs.heard, hs.flags, ⟨⟨False.elim, False.elim⟩, hs.recorded⟩, hs.safe.note _, hs.held⟩

/-- And so does a packet. -/
theorem Knows.noteProcessed (hs : s.Sound bond held h) (p : List UInt8) :
    (s.note (.processed p)).Knows bond held (h.hear bond p) h.heard := by
  refine ⟨congrArg (Hearing.hear bond p) hs.heard, hs.flags, ⟨⟨False.elim, fun _ ho => ?_⟩,
    hs.recorded⟩, hs.safe.note _, hs.held⟩
  rw [hs.heard] at ho
  exact hs.flags.failed ho

/-- An event that tells the keeper nothing, and that belongs to the audio only where it is held. -/
theorem Knows.note (hs : s.Sound bond held h) {e : LinkEvent} (hquiet : h.after bond e = h)
    (haudio : StartsAudio e → held = true) : (s.note e).Sound bond held h := by
  refine ⟨?_, hs.flags, ⟨⟨fun ha => ?_, fun _ ho => ?_⟩, hs.recorded⟩, hs.safe.note _, hs.held⟩
  · have hcons := hearing_cons bond ⟨s.peer.failed, e⟩ s.log
    rw [hs.heard] at hcons
    exact hcons.trans hquiet
  · rw [hs.heard]
    exact hs.flags.holding (hs.held (haudio ha))
  · rw [hs.heard] at ho
    exact hs.flags.failed ho

theorem Knows.noteSent (hs : s.Sound bond held h) {packet : List UInt8}
    (haudio : AudioPacket packet → held = true) : (s.note (.sent packet)).Sound bond held h :=
  hs.note rfl haudio

theorem Knows.noteCalled (hs : s.Sound bond held h) {callee : Callee}
    (hcallee : callee ≠ .micNewSession)
    (haudio : callee = .trialContinuous ∨ callee = .pumpContinuous → held = true) :
    (s.note (.called callee)).Sound bond held h := by
  have hquiet : h.after bond (.called callee) = h := by
    cases callee with
    | micNewSession => exact absurd rfl hcallee
    | _ => rfl
  exact hs.note hquiet haudio

theorem Knows.sendPacket (hs : s.Sound bond held h) {packet : List UInt8}
    (haudio : AudioPacket packet → held = true) (n : Nat) :
    (s.sendPacket packet n).2.Sound bond held h :=
  sendPacket_keeps (I := Session.Sound bond held h) (fun _ ht => ht.ask)
    (fun _ ht => ht.noteSent haudio) n hs

theorem Knows.sendAcl (hs : s.Sound bond held h) (handle : UInt16) {cid : UInt16}
    {payload : List UInt8} (hsilent : held = true ∨ Silent (pduBytes cid payload)) :
    (s.sendAcl handle cid payload).2.Sound bond held h := by
  rcases hs.safe.sendAcl_cases handle cid payload with hnone | ⟨hpayload, packets, hpackets, hsend⟩
  · rw [hnone]
    exact hs
  · have haudio : ∀ packet ∈ packets, AudioPacket packet → held = true := by
      intro packet hpacket ha
      rcases hsilent with hheld | hsilent
      · exact hheld
      · exact absurd ha
          (not_audio_acl hsilent hs.safe.limit.2 hpayload hpackets packet hpacket)
    rw [hsend]
    exact sendPackets_keeps (I := Session.Sound bond held h) (fun _ ht => ht.ask) packets
      (fun packet hpacket _ ht => ht.noteSent (haudio packet hpacket)) hs

theorem Knows.sendIdle (hs : s.Sound bond held h) (handle : UInt16) :
    (s.sendIdle handle).Sound bond held h := by
  have hreply := hs.sendAcl handle (.inr silent_idleReply)
  have hidle := hreply.sendAcl handle (.inr silent_idleMessage)
  unfold Session.sendIdle
  dsimp only
  split
  · split
    · exact hidle
    · exact hidle.fail
  · exact hreply.fail

end Session

/-! ## Messages -/

/-- What the branch `v` of `l2cap` says of its message. -/
structure VerdictSpec (bond : Bond) (peer : Peer) (cid : UInt16) (p : List UInt8)
    (v : L2capVerdict) : Prop where
  offence : Offence bond (.message peer.encrypted cid p) → v = .refused
  verified : v = .verified → peer.encrypted = true ∧ cid = 0x101 ∧ SetupOf bond p
  idleRequested : v = .idleRequested →
    peer.encrypted = true ∧ cid = 0x101 ∧ p = idleRequest ∧ peer.peerVerified = true
  held : v = .held → peer.encrypted = true ∧ cid = 0x101 ∧ p.length = 281 ∧ span p 0 1 = [15] ∧
    peer.idleSent = true
  replied : ∀ dest reply, v = .replied dest reply → Silent (pduBytes dest reply)

/-- A branch that sets no flag and sends nothing, of a message that is no offence. -/
theorem VerdictSpec.plain {peer : Peer} {cid : UInt16} {p : List UInt8} {v : L2capVerdict}
    (hoffence : ¬ Offence bond (.message peer.encrypted cid p))
    (hv : v = .logged ∨ v = .ignored) : VerdictSpec bond peer cid p v := by
  refine ⟨fun h => absurd h hoffence, ?_, ?_, ?_, ?_⟩
  all_goals
    rcases hv with rfl | rfl
    all_goals
      intros
      contradiction

/-- An answer outside the proprietary channel. -/
theorem VerdictSpec.answered {peer : Peer} {cid dest : UInt16} {p reply : List UInt8}
    (hoffence : ¬ Offence bond (.message peer.encrypted cid p))
    (hsilent : Silent (pduBytes dest reply)) :
    VerdictSpec bond peer cid p (.replied dest reply) where
  offence := fun h => absurd h hoffence
  verified := fun h => L2capVerdict.noConfusion h
  idleRequested := fun h => L2capVerdict.noConfusion h
  held := fun h => L2capVerdict.noConfusion h
  replied := by
    intro dest' reply' h
    cases h
    exact hsilent

theorem VerdictSpec.refused {peer : Peer} {cid : UInt16} {p : List UInt8} :
    VerdictSpec bond peer cid p .refused where
  offence := fun _ => rfl
  verified := fun h => L2capVerdict.noConfusion h
  idleRequested := fun h => L2capVerdict.noConfusion h
  held := fun h => L2capVerdict.noConfusion h
  replied := fun _ _ h => L2capVerdict.noConfusion h

theorem loadSpan_eq_span {p : List UInt8} {i n : Nat} (h : i + n ≤ p.length) :
    loadSpan p i n = some (span p i n) :=
  if_pos h

theorem load_eq_some {p : List UInt8} {i : Nat} (h : i < p.length) :
    ∃ b, load p i = some b ∧ span p i 1 = [b] := by
  refine ⟨p[i], List.getElem?_eq_getElem h, ?_⟩
  unfold span
  rw [List.drop_eq_getElem_cons h]
  rfl

theorem span_two_append {p : List UInt8} {a b : List UInt8} (ha : a.length = 2)
    (hp : 4 ≤ p.length) : span p 0 4 = a ++ b ↔ span p 0 2 = a ∧ span p 2 2 = b := by
  have hsplit : span p 0 4 = span p 0 2 ++ span p 2 2 := by
    unfold span
    rw [List.drop_zero]
    exact List.take_add (l := p) (i := 2) (j := 2)
  have hlength : (span p 0 2).length = a.length := by
    unfold span
    rw [List.length_take, List.length_drop, ha]
    omega
  rw [hsplit]
  constructor
  · intro h
    exact List.append_inj h hlength
  · rintro ⟨hfront, hback⟩
    rw [hfront, hback]

/-- A message that is no proprietary one is no offence. -/
theorem not_offence_of_cid {encrypted : Bool} {cid : UInt16} {p : List UInt8}
    (hcid : cid ≠ 0x101) : ¬ Offence bond (.message encrypted cid p) := by
  rintro ⟨_, _, he, _⟩
  exact hcid (Heard.message.inj he).2.1

/-- Nor is one under encryption that is no setup. -/
theorem not_offence_of_kind {encrypted : Bool} {cid : UInt16} {p : List UInt8}
    (hencrypted : encrypted = true) (hkind : p.length = 45 → span p 0 2 ≠ [14, 2]) :
    ¬ Offence bond (.message encrypted cid p) := by
  rintro ⟨encrypted', p', he, hoffence⟩
  obtain ⟨rfl, -, rfl⟩ := Heard.message.inj he
  rcases hoffence with hclear | ⟨hlength, hmessage, -⟩
  · rw [hencrypted] at hclear
    cases hclear
  · exact hkind hlength hmessage

/-- The setup of the peer is no offence, whatever else it is. -/
theorem VerdictSpec.ofSetup {peer : Peer} {cid : UInt16} {p : List UInt8}
    (hon : peer.encrypted = true) (hcid : cid = 0x101) (hsetup : SetupOf bond p) :
    VerdictSpec bond peer cid p .verified := by
  refine ⟨?_, fun _ => ⟨hon, hcid, hsetup⟩, fun h => L2capVerdict.noConfusion h,
    fun h => L2capVerdict.noConfusion h, fun _ _ h => L2capVerdict.noConfusion h⟩
  rintro ⟨encrypted', p', he, hoffence⟩
  obtain ⟨rfl, -, rfl⟩ := Heard.message.inj he
  rcases hoffence with hclear | ⟨-, -, hother⟩
  · exact absurd hon (by rw [hclear]; exact Bool.false_ne_true)
  · exact absurd hsetup hother

/-- A message of 45 bytes is a setup, and then that of this peer, or is only logged. -/
theorem setupVerdict_spec {peer : Peer} {cid : UInt16} {p : List UInt8}
    (hon : peer.encrypted = true) (hcid : cid = 0x101) (hlength : p.length = 45) :
    ∃ v, l2capVerdict bond peer cid p = some v ∧ VerdictSpec bond peer cid p v := by
  unfold l2capVerdict
  rw [if_pos hcid, if_neg (not_not.mpr hon), if_pos hlength,
    loadSpan_eq_span (by omega), Option.bind_eq_bind, Option.bind_some]
  split
  next hkind =>
    rw [loadSpan_eq_span (by omega : 2 + 2 ≤ p.length),
      loadSpan_eq_span (by omega : 4 + 16 ≤ p.length),
      loadSpan_eq_span (by omega : 25 + 12 ≤ p.length)]
    simp only [Option.bind_some]
    -- `SetupOf` has the first four bytes in one, the code compares two and two
    have hhead := span_two_append (a := [14, 2]) (b := [1, 1]) rfl (by omega : 4 ≤ p.length)
    split
    · exact ⟨_, rfl, .refused⟩
    next hmatch =>
      have hparts : span p 2 2 = [1, 1] ∧ span p 4 16 = bond.sirk.toList ∧
          span p 25 12 = expectedMode := by
        rw [not_or, not_or, not_not, not_not, not_not] at hmatch
        exact hmatch
      have hsetup : SetupOf bond p :=
        ⟨hlength, hhead.mpr ⟨hkind, hparts.1⟩, hparts.2.1, hparts.2.2⟩
      exact ⟨_, rfl, .ofSetup hon hcid hsetup⟩
  next hkind =>
    exact ⟨_, rfl, .plain (not_offence_of_kind hon fun _ => hkind) (.inl rfl)⟩

/-- Outside the proprietary channel a message is answered or ignored. -/
theorem otherVerdict_spec {peer : Peer} {cid : UInt16} {p : List UInt8} (hcid : cid ≠ 0x101) :
    ∃ v, l2capVerdict bond peer cid p = some v ∧ VerdictSpec bond peer cid p v := by
  have hplain : ¬ Offence bond (.message peer.encrypted cid p) := not_offence_of_cid hcid
  have hignored : VerdictSpec bond peer cid p .ignored := .plain hplain (.inr rfl)
  unfold l2capVerdict
  rw [if_neg hcid]
  split
  next h => -- ATT, an MTU request
    obtain ⟨code, hcode, -⟩ := load_eq_some (by omega : 0 < p.length)
    rw [hcode, Option.bind_eq_bind, Option.bind_some]
    split
    · exact ⟨_, rfl, .answered hplain silent_mtu⟩
    · exact ⟨_, rfl, hignored⟩
  split
  next h => -- ATT, a search by value
    obtain ⟨code, hcode, -⟩ := load_eq_some (by omega : 0 < p.length)
    obtain ⟨id, hid, -⟩ := load_eq_some (by omega : 1 < p.length)
    obtain ⟨lo, hlo, -⟩ := load_eq_some (by omega : 2 < p.length)
    rw [hcode, Option.bind_eq_bind, Option.bind_some]
    split
    · rw [hid, Option.bind_some, hlo]
      exact ⟨_, rfl, .answered hplain (silent_search id lo)⟩
    · exact ⟨_, rfl, hignored⟩
  split
  next h => -- SMP
    obtain ⟨code, hcode, -⟩ := load_eq_some (List.length_pos_of_ne_nil h.2)
    rw [hcode, Option.bind_eq_bind, Option.bind_some]
    split
    · exact ⟨_, rfl, .answered hplain silent_pairing⟩
    · exact ⟨_, rfl, hignored⟩
  split
  next h => -- signalling
    obtain ⟨code, hcode, -⟩ := load_eq_some (by omega : 0 < p.length)
    obtain ⟨id, hid, -⟩ := load_eq_some (by omega : 1 < p.length)
    rw [hcode, Option.bind_eq_bind, Option.bind_some]
    split
    · rw [hid]
      exact ⟨_, rfl, .answered hplain (silent_parameters id)⟩
    · exact ⟨_, rfl, hignored⟩
  · exact ⟨_, rfl, hignored⟩

/-- A proprietary message under encryption that cannot be a setup. -/
theorem sessionVerdict_spec {peer : Peer} {cid : UInt16} {p : List UInt8}
    (hon : peer.encrypted = true) (hcid : cid = 0x101) (hother : p.length ≠ 45) :
    ∃ v, l2capVerdict bond peer cid p = some v ∧ VerdictSpec bond peer cid p v := by
  have hplain : ¬ Offence bond (.message peer.encrypted cid p) :=
    not_offence_of_kind hon fun h => absurd h hother
  have hlogged : VerdictSpec bond peer cid p .logged :=
    .plain hplain (.inl rfl)
  unfold l2capVerdict
  rw [if_pos hcid, if_neg (not_not.mpr hon), if_neg hother]
  split
  next hlength => -- nine bytes, the idle request or another one
    obtain ⟨kind, hkind, -⟩ := load_eq_some (by omega : 0 < p.length)
    rw [hkind, Option.bind_eq_bind, Option.bind_some]
    split
    · rw [loadSpan_eq_span (by omega), Option.bind_eq_bind, Option.bind_some]
      split
      · exact ⟨_, rfl, .refused⟩
      next hmatch =>
        rw [not_or, not_not, not_not] at hmatch
        have hwhole : span p 0 9 = p := List.take_of_length_le (by rw [List.drop_zero]; omega)
        refine ⟨_, rfl, fun h => absurd h hplain, fun h => L2capVerdict.noConfusion h,
          fun _ => ⟨hon, hcid, hwhole.symm.trans hmatch.2, hmatch.1⟩,
          fun h => L2capVerdict.noConfusion h, fun _ _ h => L2capVerdict.noConfusion h⟩
    · exact ⟨_, rfl, hlogged⟩
  split
  next hlength => -- 281 bytes
    obtain ⟨kind, hkind, hfirst⟩ := load_eq_some (by omega : 0 < p.length)
    rw [hkind, Option.bind_eq_bind, Option.bind_some]
    split
    next hmatch =>
      refine ⟨_, rfl, fun h => absurd h hplain, fun h => L2capVerdict.noConfusion h,
        fun h => L2capVerdict.noConfusion h, fun _ => ⟨hon, hcid, hlength, ?_, hmatch.2.2⟩,
        fun _ _ h => L2capVerdict.noConfusion h⟩
      rw [hfirst, hmatch.1]
    · exact ⟨_, rfl, hlogged⟩
  · exact ⟨_, rfl, hlogged⟩

/-- Each message has its branch of `l2cap`, and no access is outside it. -/
theorem l2capVerdict_spec (bond : Bond) (peer : Peer) (cid : UInt16) (p : List UInt8) :
    ∃ v, l2capVerdict bond peer cid p = some v ∧ VerdictSpec bond peer cid p v := by
  by_cases hcid : cid = 0x101
  · by_cases hon : peer.encrypted = true
    · by_cases hlength : p.length = 45
      · exact setupVerdict_spec hon hcid hlength
      · exact sessionVerdict_spec hon hcid hlength
    · -- nothing of the protocol is taken in the clear
      refine ⟨.refused, ?_, .refused⟩
      unfold l2capVerdict
      rw [if_pos hcid, if_pos hon]
  · exact otherVerdict_spec hcid

namespace Session

variable {held : Bool} {h : Hearing} {known : List Heard} {s : Session}

theorem Safe.l2cap (hs : s.Safe) (bond : Bond) (handle cid : UInt16) (p : List UInt8) :
    (s.l2cap bond handle cid p).Safe := by
  obtain ⟨v, hv, -⟩ := l2capVerdict_spec bond s.peer cid p
  have hnote := hs.note (.message s.peer.encrypted cid p)
  unfold Session.l2cap
  dsimp only
  rw [hv]
  cases v with
  | refused => exact hnote.fail
  | verified => exact hnote.update rfl
  | idleRequested =>
      have hidle := hnote.update (f := fun peer => { peer with idleSent := true }) rfl
      exact hidle.sendIdle handle
  | held => exact hnote.update rfl
  | logged => exact hnote
  | replied dest reply => exact hnote.sendAcl handle dest reply
  | ignored => exact hnote

/-- The effect of a message that has just been heard. -/
theorem Knows.l2cap (hs : s.Knows bond held h known) (handle cid : UInt16) (p : List UInt8)
    (hheard : h.heard = .message (encryptionOn known) cid p :: known) :
    (s.l2cap bond handle cid p).Sound bond held h := by
  obtain ⟨v, hv, hspec⟩ := l2capVerdict_spec bond s.peer cid p
  have hnote := hs.noteMessage s.peer.encrypted cid p
  have hon := hs.flags.encrypted
  -- an offence is always refused, so any other branch adds none
  have hplain : v ≠ .refused → Flags bond s.peer h.heard := by
    intro hne
    rw [hheard]
    refine hs.flags.message (Kept.refl _) fun ho => ?_
    rw [← hon] at ho
    exact absurd (hspec.offence ho) hne
  unfold Session.l2cap
  dsimp only
  rw [hv]
  cases v with
  | refused =>
      have hflags : Flags bond { s.peer with failed := true } h.heard := by
        rw [hheard]
        exact hs.flags.message (Kept.failing _) fun _ => rfl
      exact hnote.become (f := fun peer => { peer with failed := true }) hflags rfl id
  | verified =>
      obtain ⟨hsecure, hcid, hsetup⟩ := hspec.verified rfl
      have hflags := hplain L2capVerdict.noConfusion
      have hstage : Saw ((gate bond).drop 2) h.heard := by
        rw [hheard, ← hon, hsecure, hcid]
        exact .next ⟨p, rfl, hsetup⟩ (hs.flags.secured hsecure)
      exact hnote.become (f := fun peer => { peer with peerVerified := true })
        ⟨hflags.encrypted, hflags.secured, fun _ => hstage, hflags.idleSent, hflags.holding,
          hflags.failed⟩ rfl id
  | idleRequested =>
      obtain ⟨hsecure, hcid, hrequest, hverified⟩ := hspec.idleRequested rfl
      have hflags := hplain L2capVerdict.noConfusion
      have hstage : Saw ((gate bond).drop 1) h.heard := by
        rw [hheard, ← hon, hsecure, hcid, hrequest]
        exact .next rfl (hs.flags.verified hverified)
      have hsound := hnote.become (f := fun peer => { peer with idleSent := true })
        ⟨hflags.encrypted, hflags.secured, hflags.verified, fun _ => hstage, hflags.holding,
          hflags.failed⟩ rfl id
      exact hsound.sendIdle handle
  | held =>
      obtain ⟨hsecure, hcid, hlength, hfirst, hidle⟩ := hspec.held rfl
      have hflags := hplain L2capVerdict.noConfusion
      have hstage : Saw (gate bond) h.heard := by
        rw [hheard, ← hon, hsecure, hcid]
        exact .next ⟨p, rfl, hlength, hfirst⟩ (hs.flags.idleSent hidle)
      exact hnote.become (f := fun peer => { peer with holding := true })
        ⟨hflags.encrypted, hflags.secured, hflags.verified, hflags.idleSent, fun _ => hstage,
          hflags.failed⟩ rfl fun _ => rfl
  | logged => exact hnote.become (f := id) (hplain L2capVerdict.noConfusion) rfl id
  | replied dest reply =>
      have hsound := hnote.become (f := id) (hplain L2capVerdict.noConfusion) rfl id
      exact hsound.sendAcl handle (.inr (hspec.replied dest reply rfl))
  | ignored => exact hnote.become (f := id) (hplain L2capVerdict.noConfusion) rfl id

end Session

end Gate

end UllReceiver.Link
