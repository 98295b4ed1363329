import UllReceiver.Link.GateRun

/-!
# Cutting and reassembly

The reassembly of `process` undoes any cutting of PDUs into ACL packets, that of `send_acl` among
them, and stays inside its buffer whatever packets come.
-/

namespace UllReceiver.Link

open Library Library.Halting

/-! ## The handle -/

theorem appendAcl_handle {a b : Assembly} {p : List UInt8} {o : AclOutcome}
    (h : appendAcl a p = some o) : (o.assembly b).handle = a.handle := by
  unfold appendAcl at h
  split at h
  · cases h
    rfl
  · obtain ⟨data, -, h⟩ := Option.bind_eq_some_iff.mp h
    obtain ⟨fragment, -, h⟩ := Option.bind_eq_some_iff.mp h
    dsimp only at h
    split at h
    · cases h
      rfl
    · obtain ⟨size, -, h⟩ := Option.bind_eq_some_iff.mp h
      split at h
      · cases h
        rfl
      · split at h
        · obtain ⟨cid, -, h⟩ := Option.bind_eq_some_iff.mp h
          obtain ⟨payload, -, h⟩ := Option.bind_eq_some_iff.mp h
          cases h
          rfl
        · cases h
          rfl

theorem acceptAcl_handle {a : Assembly} {p : List UInt8} {o : AclOutcome}
    (h : acceptAcl a p = some o) : (o.assembly a).handle = a.handle := by
  obtain ⟨kind, -, h⟩ := Option.bind_eq_some_iff.mp h
  split at h
  · cases h
    rfl
  · obtain ⟨length, -, h⟩ := Option.bind_eq_some_iff.mp h
    split at h
    · cases h
      rfl
    · obtain ⟨flags, -, h⟩ := Option.bind_eq_some_iff.mp h
      split at h
      · cases h
        rfl
      · split at h
        · have hstart := appendAcl_handle (b := a) h
          exact hstart
        · split at h
          · cases h
            rfl
          · exact appendAcl_handle h

/-! ## The keeper and the reassembly alone -/

/-- Calls of `l2cap` in order. -/
def Session.l2caps (bond : Bond) (handle : UInt16) (calls : List (UInt16 × List UInt8))
    (s : Session) : Session :=
  calls.foldl (fun s call => s.l2cap bond handle call.1 call.2) s

def Keeper.processAll (bond : Bond) (packets : List (List UInt8)) (k : Keeper) : Keeper :=
  packets.foldl (fun k p => k.process bond p) k

theorem Reassembled.apply_failed {r : Reassembled} (o : AclOutcome) (h : r.failed = true) :
    (r.apply o).failed = true := by
  cases o with
  | refused a => rfl
  | _ => exact h

theorem accept_failed (ps : List (List UInt8)) : ∀ {r r' : Reassembled}, r.failed = true →
    ps.foldlM Reassembled.accept r = some r' → r'.failed = true := by
  induction ps with
  | nil =>
      intro r r' h hrun
      cases hrun
      exact h
  | cons p ps ih =>
      intro r r' h hrun
      rw [List.foldlM_cons] at hrun
      obtain ⟨next, hnext, hrun⟩ := Option.bind_eq_some_iff.mp hrun
      obtain ⟨o, -, rfl⟩ := Option.map_eq_some_iff.mp hnext
      exact ih (Reassembled.apply_failed o h) hrun

/-- A packet that is no event. -/
structure IsAcl (p : List UInt8) : Prop where
  length : 3 ≤ p.length
  kind : byte p 0 ≠ 4

/-- One packet that is not refused: what it comes to for the reassembly, and the calls of `l2cap`
it brings. -/
theorem process_accept {bond : Bond} {k : Keeper} {r next : Reassembled} {p : List UInt8}
    (hp : IsAcl p) (hassembly : r.assembly = k.assembly) (hnext : r.accept p = some next)
    (hfailed : next.failed = false) :
    ∃ calls, next.calls = r.calls ++ calls ∧ next.assembly.handle = k.assembly.handle ∧
      k.process bond p =
        { assembly := next.assembly
          session := k.session.l2caps bond k.assembly.handle calls } := by
  obtain ⟨o, ho, rfl⟩ := Option.map_eq_some_iff.mp hnext
  rw [hassembly] at ho
  have hhandle := acceptAcl_handle ho
  have hprocess : k.process bond p = k.processAcl bond p := by
    unfold Keeper.process
    rw [if_neg (by have := hp.length; omega), if_neg hp.kind]
  rw [hprocess]
  unfold Keeper.processAcl
  rw [ho]
  cases o with
  | ignored =>
      refine ⟨[], (List.append_nil _).symm, congrArg Assembly.handle hassembly, ?_⟩
      show k = { assembly := r.assembly, session := k.session }
      rw [hassembly]
  | kept a => exact ⟨[], (List.append_nil _).symm, hhandle, rfl⟩
  | refused a => cases hfailed
  | delivered a cid payload =>
      change a.handle = k.assembly.handle at hhandle
      refine ⟨[(cid, payload)], rfl, hhandle, ?_⟩
      rw [← hhandle]
      rfl

/-- Packets none of which is refused: the keeper makes the calls of `l2cap`, one after another, and
nothing else. -/
theorem processAll_accept {bond : Bond} (ps : List (List UInt8)) :
    ∀ {k : Keeper} {r r' : Reassembled}, (∀ p ∈ ps, IsAcl p) → r.assembly = k.assembly →
      ps.foldlM Reassembled.accept r = some r' → r'.failed = false →
      ∃ calls, r'.calls = r.calls ++ calls ∧
        k.processAll bond ps =
          { assembly := r'.assembly
            session := k.session.l2caps bond k.assembly.handle calls } := by
  induction ps with
  | nil =>
      intro k r r' _ hassembly hrun _
      cases hrun
      refine ⟨[], (List.append_nil _).symm, ?_⟩
      show k = { assembly := r.assembly, session := k.session }
      rw [hassembly]
  | cons p ps ih =>
      intro k r r' hps hassembly hrun hfailed
      rw [List.foldlM_cons] at hrun
      obtain ⟨next, hnext, hrun⟩ := Option.bind_eq_some_iff.mp hrun
      -- a failure would have stayed to the end
      have hgoing : next.failed = false := by
        rw [← Bool.not_eq_true]
        intro h
        rw [accept_failed ps h hrun] at hfailed
        cases hfailed
      obtain ⟨one, hone, hhandle, hprocess⟩ :=
        @process_accept bond _ _ _ _ (hps p List.mem_cons_self) hassembly hnext hgoing
      have hacl : ∀ q ∈ ps, IsAcl q := fun q hq => hps q (List.mem_cons_of_mem p hq)
      have hmid : next.assembly = (k.process bond p).assembly := by rw [hprocess]
      obtain ⟨calls, hcalls, hrest⟩ := ih hacl hmid hrun hfailed
      refine ⟨one ++ calls, ?_, ?_⟩
      · rw [hcalls, hone, List.append_assoc]
      · change (k.process bond p).processAll bond ps = _
        rw [hrest, hprocess]
        dsimp only
        rw [hhandle]
        unfold Session.l2caps
        rw [List.foldl_append]

theorem AclPiece.isAcl {handle : UInt16} (x : AclPiece handle) : IsAcl x.packet where
  length := by
    rw [packet_length]
    omega
  kind := by
    change (2 : UInt8) ≠ 4
    decide

/-- The packets of any number of PDUs come to one call of `l2cap` for each, in order. -/
theorem processAll_cuts (bond : Bond) {handle : UInt16} (cs : List (AclCut handle)) {k : Keeper}
    (hhandle : k.assembly.handle = handle)
    (hfragment : k.assembly.fragment.length = fragmentBytes) :
    ∃ b : Assembly, b.handle = handle ∧ b.fragment.length = fragmentBytes ∧
      k.processAll bond (cs.flatMap AclCut.packets) =
        { assembly := b
          session := k.session.l2caps bond handle (cs.map fun c => (c.cid, c.payload)) } := by
  obtain ⟨b, hb, hlength, hrun⟩ := accept_cuts cs ⟨k.assembly, false, []⟩ hhandle hfragment
  have hacl : ∀ p ∈ cs.flatMap AclCut.packets, IsAcl p := by
    intro p hp
    obtain ⟨c, -, hp⟩ := List.mem_flatMap.mp hp
    obtain ⟨x, -, rfl⟩ := List.mem_map.mp hp
    exact x.isAcl
  obtain ⟨calls, hcalls, hprocess⟩ :=
    @processAll_accept bond (cs.flatMap AclCut.packets) _ _ _ hacl rfl hrun rfl
  rw [List.nil_append, List.nil_append] at hcalls
  rw [← hcalls, hhandle] at hprocess
  exact ⟨b, hb, hlength, hprocess⟩

theorem processAll_safe (bond : Bond) (ps : List (List UInt8)) :
    ∀ {k : Keeper}, k.Safe → (k.processAll bond ps).Safe := by
  induction ps with
  | nil => exact fun h => h
  | cons p ps ih => exact fun h => ih (h.process bond p)

/-- Any PDUs, however they are cut into packets for the handle of the connection: `process` calls
`l2cap` once for each, in order, with its CID and payload, and changes nothing else but the buffer.
What `send_acl` sends is such a cut.  And whatever packets come, after any run of the keeper,
nothing outside the buffer or a packet is accessed and no more than the buffer is assembled. -/
theorem acl_inverse (bond : Bond) :
    (∀ (handle : UInt16) (cs : List (AclCut handle)) (k : Keeper), k.assembly.handle = handle →
      k.assembly.fragment.length = fragmentBytes →
      ∃ b : Assembly, k.processAll bond (cs.flatMap AclCut.packets) =
        { assembly := b
          session := k.session.l2caps bond handle (cs.map fun c => (c.cid, c.payload)) }) ∧
    (∀ (handle : UInt16) (limit : Nat) (cid : UInt16) (payload : List UInt8), handle ≤ 0xfff →
      27 ≤ limit → limit ≤ 251 → payload.length ≤ 296 →
      ∃ c : AclCut handle, c.cid = cid ∧ c.payload = payload ∧
        sendAclPackets handle limit cid payload = some c.packets) ∧
    ∀ (n m : Nat) (answers : Nat → Answer) (ps : List (List UInt8)),
      let k := (run bond n m (Keeper.init answers)).2.processAll bond ps
      k.session.fault = false ∧ k.assembly.assembled ≤ fragmentBytes ∧
        k.assembly.fragment.length = fragmentBytes := by
  refine ⟨?_, ?_, ?_⟩
  · intro handle cs k hhandle hfragment
    obtain ⟨b, -, -, hprocess⟩ := processAll_cuts bond cs hhandle hfragment
    exact ⟨b, hprocess⟩
  · intro handle limit cid payload hhandle hlow hlimit hpayload
    exact sendAclPackets_cut hhandle hlow hlimit cid hpayload
  · intro n m answers ps
    have hsound := @holds_run bond n m (Keeper.init answers) (sound_init answers)
    have hall := processAll_safe bond ps hsound.safe
    exact ⟨hall.session.fault, hall.assembly.assembled, hall.assembly.fragment⟩

/-- A keeper under encryption, with a connection to the peer. -/
def securedKeeper : Keeper where
  assembly := ⟨0x40, 0, List.replicate fragmentBytes 0⟩
  session := ⟨{ encrypted := true }, answersOf [], [], false⟩

/-- The setup in the two packets `send_acl` makes of it is the one call of `l2cap` that verifies
the peer. -/
theorem acl_inverse_setup : ∃ c : AclCut 0x40, c.packets.length = 2 ∧
    ∃ b : Assembly, securedKeeper.processAll heldBond c.packets =
      { assembly := b
        session := securedKeeper.session.l2cap heldBond 0x40 0x101 setupReply } ∧
      (securedKeeper.session.l2cap heldBond 0x40 0x101 setupReply).peer.peerVerified = true := by
  obtain ⟨hinverse, hcut, -⟩ := acl_inverse heldBond
  obtain ⟨c, hcid, hpayload, hpackets⟩ :=
    hcut 0x40 27 0x101 setupReply (by decide) (by decide) (by decide) (by decide)
  obtain ⟨b, hb⟩ := hinverse 0x40 [c] securedKeeper rfl List.length_replicate
  have htwo : (sendAclPackets 0x40 27 0x101 setupReply).map List.length = some 2 := by
    decide +kernel
  refine ⟨c, ?_, b, ?_, by decide +kernel⟩
  · rw [hpackets] at htwo
    exact Option.some.inj htwo
  · rw [List.flatMap_singleton, List.map_singleton, hcid, hpayload] at hb
    exact hb

end UllReceiver.Link
