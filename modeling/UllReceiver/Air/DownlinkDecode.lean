import Mathlib
import UllReceiver.Air.DownlinkMemory
import UllReceiver.Air.UplinkGrammar

/-!
# The downlink read back

A decoder that knows the stream mask and the size table, and that it recovers what the builder was
given.
-/

namespace UllReceiver.Air

/-- A record and the two bytes of checksum behind it. -/
structure DecodedRecord where
  record : AirTxRecord
  checksum : UInt8 × UInt8
deriving DecidableEq

/-- The records of `streams`, which must be all of `src`. -/
def decodeRecords (size : Nat) : List UInt8 → List UInt8 → Option (List DecodedRecord)
  | [], [] => some []
  | id :: ids, h0 :: h1 :: src =>
    let bytes := if h1 &&& 4 ≠ 0 then 0 else size
    match src.drop bytes with
    | c0 :: c1 :: rest =>
      (decodeRecords size ids rest).map fun records =>
        { record :=
            { payload := src.take bytes, streamId := id, txSequence := h0 >>> 4
              ackSequence := h0 &&& 15, kind := h1 &&& 3 }
          checksum := (c0, c1) } :: records
    | _ => none
  | _, _ => none

/-- The flags and the records of an aggregate. -/
def downlinkDecode (mask : UInt8) (sizes : List UInt8) :
    List UInt8 → Option (UInt8 × List DecodedRecord)
  | [] => none
  | first :: rest =>
    (sizes[(first &&& 3).toNat]?).bind fun size =>
      (decodeRecords size.toNat (streamsOf mask [0, 1, 2, 3]) rest).map fun records =>
        (first &&& 0x70, records)

/-- The low half of the CRC-32 of payload and header, low byte first. -/
def recordChecksum (r : AirTxRecord) : UInt8 × UInt8 :=
  let crc := crc32Continue (0xffffff00 ||| r.streamId.toUInt32) (r.payload ++ recordHeader r)
  (crc.toUInt8, (crc >>> 8).toUInt8)

/-- Two chained calls are one over the concatenation. -/
theorem crc32Continue_append (seed : UInt32) (a b : List UInt8) :
    crc32Continue (crc32Continue seed a) b = crc32Continue seed (a ++ b) := by
  unfold crc32Continue
  rw [UInt32.not_not, List.foldl_append]

theorem recordBytes_eq (r : AirTxRecord) :
    recordBytes r =
      recordHeader r ++ r.payload ++ [(recordChecksum r).1, (recordChecksum r).2] := by
  show recordHeader r ++ r.payload ++ [UInt32.toUInt8 (crc32Continue (crc32Continue _ _) _), _] = _
  rw [crc32Continue_append]
  rfl

/-! ## Headers -/

theorem nibbles_split {tx ack : UInt8} (htx : tx ≤ 15) (hack : ack ≤ 15) :
    (tx <<< 4 ||| ack) >>> 4 = tx ∧ (tx <<< 4 ||| ack) &&& 15 = ack := by
  have hall : ∀ a b : Fin 16,
      (UInt8.ofNat a.val <<< 4 ||| UInt8.ofNat b.val) >>> 4 = UInt8.ofNat a.val ∧
        (UInt8.ofNat a.val <<< 4 ||| UInt8.ofNat b.val) &&& 15 = UInt8.ofNat b.val := by
    decide +kernel
  have h := hall ⟨tx.toNat, Nat.lt_succ_of_le htx⟩ ⟨ack.toNat, Nat.lt_succ_of_le hack⟩
  rwa [UInt8.ofNat_toNat, UInt8.ofNat_toNat] at h

theorem kind_split {kind : UInt8} (hkind : kind ≤ 3) :
    (kind ||| 0) &&& 4 = 0 ∧ (kind ||| 4) &&& 4 ≠ 0 ∧ (kind ||| 0) &&& 3 = kind ∧
      (kind ||| 4) &&& 3 = kind := by
  have hall : ∀ a : Fin 4, (UInt8.ofNat a.val ||| 0) &&& 4 = 0 ∧
      (UInt8.ofNat a.val ||| 4) &&& 4 ≠ 0 ∧
      (UInt8.ofNat a.val ||| 0) &&& 3 = UInt8.ofNat a.val ∧
      (UInt8.ofNat a.val ||| 4) &&& 3 = UInt8.ofNat a.val := by
    decide +kernel
  have h := hall ⟨kind.toNat, Nat.lt_succ_of_le hkind⟩
  rwa [UInt8.ofNat_toNat] at h

theorem first_split {flags : UInt8} (hflags : flags &&& ~~~0x70 = 0) {selector : Nat}
    (hselector : selector < 4) :
    ((flags ||| UInt8.ofNat selector) &&& 3).toNat = selector ∧
      (flags ||| UInt8.ofNat selector) &&& 0x70 = flags := by
  have hall : ∀ (a : Fin 256) (b : Fin 4), UInt8.ofNat a.val &&& ~~~0x70 = 0 →
      ((UInt8.ofNat a.val ||| UInt8.ofNat b.val) &&& 3).toNat = b.val ∧
        (UInt8.ofNat a.val ||| UInt8.ofNat b.val) &&& 0x70 = UInt8.ofNat a.val := by
    decide +kernel
  have h := hall ⟨flags.toNat, flags.toNat_lt⟩ ⟨selector, hselector⟩
  rw [UInt8.ofNat_toNat] at h
  exact h hflags

/-! ## Records -/

/-- What the builder requires of a record, when all that are not empty have `size` bytes. -/
structure AirTxRecord.Fits (size : Nat) (r : AirTxRecord) : Prop where
  tx : r.txSequence ≤ 15
  ack : r.ackSequence ≤ 15
  kind : r.kind ≤ 3
  payload : r.payload.length ≠ 0 → r.payload.length = size

theorem decodeRecords_record {size : Nat} {r : AirTxRecord} (h : r.Fits size)
    (ids rest : List UInt8) :
    decodeRecords size (r.streamId :: ids) (recordBytes r ++ rest) =
      (decodeRecords size ids rest).map fun records =>
        { record := r, checksum := recordChecksum r } :: records := by
  have hnibbles := nibbles_split h.tx h.ack
  have hkind := kind_split h.kind
  -- bit 2 of the second byte says whether the payload is there
  have hflag : (if (r.kind ||| if r.payload.length ≠ 0 then 0 else 4) &&& 4 ≠ 0 then 0 else size) =
      r.payload.length := by
    by_cases hempty : r.payload.length ≠ 0
    · rw [if_pos hempty, if_neg (not_not_intro hkind.1), h.payload hempty]
    · rw [if_neg hempty, if_pos hkind.2.1]
      omega
  have hvalue : (r.kind ||| if r.payload.length ≠ 0 then 0 else 4) &&& 3 = r.kind := by
    split
    · exact hkind.2.2.1
    · exact hkind.2.2.2
  rw [recordBytes_eq]
  show decodeRecords size (r.streamId :: ids) ((r.txSequence <<< 4 ||| r.ackSequence) ::
    (r.kind ||| if r.payload.length ≠ 0 then 0 else 4) :: (r.payload ++ [_, _] ++ rest)) = _
  simp only [decodeRecords, hflag, hvalue, hnibbles, List.append_assoc, List.drop_left,
    List.take_left, List.cons_append, List.nil_append]

theorem decodeRecords_flatMap {size : Nat} (records : List AirTxRecord)
    (h : ∀ r ∈ records, r.Fits size) :
    decodeRecords size (records.map AirTxRecord.streamId) (records.flatMap recordBytes) =
      some (records.map fun r => { record := r, checksum := recordChecksum r }) := by
  induction records with
  | nil => rfl
  | cons r records ih =>
    have hrest := ih fun r hmem => h r (List.mem_cons_of_mem _ hmem)
    rw [List.map_cons, List.flatMap_cons, decodeRecords_record (h r List.mem_cons_self), hrest]
    rfl

/-! ## The checks of the builder -/

/-- What the first pass leaves to rely on, with `selected` before it and `final` after it. -/
structure RecordsChecked (sizes : List UInt8) (selected final : Option Nat)
    (previous : Option UInt8) (records : List AirTxRecord) : Prop where
  ordered : (records.map AirTxRecord.streamId).Pairwise (· < ·)
  above : ∀ p ∈ previous, ∀ r ∈ records, p < r.streamId
  streams : ∀ r ∈ records, r.streamId < 4
  fields : ∀ r ∈ records, r.txSequence ≤ 15 ∧ r.ackSequence ≤ 15 ∧ r.kind ≤ 3
  kept : ∀ i, selected = some i → final = some i
  sized : ∀ r ∈ records, r.payload.length ≠ 0 →
    ∃ i n, final = some i ∧ sizes[i]? = some n ∧ n.toNat = r.payload.length
  chosen : ∀ i, final = some i → selected = some i ∨ ∃ n, sizes[i]? = some n

theorem recordSelector_ok {sizes : List UInt8} {selected next : Option Nat} {length : Nat}
    (h : recordSelector sizes selected length = .ok next) :
    (∀ i, selected = some i → next = some i) ∧
      (length = 0 → next = selected) ∧
      (length ≠ 0 → ∃ i n, next = some i ∧ sizes[i]? = some n ∧ n.toNat = length) := by
  unfold recordSelector at h
  by_cases hlength : length = 0
  · rw [if_pos hlength] at h
    cases h
    exact ⟨fun _ h => h, fun _ => rfl, fun hne => absurd hlength hne⟩
  · rw [if_neg hlength] at h
    split at h
    · cases h
    next index hindex =>
      have hfound : ∃ n, sizes[index]? = some n ∧ n.toNat = length := by
        obtain ⟨hlt, hp, -⟩ := List.findIdx?_eq_some_iff_getElem.mp hindex
        exact ⟨_, List.getElem?_eq_getElem hlt, by simpa using hp⟩
      obtain ⟨n, hn, hsize⟩ := hfound
      cases selected with
      | none =>
        cases h
        exact ⟨fun _ h => (nomatch h), fun h => absurd h hlength, fun _ => ⟨index, n, rfl, hn, hsize⟩⟩
      | some selector =>
        simp only at h
        split at h
        · cases h
        next hsame =>
          cases h
          push Not at hsame
          refine ⟨fun i hi => ?_, fun h => absurd h hlength, fun _ => ⟨index, n, rfl, hn, hsize⟩⟩
          rw [hsame]
          exact hi

theorem checkRecords_ok {sizes : List UInt8} (records : List AirTxRecord) :
    ∀ {selected final : Option Nat} {previous : Option UInt8},
      checkRecords sizes selected previous records = .ok final →
        RecordsChecked sizes selected final previous records := by
  induction records with
  | nil =>
    intro selected final previous h
    cases h
    exact ⟨.nil, fun _ _ _ h => (nomatch h), fun _ h => (nomatch h), fun _ h => (nomatch h),
      fun _ h => h, fun _ h => (nomatch h), fun _ h => .inl h⟩
  | cons r records ih =>
    intro selected final previous h
    unfold checkRecords at h
    split at h
    · cases h
    next hfields =>
      split at h
      · cases h
      next next? hselector =>
        have hrest := ih h
        have hselect := recordSelector_ok hselector
        simp only [not_or, not_exists, not_and, ge_iff_le, gt_iff_lt, UInt8.not_le,
          UInt8.not_lt] at hfields
        obtain ⟨hstream, htx, hack, hkind, habove, -⟩ := hfields
        have hfirst : ∀ x ∈ records, r.streamId < x.streamId := hrest.above r.streamId rfl
        refine ⟨?_, ?_, ?_, ?_, ?_, ?_, ?_⟩
        · rw [List.map_cons]
          refine .cons ?_ hrest.ordered
          intro id hid
          obtain ⟨x, hx, rfl⟩ := List.mem_map.mp hid
          exact hfirst x hx
        · intro p hp x hx
          rcases List.mem_cons.mp hx with rfl | hx
          · exact habove p hp
          · exact UInt8.lt_trans (habove p hp) (hfirst x hx)
        · intro x hx
          rcases List.mem_cons.mp hx with rfl | hx
          · exact hstream
          · exact hrest.streams x hx
        · intro x hx
          rcases List.mem_cons.mp hx with rfl | hx
          · exact ⟨htx, hack, hkind⟩
          · exact hrest.fields x hx
        · intro i hi
          exact hrest.kept i (hselect.1 i hi)
        · intro x hx hlength
          rcases List.mem_cons.mp hx with rfl | hx
          · obtain ⟨i, n, hnext, hn⟩ := hselect.2.2 hlength
            exact ⟨i, n, hrest.kept i hnext, hn⟩
          · exact hrest.sized x hx hlength
        · intro i hi
          rcases hrest.chosen i hi with hnext | hn
          · by_cases hlength : r.payload.length = 0
            · exact .inl ((hselect.2.1 hlength) ▸ hnext)
            · obtain ⟨j, n, hj, hn, -⟩ := hselect.2.2 hlength
              rw [hnext] at hj
              cases hj
              exact .inr ⟨n, hn⟩
          · exact .inr hn

/-- The mask has the streams of the records and no others. -/
theorem streamsOf_mask {records : List AirTxRecord}
    (hordered : (records.map AirTxRecord.streamId).Pairwise (· < ·))
    (hstreams : ∀ r ∈ records, r.streamId < 4) :
    streamsOf (streamMask records) [0, 1, 2, 3] = records.map AirTxRecord.streamId := by
  have hmask : streamMask records =
      (records.map AirTxRecord.streamId).foldl (fun mask id => mask ||| (1 : UInt8) <<< id) 0 := by
    unfold streamMask
    rw [List.foldl_map]
  rw [hmask]
  generalize hids : records.map AirTxRecord.streamId = ids at hordered ⊢
  have hmem : ∀ id ∈ ids, id ∈ ([0, 1, 2, 3] : List UInt8) := by
    intro id hid
    rw [← hids] at hid
    obtain ⟨r, hr, rfl⟩ := List.mem_map.mp hid
    have hall : ∀ a : Fin 4, UInt8.ofNat a.val ∈ ([0, 1, 2, 3] : List UInt8) := by decide
    have := hall ⟨r.streamId.toNat, hstreams r hr⟩
    rwa [UInt8.ofNat_toNat] at this
  have hantisymm : Std.Antisymm fun a b : UInt8 => a ≤ b := ⟨fun _ _ => UInt8.le_antisymm⟩
  have hsub : ids.Sublist [0, 1, 2, 3] := by
    refine List.sublist_of_subperm_of_pairwise (r := (· ≤ ·)) ?_ ?_ ?_
    · exact List.Nodup.subperm (hordered.imp fun h => UInt8.ne_of_lt h) hmem
    · exact hordered.imp fun h => UInt8.le_of_lt h
    · decide
  have hall : ∀ l ∈ ([0, 1, 2, 3] : List UInt8).sublists,
      streamsOf (l.foldl (fun mask id => mask ||| (1 : UInt8) <<< id) 0) [0, 1, 2, 3] = l := by
    decide
  exact hall ids (List.mem_sublists.mpr hsub)

theorem downlinkBuild_decodes {capacity : Nat} {records : List AirTxRecord} {sizes : List UInt8}
    {flags : UInt8} {bytes : List UInt8} {mask : UInt8}
    (h : downlinkBuild capacity records sizes flags = .ok (bytes, mask)) :
    bytes.length ≤ airMaxAggregate ∧ downlinkDecode mask sizes bytes = some (flags,
      records.map fun r => { record := r, checksum := recordChecksum r }) := by
  have hlength := (downlinkBuild_ok h).1
  unfold downlinkBuild at h
  split at h
  · cases h
  next hargs =>
    push Not at hargs
    split at h
    · cases h
    next selected hselected =>
      simp only at h
      split at h
      · cases h
      next hfits =>
        cases h
        push Not at hfits
        rw [hlength]
        refine ⟨hfits.1, ?_⟩
        have hchecked := checkRecords_ok records hselected
        obtain ⟨hcount, -, hflags, hsizes⟩ := hargs
        have hvalid := sizesValid_iff.mp (by simpa using hsizes)
        -- an empty list of sizes or a selector from elsewhere is ruled out
        have hchoice : ∃ n, sizes[selected.getD 0]? = some n := by
          cases selected with
          | none => exact ⟨_, List.getElem?_eq_getElem (Nat.pos_of_ne_zero hvalid.1)⟩
          | some i => exact (hchecked.chosen i rfl).resolve_left (fun h => nomatch h)
        obtain ⟨n, hn⟩ := hchoice
        have hlt : selected.getD 0 < 4 := by
          have := (List.getElem?_eq_some_iff.mp hn).1
          exact Nat.lt_of_lt_of_le this hvalid.2.1
        have hfirst := first_split hflags hlt
        have hfit : ∀ r ∈ records, r.Fits n.toNat := by
          intro r hr
          obtain ⟨htx, hack, hkind⟩ := hchecked.fields r hr
          refine ⟨htx, hack, hkind, fun hne => ?_⟩
          obtain ⟨i, m, hi, hm, hsize⟩ := hchecked.sized r hr hne
          rw [hi] at hn
          cases hm.symm.trans hn
          exact hsize.symm
        simp only [downlinkDecode, hfirst.1, hfirst.2, hn, Option.bind_some,
          streamsOf_mask hchecked.ordered hchecked.streams, decodeRecords_flatMap records hfit,
          Option.map_some]

/-- What the builder wrote is decoded from its mask and the size table alone. -/
structure BuildsExactly (records : List AirTxRecord) (sizes : List UInt8) (flags : UInt8)
    (out : DownlinkOut) (r : Except AirFrameError Unit × DownlinkOut) : Prop where
  written : r.1 = .ok () → r.2.written = 1 + (records.map fun r => 4 + r.payload.length).sum
  bounded : r.1 = .ok () → r.2.written ≤ min out.dst.length airMaxAggregate
  behind : r.1 = .ok () → r.2.dst.length = out.dst.length ∧
    r.2.dst.drop r.2.written = out.dst.drop r.2.written
  decodes : r.1 = .ok () → downlinkDecode r.2.streamMask sizes (r.2.dst.take r.2.written) =
    some (flags, records.map fun r => { record := r, checksum := recordChecksum r })
  atomic : r.1 ≠ .ok () → r.2 = out

/-- The builder stays in its buffer, and its aggregate is decodable and checksummed. -/
theorem downlink_exact (records : List AirTxRecord) (sizes : List UInt8) (flags : UInt8)
    (out : DownlinkOut) :
    ∃ r, downlinkBuildAt records sizes flags out = some r ∧
      BuildsExactly records sizes flags out r := by
  refine ⟨_, downlinkBuildAt_eq records sizes flags out, ?_⟩
  cases hbuild : downlinkBuild out.dst.length records sizes flags with
  | error e =>
    exact ⟨fun hok => (nomatch hok), fun hok => (nomatch hok), fun hok => (nomatch hok),
      fun hok => (nomatch hok), fun _ => rfl⟩
  | ok built =>
    obtain ⟨bytes, mask⟩ := built
    obtain ⟨hlength, hcapacity, -⟩ := downlinkBuild_ok hbuild
    obtain ⟨hlimit, hdecodes⟩ := downlinkBuild_decodes hbuild
    simp only at hlength hcapacity
    refine ⟨fun _ => hlength, fun _ => le_min hcapacity hlimit, fun _ => ⟨?_, ?_⟩, fun _ => ?_,
      fun hbad => absurd rfl hbad⟩
    · show (bytes ++ out.dst.drop bytes.length).length = _
      rw [List.length_append, List.length_drop]
      omega
    · show (bytes ++ out.dst.drop bytes.length).drop bytes.length = _
      rw [List.drop_left]
      rfl
    · show downlinkDecode mask sizes ((bytes ++ out.dst.drop bytes.length).take bytes.length) = _
      rw [List.take_left]
      exact hdecodes

/-- An empty record beside one of two bytes, in a buffer with room to spare. -/
theorem downlink_exact_stereo :
    ∃ r, downlinkBuildAt [⟨[], 1, 3, 0, 0⟩, ⟨[7, 8], 2, 4, 1, 0⟩] [2] 0x10
        ⟨List.replicate 12 0, 0, 0⟩ = some r ∧ r.1 = .ok () ∧
      downlinkDecode 6 [2] (r.2.dst.take 11) = some (0x10,
        [⟨⟨[], 1, 3, 0, 0⟩, recordChecksum ⟨[], 1, 3, 0, 0⟩⟩,
          ⟨⟨[7, 8], 2, 4, 1, 0⟩, recordChecksum ⟨[7, 8], 2, 4, 1, 0⟩⟩]) := by
  obtain ⟨r, hr, h⟩ := downlink_exact [⟨[], 1, 3, 0, 0⟩, ⟨[7, 8], 2, 4, 1, 0⟩] [2] 0x10
    ⟨List.replicate 12 0, 0, 0⟩
  have hok : r.1 = .ok () ∧ r.2.written = 11 ∧ r.2.streamMask = 6 := by
    have hat := downlinkBuildAt_eq [⟨[], 1, 3, 0, 0⟩, ⟨[7, 8], 2, 4, 1, 0⟩] [2] 0x10
      ⟨List.replicate 12 0, 0, 0⟩
    rw [hr] at hat
    cases hat
    decide +kernel
  have hdecodes := h.decodes hok.1
  rw [hok.2.1, hok.2.2] at hdecodes
  exact ⟨r, hr, hok.1, hdecodes⟩

end UllReceiver.Air
