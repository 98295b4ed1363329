import UllReceiver.Air.UplinkMemory

/-!
# The grammar of the uplink

What an uplink aggregate is, as a relation on bytes, and that the parser accepts just these.
-/

namespace UllReceiver.Air

/-- The streams `ids` that `mask` has. -/
def streamsOf (mask : UInt8) (ids : List UInt8) : List UInt8 :=
  ids.filter fun id => mask &&& 1 <<< id ≠ 0

/-- The records of the streams, in the order of `ids`: a header of two bytes, then `size` bytes
unless bit 2 or 3 of its second byte is set. -/
inductive RecordsText (size : Nat) (mask : UInt8) : List UInt8 → List UInt8 → Prop
  | nil : RecordsText size mask [] []
  | absent {id : UInt8} {ids text : List UInt8} (hid : mask &&& 1 <<< id = 0)
      (h : RecordsText size mask ids text) : RecordsText size mask (id :: ids) text
  | record {id h0 h1 : UInt8} {ids payload text : List UInt8} (hid : mask &&& 1 <<< id ≠ 0)
      (hsize : payload.length = if h1 &&& 0x0c ≠ 0 then 0 else size)
      (h : RecordsText size mask ids text) :
      RecordsText size mask (id :: ids) (h0 :: h1 :: (payload ++ text))

/-- The control trailer: only an LLID of 1 goes with an empty one. -/
inductive TailText : Bool → List UInt8 → Prop
  | none : TailText false []
  | control {header length : UInt8} {payload : List UInt8} (hllid : header &&& 3 ≠ 0)
      (hlength : payload.length = length.toNat) (hempty : length = 0 → header &&& 3 = 1) :
      TailText true (header :: length :: payload)

/-- An aggregate: its first byte selects the size of the records behind it. -/
def UplinkText (mask : UInt8) (sizes : List UInt8) (hasControl : Bool) (src : List UInt8) : Prop :=
  ∃ (first : UInt8) (records tail : List UInt8) (size : UInt8), src = first :: (records ++ tail) ∧
    sizes[(first &&& 3).toNat]? = some size ∧
    RecordsText size.toNat mask [0, 1, 2, 3] records ∧ TailText hasControl tail

/-- A decoded record as it stood in the aggregate. -/
def AirRxRecord.bytes (r : AirRxRecord) : List UInt8 :=
  (r.txSequence <<< 4 ||| r.ackSequence) :: r.flags :: r.payload

def AirControlRecord.bytes (c : AirControlRecord) : List UInt8 :=
  if c.present then c.header :: UInt8.ofNat c.payload.length :: c.payload else []

theorem nibbles_join (b : UInt8) : (b >>> 4) <<< 4 ||| (b &&& 15) = b := by
  apply UInt8.toBitVec_inj.mp
  have hall : ∀ v : BitVec 8, (v >>> (4 : BitVec 8)) <<< (4 : BitVec 8) ||| (v &&& 15) = v := by
    decide +kernel
  exact hall b.toBitVec

/-! ## Records -/

theorem parseRecords_sound {size : Nat} {mask : UInt8} (ids : List UInt8) :
    ∀ (src : List UInt8) (records : List AirRxRecord) (rest : List UInt8),
      parseRecords size mask src ids = .ok (records, rest) →
        src = records.flatMap AirRxRecord.bytes ++ rest ∧
        RecordsText size mask ids (records.flatMap AirRxRecord.bytes) ∧
        records.length = (streamsOf mask ids).length := by
  induction ids with
  | nil =>
    intro src records rest h
    cases h
    exact ⟨rfl, .nil, rfl⟩
  | cons id ids ih =>
    intro src records rest h
    unfold parseRecords at h
    by_cases hid : mask &&& 1 <<< id = 0
    · rw [if_pos hid] at h
      have hrest := ih src records rest h
      refine ⟨hrest.1, .absent hid hrest.2.1, ?_⟩
      rw [hrest.2.2, streamsOf, streamsOf, List.filter_cons_of_neg (by simpa using hid)]
    · rw [if_neg hid] at h
      split at h
      · next h0 h1 src =>
        simp only at h
        generalize hbytes : (if h1 &&& 0x0c ≠ 0 then 0 else size) = bytes at h
        split at h
        · cases h
        · next hfit =>
          split at h
          · cases h
          · next found left hparse =>
            cases h
            have hrest := ih _ _ _ hparse
            have hone : AirRxRecord.bytes
                { payload := src.take bytes, streamId := id, txSequence := h0 >>> 4
                  ackSequence := h0 &&& 15, kind := h1 &&& 3, flags := h1 } =
                h0 :: h1 :: src.take bytes := by
              show _ :: _ :: _ = _
              rw [nibbles_join]
            rw [List.flatMap_cons, hone]
            refine ⟨?_, ?_, ?_⟩
            · show h0 :: h1 :: src = h0 :: h1 :: (_ ++ _ ++ _)
              rw [List.append_assoc, ← hrest.1, List.take_append_drop]
            · refine .record hid ?_ hrest.2.1
              rw [List.length_take, hbytes]
              omega
            · rw [List.length_cons, hrest.2.2, streamsOf, streamsOf,
                List.filter_cons_of_pos (by simpa using hid), List.length_cons]
      · cases h

theorem parseRecords_complete {size : Nat} {mask : UInt8} {ids text : List UInt8}
    (h : RecordsText size mask ids text) (rest : List UInt8) :
    ∃ records, parseRecords size mask (text ++ rest) ids = .ok (records, rest) := by
  induction h with
  | nil => exact ⟨[], rfl⟩
  | absent hid _ ih =>
    unfold parseRecords
    rw [if_pos hid]
    exact ih
  | @record id h0 h1 ids payload text hid hsize _ ih =>
    obtain ⟨records, hrecords⟩ := ih
    unfold parseRecords
    rw [if_neg hid]
    have hdrop : (payload ++ text ++ rest).drop payload.length = text ++ rest := by
      rw [List.append_assoc, List.drop_left]
    simp only [List.cons_append, ← hsize, hdrop, hrecords]
    rw [if_neg (by simp only [List.length_append]; omega)]
    exact ⟨_, rfl⟩

/-! ## The trailer -/

theorem parseTail_sound {hasControl : Bool} {src : List UInt8} {tail : AirControlRecord}
    (h : parseTail hasControl src = .ok tail) :
    src = tail.bytes ∧ TailText hasControl src ∧ (hasControl = false → tail = .zero) := by
  unfold parseTail at h
  cases hasControl with
  | false =>
    rw [if_neg (by decide)] at h
    split at h
    · cases h
    · next hempty =>
      cases h
      push Not at hempty
      rw [List.length_eq_zero_iff.mp hempty]
      exact ⟨rfl, .none, fun _ => rfl⟩
  | true =>
    rw [if_pos rfl] at h
    split at h
    · next header length payload =>
      split at h
      · cases h
      · next hgood =>
        cases h
        push Not at hgood
        refine ⟨?_, .control hgood.2.1 hgood.1 hgood.2.2, fun h => nomatch h⟩
        show _ = header :: UInt8.ofNat payload.length :: payload
        rw [hgood.1, UInt8.ofNat_toNat]
    · cases h

theorem parseTail_complete {hasControl : Bool} {src : List UInt8} (h : TailText hasControl src) :
    ∃ tail, parseTail hasControl src = .ok tail := by
  cases h with
  | none => exact ⟨.zero, rfl⟩
  | @control header length payload hllid hlength hempty =>
    refine ⟨{ payload, header, present := true }, ?_⟩
    have hgood : ¬(payload.length ≠ length.toNat ∨ header &&& 3 = 0 ∨
        (length = 0 ∧ header &&& 3 ≠ 1)) := by
      push Not
      exact ⟨hlength, hllid, hempty⟩
    unfold parseTail
    rw [if_pos rfl]
    simp only [if_neg hgood]

/-! ## The parser and its grammar -/

theorem sizesValid_iff {sizes : List UInt8} :
    sizesValid sizes = true ↔ sizes.length ≠ 0 ∧ sizes.length ≤ airMaxStreams ∧
      (∀ n ∈ sizes, n ≠ 0 ∧ n.toNat ≤ airMaxRecordPayload) ∧ sizes.Nodup := by
  simp only [sizesValid, Bool.and_eq_true, decide_eq_true_eq, List.all_eq_true, bne_iff_ne,
    and_assoc]

/-- What the parser accepts is an aggregate of the grammar, and its outputs spell it. -/
theorem uplinkParse_sound {src : List UInt8} {mask : UInt8} {sizes : List UInt8} {capacity : Nat}
    {hasControl : Bool} {records : List AirRxRecord} {tail : AirControlRecord}
    (h : uplinkParse src mask sizes capacity hasControl = .ok (records, tail)) :
    1 ≤ src.length ∧ src.length ≤ airMaxAggregate ∧
      (streamsOf mask [0, 1, 2, 3]).length ≤ capacity ∧ records.length ≤ capacity ∧
      UplinkText mask sizes hasControl src ∧
      src = src.take 1 ++ records.flatMap AirRxRecord.bytes ++ tail.bytes ∧
      (hasControl = false → tail = .zero) := by
  unfold uplinkParse at h
  split at h
  · cases h
  cases src with
  | nil => cases h
  | cons first rest =>
    simp only at h
    split at h
    · cases h
    next hlong =>
      split at h
      · cases h
      next size hsize =>
        split at h
        · cases h
        next found left hparse =>
          split at h
          · cases h
          next control htail =>
            split at h
            · cases h
            next hfit =>
              cases h
              have hrecords := parseRecords_sound _ _ _ _ hparse
              have hcontrol := parseTail_sound htail
              have hspell : first :: rest = first :: (records.flatMap AirRxRecord.bytes ++ left) := by
                rw [← hrecords.1]
              refine ⟨Nat.succ_le_succ (Nat.zero_le _), by omega, ?_, by omega, ?_, ?_,
                hcontrol.2.2⟩
              · rw [← hrecords.2.2]
                omega
              · exact ⟨first, _, left, size, hspell, hsize, hrecords.2.1, hcontrol.2.1⟩
              · rw [← hcontrol.1]
                exact hspell

theorem uplinkParse_complete {src : List UInt8} {mask : UInt8} {sizes : List UInt8}
    {capacity : Nat} {hasControl : Bool} (hmask : mask ≠ 0) (hbits : mask &&& 0xf0 = 0)
    (hsizes : sizesValid sizes = true) (hlength : src.length ≤ airMaxAggregate)
    (hcapacity : (streamsOf mask [0, 1, 2, 3]).length ≤ capacity)
    (htext : UplinkText mask sizes hasControl src) :
    ∃ records tail, uplinkParse src mask sizes capacity hasControl = .ok (records, tail) := by
  obtain ⟨first, text, trailer, size, rfl, hsize, hrecords, htrailer⟩ := htext
  obtain ⟨records, hparse⟩ := parseRecords_complete hrecords trailer
  obtain ⟨tail, htail⟩ := parseTail_complete htrailer
  have hcount := (parseRecords_sound _ _ _ _ hparse).2.2
  have hargs : ¬(mask = 0 ∨ mask &&& 0xf0 ≠ 0 ∨ (!sizesValid sizes) = true) := by
    rw [hsizes]
    simp [hmask, hbits]
  refine ⟨records, tail, ?_⟩
  unfold uplinkParse
  rw [if_neg hargs]
  simp only [if_neg (show ¬(first :: (text ++ trailer)).length > airMaxAggregate by omega), hsize,
    hparse, htail]
  rw [if_neg (by omega)]

/-- The parser's `result` for `src` is what the grammar says, with outputs that spell `src`;
`tail` is the control record it has put out. -/
structure ParsesExactly (src : List UInt8) (mask : UInt8) (sizes : List UInt8) (hasControl : Bool)
    (out : UplinkOut) (r : Except AirFrameError Unit × UplinkOut) (tail : AirControlRecord) :
    Prop where
  accepts : r.1 = .ok () ↔ 1 ≤ src.length ∧ src.length ≤ airMaxAggregate ∧
    (streamsOf mask [0, 1, 2, 3]).length ≤ out.records.length ∧
    UplinkText mask sizes hasControl src
  spells : r.1 = .ok () → src = src.take 1 ++
    (r.2.records.take r.2.count).flatMap AirRxRecord.bytes ++ tail.bytes
  atomic : r.1 ≠ .ok () → r.2 = out

theorem parsesExactly_after {src : List UInt8} {mask : UInt8} {sizes : List UInt8}
    {hasControl : Bool} {out : UplinkOut} (hmask : mask ≠ 0) (hbits : mask &&& 0xf0 = 0)
    (hsizes : sizesValid sizes = true) {result : Except AirFrameError (List AirRxRecord × _)}
    (h : uplinkParse src mask sizes out.records.length hasControl = result) :
    ParsesExactly src mask sizes hasControl out (out.after result)
      (match result with
        | .ok (_, tail) => tail
        | .error _ => .zero) := by
  cases result with
  | error e =>
    refine ⟨⟨fun hok => (nomatch hok), fun htext => ?_⟩, fun hok => (nomatch hok), fun _ => rfl⟩
    obtain ⟨records, tail, hparse⟩ :=
      uplinkParse_complete hmask hbits hsizes htext.2.1 htext.2.2.1 htext.2.2.2
    rw [h] at hparse
    cases hparse
  | ok found =>
    obtain ⟨records, tail⟩ := found
    have hsound := uplinkParse_sound h
    refine ⟨⟨fun _ => ⟨hsound.1, hsound.2.1, hsound.2.2.1, hsound.2.2.2.2.1⟩, fun _ => rfl⟩,
      fun _ => ?_, fun hbad => absurd rfl hbad⟩
    show src = src.take 1 ++ ((records ++ _).take records.length).flatMap _ ++ _
    rw [List.take_left]
    exact hsound.2.2.2.2.2.1

theorem header_mask (header : UInt8) : (header >>> 3 &&& 15) &&& 0xf0 = 0 := by
  apply UInt8.toBitVec_inj.mp
  have hall : ∀ v : BitVec 8, ((v >>> (3 : BitVec 8)) &&& 15) &&& 0xf0 = 0 := by
    decide +kernel
  exact hall header.toBitVec

/-- Both parsers stay in their buffers and accept their grammar and no more. -/
theorem uplink_exact (src sizes : List UInt8) (out : UplinkOut) (hcount : sizes.length ≠ 0)
    (hfour : sizes.length ≤ airMaxStreams)
    (hrange : ∀ n ∈ sizes, n ≠ 0 ∧ n.toNat ≤ airMaxRecordPayload) (hdistinct : sizes.Nodup) :
    (∀ mask : UInt8, mask ≠ 0 → mask &&& 0xf0 = 0 →
      ∃ r, airUplinkParseAt src mask sizes out = some r ∧
        ParsesExactly src mask sizes false out r .zero) ∧
    ∀ header : UInt8, header >>> 3 &&& 15 ≠ 0 → out.control.isSome →
      ∃ r, airUplinkParseControlAt src header sizes out = some r ∧
        ParsesExactly src (header >>> 3 &&& 15) sizes (header &&& 1 != 0) out r
          (r.2.control.getD .zero) := by
  have hsizes := sizesValid_iff.mpr ⟨hcount, hfour, hrange, hdistinct⟩
  constructor
  · intro mask hmask hbits
    have hat := uplinkParseAt_eq src mask sizes false { out with control := none }
      (fun h => nomatch h)
    refine ⟨_, by unfold airUplinkParseAt; rw [hat]; rfl, ?_⟩
    cases hparse : uplinkParse src mask sizes out.records.length false with
    | error e =>
      have h := parsesExactly_after hmask hbits hsizes hparse
      exact ⟨h.accepts, h.spells, fun _ => rfl⟩
    | ok found =>
      have h := parsesExactly_after hmask hbits hsizes hparse
      have hzero := (uplinkParse_sound hparse).2.2.2.2.2.2 rfl
      refine ⟨h.accepts, fun _ => ?_, fun hbad => absurd rfl hbad⟩
      rw [← hzero]
      exact h.spells rfl
  · intro header hmask hcontrol
    have hat := uplinkParseAt_eq src (header >>> 3 &&& 15) sizes (header &&& 1 != 0) out
      (fun _ => hcontrol)
    obtain ⟨control, hsome⟩ := Option.isSome_iff_exists.mp hcontrol
    have hhere : ¬out.control.isNone = true := by
      rw [hsome]
      exact fun h => nomatch h
    refine ⟨_, (if_neg hhere).trans hat, ?_⟩
    cases hparse : uplinkParse src (header >>> 3 &&& 15) sizes out.records.length
        (header &&& 1 != 0) with
    | error e =>
      have h := parsesExactly_after hmask (header_mask header) hsizes hparse
      exact ⟨h.accepts, fun hok => (nomatch hok), fun _ => rfl⟩
    | ok found =>
      have h := parsesExactly_after hmask (header_mask header) hsizes hparse
      refine ⟨h.accepts, fun _ => ?_, fun hbad => absurd rfl hbad⟩
      have htail : ((out.after (.ok found)).2.control.getD .zero) = found.2 := by
        show (out.control.map fun _ => found.2).getD .zero = found.2
        rw [hsome]
        rfl
      rw [htail]
      exact h.spells rfl

/-- A mono aggregate with an empty control trailer. -/
theorem uplink_exact_poll :
    (∃ r, airUplinkParseAt [0, 0x21, 4] 2 [40, 95] ⟨[], 0, none⟩ = some r ∧
      ParsesExactly [0, 0x21, 4] 2 [40, 95] false ⟨[], 0, none⟩ r .zero) ∧
    ∃ r, airUplinkParseControlAt [0, 0x21, 4, 1, 0] 0x11 [40, 95] ⟨[⟨[], 0, 0, 0, 0, 0⟩], 0,
        some .zero⟩ = some r ∧
      ParsesExactly [0, 0x21, 4, 1, 0] 2 [40, 95] true ⟨[⟨[], 0, 0, 0, 0, 0⟩], 0, some .zero⟩ r
        (r.2.control.getD .zero) :=
  ⟨(uplink_exact [0, 0x21, 4] [40, 95] _ (by decide) (by decide) (by decide +kernel)
      (by decide)).1 2 (by decide) (by decide),
    (uplink_exact [0, 0x21, 4, 1, 0] [40, 95] _ (by decide) (by decide) (by decide +kernel)
      (by decide)).2 0x11 (by decide) rfl⟩

end UllReceiver.Air
