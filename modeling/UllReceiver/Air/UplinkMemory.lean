import UllReceiver.Air.AirFrame
import UllReceiver.Library.Buffer

/-!
# The uplink parser in memory

`uplink_parse` as it runs over its buffers: a cursor into the caller's bytes, an array for the
decoded records, and outputs that are the caller's.  An access outside a buffer is no result.
-/

namespace UllReceiver.Air

open Library

/-- What the caller passes for output; no control record for `air_uplink_parse`. -/
structure UplinkOut where
  records : List AirRxRecord
  count : Nat
  control : Option AirControlRecord
deriving DecidableEq

/-- How many bytes follow a record's header, of which `h1` is the second byte. -/
def recordSizeAt (sizes : List UInt8) (selector : Nat) (h1 : UInt8) : Option Nat :=
  if h1 &&& 0x0c ≠ 0 then some 0 else (load sizes selector).map UInt8.toNat

/-- One turn of the loop over the stream ids, from the cursor and the records decoded so far. -/
def parseRecordAt (src : List UInt8) (mask : UInt8) (sizes : List UInt8) (selector : Nat)
    (id : UInt8) (s : Nat × List AirRxRecord) :
    Option (Except AirFrameError (Nat × List AirRxRecord)) := do
  if mask &&& 1 <<< id = 0 then return .ok s
  let (cursor, decoded) := s
  let left ← sizeSub src.length cursor
  if left < 2 then return .error .malformed
  let h0 ← load src cursor
  let h1 ← load src (cursor + 1)
  let bytes ← recordSizeAt sizes selector h1
  let left ← sizeSub src.length (cursor + 2)
  if bytes > left then return .error .malformed
  let payload ← loadSpan src (cursor + 2) bytes
  let decoded ← pushWithin airMaxStreams decoded
    { payload, streamId := id, txSequence := h0 >>> 4, ackSequence := h0 &&& 15
      kind := h1 &&& 3, flags := h1 }
  return .ok (cursor + 2 + bytes, decoded)

def parseRecordsAt (src : List UInt8) (mask : UInt8) (sizes : List UInt8) (selector : Nat)
    (s : Nat × List AirRxRecord) :
    List UInt8 → Option (Except AirFrameError (Nat × List AirRxRecord))
  | [] => some (.ok s)
  | id :: ids => do
    match ← parseRecordAt src mask sizes selector id s with
    | .error e => return .error e
    | .ok s => parseRecordsAt src mask sizes selector s ids

/-- The control trailer behind the records, and the cursor after it. -/
def parseTailAt (src : List UInt8) (hasControl hasOutput : Bool) (cursor : Nat) :
    Option (Except AirFrameError (AirControlRecord × Nat)) := do
  if !hasControl then return .ok (.zero, cursor)
  if !hasOutput then return .error .malformed
  let left ← sizeSub src.length cursor
  if left < 2 then return .error .malformed
  let left ← sizeSub left 2
  let length ← load src (cursor + 1)
  if left ≠ length.toNat then return .error .malformed
  let header ← load src cursor
  if header &&& 3 = 0 ∨ (length = 0 ∧ header &&& 3 ≠ 1) then return .error .malformed
  let payload ← loadSpan src (cursor + 2) length.toNat
  return .ok ({ payload, header, present := true }, src.length)

/-- `uplink_parse`: its result and the outputs afterwards. -/
def uplinkParseAt (src : List UInt8) (mask : UInt8) (sizes : List UInt8) (hasControl : Bool)
    (out : UplinkOut) : Option (Except AirFrameError Unit × UplinkOut) := do
  if mask = 0 ∨ mask &&& 0xf0 ≠ 0 ∨ !sizesValid sizes then return (.error .argument, out)
  if src.length = 0 ∨ src.length > airMaxAggregate then return (.error .malformed, out)
  let first ← load src 0
  let selector := (first &&& 3).toNat
  if selector ≥ sizes.length then return (.error .malformed, out)
  match ← parseRecordsAt src mask sizes selector (1, []) [0, 1, 2, 3] with
  | .error e => return (.error e, out)
  | .ok (cursor, decoded) =>
    match ← parseTailAt src hasControl out.control.isSome cursor with
    | .error e => return (.error e, out)
    | .ok (tail, cursor) =>
      if cursor ≠ src.length then return (.error .malformed, out)
      if decoded.length > out.records.length then return (.error .capacity, out)
      let records ← storeSpan out.records 0 decoded
      return (.ok (), { records, count := decoded.length, control := out.control.map fun _ => tail })

/-- `air_uplink_parse`. -/
def airUplinkParseAt (src : List UInt8) (mask : UInt8) (sizes : List UInt8) (out : UplinkOut) :
    Option (Except AirFrameError Unit × UplinkOut) :=
  (uplinkParseAt src mask sizes false { out with control := none }).map fun r =>
    (r.1, { r.2 with control := out.control })

/-- `air_uplink_parse_control`. -/
def airUplinkParseControlAt (src : List UInt8) (header : UInt8) (sizes : List UInt8)
    (out : UplinkOut) : Option (Except AirFrameError Unit × UplinkOut) :=
  if out.control.isNone then some (.error .argument, out)
  else uplinkParseAt src (header >>> 3 &&& 15) sizes (header &&& 1 != 0) out

/-! ## One record -/

section Record

variable {src : List UInt8} {mask : UInt8} {sizes : List UInt8} {selector : Nat} {id : UInt8}
variable {cursor : Nat} {decoded : List AirRxRecord}

theorem parseRecordAt_absent (h : mask &&& 1 <<< id = 0) (s : Nat × List AirRxRecord) :
    parseRecordAt src mask sizes selector id s = some (.ok s) := by
  unfold parseRecordAt
  rw [if_pos h]
  rfl

theorem parseRecordAt_short (h : mask &&& 1 <<< id ≠ 0) (hcursor : cursor ≤ src.length)
    (hshort : src.length - cursor < 2) :
    parseRecordAt src mask sizes selector id (cursor, decoded) = some (.error .malformed) := by
  simp only [parseRecordAt, if_neg h, sizeSub_of_le hcursor, Option.bind_eq_bind,
    Option.bind_some, if_pos hshort]
  rfl

/-- The bytes that follow the header `h0`, `h1`. -/
theorem parseRecordAt_header {size h0 h1 : UInt8} {rest : List UInt8}
    (h : mask &&& 1 <<< id ≠ 0) (hsize : sizes[selector]? = some size)
    (hrest : src.drop cursor = h0 :: h1 :: rest) (hroom : decoded.length < airMaxStreams) :
    parseRecordAt src mask sizes selector id (cursor, decoded) =
      if (if h1 &&& 0x0c ≠ 0 then 0 else size.toNat) > rest.length then some (.error .malformed)
      else some (.ok (cursor + 2 + (if h1 &&& 0x0c ≠ 0 then 0 else size.toNat), decoded ++
        [{ payload := rest.take (if h1 &&& 0x0c ≠ 0 then 0 else size.toNat), streamId := id
           txSequence := h0 >>> 4, ackSequence := h0 &&& 15, kind := h1 &&& 3, flags := h1 }])) := by
  have hlength : src.length - cursor = rest.length + 2 := by
    have := congrArg List.length hrest
    rw [List.length_drop] at this
    exact this
  have hcursor : cursor + 2 ≤ src.length := by omega
  have hload0 : load src cursor = some h0 := by
    have := load_drop src cursor 0
    rw [hrest] at this
    exact this
  have hload1 : load src (cursor + 1) = some h1 := by
    have := load_drop src cursor 1
    rw [hrest] at this
    exact this
  have hdrop : src.drop (cursor + 2) = rest := by
    rw [← List.drop_drop, hrest]
    rfl
  have hbytes : recordSizeAt sizes selector h1 =
      some (if h1 &&& 0x0c ≠ 0 then 0 else size.toNat) := by
    unfold recordSizeAt load
    rw [hsize]
    split <;> rfl
  have hleft : src.length - (cursor + 2) = rest.length := by omega
  generalize (if h1 &&& 0x0c ≠ 0 then 0 else size.toNat) = bytes at hbytes ⊢
  simp only [parseRecordAt, if_neg h, sizeSub_of_le (show cursor ≤ src.length by omega),
    Option.bind_eq_bind, Option.bind_some, hload0, hload1, hbytes, sizeSub_of_le hcursor, hleft,
    if_neg (show ¬src.length - cursor < 2 by omega)]
  by_cases hcut : bytes > rest.length
  · rw [if_pos hcut, if_pos hcut]
    rfl
  · have hspan : loadSpan src (cursor + 2) bytes = some (rest.take bytes) := by
      rw [loadSpan_of_le (by omega), hdrop]
    rw [if_neg hcut, if_neg hcut, hspan]
    simp only [Option.bind_some, pushWithin, if_pos hroom]
    rfl

end Record

/-! ## The whole -/

/-- What the loop over `ids` leaves when the rest of the input parses to `result`. -/
def LoopResult (src : List UInt8) (decoded : List AirRxRecord)
    (result : Except AirFrameError (List AirRxRecord × List UInt8))
    (at? : Option (Except AirFrameError (Nat × List AirRxRecord))) : Prop :=
  match result with
  | .error e => at? = some (.error e)
  | .ok (records, rest) => ∃ cursor ≤ src.length, rest = src.drop cursor ∧
      at? = some (.ok (cursor, decoded ++ records))

theorem parseRecordsAt_eq {src : List UInt8} {mask : UInt8} {sizes : List UInt8}
    {selector : Nat} {size : UInt8} (hsize : sizes[selector]? = some size) (ids : List UInt8) :
    ∀ (cursor : Nat) (decoded : List AirRxRecord), cursor ≤ src.length →
      decoded.length + ids.length ≤ airMaxStreams →
      LoopResult src decoded (parseRecords size.toNat mask (src.drop cursor) ids)
        (parseRecordsAt src mask sizes selector (cursor, decoded) ids) := by
  induction ids with
  | nil =>
    intro cursor decoded hcursor hroom
    exact ⟨cursor, hcursor, rfl, by rw [List.append_nil]; rfl⟩
  | cons id ids ih =>
    intro cursor decoded hcursor hroom
    rw [List.length_cons] at hroom
    by_cases habsent : mask &&& 1 <<< id = 0
    · have hrest := ih cursor decoded hcursor (by omega)
      simp only [parseRecords, if_pos habsent, parseRecordsAt, parseRecordAt_absent habsent,
        Option.bind_eq_bind, Option.bind_some]
      exact hrest
    · simp only [parseRecords, if_neg habsent, parseRecordsAt]
      cases hdrop : src.drop cursor with
      | nil =>
        have hshort : src.length - cursor < 2 := by
          rw [← List.length_drop, hdrop]
          decide
        rw [parseRecordAt_short habsent hcursor hshort]
        rfl
      | cons h0 rest =>
        cases rest with
        | nil =>
          have hshort : src.length - cursor < 2 := by
            rw [← List.length_drop, hdrop]
            show 1 < 2
            decide
          rw [parseRecordAt_short habsent hcursor hshort]
          rfl
        | cons h1 rest =>
          have hone := parseRecordAt_header habsent hsize hdrop
            (show decoded.length < airMaxStreams by omega)
          simp only [hone]
          generalize (if h1 &&& 0x0c ≠ 0 then 0 else size.toNat) = bytes
          by_cases hcut : bytes > rest.length
          · rw [if_pos hcut, if_pos hcut]
            rfl
          · rw [if_neg hcut, if_neg hcut]
            have hlength : src.length - cursor = rest.length + 2 := by
              have := congrArg List.length hdrop
              rw [List.length_drop] at this
              exact this
            have hnext : src.drop (cursor + 2 + bytes) = rest.drop bytes := by
              rw [Nat.add_assoc, ← List.drop_drop, hdrop, Nat.add_comm 2 bytes]
              show (h0 :: h1 :: rest).drop (bytes + 2) = _
              rfl
            have htail := ih (cursor + 2 + bytes) (decoded ++
              [{ payload := rest.take bytes, streamId := id, txSequence := h0 >>> 4
                 ackSequence := h0 &&& 15, kind := h1 &&& 3, flags := h1 }]) (by omega)
              (by rw [List.length_append]; show decoded.length + 1 + _ ≤ _; omega)
            rw [hnext] at htail
            simp only [Option.bind_eq_bind, Option.bind_some]
            cases hparse : parseRecords size.toNat mask (rest.drop bytes) ids with
            | error e =>
              rw [hparse] at htail
              exact htail
            | ok found =>
              rw [hparse] at htail
              obtain ⟨cursor', hle, hfound, hat⟩ := htail
              refine ⟨cursor', hle, hfound, ?_⟩
              rw [hat, List.append_assoc]
              rfl

theorem parseTailAt_control {src : List UInt8} {cursor : Nat} (hcursor : cursor ≤ src.length) :
    parseTailAt src true true cursor =
      some ((parseTail true (src.drop cursor)).map fun tail => (tail, src.length)) := by
  have hleft := sizeSub_of_le hcursor
  have hlength : src.length - cursor = (src.drop cursor).length := List.length_drop.symm
  cases hdrop : src.drop cursor with
  | nil =>
    have hshort : src.length - cursor < 2 := by
      rw [hlength, hdrop]
      decide
    simp only [parseTailAt, hleft, Option.bind_eq_bind, Option.bind_some, if_pos hshort]
    rfl
  | cons header rest =>
    cases rest with
    | nil =>
      have hshort : src.length - cursor < 2 := by
        rw [hlength, hdrop]
        show 1 < 2
        decide
      simp only [parseTailAt, hleft, Option.bind_eq_bind, Option.bind_some, if_pos hshort]
      rfl
    | cons length payload =>
      rw [hdrop, List.length_cons, List.length_cons] at hlength
      have hload0 : load src cursor = some header := by
        have := load_drop src cursor 0
        rw [hdrop] at this
        exact this
      have hload1 : load src (cursor + 1) = some length := by
        have := load_drop src cursor 1
        rw [hdrop] at this
        exact this
      have hbehind : src.drop (cursor + 2) = payload := by
        rw [← List.drop_drop, hdrop]
        rfl
      have hsize : sizeSub (src.length - cursor) 2 = some payload.length := by
        rw [sizeSub_of_le (by omega)]
        congr 1
        omega
      simp only [parseTailAt, hleft, Option.bind_eq_bind, Option.bind_some,
        if_neg (show ¬src.length - cursor < 2 by omega), hsize, hload1, hload0, parseTail]
      by_cases hfull : payload.length ≠ length.toNat
      · rw [if_pos hfull]
        simp only [if_pos (Or.inl hfull)]
        rfl
      · rw [if_neg hfull]
        push Not at hfull
        by_cases hkind : header &&& 3 = 0 ∨ (length = 0 ∧ header &&& 3 ≠ 1)
        · rw [if_pos hkind]
          simp only [if_pos (Or.inr hkind)]
          rfl
        · have hspan : loadSpan src (cursor + 2) length.toNat = some payload := by
            rw [loadSpan_of_le (by omega), hbehind, ← hfull, List.take_length]
          have hgood : ¬(payload.length ≠ length.toNat ∨ header &&& 3 = 0 ∨
              (length = 0 ∧ header &&& 3 ≠ 1)) := by
            intro h
            rcases h with h | h
            · exact h hfull
            · exact hkind h
          rw [if_neg hkind, hspan]
          simp only [if_neg hgood, Option.bind_some]
          rfl

/-- The outputs after `result`. -/
def UplinkOut.after (out : UplinkOut)
    (result : Except AirFrameError (List AirRxRecord × AirControlRecord)) :
    Except AirFrameError Unit × UplinkOut :=
  match result with
  | .error e => (.error e, out)
  | .ok (records, tail) => (.ok (),
      { records := records ++ out.records.drop records.length, count := records.length
        control := out.control.map fun _ => tail })

/-- In memory the parser stays in its buffers and has the result of the one over lists. -/
theorem uplinkParseAt_eq (src : List UInt8) (mask : UInt8) (sizes : List UInt8)
    (hasControl : Bool) (out : UplinkOut) (houtput : hasControl = true → out.control.isSome) :
    uplinkParseAt src mask sizes hasControl out =
      some (out.after (uplinkParse src mask sizes out.records.length hasControl)) := by
  unfold uplinkParseAt uplinkParse
  by_cases hargs : mask = 0 ∨ mask &&& 0xf0 ≠ 0 ∨ !sizesValid sizes
  · rw [if_pos hargs, if_pos hargs]
    rfl
  rw [if_neg hargs, if_neg hargs]
  cases src with
  | nil => rfl
  | cons first rest =>
    by_cases hlong : (first :: rest).length > airMaxAggregate
    · rw [if_pos (Or.inr hlong)]
      simp only [if_pos hlong]
      rfl
    have hlength : ¬((first :: rest).length = 0 ∨ (first :: rest).length > airMaxAggregate) :=
      not_or.mpr ⟨Nat.succ_ne_zero _, hlong⟩
    rw [if_neg hlength]
    have hfirst : load (first :: rest) 0 = some first := rfl
    simp only [if_neg hlong, hfirst, Option.bind_eq_bind, Option.bind_some]
    by_cases hselector : (first &&& 3).toNat ≥ sizes.length
    · rw [if_pos hselector, List.getElem?_eq_none hselector]
      rfl
    rw [if_neg hselector]
    obtain ⟨size, hsize⟩ : ∃ size, sizes[(first &&& 3).toNat]? = some size :=
      ⟨_, List.getElem?_eq_getElem (by omega)⟩
    have hloop := @parseRecordsAt_eq (first :: rest) mask _ _ _ hsize [0, 1, 2, 3] 1 []
      (Nat.succ_le_succ (Nat.zero_le _)) (by decide)
    rw [show (first :: rest).drop 1 = rest from rfl] at hloop
    simp only [hsize]
    cases hparse : parseRecords size.toNat mask rest [0, 1, 2, 3] with
    | error e =>
      rw [hparse] at hloop
      change parseRecordsAt _ _ _ _ _ _ = _ at hloop
      rw [hloop]
      rfl
    | ok found =>
      obtain ⟨records, left⟩ := found
      rw [hparse] at hloop
      obtain ⟨cursor, hcursor, hleft, hat⟩ := hloop
      rw [List.nil_append] at hat
      have hstore : records.length ≤ out.records.length →
          storeSpan out.records 0 records =
            some (records ++ out.records.drop records.length) := storeSpan_front
      simp only [hat, Option.bind_some]
      -- the trailer takes all that is left, or there must be nothing left
      cases hasControl with
      | true =>
        rw [houtput rfl, parseTailAt_control hcursor, ← hleft]
        cases htail : parseTail true left with
        | error e => rfl
        | ok tail =>
          simp only [Except.map, Option.bind_some]
          rw [if_neg (not_not_intro rfl)]
          by_cases hfit : records.length > out.records.length
          · rw [if_pos hfit, if_pos hfit]
            rfl
          · rw [if_neg hfit, if_neg hfit, hstore (by omega)]
            rfl
      | false =>
        have htail : parseTailAt (first :: rest) false out.control.isSome cursor =
            some (.ok (.zero, cursor)) := rfl
        rw [htail]
        simp only [Option.bind_some, parseTail]
        have hend : left.length = (first :: rest).length - cursor := by
          rw [hleft, List.length_drop]
        by_cases hmore : cursor ≠ (first :: rest).length
        · have hleftover : left.length ≠ 0 := by omega
          rw [if_pos hmore]
          simp only [if_pos hleftover]
          rfl
        · have hdone : ¬left.length ≠ 0 := by omega
          rw [if_neg hmore]
          simp only [if_neg hdone]
          by_cases hfit : records.length > out.records.length
          · simp only [if_pos hfit]
            rfl
          · simp only [if_neg hfit, hstore (show records.length ≤ _ by omega)]
            rfl

end UllReceiver.Air
