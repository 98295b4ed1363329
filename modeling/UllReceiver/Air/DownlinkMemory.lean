import UllReceiver.Air.PacketShape
import UllReceiver.Library.Buffer

/-!
# The downlink builder in memory

`air_downlink_build` as it writes its caller's buffer, record by record behind a cursor, after a
first pass that has checked the records and summed up their sizes.
-/

namespace UllReceiver.Air

open Library

structure DownlinkOut where
  dst : List UInt8
  written : Nat
  streamMask : UInt8
deriving DecidableEq

/-- One turn of the writing loop, from the cursor and the buffer. -/
def writeRecordAt (s : Nat × List UInt8) (r : AirTxRecord) : Option (Nat × List UInt8) := do
  let (cursor, dst) := s
  let header := recordHeader r
  let crc := crc32Continue (0xffffff00 ||| r.streamId.toUInt32) r.payload
  let crc := crc32Continue crc header
  let dst ← storeSpan dst cursor header
  let dst ← storeSpan dst (cursor + 2) r.payload
  let dst ← storeSpan dst (cursor + 2 + r.payload.length) [crc.toUInt8]
  let dst ← storeSpan dst (cursor + 3 + r.payload.length) [(crc >>> 8).toUInt8]
  return (cursor + 4 + r.payload.length, dst)

/-- `air_downlink_build`: its result and the outputs afterwards. -/
def downlinkBuildAt (records : List AirTxRecord) (sizes : List UInt8) (flags : UInt8)
    (out : DownlinkOut) : Option (Except AirFrameError Unit × DownlinkOut) := do
  if records.length = 0 ∨ records.length > airMaxStreams ∨ flags &&& ~~~0x70 ≠ 0 ∨
      !sizesValid sizes then return (.error .argument, out)
  match checkRecords sizes none none records with
  | .error e => return (.error e, out)
  | .ok selected =>
    let total := 1 + (records.map fun r => 4 + r.payload.length).sum
    if total > airMaxAggregate ∨ total > out.dst.length then return (.error .capacity, out)
    let dst ← storeSpan out.dst 0 [flags ||| UInt8.ofNat (selected.getD 0)]
    let (cursor, dst) ← records.foldlM writeRecordAt (1, dst)
    return (.ok (), { dst, written := cursor, streamMask := streamMask records })

/-! ## The two passes agree -/

theorem writeRecordAt_append {front rest : List UInt8} (r : AirTxRecord)
    (hroom : 4 + r.payload.length ≤ rest.length) :
    writeRecordAt (front.length, front ++ rest) r =
      some ((front ++ recordBytes r).length,
        front ++ recordBytes r ++ rest.drop (4 + r.payload.length)) := by
  generalize hcrc : crc32Continue (crc32Continue (0xffffff00 ||| r.streamId.toUInt32) r.payload)
    (recordHeader r) = crc
  have hheader : (recordHeader r).length = 2 := rfl
  have hbytes : recordBytes r =
      recordHeader r ++ r.payload ++ [crc.toUInt8] ++ [(crc >>> 8).toUInt8] := by
    rw [← hcrc, List.append_assoc]
    rfl
  have h1 : storeSpan (front ++ rest) front.length (recordHeader r) =
      some (front ++ recordHeader r ++ rest.drop 2) :=
    storeSpan_append (by rw [hheader]; omega)
  have h2 := @storeSpan_append _ (front ++ recordHeader r) (rest.drop 2) r.payload
    (by rw [List.length_drop]; omega)
  rw [List.length_append, hheader, List.drop_drop] at h2
  have h3 := @storeSpan_append _ (front ++ recordHeader r ++ r.payload)
    (rest.drop (2 + r.payload.length)) [crc.toUInt8] (by rw [List.length_drop]; show 1 ≤ _; omega)
  rw [List.length_append, List.length_append, hheader, List.drop_drop, List.length_singleton] at h3
  have h4 := @storeSpan_append _ (front ++ recordHeader r ++ r.payload ++ [crc.toUInt8])
    (rest.drop (2 + r.payload.length + 1)) [(crc >>> 8).toUInt8]
    (by rw [List.length_drop]; show 1 ≤ _; omega)
  rw [List.length_append, List.length_append, List.length_append, hheader, List.drop_drop,
    List.length_singleton, List.length_singleton,
    show front.length + 2 + r.payload.length + 1 = front.length + 3 + r.payload.length by omega]
    at h4
  unfold writeRecordAt
  simp only [hcrc, h1, Option.bind_eq_bind, Option.bind_some, h2]
  rw [h3]
  simp only [Option.bind_some]
  rw [h4, List.length_append, recordBytes_length, hbytes]
  simp only [Option.bind_some, List.append_assoc]
  rw [show front.length + (4 + r.payload.length) = front.length + 4 + r.payload.length by omega,
    show 4 + r.payload.length = 2 + r.payload.length + 1 + 1 by omega]
  rfl

theorem foldlM_writeRecordAt (records : List AirTxRecord) :
    ∀ front rest : List UInt8, (records.map fun r => 4 + r.payload.length).sum ≤ rest.length →
      records.foldlM writeRecordAt (front.length, front ++ rest) =
        some ((front ++ records.flatMap recordBytes).length,
          front ++ records.flatMap recordBytes ++
            rest.drop (records.map fun r => 4 + r.payload.length).sum) := by
  induction records with
  | nil =>
    intro front rest _
    show some _ = some _
    rw [List.flatMap_nil, List.append_nil]
    rfl
  | cons r records ih =>
    intro front rest hroom
    rw [List.map_cons, List.sum_cons] at hroom
    have hrest := ih (front ++ recordBytes r) (rest.drop (4 + r.payload.length))
      (by rw [List.length_drop]; omega)
    rw [List.foldlM_cons, writeRecordAt_append r (by omega)]
    simp only [Option.bind_eq_bind, Option.bind_some]
    rw [hrest, List.flatMap_cons, List.map_cons, List.sum_cons, List.drop_drop]
    simp only [List.append_assoc]

/-- The outputs after `result`. -/
def DownlinkOut.after (out : DownlinkOut) (result : Except AirFrameError (List UInt8 × UInt8)) :
    Except AirFrameError Unit × DownlinkOut :=
  match result with
  | .error e => (.error e, out)
  | .ok (bytes, mask) => (.ok (),
      { dst := bytes ++ out.dst.drop bytes.length, written := bytes.length, streamMask := mask })

/-- The writing pass fills just the bytes the first pass has counted. -/
theorem downlinkBuildAt_eq (records : List AirTxRecord) (sizes : List UInt8) (flags : UInt8)
    (out : DownlinkOut) :
    downlinkBuildAt records sizes flags out =
      some (out.after (downlinkBuild out.dst.length records sizes flags)) := by
  unfold downlinkBuildAt downlinkBuild
  by_cases hargs : records.length = 0 ∨ records.length > airMaxStreams ∨
      flags &&& ~~~0x70 ≠ 0 ∨ !sizesValid sizes
  · rw [if_pos hargs, if_pos hargs]
    rfl
  rw [if_neg hargs, if_neg hargs]
  cases checkRecords sizes none none records with
  | error e => rfl
  | ok selected =>
    simp only
    generalize htotal : (records.map fun r => 4 + r.payload.length).sum = total
    by_cases hlong : 1 + total > airMaxAggregate ∨ 1 + total > out.dst.length
    · rw [if_pos hlong, if_pos hlong]
      rfl
    rw [if_neg hlong, if_neg hlong]
    push Not at hlong
    have hfirst := @storeSpan_front _ out.dst [flags ||| UInt8.ofNat (selected.getD 0)]
      (by rw [List.length_singleton]; omega)
    have hrecords := foldlM_writeRecordAt records [flags ||| UInt8.ofNat (selected.getD 0)]
      (out.dst.drop 1) (by rw [List.length_drop, htotal]; omega)
    have hlength : (records.flatMap recordBytes).length = total := by
      rw [List.length_flatMap, ← htotal]
      simp only [recordBytes_length]
    rw [List.length_singleton, htotal, List.drop_drop] at hrecords
    rw [List.length_singleton] at hfirst
    simp only [hfirst, Option.bind_eq_bind, Option.bind_some]
    rw [hrecords]
    simp only [Option.bind_some, DownlinkOut.after]
    rw [List.length_append, List.length_singleton, List.length_cons, hlength, Nat.add_comm total 1]
    rfl

end UllReceiver.Air
