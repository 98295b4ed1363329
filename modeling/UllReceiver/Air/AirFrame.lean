import Mathlib

/-!
# Air record framing

`air_frame.c`: the aggregate of records a downlink packet carries, and the parser of the uplink.
Buffers are lists; the status of a failed call is its error.
-/

namespace UllReceiver.Air

def airMaxStreams : Nat := 4
def airMaxAggregate : Nat := 255
def airMaxRecordPayload : Nat := 127

inductive AirFrameError
  | argument
  | capacity
  | malformed
deriving DecidableEq

structure AirTxRecord where
  payload : List UInt8
  streamId : UInt8
  txSequence : UInt8
  ackSequence : UInt8
  kind : UInt8
deriving DecidableEq

structure AirRxRecord where
  payload : List UInt8
  streamId : UInt8
  txSequence : UInt8
  ackSequence : UInt8
  kind : UInt8
  flags : UInt8
deriving DecidableEq

structure AirControlRecord where
  payload : List UInt8
  header : UInt8
  present : Bool
deriving DecidableEq

def AirControlRecord.zero : AirControlRecord :=
  { payload := [], header := 0, present := false }

/-- One bit of the reflected CRC-32. -/
def crc32Bit (crc : UInt32) : UInt32 :=
  crc >>> 1 ^^^ (if crc &&& 1 ≠ 0 then 0xedb88320 else 0)

def crc32Byte (crc : UInt32) (byte : UInt8) : UInt32 :=
  Nat.repeat crc32Bit 8 (crc ^^^ byte.toUInt32)

/-- `crc32_continue`. -/
def crc32Continue (seed : UInt32) (data : List UInt8) : UInt32 :=
  ~~~ data.foldl crc32Byte (~~~ seed)

/-- One to four distinct sizes in `1..127`. -/
def sizesValid (sizes : List UInt8) : Bool :=
  decide (sizes.length ≠ 0) && decide (sizes.length ≤ airMaxStreams) &&
    sizes.all (fun n => n != 0 && decide (n.toNat ≤ airMaxRecordPayload)) && decide sizes.Nodup

/-- The selector after a record of `length` bytes, when there was `selected` before it. -/
def recordSelector (sizes : List UInt8) (selected : Option Nat) (length : Nat) :
    Except AirFrameError (Option Nat) :=
  if length = 0 then .ok selected
  else
    match sizes.findIdx? (fun n => n.toNat == length) with
    | none => .error .argument
    | some index =>
        match selected with
        | some selector => if index ≠ selector then .error .argument else .ok (some index)
        | none => .ok (some index)

/-- The checks of `air_downlink_build` over the records, which also choose the selector. -/
def checkRecords (sizes : List UInt8) (selected : Option Nat) (previous : Option UInt8) :
    List AirTxRecord → Except AirFrameError (Option Nat)
  | [] => .ok selected
  | r :: rest =>
      if r.streamId ≥ 4 ∨ r.txSequence > 15 ∨ r.ackSequence > 15 ∨ r.kind > 3 ∨
          (∃ p ∈ previous, r.streamId ≤ p) ∨ r.payload.length > airMaxRecordPayload then
        .error .argument
      else
        match recordSelector sizes selected r.payload.length with
        | .error e => .error e
        | .ok selected => checkRecords sizes selected (some r.streamId) rest

def recordHeader (r : AirTxRecord) : List UInt8 :=
  [r.txSequence <<< 4 ||| r.ackSequence, r.kind ||| if r.payload.length ≠ 0 then 0 else 4]

/-- A record as it stands in the aggregate. -/
def recordBytes (r : AirTxRecord) : List UInt8 :=
  let crc := crc32Continue (0xffffff00 ||| r.streamId.toUInt32) r.payload
  let crc := crc32Continue crc (recordHeader r)
  recordHeader r ++ r.payload ++ [crc.toUInt8, (crc >>> 8).toUInt8]

def streamMask (records : List AirTxRecord) : UInt8 :=
  records.foldl (fun mask r => mask ||| (1 : UInt8) <<< r.streamId) 0

/-- `air_downlink_build`: the bytes written and the stream mask. -/
def downlinkBuild (capacity : Nat) (records : List AirTxRecord) (sizes : List UInt8)
    (flags : UInt8) : Except AirFrameError (List UInt8 × UInt8) :=
  if records.length = 0 ∨ records.length > airMaxStreams ∨ flags &&& ~~~0x70 ≠ 0 ∨
      !sizesValid sizes then .error .argument
  else
    match checkRecords sizes none none records with
    | .error e => .error e
    | .ok selected =>
        let total := 1 + (records.map fun r => 4 + r.payload.length).sum
        if total > airMaxAggregate ∨ total > capacity then .error .capacity
        else .ok ((flags ||| UInt8.ofNat (selected.getD 0)) :: records.flatMap recordBytes,
          streamMask records)

/-- The records of the streams `ids` at the head of `src`, and what is left of it. -/
def parseRecords (size : Nat) (mask : UInt8) (src : List UInt8) :
    List UInt8 → Except AirFrameError (List AirRxRecord × List UInt8)
  | [] => .ok ([], src)
  | id :: ids =>
      if mask &&& 1 <<< id = 0 then parseRecords size mask src ids
      else
        match src with
        | h0 :: h1 :: src =>
            let bytes := if h1 &&& 0x0c ≠ 0 then 0 else size
            if bytes > src.length then .error .malformed
            else
              match parseRecords size mask (src.drop bytes) ids with
              | .error e => .error e
              | .ok (records, rest) => .ok
                  ({ payload := src.take bytes, streamId := id, txSequence := h0 >>> 4
                     ackSequence := h0 &&& 15, kind := h1 &&& 3, flags := h1 } :: records, rest)
        | _ => .error .malformed

/-- The control trailer, which must be all that is left. -/
def parseTail (hasControl : Bool) (src : List UInt8) : Except AirFrameError AirControlRecord :=
  if hasControl then
    match src with
    | header :: length :: payload =>
        if payload.length ≠ length.toNat ∨ header &&& 3 = 0 ∨ (length = 0 ∧ header &&& 3 ≠ 1) then
          .error .malformed
        else .ok { payload, header, present := true }
    | _ => .error .malformed
  else if src.length ≠ 0 then .error .malformed
  else .ok .zero

/-- `uplink_parse`; `capacity` counts records. -/
def uplinkParse (src : List UInt8) (mask : UInt8) (sizes : List UInt8) (capacity : Nat)
    (hasControl : Bool) : Except AirFrameError (List AirRxRecord × AirControlRecord) :=
  if mask = 0 ∨ mask &&& 0xf0 ≠ 0 ∨ !sizesValid sizes then .error .argument
  else
    match src with
    | [] => .error .malformed
    | first :: rest =>
        if src.length > airMaxAggregate then .error .malformed
        else
          match sizes[(first &&& 3).toNat]? with
          | none => .error .malformed
          | some size =>
              match parseRecords size.toNat mask rest [0, 1, 2, 3] with
              | .error e => .error e
              | .ok (records, rest) =>
                  match parseTail hasControl rest with
                  | .error e => .error e
                  | .ok tail => if records.length > capacity then .error .capacity
                      else .ok (records, tail)

/-- `air_uplink_parse`. -/
def airUplinkParse (src : List UInt8) (mask : UInt8) (sizes : List UInt8) (capacity : Nat) :
    Except AirFrameError (List AirRxRecord) :=
  (uplinkParse src mask sizes capacity false).map Prod.fst

/-- `air_uplink_parse_control`. -/
def airUplinkParseControl (src : List UInt8) (header : UInt8) (sizes : List UInt8)
    (capacity : Nat) : Except AirFrameError (List AirRxRecord × AirControlRecord) :=
  uplinkParse src (header >>> 3 &&& 15) sizes capacity (header &&& 1 != 0)

end UllReceiver.Air
