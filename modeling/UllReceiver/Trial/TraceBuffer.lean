import UllReceiver.Air.AirSession
import UllReceiver.Library.Buffer

/-!
# The trace of a trial

The diagnostic records of `trial_pump.c`: they are kept in one buffer while the pump runs, and are
printed after it has stopped.
-/

namespace UllReceiver.Trial

open Library

/-- What a build fixes: `ULL_TRIAL_TRACE_CAPACITY`, with its static assertion, and
`ULL_LIVE_USB`. -/
structure TraceBuild where
  capacity : Nat
  bounded : 256 ≤ capacity ∧ capacity ≤ 98304
  live : Bool

/-- `TRACE_RESERVE`. -/
def traceReserve : Nat := 128

/-- The static data. `trace_used` and `trace_read` stay below the capacity. -/
structure TraceBuffer where
  bytes : List UInt8
  used : Nat
  read : Nat
  lost : UInt32
  base : Int64
  recording : Bool
  frozen : Bool
  -- of the pump
  active : Bool

/-- A summary of the pump, or a report that ends a stream or a trial. -/
def terminalRecord (data : List UInt8) : Bool :=
  8 ≤ data.length &&
    (data.take 5 == [0x55, 0x4c, 0x4c, 0x50, 3] ||
      (data.take 5 == [0x55, 0x4c, 0x4c, 0x41, 1] && 3 ≤ data.getD 5 0) ||
      (data.length == 12 && data.take 5 == [0x55, 0x4c, 0x4c, 0x21, 1]))

/-- The record is one to store. -/
def TraceBuild.keeps (c : TraceBuild) (data : List UInt8) : Bool :=
  !c.live || terminalRecord data

def TraceBuild.limit (c : TraceBuild) (data : List UInt8) : Nat :=
  if terminalRecord data then c.capacity else c.capacity - traceReserve

/-- `none` is an access outside the buffer. -/
def traceRecord (c : TraceBuild) (t : TraceBuffer) (data : List UInt8) (now : Int64) :
    Option (Bool × TraceBuffer) :=
  if !t.recording then some (false, t)
  else if !c.keeps data then some (true, t)
  else
    let elapsed := now - t.base
    if data.length = 0 ∨ data.length > 103 ∨ elapsed < 0 ∨ elapsed > 0xffffffff ∨
        t.used + 5 + data.length > c.limit data then
      some (true, { t with lost := t.lost + 1 })
    else do
      let delta := UInt32.ofNat elapsed.toInt.toNat
      let bytes ← storeSpan t.bytes t.used (Air.le32 delta)
      let bytes ← storeSpan bytes (t.used + 4) [UInt8.ofNat data.length]
      let bytes ← storeSpan bytes (t.used + 5) data
      some (true, { t with bytes := bytes, used := t.used + 5 + data.length })

def word32 (bytes : List UInt8) : UInt32 :=
  (bytes.getD 0 0).toUInt32 ||| (bytes.getD 1 0).toUInt32 <<< 8 |||
    (bytes.getD 2 0).toUInt32 <<< 16 ||| (bytes.getD 3 0).toUInt32 <<< 24

/-- The record and its timestamp, if the call returns one. -/
def traceNext (t : TraceBuffer) (capacity : Nat) :
    Option (Option (List UInt8 × Int64) × TraceBuffer) :=
  if !t.frozen ∨ t.read = t.used then some (none, t)
  else do
    let delta ← loadSpan t.bytes t.read 4
    let n ← load t.bytes (t.read + 4)
    let n := n.toNat
    if n > capacity ∨ t.read + 5 + n > t.used then some (none, t)
    else
      let data ← loadSpan t.bytes (t.read + 5) n
      let bytes ← storeSpan t.bytes t.read (List.replicate (5 + n) 0)
      let read := t.read + 5 + n
      some (some (data, t.base + Int64.ofNat (word32 delta).toNat),
        { t with bytes := bytes, read := read
                 frozen := if read = t.used then false else t.frozen })

/-- The pump's own words that go into a summary. -/
structure SummaryWords where
  pending : Bool
  requests : UInt32
  steps : UInt32
  maxDispatchUs : UInt32

/-- The record that `summary` makes. -/
def summaryRecord (t : TraceBuffer) (state status : UInt8) (w : SummaryWords) : List UInt8 :=
  [0x55, 0x4c, 0x4c, 0x50, 3, state, if w.pending then 1 else 0, status] ++ Air.le32 w.requests ++
    Air.le32 w.steps ++ Air.le32 t.lost ++ Air.le32 (UInt32.ofNat t.used) ++
    Air.le32 w.maxDispatchUs

/-- `summary`, at the time `now`. What the trace does not take goes to the printer's queue. -/
def summary (c : TraceBuild) (t : TraceBuffer) (state status : UInt8) (w : SummaryWords)
    (now : Int64) : Option TraceBuffer :=
  (traceRecord c t (summaryRecord t state status w) now).map (·.2)

def pumpFinish (c : TraceBuild) (t : TraceBuffer) (status : UInt8) (w : SummaryWords)
    (now : Int64) : Option TraceBuffer :=
  if !t.active then some t
  else do
    let t ← summary c { t with active := false } (if status ≠ 0 then 3 else 2) status w now
    some { t with recording := false, frozen := t.used != 0 }

/-- `busy` is the rest of `ull_trial_pump_busy`: a callback that runs, or a command under way. -/
def pumpRearm (t : TraceBuffer) (busy : Bool) : Bool × TraceBuffer :=
  if t.active || busy then (false, t)
  else if t.recording then (false, t)
  else (true, { t with frozen := false, used := 0, read := 0, lost := 0 })

/-- `timer` exists, and `armed` says whether it could be started. -/
def pumpStart (c : TraceBuild) (t : TraceBuffer) (timer busy armed : Bool) (w : SummaryWords)
    (now later : Int64) : Option (Bool × TraceBuffer) :=
  if !timer || t.active || busy then some (false, t)
  else if t.recording || t.frozen then some (false, t)
  else do
    let t := { t with used := 0, read := 0, lost := 0, base := now }
    let t ← summary c t 1 0 w now
    let t := { t with recording := true, active := true }
    if !armed then
      let t ← pumpFinish c t 1 w later
      some (false, t)
    else some (true, t)

end UllReceiver.Trial
