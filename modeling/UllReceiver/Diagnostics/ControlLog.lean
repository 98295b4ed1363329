import Mathlib
import UllReceiver.Parent.ParentAck

/-!
# Control log and status probe

`control_log.c` and `status_probe.c`. Both are called from the radio's and the host's receivers and
share nothing with them but relaxed counters and one lock, so a call is the list of its atomic steps
and any number of calls run through theirs at once.
-/

namespace UllReceiver.Diagnostics

open Parent

scoped instance logSlots : NeZero 32 :=
  ⟨by decide⟩

/-- `CAPACITY` records. -/
abbrev capacity : Nat := 32

def originAir : UInt32 := 1
def originAcl : UInt32 := 2

/-- The counters of `status_probe.c`. -/
inductive Counter where
  | airSeen
  | aclSeen
  | knownSeen
  | unknownSeen
  | setupHidden
  | unframedSeen
  | controlOnlySeen
  | controlOnlyProprietary
  | controlOnlySetupHidden
deriving DecidableEq

/-- `struct record`; `opcode_valid` with `opcode`, and `copied` with the bytes it counts. -/
structure Record where
  us : Int64
  length : UInt16
  origin : UInt8
  header : UInt8
  opcode : Option UInt8
  payload : List UInt8
deriving DecidableEq

/-- One step of a call that other cores see at once. -/
inductive DiagOp where
  | add (counter : Counter)
  | lastUnknown (word : UInt32)
  | controlOnlyLastMeta (word : UInt32)
  | capture
  | check
  | stamp
  -- the critical section, for a message to hide or with the record of one to show
  | commit (record : Option Record)
deriving DecidableEq

def setupOpcode (op : UInt8) : Bool :=
  op == 0x0e || op == 0x0f || (0xe0 ≤ op && op ≤ 0xe4)

/-- How many bytes of the message may be recorded: none, unless it is a known scalar. -/
def safePayload (p : List UInt8) (n : UInt32) : Nat :=
  if parentAckWheel p n then 6
  else if parentAckMedia p n then 2
  else if parentAckMic p n then 3
  else if n = 6 ∧ byteAt p 0 = 4 ∧ (byteAt p 1 = 1 ∨ byteAt p 1 = 2) ∧ byteAt p 2 = 0 ∧
      byteAt p 3 ≤ 100 ∧ byteAt p 4 ≤ 100 ∧ byteAt p 5 = 0 then 6
  else if n = 3 ∧ (byteAt p 0 = 5 ∨ byteAt p 0 = 6) ∧ (byteAt p 1 = 1 ∨ byteAt p 1 = 2) ∧
      byteAt p 2 = 0 then 3
  else 0

def knownScalar (p : List UInt8) (n : UInt32) : Bool :=
  parentAckWheel p n || parentAckMedia p n || parentAckMic p n ||
    (n == 6 && byteAt p 0 == 4 && (byteAt p 1 == 1 || byteAt p 1 == 2) && byteAt p 2 == 0 &&
      byteAt p 3 ≤ 100 && byteAt p 4 ≤ 100 && byteAt p 5 == 0) ||
    (n == 3 && (byteAt p 0 == 5 || byteAt p 0 == 6) && (byteAt p 1 == 1 || byteAt p 1 == 2) &&
      byteAt p 2 == 0)

/-! ## The probe -/

def observe (origin : UInt32) (p : Option (List UInt8)) (n : UInt32) : List DiagOp :=
  match p with
  | none => []
  | some p =>
    if n = 0 then []
    else if setupOpcode (byteAt p 0) then [.add .setupHidden]
    else .add (if origin = 1 then .airSeen else .aclSeen) ::
      if knownScalar p n then [.add .knownSeen]
      else [.lastUnknown (origin <<< 24 ||| (n &&& 0xffff) <<< 8 ||| (byteAt p 0).toUInt32),
        .add .unknownSeen]

/-- The first two bytes, little endian. -/
def lengthField (p : List UInt8) : UInt32 :=
  (byteAt p 0).toUInt32 ||| (byteAt p 1).toUInt32 <<< 8

def statusProbeAir (header : UInt8) (payload : Option (List UInt8)) (length : UInt32) :
    List DiagOp :=
  match payload with
  | none => []
  | some p =>
    if length < 4 ∨ header &&& 3 ≠ 2 then []
    else if lengthField p ≠ length - 4 ∨ byteAt p 2 ≠ 1 ∨ byteAt p 3 ≠ 1 then
      [.add .unframedSeen]
    else observe 1 (some (p.drop 4)) (lengthField p)

def statusProbeAcl (payload : Option (List UInt8)) (length : UInt32) : List DiagOp :=
  if length ≠ 0 ∧ length ≤ 4092 then observe 2 payload length else []

/-- A control-only frame that the probe counts: no stream, a packet behind the header. -/
def controlOnlyFrame (airHeader : UInt8) (plain : List UInt8) (length : UInt32) : Prop :=
  (airHeader >>> 3) &&& 15 = 0 ∧ airHeader &&& 1 ≠ 0 ∧ 3 ≤ length ∧
    (byteAt plain 2).toUInt32 + 3 = length ∧ byteAt plain 1 &&& 3 ≠ 0 ∧
    ¬(byteAt plain 2 = 0 ∧ byteAt plain 1 &&& 3 ≠ 1)
deriving Decidable

def statusProbeControlOnly (airHeader : UInt8) (plain : Option (List UInt8)) (length : UInt32) :
    List DiagOp :=
  match plain with
  | none => []
  | some plain =>
    if ¬controlOnlyFrame airHeader plain length then []
    else .add .controlOnlySeen ::
      if byteAt plain 1 &&& 3 ≠ 2 ∨ byteAt plain 2 < 5 then []
      else
        let p := plain.drop 3
        let n := lengthField p
        if n ≠ (byteAt plain 2).toUInt32 - 4 ∨ byteAt p 2 ≠ 1 ∨ byteAt p 3 ≠ 1 then []
        else if setupOpcode (byteAt p 4) then [.add .controlOnlySetupHidden]
        else [.add .controlOnlyProprietary,
          .controlOnlyLastMeta (n <<< 8 ||| (byteAt p 4).toUInt32)]

/-! ## The log -/

/-- What `publish` finds behind `p`: the message and its length, whether to hide it, and an
opcode that has no message. -/
def located (origin : UInt32) (header : UInt8) (p : List UInt8) (n : UInt32) :
    Option (List UInt8 × UInt32) × Bool × Option UInt8 :=
  if origin = originAcl then (some (p, n), false, none)
  else if header &&& 3 = 3 ∧ n ≠ 0 then
    (none, byteAt p 0 == 3 || byteAt p 0 == 4 || setupOpcode (byteAt p 0), some (byteAt p 0))
  else if header &&& 3 = 2 ∧ 4 ≤ n then
    if lengthField p = n - 4 ∧ byteAt p 2 = 1 ∧ byteAt p 3 = 1 then
      (some (p.drop 4, lengthField p), false, none)
    else (none, false, none)
  else (none, false, none)

/-- The record of the message, `none` when it is to be hidden. The time is filled in later. -/
def described (origin : UInt32) (header : UInt8) (p : List UInt8) (n : UInt32) : Option Record :=
  let (control, hide, opcode) := located origin header p n
  let r : Record := { us := 0, length := n.toUInt16, origin := origin.toUInt8, header := header
                      opcode := opcode, payload := [] }
  match control with
  | none => if hide then none else some r
  | some (control, length) =>
    if length = 0 then if hide then none else some r
    else if setupOpcode (byteAt control 0) then none
    else some { r with
      opcode := some (byteAt control 0)
      payload := (List.range (safePayload control length)).map (byteAt control) }

def publish (origin : UInt32) (header : UInt8) (p : List UInt8) (n : UInt32) : List DiagOp :=
  [.capture, .check, .stamp, .commit (described origin header p n)]

def controlLogAir (header : UInt8) (payload : Option (List UInt8)) (length : UInt32) :
    List DiagOp :=
  match payload with
  | none => []
  | some p =>
    if length ≠ 0 ∧ length ≤ 60 then
      statusProbeAir header (some p) length ++ publish originAir header p length
    else []

/-- A missing payload has length 0 when it gets past the test, and no byte of it is read. -/
def controlLogAcl (payload : Option (List UInt8)) (length : UInt32) : List DiagOp :=
  if length ≤ 4092 ∧ (length = 0 ∨ payload.isSome) then
    statusProbeAcl payload length ++ publish originAcl 0 (payload.getD []) length
  else []

/-! ## What the calls share -/

/-- The ring of records and its state, all under `mux`. -/
structure ControlLog where
  records : Fin capacity → Record
  head : Fin capacity
  tail : Fin capacity
  count : UInt32
  dropped : UInt32
  suppressed : UInt32
  total : UInt32
  enabled : Bool
  generation : UInt32

/-- The critical section of `publish`, for a call that captured `capture` and read the time `us`. -/
def ControlLog.commit (l : ControlLog) (capture : UInt32) (us : Int64) (r : Option Record) :
    ControlLog :=
  if l.enabled ∧ capture = l.generation then
    match r with
    | none => { l with suppressed := l.suppressed + 1 }
    | some r =>
      if l.count = 32 then { l with dropped := l.dropped + 1 }
      else
        { l with
          records := Function.update l.records l.head { r with us := us }
          head := l.head + 1, count := l.count + 1, total := l.total + 1 }
  else l

def ControlLog.enable (l : ControlLog) (value : Bool) : ControlLog :=
  let l := { l with generation := l.generation + 1 }
  if value then
    { l with head := 0, tail := 0, count := 0, dropped := 0, suppressed := 0, total := 0
             enabled := true }
  else { l with enabled := false }

/-- One turn of the loop of `ull_control_log_drain`. -/
def ControlLog.drain (l : ControlLog) : Option (Record × ControlLog) :=
  if l.count = 0 then none
  else some (l.records l.tail, { l with tail := l.tail + 1, count := l.count - 1 })

/-- The words of `status_probe.c` and the log. -/
structure DiagData where
  counters : Counter → UInt32
  lastUnknown : UInt32
  controlOnlyLastMeta : UInt32
  log : ControlLog

/-- A call under way: the steps it has left and its local variables. -/
structure Worker where
  todo : List DiagOp
  generation : UInt32
  us : Int64

def DiagData.add (d : DiagData) (counter : Counter) : DiagData :=
  { d with counters := Function.update d.counters counter (d.counters counter + 1) }

/-- A step at the time `now`; the worker has it behind itself already. -/
def DiagOp.exec (now : Int64) (d : DiagData) (w : Worker) : DiagOp → DiagData × Worker
  | .add counter => (d.add counter, w)
  | .lastUnknown word => ({ d with lastUnknown := word }, w)
  | .controlOnlyLastMeta word => ({ d with controlOnlyLastMeta := word }, w)
  | .capture => (d, { w with generation := d.log.generation })
  | .check => (d, if d.log.enabled then w else { w with todo := [] })
  | .stamp => (d, { w with us := now })
  | .commit r => ({ d with log := d.log.commit w.generation w.us r }, w)

inductive DiagEntry where
  | controlLogAir
  | controlLogAcl
  | statusProbeAir
  | statusProbeAcl
  | statusProbeControlOnly
deriving DecidableEq

/-- A call of one of the public functions. The two for ACL have no header argument. -/
structure DiagCall where
  entry : DiagEntry
  header : UInt8
  payload : Option (List UInt8)
  length : UInt32

def DiagCall.program (c : DiagCall) : List DiagOp :=
  match c.entry with
  | .controlLogAir => controlLogAir c.header c.payload c.length
  | .controlLogAcl => controlLogAcl c.payload c.length
  | .statusProbeAir => statusProbeAir c.header c.payload c.length
  | .statusProbeAcl => statusProbeAcl c.payload c.length
  | .statusProbeControlOnly => statusProbeControlOnly c.header c.payload c.length

/-- The shared words, the calls under way in each context, and what the console has printed. -/
structure DiagState where
  data : DiagData
  workers : Nat → Worker
  printed : List Record

inductive DiagAct where
  | call (worker : Nat) (c : DiagCall)
  | run (worker : Nat) (now : Int64)
  -- `ull_control_log_enable` clears the flag first, and a call may read it before the rest is done
  | freeze
  | enable (value : Bool)
  | drain

/-- One step of the whole: a context enters a function or takes its next step, or the console
switches the log or takes a record from it. -/
def DiagState.act (s : DiagState) : DiagAct → Option DiagState
  | .call i c =>
    if (s.workers i).todo = [] then
      some { s with workers := Function.update s.workers i
                      { todo := c.program, generation := 0, us := 0 } }
    else none
  | .run i now =>
    match (s.workers i).todo with
    | [] => some s
    | op :: rest =>
      let r := op.exec now s.data { s.workers i with todo := rest }
      some { s with data := r.1, workers := Function.update s.workers i r.2 }
  | .freeze =>
    some { s with data := { s.data with log := { s.data.log with enabled := false } } }
  | .enable value =>
    some { s with data := { s.data with log := s.data.log.enable value } }
  | .drain =>
    match s.data.log.drain with
    | none => some s
    | some (r, l) =>
      some { s with data := { s.data with log := l }, printed := s.printed ++ [r] }

def DiagState.run (s : DiagState) (trace : List DiagAct) : Option DiagState :=
  trace.foldlM DiagState.act s

end UllReceiver.Diagnostics
