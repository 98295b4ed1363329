import UllReceiver.Diagnostics.Secrets
import UllReceiver.Library.RingView

/-!
# The control log and its one console

Any number of calls run `publish` while the console switches the log and drains it. The run keeps
a history beside the shared words: how often the log was switched, when each call captured its
generation, and what has come out since the log was last switched on.
-/

namespace UllReceiver.Diagnostics

open Library

/-- A publication that has reached the lock. -/
structure Arrival where
  -- the switches made before it captured the generation, and before it came here
  captured : Nat
  epoch : Nat
  -- what the recheck under the lock said
  passed : Bool
  -- `none` for a message to hide
  record : Option Record

/-- What the console is asked for. -/
inductive Command where
  | enable (value : Bool)
  | drain
deriving DecidableEq

/-- The argument that `ull_control_log_enable` gets. -/
def Command.value : Command → Bool
  | .enable value => value
  | .drain => false

inductive Console where
  | idle
  -- in the critical section of `ull_control_log_enable`, with the flag cleared
  | switching (command : Command)
  | draining (emitted : List Record)

/-- What the console does once the log is switched. -/
def Command.next : Command → Console
  | .enable _ => .idle
  | .drain => .draining []

/-- Whether the console has `mux`. A turn of the drain loop is one step, with the lock inside. -/
def Console.locked : Console → Bool
  | .switching _ => true
  | _ => false

/-- What the drain under way has printed. -/
def Console.emitted : Console → List Record
  | .draining emitted => emitted
  | _ => []

structure LogRun where
  diag : DiagState
  console : Console
  -- the history
  epoch : Nat
  captured : Nat → Nat
  -- the rest is about the time since the log was last switched on, at this epoch
  opened : Option Nat
  arrivals : List Arrival
  drains : List (List Record)

inductive LogAct where
  | call (worker : Nat) (c : DiagCall)
  | run (worker : Nat) (now : Int64)
  | command (c : Command)
  | turn

def DiagOp.locks : DiagOp → Bool
  | .commit _ => true
  | _ => false

/-- The call of worker `i` at the lock, with `r` to publish. -/
def LogRun.arrival (s : LogRun) (i : Nat) (r : Option Record) : Arrival :=
  let w := s.diag.workers i
  { captured := s.captured i
    epoch := s.epoch
    passed := s.diag.data.log.enabled && w.generation == s.diag.data.log.generation
    record := r.map fun r => { r with us := w.us } }

/-- The history after worker `i` takes the step `op`. -/
def LogRun.note (s : LogRun) (i : Nat) : DiagOp → LogRun
  | .capture => { s with captured := Function.update s.captured i s.epoch }
  | .commit r => { s with arrivals := s.arrivals ++ [s.arrival i r] }
  | _ => s

/-- The history after the log is switched. -/
def LogRun.switched (s : LogRun) (c : Command) : LogRun :=
  let s := { s with epoch := s.epoch + 1, console := c.next }
  if c.value then { s with opened := some s.epoch, arrivals := [], drains := [] } else s

def LogRun.act (s : LogRun) : LogAct → Option LogRun
  | .call i c => (s.diag.act (.call i c)).map fun d => { s with diag := d }
  | .run i now =>
    match (s.diag.workers i).todo with
    | [] => some s
    | op :: _ =>
      if op.locks && s.console.locked then none
      else (s.diag.act (.run i now)).map fun d => { s.note i op with diag := d }
  | .command c =>
    match s.console with
    | .idle => (s.diag.act .freeze).map fun d => { s with diag := d, console := .switching c }
    | _ => none
  | .turn =>
    match s.console with
    | .idle => none
    | .switching c =>
      (s.diag.act (.enable c.value)).map fun d => { s.switched c with diag := d }
    | .draining emitted =>
      match s.diag.data.log.drain with
      | none => some { s with console := .idle, drains := s.drains ++ [emitted] }
      | some (r, _) =>
        (s.diag.act .drain).map fun d => { s with diag := d, console := .draining (emitted ++ [r]) }

def LogRun.run (s : LogRun) (trace : List LogAct) : Option LogRun :=
  trace.foldlM LogRun.act s

def LogRun.reset : LogRun :=
  { diag := .reset, console := .idle, epoch := 0, captured := fun _ => 0, opened := none
    arrivals := [], drains := [] }

/-! ## What should come out -/

/-- Captured and published under the generation that the log was last switched on with. -/
def LogRun.inTime (s : LogRun) (a : Arrival) : Bool :=
  some a.captured == s.opened && some a.epoch == s.opened

def LogRun.eligible (s : LogRun) : List Arrival :=
  s.arrivals.filter s.inTime

/-- The records to show, in the order in which they reached the lock. -/
def LogRun.wanted (s : LogRun) : List Record :=
  s.eligible.filterMap (·.record)

/-- The publications that were let through. -/
def LogRun.passed (s : LogRun) : List Arrival :=
  s.arrivals.filter (·.passed)

/-- The records that wait in the ring, oldest first. -/
def ControlLog.queue (l : ControlLog) : List Record :=
  ringView l.records l.tail l.count.toNat

/-- What the log does right. -/
structure LogRun.Honest (s : LogRun) : Prop where
  first_drain : ∀ first later, s.drains = first :: later →
    first = s.wanted.take capacity ∧ ∀ d ∈ later, d = []
  in_order : s.drains.flatten ++ s.console.emitted ++ s.diag.data.log.queue =
    s.wanted.take capacity
  rechecked : ∀ a ∈ s.arrivals,
    a.passed = true ↔ some a.captured = s.opened ∧ some a.epoch = s.opened
  never_late : ∀ i now r rest t, (s.diag.workers i).todo = .commit r :: rest →
    s.captured i ≠ s.epoch → s.act (.run i now) = some t → t.diag.data.log = s.diag.data.log
  counted : UInt32.ofNat s.passed.length =
    s.diag.data.log.total + s.diag.data.log.dropped + s.diag.data.log.suppressed
  recorded : s.diag.data.log.total = UInt32.ofNat (s.wanted.take capacity).length
  dropped : s.diag.data.log.dropped = UInt32.ofNat (s.wanted.drop capacity).length
  queued : s.diag.data.log.count ≤ 32
  ring : s.diag.data.log.head =
    ringSlot capacity (s.diag.data.log.tail + s.diag.data.log.count.toNat)

end UllReceiver.Diagnostics
