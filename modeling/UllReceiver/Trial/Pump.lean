import UllReceiver.Library.Runs

/-!
# The trial pump

`trial_pump.c`: the timer's tick, the completions of its command, `ull_trial_pump_start`,
`ull_trial_pump_finish` and `ull_trial_pump_busy`, with every order of their reads and writes. The
timer's callbacks all run in one task, so there is one tick at a time; the controller makes one
start at a time. Counters kept for the summary are left out.
-/

namespace UllReceiver.Trial

/-- Where a call of `ull_trial_pump_finish` stands. -/
inductive FinishPc
  | idle
  | exchange
  | stop
  | freeze
deriving DecidableEq

/-- Who calls `ull_trial_pump_finish`. -/
inductive Finisher
  | tick
  | start
  | completion
  | other (n : Nat)
deriving DecidableEq

/-- Where the timer's task stands. -/
inductive TickPc
  | idle
  /-- The callback was dispatched, but has not counted itself yet. -/
  | entering
  | check
  | passed
  | testPending (now : Int)
  | publish (now : Int)
  | send
  | retract
  | finishing
  | leaving
deriving DecidableEq

/-- Where the controller stands in `ull_trial_pump_start`. -/
inductive StartPc
  | idle
  | busy
  | available
  | record
  | activate
  | arm
  | finishing
deriving DecidableEq

/-- Who calls `ull_trial_pump_busy`. -/
inductive BusyCaller
  | start
  | other (n : Nat)
deriving DecidableEq

/-- Where a call of `ull_trial_pump_busy` stands. A call that found the pump active is over. With
the others stands, for the proofs, how often the pump had been activated at the first load, and
how many commands had been published when it returned false. -/
inductive BusyPc
  | idle
  | active
  | tickRunning (since : Nat)
  | pending (since : Nat)
  | free (since published : Nat)
deriving DecidableEq

structure Pump where
  active : Bool
  pending : Bool
  continuous : Bool
  tickRunning : Nat
  recording : Bool
  frozen : Bool
  /-- The periodic timer is started. -/
  armed : Bool
  pendingSince : Int
  started : Int
  /-- Commands handed to the controller that have not been completed. -/
  outstanding : Nat
  tick : TickPc
  start : StartPc
  finish : Finisher → FinishPc
  busy : BusyCaller → BusyPc
  /-- How often `active` was set. -/
  activations : Nat
  /-- How often `pending` was set. -/
  published : Nat

inductive PumpAction
  | dispatch
  | tick (now : Int) (sent : Bool)
  | complete (failed : Bool)
  | finishCall (n : Nat)
  | finish (caller : Finisher) (used : Bool)
  | startCall
  | start (now : Int) (armed : Bool)
  | busyCall (n : Nat)
  | busy (caller : BusyCaller)
  | setContinuous (value : Bool)
  | drain

namespace Pump

/-- After `ull_trial_pump_init`. -/
def init : Pump where
  active := false
  pending := false
  continuous := false
  tickRunning := 0
  recording := false
  frozen := false
  armed := false
  pendingSince := 0
  started := 0
  outstanding := 0
  tick := .idle
  start := .idle
  finish := fun _ => .idle
  busy := fun _ => .idle
  activations := 0
  published := 0

def setFinish (s : Pump) (caller : Finisher) (pc : FinishPc) : Pump :=
  { s with finish := Function.update s.finish caller pc }

def setBusy (s : Pump) (caller : BusyCaller) (pc : BusyPc) : Pump :=
  { s with busy := Function.update s.busy caller pc }

/-- The next step of `tick`, which may find that its command is sent. -/
def tickStep (limit : Int) (s : Pump) (now : Int) (sent : Bool) : Option Pump :=
  match s.tick with
  | .idle => none
  | .entering => some { s with tickRunning := s.tickRunning + 1, tick := .check }
  | .check => some { s with tick := if s.active then .passed else .leaving }
  | .passed =>
      if !s.continuous ∧ now - s.started > limit then
        some ({ s with tick := .finishing }.setFinish .tick .exchange)
      else some { s with tick := .testPending now }
  | .testPending now =>
      if s.pending then
        if now - s.pendingSince > 20000 then
          some ({ s with tick := .finishing }.setFinish .tick .exchange)
        else some { s with tick := .leaving }
      else some { s with tick := .publish now }
  | .publish now => some { s with
      pendingSince := now, pending := true, tick := .send, published := s.published + 1 }
  | .send =>
      if sent then some { s with outstanding := s.outstanding + 1, tick := .leaving }
      else some { s with tick := .retract }
  | .retract => some { s with pending := false, tick := .leaving }
  | .finishing => if s.finish .tick = .idle then some { s with tick := .leaving } else none
  | .leaving => some { s with tickRunning := s.tickRunning - 1, tick := .idle }

/-- The next step of `ull_trial_pump_finish`; `used` is whether the trace holds anything. -/
def finishStep (s : Pump) (caller : Finisher) (used : Bool) : Option Pump :=
  match s.finish caller with
  | .idle => none
  | .exchange =>
      if s.active then some ({ s with active := false }.setFinish caller .stop)
      else some (s.setFinish caller .idle)
  | .stop => some ({ s with armed := false }.setFinish caller .freeze)
  | .freeze => some ({ s with recording := false, frozen := used }.setFinish caller .idle)

/-- The next step of `ull_trial_pump_busy`. -/
def busyStep (s : Pump) (caller : BusyCaller) : Option Pump :=
  match s.busy caller with
  | .idle | .free .. => none
  | .active => some (s.setBusy caller (if s.active then .idle else .tickRunning s.activations))
  | .tickRunning since =>
      some (s.setBusy caller (if s.tickRunning ≠ 0 then .idle else .pending since))
  | .pending since => some (s.setBusy caller (if s.pending then .idle else .free since s.published))

/-- The next step of `ull_trial_pump_start`; a timer that runs already is not started. -/
def startStep (s : Pump) (now : Int) (armed : Bool) : Option Pump :=
  match s.start with
  | .idle => none
  | .busy =>
      match s.busy .start with
      | .idle => some { s with start := .idle }
      | .free .. => some ({ s with start := .available }.setBusy .start .idle)
      | _ => none
  | .available => some { s with start := if s.recording || s.frozen then .idle else .record }
  | .record => some { s with recording := true, start := .activate }
  | .activate => some { s with
      started := now, active := true, start := .arm, activations := s.activations + 1 }
  | .arm =>
      if armed ∧ s.armed = false then some { s with armed := true, start := .idle }
      else some ({ s with start := .finishing }.setFinish .start .exchange)
  | .finishing => if s.finish .start = .idle then some { s with start := .idle } else none

def act (limit : Int) (s : Pump) : PumpAction → Option Pump
  | .dispatch => if s.armed ∧ s.tick = .idle then some { s with tick := .entering } else none
  | .tick now sent => s.tickStep limit now sent
  | .complete failed =>
      if s.outstanding ≠ 0 ∧ s.finish .completion = .idle then
        let s := { s with outstanding := s.outstanding - 1, pending := false }
        some (if failed then s.setFinish .completion .exchange else s)
      else none
  | .finishCall n =>
      if s.finish (.other n) = .idle then some (s.setFinish (.other n) .exchange) else none
  | .finish caller used => s.finishStep caller used
  | .startCall =>
      if s.start = .idle ∧ s.busy .start = .idle then
        some ({ s with start := .busy }.setBusy .start .active)
      else none
  | .start now armed => s.startStep now armed
  | .busyCall n =>
      match s.busy (.other n) with
      | .idle | .free .. => some (s.setBusy (.other n) .active)
      | _ => none
  | .busy caller => s.busyStep caller
  | .setContinuous value => some { s with continuous := value }
  | .drain => some { s with frozen := false }

def Step (limit : Int) (s : Pump) (a : PumpAction) (s' : Pump) : Prop :=
  s.act limit a = some s'

end Pump

/-- The tick's body is past its test of `active`. -/
def TickPc.past : TickPc → Bool
  | .idle | .entering | .check | .leaving => false
  | _ => true

/-- The tick has counted itself. -/
def TickPc.running : TickPc → Bool
  | .idle | .entering => false
  | _ => true

/-- The tick has published its command and not yet sent or retracted it. -/
def TickPc.publishing : TickPc → Bool
  | .send | .retract => true
  | _ => false

/-- Nothing under way, and nothing to come while the pump is not activated. -/
structure Pump.Quiet (s : Pump) : Prop where
  active : s.active = false
  pending : s.pending = false
  outstanding : s.outstanding = 0
  tick : s.tick.past = false

/-- What a call of `ull_trial_pump_busy` knows. -/
def Pump.Knows (s : Pump) : BusyPc → Prop
  | .idle | .active => True
  | .tickRunning since => since ≤ s.activations ∧ (s.activations = since → s.active = false)
  | .pending since => since ≤ s.activations ∧
      (s.activations = since → s.active = false ∧ s.tick.past = false)
  | .free since published => since ≤ s.activations ∧
      (s.activations = since → s.Quiet ∧ s.published = published)

/-- What the tick has counted and published, told from where it stands. -/
structure Pump.Counts (s : Pump) : Prop where
  running : s.tickRunning = s.tick.running.toNat
  account : s.outstanding + s.tick.publishing.toNat = s.pending.toNat
  publish : ∀ now, s.tick = .publish now → s.pending = false

structure Pump.Good (s : Pump) : Prop where
  counts : s.Counts
  knows : ∀ caller, s.Knows (s.busy caller)

/-- A step that counts right and leaves true whatever a call may know. -/
structure Pump.Keeps (s s' : Pump) : Prop where
  counts : s'.Counts
  knows : ∀ {pc}, s.Knows pc → s'.Knows pc

end UllReceiver.Trial
