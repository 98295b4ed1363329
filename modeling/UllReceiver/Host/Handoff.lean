import Mathlib
import UllReceiver.Library.Runs

/-!
# Who may use the controller

The console and the keeper hand the radio to each other with three flags, and they share the host
interface of the controller with the pump's timer. Each load and store of a flag is a step of its
own, and the tasks interleave in any way.
-/

namespace UllReceiver.Host

open Library

/-- The callers of `ull_hci_try_send`. -/
inductive Sender
  | console
  | keeper
  | pump
deriving DecidableEq

/-- Where a caller stands in `ull_hci_try_send`. -/
inductive TryPc
  | out
  | asked (data : List UInt8)
  | locked (data : List UInt8)
  | granted (data : List UInt8)
  | unlocking
deriving DecidableEq

/-- The caller has set the flag `sender`. -/
def TryPc.holds : TryPc → Bool
  | .out | .asked _ => false
  | .locked _ | .granted _ | .unlocking => true

/-- Where `app_main` stands: between two lines, in `ull_auto_enable`, or in the loop that sends a
packet. -/
inductive ConsolePc
  | free
  | waiting
  | disabling
  | resuming
  | sending
deriving DecidableEq

/-- Where `run` of the keeper stands. `working` is everything from `start_connection` to the end of
`stop_audio`. -/
inductive KeeperPc
  | top
  | topPause
  | stop
  | enter
  | recheck
  | recheckPause
  | retreat
  | working
  | leaving
  | resting
deriving DecidableEq

/-- The steps at which `busy` is set. -/
def KeeperPc.inside : KeeperPc → Bool
  | .recheck | .recheckPause | .retreat | .working | .leaving => true
  | .top | .topPause | .stop | .enter | .resting => false

/-- The calls of the host interface. -/
inductive HciCall
  | available (caller : Sender) (yes : Bool)
  | packet (caller : Sender) (data : List UInt8)
deriving DecidableEq

structure Handoff where
  enabled : Bool
  pauseRequested : Bool
  busy : Bool
  sender : Bool
  console : ConsolePc
  keeper : KeeperPc
  tries : Sender → TryPc
  calls : List HciCall

inductive HandoffAction
  /-- The line `h`, or `a` while the pump is not busy. -/
  | ownerLine (auto : Bool)
  /-- A line that may be a packet. -/
  | packetLine
  | console
  | keeper
  /-- The keeper has come to the end of a connection. -/
  | finish
  | begin (caller : Sender) (data : List UInt8)
  | attempt (caller : Sender) (available : Bool)
deriving DecidableEq

namespace Handoff

def boot : Handoff where
  enabled := true
  pauseRequested := false
  busy := false
  sender := false
  console := .free
  keeper := .top
  tries := fun _ => .out
  calls := []

def setTry (s : Handoff) (p : Sender) (pc : TryPc) : Handoff :=
  { s with tries := Function.update s.tries p pc }

/-- The next step of `ull_auto_enable` or of the end of a packet line. -/
def consoleStep (s : Handoff) : Option Handoff :=
  match s.console with
  | .free => none
  | .waiting => some (if s.busy then s else { s with console := .disabling })
  | .disabling => some { s with enabled := false, console := .free }
  | .resuming => some { s with enabled := true, console := .free }
  | .sending => if s.tries .console = .out then some { s with console := .free } else none

/-- The next step of `run`; the conditions load `enabled` first. -/
def keeperStep (s : Handoff) : Option Handoff :=
  match s.keeper with
  | .top => some { s with keeper := if s.enabled then .topPause else .stop }
  | .topPause => some { s with keeper := if s.pauseRequested then .stop else .enter }
  | .stop => some { s with busy := false, keeper := .top }
  | .enter => some { s with busy := true, keeper := .recheck }
  | .recheck => some { s with keeper := if s.enabled then .recheckPause else .retreat }
  | .recheckPause => some { s with keeper := if s.pauseRequested then .retreat else .working }
  | .retreat => some { s with busy := false, keeper := .top }
  | .working => none
  | .leaving => some { s with busy := false, keeper := .resting }
  | .resting => some { s with keeper := .top }

/-- The loops around `ull_hci_try_send`: the keeper's goes on only while it is enabled. -/
def mayBegin (s : Handoff) : Sender → Bool
  | .console => s.console == .sending
  | .keeper => s.keeper == .working && s.enabled
  | .pump => true

/-- The next step of `ull_hci_try_send`. -/
def attemptStep (s : Handoff) (p : Sender) (available : Bool) : Option Handoff :=
  match s.tries p with
  | .out => none
  | .asked data =>
    some (if s.sender then s.setTry p .out else { s.setTry p (.locked data) with sender := true })
  | .locked data =>
    some { s.setTry p (if available then .granted data else .unlocking) with
      calls := s.calls ++ [.available p available] }
  | .granted data => some { s.setTry p .unlocking with calls := s.calls ++ [.packet p data] }
  | .unlocking => some { s.setTry p .out with sender := false }

def act (s : Handoff) : HandoffAction → Option Handoff
  | .ownerLine auto =>
    if s.console = .free then
      some { s with
        pauseRequested := !auto, console := if auto then .resuming else .waiting }
    else none
  | .packetLine =>
    if s.console = .free then
      some { s with console := if s.enabled then .free else .sending }
    else none
  | .console => s.consoleStep
  | .keeper => s.keeperStep
  | .finish =>
    if s.keeper = .working ∧ s.tries .keeper = .out then some { s with keeper := .leaving }
    else none
  | .begin p data =>
    if s.tries p = .out ∧ s.mayBegin p = true then some (s.setTry p (.asked data)) else none
  | .attempt p available => s.attemptStep p available

def Step (s : Handoff) (a : HandoffAction) (s' : Handoff) : Prop :=
  s.act a = some s'

@[simp] theorem setTry_self (s : Handoff) (p : Sender) (pc : TryPc) :
    (s.setTry p pc).tries p = pc :=
  Function.update_self ..

theorem setTry_other (s : Handoff) {p q : Sender} (pc : TryPc) (h : q ≠ p) :
    (s.setTry p pc).tries q = s.tries q :=
  Function.update_of_ne h ..

/-! ## The invariant -/

/-- The flags and the steps of the two owners. -/
structure Owned (s : Handoff) : Prop where
  busy : s.busy = s.keeper.inside
  pausing : s.console = .waiting ∨ s.console = .disabling → s.pauseRequested = true
  manual : s.enabled = false → s.console ≠ .resuming → s.pauseRequested = true
  /-- Once the console has seen that the keeper is not busy, the keeper stays away. -/
  away : s.console = .disabling ∨ s.enabled = false ∧ s.console ≠ .resuming → s.keeper ≠ .working
  sending : s.console = .sending → s.enabled = false
  consoleTry : s.tries .console ≠ .out → s.console = .sending
  keeperTry : s.tries .keeper ≠ .out → s.keeper = .working

/-- A packet follows directly on the caller's own question, which was answered with yes. -/
def Prompted (calls : List HciCall) : Prop :=
  ∀ before p data after, calls = before ++ .packet p data :: after →
    ∃ front, before = front ++ [.available p true]

/-- The flag `sender` and the calls made under it. -/
structure Locked (s : Handoff) : Prop where
  unlocked : s.sender = false → ∀ p, (s.tries p).holds = false
  alone : ∀ p q, (s.tries p).holds = true → (s.tries q).holds = true → p = q
  granted : ∀ p data, s.tries p = .granted data → ∃ front, s.calls = front ++ [.available p true]
  prompted : Prompted s.calls

end Handoff

end UllReceiver.Host
