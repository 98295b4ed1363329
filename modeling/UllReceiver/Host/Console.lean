import UllReceiver.Library.LineReader

/-!
# The console of the radio board

`app_main` collects the characters of the USB console into lines and carries out each one: a word or
a letter for a report or a switch, or an HCI packet in hexadecimal, which only the manual owner may
send.
-/

namespace UllReceiver.Host

open Library

def ascii (s : String) : List UInt8 :=
  s.toList.map fun c => UInt8.ofNat c.toNat

/-- What one character meets: `none` for `EOF`, and the answers of `ull_trial_pump_busy` and, for
each try, of `ull_hci_try_send`. -/
structure ConsoleInput where
  char : Option UInt8
  pumpBusy : Bool
  takes : Nat → Bool

/-- What `app_main` calls and prints. -/
inductive ConsoleEffect
  | status (autoEnabled : Bool)
  | usbStats
  | micEnable (on : Bool)
  | controlLogEnable (on : Bool)
  | controlLogStatus
  | controlLogDrain
  | parentStatus
  | controlProbeSet (on : Bool)
  | controlProbeRemaining
  | controlAutoSet (on : Bool)
  | controlAutoGet
  | pcmStats
  | powerSet (dbm : Nat)
  | powerGet
  | retryAutoEnable (on : Bool)
  | retryAutoStatus
  | cooldownProbeArm
  | cacheFailure
  | retryFailure
  | burstArm
  | burstStatus
  | probeArm
  | probeStatus
  | channelStats
  | memory
  | enterBootloader
  | restart
  | owner (autoEnabled : Bool)
  | llcpTrace (on : Bool)
  | featureRequested (on : Bool)
  | resetSequence
  | sent (data : List UInt8)
  | error (text : String)
deriving DecidableEq, Repr

/-- `sizeof(line) - 1`. -/
def lineCapacity : Nat := 2049

/-- `sizeof(data)`. -/
def dataCapacity : Nat := 1024

/-- What the console switches. It does not go on behind a restart. -/
structure Switches where
  running : Bool
  autoEnabled : Bool
  llcpTraceEnabled : Bool
  featureEnabled : Bool
deriving DecidableEq, Repr

def Switches.boot : Switches :=
  ⟨true, true, false, false⟩

/-- The string that `line` holds, up to its first zero. -/
def text (line : List UInt8) : List UInt8 :=
  line.takeWhile (· ≠ 0)

/-! ## Words and letters -/

/-- The words that only report or set something elsewhere, in the order in which they are compared. -/
def words : List (String × List ConsoleEffect) :=
  [("mic0", [.micEnable false]),
   ("mic1", [.micEnable true]),
   ("controls1", [.controlLogEnable true, .controlLogStatus]),
   ("controls0", [.controlLogEnable false, .controlLogStatus]),
   ("parentstatus", [.parentStatus]),
   ("controlprobe", [.controlProbeRemaining]),
   ("controlprobe1", [.controlProbeSet true, .controlProbeRemaining]),
   ("controlprobe0", [.controlProbeSet false, .controlProbeRemaining]),
   ("controlauto", [.controlAutoGet]),
   ("controlauto1", [.controlAutoSet true, .controlAutoGet]),
   ("controlauto0", [.controlAutoSet false, .controlAutoGet]),
   ("controlsstatus", [.controlLogStatus]),
   ("controlsdrain", [.controlLogDrain]),
   ("pcm", [.pcmStats]),
   ("rfpower", [.powerGet]),
   ("rfpower9", [.powerSet 9, .powerGet]),
   ("rfpower15", [.powerSet 15, .powerGet]),
   ("retryauto", [.retryAutoStatus]),
   ("retryauto0", [.retryAutoEnable false, .retryAutoStatus]),
   ("retryauto1", [.retryAutoEnable true, .retryAutoStatus]),
   ("retrycooldownprobe", [.cooldownProbeArm]),
   ("retrycachefailure", [.cacheFailure]),
   ("retryfailure", [.retryFailure]),
   ("retryburst", [.burstArm, .burstStatus]),
   ("retryburststatus", [.burstStatus]),
   ("retryprobe", [.probeArm, .probeStatus]),
   ("retrystatus", [.probeStatus]),
   ("rfmap", [.channelStats])]

def wordEffects (text : List UInt8) : Option (List ConsoleEffect) :=
  (words.find? fun w => text = ascii w.1).map Prod.snd

/-! ## Packets -/

def nibble (c : UInt8) : Option UInt8 :=
  if 48 ≤ c ∧ c ≤ 57 then some (c - 48)
  else if 97 ≤ c ∧ c ≤ 102 then some (c - 97 + 10)
  else if 65 ≤ c ∧ c ≤ 70 then some (c - 65 + 10)
  else none

/-- The loop over `data[i]`, which ends at the first pair that is not hexadecimal. -/
def hexBytes : List UInt8 → Option (List UInt8)
  | [] => some []
  | [_] => none
  | a :: b :: rest => do
    let high ← nibble a
    let low ← nibble b
    let data ← hexBytes rest
    return (high <<< 4 ||| low) :: data

/-- A command (1) or an ACL packet (2) whose length fields describe it. -/
def validPacket (data : List UInt8) : Bool :=
  (data.getD 0 0 == 1 && data.length == 4 + (data.getD 3 0).toNat) ||
    (data.getD 0 0 == 2 && 5 ≤ data.length &&
      data.length == 5 + (data.getD 3 0).toNat + 256 * (data.getD 4 0).toNat)

def opcode (data : List UInt8) : UInt16 :=
  if data.getD 0 0 = 1 then (data.getD 1 0).toUInt16 ||| (data.getD 2 0).toUInt16 <<< 8 else 0

/-- The pump's own step command never comes from the console, and while the pump works no command
does but to report and to cancel. -/
def guarded (busy : Bool) (data : List UInt8) : Bool :=
  opcode data == 0xfcfe ||
    (busy && opcode data != 0 && opcode data != 0xfcfc && opcode data != 0xfcfd)

def hciReset : List UInt8 := [0x01, 0x03, 0x0c, 0x00]

/-- `while(!ull_hci_try_send(data,n)&&--tries)`, from the given try on. -/
def trySend (takes : Nat → Bool) (attempt : Nat) : Nat → Bool
  | 0 => false
  | tries + 1 => takes attempt || trySend takes (attempt + 1) tries

def sendPacket (s : Switches) (i : ConsoleInput) (data : List UInt8) :
    Switches × List ConsoleEffect :=
  let reset := data = hciReset
  let s := if reset then { s with featureEnabled := false, llcpTraceEnabled := false } else s
  (s, (if reset then [.resetSequence] else []) ++
    [if trySend i.takes 0 200 then .sent data else .error "tx_timeout"])

def packetLine (s : Switches) (i : ConsoleInput) (line : List UInt8) :
    Switches × List ConsoleEffect :=
  if s.autoEnabled then (s, [.error "manual_takeover_required"])
  else match hexBytes line with
    | none => (s, [.error "invalid_packet"])
    | some data =>
      if !validPacket data then (s, [.error "invalid_packet"])
      else if guarded i.pumpBusy data then (s, [.error "trial_command_guard"])
      else sendPacket s i data

/-! ## Lines -/

def dispatch (s : Switches) (i : ConsoleInput) (r : LineReader UInt8 lineCapacity) :
    Switches × List ConsoleEffect :=
  let line := r.line
  if r.overflow then (s, [.error "invalid_line"])
  else if line = ascii "?" then (s, [.status s.autoEnabled])
  else if line = ascii "u" then (s, [.usbStats])
  else match wordEffects (text line) with
    | some effects => (s, effects)
    | none =>
      if text line = ascii "memory" then
        (s, [if i.pumpBusy then .error "trial_active" else .memory])
      else if text line = ascii "bootloader" then
        if i.pumpBusy then (s, [.error "trial_active"])
        else ({ s with running := false }, [.enterBootloader])
      else if line = ascii "z" ∧ s.autoEnabled = false then
        ({ s with running := false }, [.restart])
      else if line = ascii "h" ∨ line = ascii "a" then
        if line = ascii "a" ∧ i.pumpBusy = true then (s, [.error "trial_active"])
        else
          let auto := decide (line = ascii "a")
          ({ s with autoEnabled := auto }, [.owner auto])
      else if line = ascii "l" ∨ line = ascii "m" then
        let on := decide (line = ascii "l")
        ({ s with llcpTraceEnabled := on }, [.llcpTrace on])
      else if line = ascii "f" ∨ line = ascii "g" then
        let on := decide (line = ascii "f")
        ({ s with featureEnabled := on }, [.featureRequested on])
      else if 8 ≤ line.length ∧ line.length % 2 = 0 then packetLine s i line
      else (s, [.error "invalid_line"])

def carriageReturn : UInt8 := 13

def newline : UInt8 := 10

/-- `app_main` with its buffer. -/
structure Console where
  switches : Switches
  reader : LineReader UInt8 lineCapacity

namespace Console

def boot : Console :=
  ⟨.boot, .empty⟩

/-- One turn of the loop. -/
def step (c : Console) (i : ConsoleInput) : Console × List ConsoleEffect :=
  match i.char with
  | none => (c, [])
  | some char =>
    if !c.switches.running then (c, [])
    else if char = carriageReturn then (c, [])
    else if char ≠ newline then (⟨c.switches, c.reader.read char⟩, [])
    else
      let (switches, effects) := dispatch c.switches i c.reader
      (⟨switches, .empty⟩, effects)

/-- A run over the characters of the console, with everything it called and printed. -/
def run (c : Console) (inputs : List ConsoleInput) : Console × List ConsoleEffect :=
  inputs.foldl (fun s i => ((s.1.step i).1, s.2 ++ (s.1.step i).2)) (c, [])

end Console

end UllReceiver.Host
