import Mathlib

/-!
# The console over USB

Two stream buffers carry the bytes of the CDC interface: one from the USB task to the reader, and one
from the writers, of which one at a time holds the mutex, to the USB task. What does not fit is
counted and dropped.
-/

namespace UllReceiver.Usb

def consoleRxBytes : Nat := 4096

def consoleTxBytes : Nat := 8192

/-- `xStreamBufferSend` without a wait: as many bytes as there is room for. -/
def streamSend (capacity : Nat) (queue data : List UInt8) : List UInt8 × Nat :=
  let count := min data.length (capacity - queue.length)
  (queue ++ data.take count, count)

/-- `xStreamBufferReceive` without a wait: at most `size` bytes, and what is left. -/
def streamReceive (queue : List UInt8) (size : Nat) : List UInt8 × List UInt8 :=
  (queue.take size, queue.drop size)

/-- A call of `cdc_write` and how many of its bytes are in the queue. -/
structure CdcWrite where
  data : List UInt8
  sent : Nat
deriving DecidableEq, Repr

structure UsbConsole where
  consoleRx : List UInt8
  consoleTxQueue : List UInt8
  consoleConnected : Bool
  shuttingDown : Bool
  /-- The call that holds `console_tx`. -/
  writer : Option CdcWrite
  /-- The budget that the pass of `console_service` has left. -/
  service : Option Nat
  cdcDroppedBytes : UInt32
  cdcTxBufferedBytes : UInt32
  cdcFifoFree : UInt32

namespace UsbConsole

def boot : UsbConsole where
  consoleRx := []
  consoleTxQueue := []
  consoleConnected := false
  shuttingDown := false
  writer := none
  service := none
  cdcDroppedBytes := 0
  cdcTxBufferedBytes := 0
  cdcFifoFree := 0

def drop (c : UsbConsole) (bytes : Nat) : UsbConsole :=
  { c with cdcDroppedBytes := c.cdcDroppedBytes + UInt32.ofNat bytes }

/-- One turn of the loop of `tud_cdc_rx_cb`, which has read `got`. -/
def rxCb (c : UsbConsole) (got : List UInt8) : UsbConsole × Nat :=
  let (queue, put) := streamSend consoleRxBytes c.consoleRx got
  let c := { c with consoleRx := queue }
  (if put < got.length then c.drop (got.length - put) else c, put)

/-- `cdc_read`: `none` for `EAGAIN`. -/
def cdcRead (c : UsbConsole) (size : Nat) : UsbConsole × Option (List UInt8) :=
  if size = 0 then (c, some [])
  else
    let (got, rest) := streamReceive c.consoleRx size
    if got = [] then (c, none) else ({ c with consoleRx := rest }, some got)

/-- `cdc_write` up to the mutex, which is free or has not been got in time. -/
def writeBegin (c : UsbConsole) (data : List UInt8) (taken : Bool) : UsbConsole :=
  if data = [] ∨ c.shuttingDown = true then c
  else if taken then { c with writer := some ⟨data, 0⟩ }
  else c.drop data.length

def writeEnd (c : UsbConsole) (w : CdcWrite) : UsbConsole :=
  let c := { c with writer := none }
  if w.sent < w.data.length then c.drop (w.data.length - w.sent) else c

/-- One turn of the loop of `cdc_write`, at whose end the deadline may have passed. It gives the
number of bytes that were queued and whether the call is over. -/
def writeLoop (c : UsbConsole) (w : CdcWrite) (late : Bool) : UsbConsole × Nat × Bool :=
  if w.sent < w.data.length ∧ c.shuttingDown = false ∧ c.consoleConnected = true then
    let (queue, count) := streamSend consoleTxBytes c.consoleTxQueue (w.data.drop w.sent)
    let w := { w with sent := w.sent + count }
    let c := { c with consoleTxQueue := queue, writer := some w }
    if w.sent = w.data.length ∨ late = true then (c.writeEnd w, count, true) else (c, count, false)
  else (c.writeEnd w, 0, true)

/-- `tud_cdc_line_state_cb`, and the start of a pass of `console_service`. -/
def setConnected (c : UsbConsole) (connected : Bool) : UsbConsole :=
  { c with consoleConnected := connected }

def serviceBegin (c : UsbConsole) (connected : Bool) : UsbConsole :=
  { c.setConnected connected with service := some 2048 }

/-- What a turn of the loop of `console_service` takes from the queue; `none` when the loop ends. -/
def serviceTake (c : UsbConsole) (budget : Nat) (writeAvailable : UInt32) : Option (List UInt8) :=
  if budget = 0 then none
  else
    let available := if c.consoleConnected then writeAvailable.toNat else 256
    if available = 0 then none
    else
      let got := (streamReceive c.consoleTxQueue (min (min 256 available) budget)).1
      if got = [] then none else some got

/-- The turn that has taken `got`, of which `tud_cdc_write` has accepted `written` bytes. -/
def serviceLoop (c : UsbConsole) (budget : Nat) (got : List UInt8) (written : Nat) :
    UsbConsole × Nat :=
  let sent := if c.consoleConnected then written else 0
  let c := { c with
    consoleTxQueue := c.consoleTxQueue.drop got.length
    service := some (budget - got.length) }
  (if sent < got.length then c.drop (got.length - sent) else c, sent)

def serviceEnd (c : UsbConsole) (free : UInt32) : UsbConsole :=
  { c with
    service := none
    cdcTxBufferedBytes := UInt32.ofNat c.consoleTxQueue.length
    cdcFifoFree := free }

/-- `ull_usb_disconnect_phy`, before it waits. -/
def disconnectPhy (c : UsbConsole) : UsbConsole :=
  { c with shuttingDown := true, consoleConnected := false }

end UsbConsole

end UllReceiver.Usb
