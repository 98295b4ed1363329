import Mathlib
import UllReceiver.Library.Passage
import UllReceiver.Library.Runs
import UllReceiver.Usb.UsbConsole

/-!
# What passes the console

Over any order of the turns of the loops, no byte is invented, doubled or moved: what the host gets
is taken from the writes, one whole call after another, what the reader gets is taken from the host's
bytes, and whatever is missing has been counted.
-/

namespace UllReceiver.Usb

open Library

inductive ConsoleAction
  /-- The USB task has read some bytes of the host. -/
  | received (got : List UInt8)
  | read (size : Nat)
  | writeBegin (data : List UInt8) (taken : Bool)
  | writeLoop (late : Bool)
  | lineState (connected : Bool)
  | serviceBegin (connected : Bool)
  | serviceLoop (available : UInt32) (written : Nat) (free : UInt32)
  | disconnect

def CdcWrite.queued (w : CdcWrite) : List UInt8 :=
  w.data.take w.sent

def CdcWrite.lost (w : CdcWrite) : Nat :=
  w.data.length - w.sent

/-- What some calls have queued, one after the other. -/
def queuedBy (ws : List CdcWrite) : List UInt8 :=
  (ws.map CdcWrite.queued).flatten

/-- The bytes that some calls have given up. -/
def lostBy (ws : List CdcWrite) : Nat :=
  (ws.map CdcWrite.lost).sum

theorem queuedBy_concat (ws : List CdcWrite) (w : CdcWrite) :
    queuedBy (ws ++ [w]) = queuedBy ws ++ w.queued := by
  unfold queuedBy
  rw [List.map_append, List.flatten_append, List.map_cons, List.map_nil, List.flatten_cons,
    List.flatten_nil, List.append_nil]

theorem lostBy_concat (ws : List CdcWrite) (w : CdcWrite) :
    lostBy (ws ++ [w]) = lostBy ws + w.lost := by
  unfold lostBy
  rw [List.map_append, List.sum_append, List.map_cons, List.map_nil, List.sum_cons, List.sum_nil,
    Nat.add_zero]

/-- The console with what has passed its queues. `writes` are the calls of `cdc_write` that are over,
and `received` is what the USB task has read of the host's bytes. -/
structure ConsoleTrack where
  console : UsbConsole
  tx : Passage UInt8
  rx : Passage UInt8
  writes : List CdcWrite
  received : List UInt8
  rxLost : Nat

namespace ConsoleTrack

def boot : ConsoleTrack :=
  ⟨.boot, .empty, .empty, [], [], 0⟩

def act (t : ConsoleTrack) : ConsoleAction → Option ConsoleTrack
  | .received got =>
    let (console, put) := t.console.rxCb got
    some { t with
      console
      rx := t.rx.accept (got.take put) 0
      received := t.received ++ got
      rxLost := t.rxLost + (got.length - put) }
  | .read size =>
    let (console, got) := t.console.cdcRead size
    some { t with console, rx := t.rx.deliver (got.getD []) }
  | .writeBegin data taken =>
    -- The mutex is taken only while no other call holds it.
    if taken = true ∧ t.console.writer ≠ none then none
    else
      some { t with
        console := t.console.writeBegin data taken
        writes :=
          if data = [] ∨ t.console.shuttingDown = true then t.writes
          else if taken then t.writes
          else t.writes ++ [⟨data, 0⟩] }
  | .writeLoop late => do
    let w ← t.console.writer
    let (console, count, done) := t.console.writeLoop w late
    some { t with
      console
      tx := t.tx.accept ((w.data.drop w.sent).take count) 0
      writes := if done then t.writes ++ [⟨w.data, w.sent + count⟩] else t.writes }
  | .lineState connected => some { t with console := t.console.setConnected connected }
  | .serviceBegin connected =>
    if t.console.service = none then some { t with console := t.console.serviceBegin connected }
    else none
  | .serviceLoop available written free => do
    let budget ← t.console.service
    match t.console.serviceTake budget available with
    | none => some { t with console := t.console.serviceEnd free }
    | some got =>
      let (console, sent) := t.console.serviceLoop budget got written
      some { t with
        console, tx := (t.tx.deliver (got.take sent)).accept [] (got.length - sent) }
  | .disconnect => some { t with console := t.console.disconnectPhy }

/-- `tud_cdc_write` accepts no more than it is given. -/
def Sound (t : ConsoleTrack) : ConsoleAction → Prop
  | .serviceLoop available written _ =>
    ∀ budget ∈ t.console.service, ∀ got ∈ t.console.serviceTake budget available,
      written ≤ got.length
  | _ => True

def Step (t : ConsoleTrack) (a : ConsoleAction) (t' : ConsoleTrack) : Prop :=
  t.Sound a ∧ t.act a = some t'

/-! ## The invariant -/

/-- What the calls have queued, one after the other, the last one not yet over. -/
def queued (t : ConsoleTrack) : List UInt8 :=
  queuedBy t.writes ++ (t.console.writer.map CdcWrite.queued).getD []

structure Good (t : ConsoleTrack) : Prop where
  tx : t.tx.Sound
  txHeld : t.tx.held = t.console.consoleTxQueue
  txFits : t.console.consoleTxQueue.length ≤ consoleTxBytes
  txKept : t.tx.cleared = 0
  accepted : t.tx.accepted = t.queued
  rx : t.rx.Sound
  rxHeld : t.rx.held = t.console.consoleRx
  rxFits : t.console.consoleRx.length ≤ consoleRxBytes
  rxKept : t.rx.cleared = 0 ∧ t.rx.dropped = 0
  received : t.rx.accepted.Sublist t.received
  rxCount : t.rx.accepted.length + t.rxLost = t.received.length
  counted : t.console.cdcDroppedBytes = UInt32.ofNat (lostBy t.writes + t.tx.dropped + t.rxLost)
  within : ∀ w ∈ t.console.writer, w.sent ≤ w.data.length
  whole : ∀ w ∈ t.writes, w.sent ≤ w.data.length

variable {t t' : ConsoleTrack}

theorem good_boot : boot.Good where
  tx := Passage.sound_empty
  txHeld := rfl
  txFits := Nat.zero_le _
  txKept := rfl
  accepted := rfl
  rx := Passage.sound_empty
  rxHeld := rfl
  rxFits := Nat.zero_le _
  rxKept := ⟨rfl, rfl⟩
  received := .slnil
  rxCount := rfl
  counted := rfl
  within := nofun
  whole := nofun

/-- Nothing to count is counted as nothing. -/
theorem drop_missing (c : UsbConsole) (part whole : Nat) :
    (if part < whole then c.drop (whole - part) else c) = c.drop (whole - part) := by
  split
  · rfl
  · next hle =>
    rw [Nat.sub_eq_zero_of_le (Nat.le_of_not_lt hle)]
    show c = { c with cdcDroppedBytes := c.cdcDroppedBytes + 0 }
    rw [UInt32.add_zero]

theorem drop_counted {c : UsbConsole} {lost bytes total : Nat}
    (h : c.cdcDroppedBytes = UInt32.ofNat lost) (htotal : total = lost + bytes) :
    (c.drop bytes).cdcDroppedBytes = UInt32.ofNat total := by
  show c.cdcDroppedBytes + UInt32.ofNat bytes = _
  rw [h, htotal, UInt32.ofNat_add]

theorem streamSend_fits {capacity : Nat} {queue data : List UInt8} (h : queue.length ≤ capacity) :
    (streamSend capacity queue data).1.length ≤ capacity := by
  unfold streamSend
  dsimp only
  rw [List.length_append, List.length_take]
  omega

/-! ## From the host -/

theorem Good.receive (h : t.Good) (got : List UInt8) (hstep : t.act (.received got) = some t') :
    t'.Good := by
  unfold act UsbConsole.rxCb at hstep
  dsimp only at hstep
  rw [drop_missing] at hstep
  cases hstep
  have hcount := h.rxCount
  have hput : (streamSend consoleRxBytes t.console.consoleRx got).2 ≤ got.length := Nat.min_le_left ..
  have hheld : (t.rx.accept (got.take (streamSend consoleRxBytes t.console.consoleRx got).2) 0).held =
      (streamSend consoleRxBytes t.console.consoleRx got).1 := by
    rw [h.rx.held_accept, List.drop_zero, h.rxHeld]
    rfl
  exact { h with
    rx := h.rx.accept (Nat.zero_le _)
    rxHeld := hheld
    rxFits := streamSend_fits h.rxFits
    rxKept := h.rxKept
    received := h.received.append (List.take_sublist _ _)
    rxCount := by
      show (t.rx.accepted ++ got.take (streamSend consoleRxBytes t.console.consoleRx got).2).length +
        (t.rxLost + (got.length - (streamSend consoleRxBytes t.console.consoleRx got).2)) =
          (t.received ++ got).length
      rw [List.length_append, List.length_append, List.length_take]
      omega
    counted := drop_counted h.counted (Nat.add_assoc ..).symm }

theorem deliver_nil (p : Passage UInt8) : p.deliver [] = p := by
  show { p with delivered := p.delivered ++ [], head := p.head } = p
  rw [List.append_nil]

theorem Good.take (h : t.Good) (size : Nat) (hstep : t.act (.read size) = some t') : t'.Good := by
  unfold act UsbConsole.cdcRead at hstep
  dsimp only at hstep
  split at hstep
  · rw [Option.getD_some, deliver_nil] at hstep
    cases hstep
    exact h
  · split at hstep
    · rw [Option.getD_none, deliver_nil] at hstep
      cases hstep
      exact h
    · cases hstep
      have hgot : (streamReceive t.console.consoleRx size).1 <+: t.rx.held := by
        rw [h.rxHeld]
        exact List.take_prefix size _
      have hheld : (t.rx.deliver (streamReceive t.console.consoleRx size).1).held =
          (streamReceive t.console.consoleRx size).2 := by
        rw [Passage.held_deliver, h.rxHeld]
        show t.console.consoleRx.drop (t.console.consoleRx.take size).length = _
        rw [List.length_take]
        show _ = t.console.consoleRx.drop size
        by_cases hsize : size ≤ t.console.consoleRx.length
        · rw [Nat.min_eq_left hsize]
        · rw [Nat.min_eq_right (by omega), List.drop_length, List.drop_of_length_le (by omega)]
      have hfits := h.rxFits
      exact { h with
        rx := h.rx.deliver hgot
        rxHeld := hheld
        rxFits := by
          show (t.console.consoleRx.drop size).length ≤ _
          rw [List.length_drop]
          omega
        rxKept := h.rxKept
        received := h.received
        rxCount := h.rxCount }

/-! ## The writers -/

theorem Good.writeBegin (h : t.Good) {data : List UInt8} {taken : Bool}
    (hstep : t.act (.writeBegin data taken) = some t') : t'.Good := by
  unfold act at hstep
  dsimp only at hstep
  split at hstep
  · cases hstep
  · next hmutex =>
    unfold UsbConsole.writeBegin at hstep
    by_cases hnothing : data = [] ∨ t.console.shuttingDown = true
    · rw [if_pos hnothing, if_pos hnothing] at hstep
      cases hstep
      exact h
    · rw [if_neg hnothing, if_neg hnothing] at hstep
      cases taken with
      | true =>
        -- The call that takes the mutex has queued nothing yet.
        have hfree : t.console.writer = none := by
          by_contra hheld
          exact hmutex ⟨rfl, hheld⟩
        cases hstep
        have haccepted := h.accepted
        unfold queued at haccepted
        rw [hfree] at haccepted
        exact { h with
          accepted := haccepted
          counted := h.counted
          within := by
            intro w hw
            cases hw
            exact Nat.zero_le _ }
      | false =>
        rw [if_neg Bool.false_ne_true, if_neg Bool.false_ne_true] at hstep
        cases hstep
        have haccepted := h.accepted
        unfold queued at haccepted
        exact { h with
          accepted := by
            show t.tx.accepted = queuedBy (t.writes ++ [⟨data, 0⟩]) ++
              (t.console.writer.map CdcWrite.queued).getD []
            rw [haccepted, queuedBy_concat]
            show _ = queuedBy t.writes ++ [] ++ (t.console.writer.map CdcWrite.queued).getD []
            rw [List.append_nil]
          counted := by
            apply drop_counted h.counted
            show lostBy (t.writes ++ [⟨data, 0⟩]) + t.tx.dropped + t.rxLost = _
            rw [lostBy_concat]
            show lostBy t.writes + (data.length - 0) + t.tx.dropped + t.rxLost = _
            omega
          within := h.within
          whole := by
            intro w hw
            rcases List.mem_append.mp hw with hw | hw
            · exact h.whole w hw
            · rw [List.mem_singleton.mp hw]
              exact Nat.zero_le _ }

/-- A turn of `cdc_write` has put `count` more of its bytes into the queue. -/
def wrote (t : ConsoleTrack) (w : CdcWrite) (count : Nat) : ConsoleTrack :=
  { t with
    console := { t.console with
      consoleTxQueue := t.console.consoleTxQueue ++ (w.data.drop w.sent).take count
      writer := some { w with sent := w.sent + count } }
    tx := t.tx.accept ((w.data.drop w.sent).take count) 0 }

/-- The call that holds the mutex ends. -/
def closed (t : ConsoleTrack) (w : CdcWrite) : ConsoleTrack :=
  { t with
    console := { t.console with writer := none }.drop w.lost
    writes := t.writes ++ [w] }

theorem Good.wrote (h : t.Good) {w : CdcWrite} (hw : t.console.writer = some w) {count : Nat}
    (hcount : count ≤ w.data.length - w.sent)
    (hroom : count ≤ consoleTxBytes - t.console.consoleTxQueue.length) :
    (t.wrote w count).Good := by
  have hwithin := h.within w hw
  have haccepted := h.accepted
  unfold queued at haccepted
  rw [hw] at haccepted
  have hfits := h.txFits
  exact { h with
    tx := h.tx.accept (Nat.zero_le _)
    txHeld := by
      show (t.tx.accept ((w.data.drop w.sent).take count) 0).held = _
      rw [h.tx.held_accept, List.drop_zero, h.txHeld]
      rfl
    txFits := by
      show (t.console.consoleTxQueue ++ (w.data.drop w.sent).take count).length ≤ _
      rw [List.length_append, List.length_take, List.length_drop]
      omega
    txKept := h.txKept
    accepted := by
      show t.tx.accepted ++ (w.data.drop w.sent).take count =
        queuedBy t.writes ++ w.data.take (w.sent + count)
      rw [haccepted, List.append_assoc, List.take_add]
      rfl
    counted := h.counted
    within := by
      intro v hv
      cases hv
      show w.sent + count ≤ w.data.length
      omega }

theorem Good.closed (h : t.Good) {w : CdcWrite} (hw : t.console.writer = some w) :
    (t.closed w).Good := by
  have haccepted := h.accepted
  unfold queued at haccepted
  rw [hw] at haccepted
  exact { h with
    accepted := by
      show t.tx.accepted = queuedBy (t.writes ++ [w]) ++ []
      rw [haccepted, queuedBy_concat, List.append_nil]
      rfl
    counted := by
      apply drop_counted h.counted
      show lostBy (t.writes ++ [w]) + t.tx.dropped + t.rxLost = _
      rw [lostBy_concat]
      omega
    within := nofun
    whole := by
      intro v hv
      rcases List.mem_append.mp hv with hv | hv
      · exact h.whole v hv
      · rw [List.mem_singleton.mp hv]
        exact h.within w hw }

theorem accept_nothing (p : Passage UInt8) : p.accept [] 0 = p := by
  show { p with accepted := p.accepted ++ [] } = p
  rw [List.append_nil]

theorem Good.writeLoop (h : t.Good) {late : Bool} (hstep : t.act (.writeLoop late) = some t') :
    t'.Good := by
  obtain ⟨w, hw, hstep⟩ := Option.bind_eq_some_iff.mp hstep
  unfold UsbConsole.writeLoop at hstep
  by_cases hgoes : w.sent < w.data.length ∧ t.console.shuttingDown = false ∧
      t.console.consoleConnected = true
  · rw [if_pos hgoes] at hstep
    dsimp only at hstep
    have hwrote : (t.wrote w
        (streamSend consoleTxBytes t.console.consoleTxQueue (w.data.drop w.sent)).2).Good := by
      apply h.wrote hw
      · rw [← List.length_drop]
        exact Nat.min_le_left ..
      · exact Nat.min_le_right ..
    split at hstep
    · rw [UsbConsole.writeEnd, drop_missing, if_pos rfl] at hstep
      cases hstep
      exact hwrote.closed rfl
    · rw [if_neg Bool.false_ne_true] at hstep
      cases hstep
      exact hwrote
  · rw [if_neg hgoes] at hstep
    dsimp only at hstep
    rw [UsbConsole.writeEnd, drop_missing, if_pos rfl, List.take_zero, accept_nothing] at hstep
    cases hstep
    exact h.closed hw

/-! ## To the host -/

/-- Of what is taken from the queue, the host's buffer accepts the first bytes. -/
theorem serviced {p : Passage UInt8} (h : p.Sound) {got : List UInt8} (hgot : got <+: p.held)
    {sent : Nat} (hsent : sent ≤ got.length) :
    ((p.deliver (got.take sent)).accept [] (got.length - sent)).Sound ∧
      ((p.deliver (got.take sent)).accept [] (got.length - sent)).held =
        p.held.drop got.length := by
  have hdeliver := h.deliver ((List.take_prefix sent got).trans hgot)
  have hlength : (got.take sent).length = sent := List.length_take_of_le hsent
  have hheld : (p.deliver (got.take sent)).held = p.held.drop sent := by
    rw [Passage.held_deliver, hlength]
  have hle := hgot.length_le
  refine ⟨hdeliver.accept ?_, ?_⟩
  · rw [hheld, List.length_drop]
    show got.length - sent ≤ p.held.length - sent + 0
    omega
  · rw [hdeliver.held_accept, hheld, List.append_nil, List.drop_drop, Nat.add_sub_cancel' hsent]

theorem serviceTake_prefix {c : UsbConsole} {budget : Nat} {available : UInt32} {got : List UInt8}
    (h : c.serviceTake budget available = some got) : got <+: c.consoleTxQueue := by
  unfold UsbConsole.serviceTake at h
  dsimp only at h
  generalize (if c.consoleConnected = true then available.toNat else 256) = room at h
  split_ifs at h
  cases h
  exact List.take_prefix _ _

theorem Good.serviceLoop (h : t.Good) {available free : UInt32} {written : Nat}
    (hsound : t.Sound (.serviceLoop available written free))
    (hstep : t.act (.serviceLoop available written free) = some t') : t'.Good := by
  obtain ⟨budget, hbudget, hstep⟩ := Option.bind_eq_some_iff.mp hstep
  cases htake : t.console.serviceTake budget available with
  | none =>
    rw [htake] at hstep
    cases hstep
    exact { h with }
  | some got =>
    rw [htake] at hstep
    unfold UsbConsole.serviceLoop at hstep
    dsimp only at hstep
    rw [drop_missing] at hstep
    cases hstep
    have hgot : got <+: t.tx.held := by
      rw [h.txHeld]
      exact serviceTake_prefix htake
    have hsent : (if t.console.consoleConnected = true then written else 0) ≤ got.length := by
      split
      · exact hsound budget hbudget got htake
      · exact Nat.zero_le _
    obtain ⟨hserved, hheld⟩ := serviced h.tx hgot hsent
    have hfits := h.txFits
    exact { h with
      tx := hserved
      txHeld := by rw [hheld, h.txHeld]; rfl
      txFits := by
        show (t.console.consoleTxQueue.drop got.length).length ≤ _
        rw [List.length_drop]
        omega
      txKept := h.txKept
      accepted := (List.append_nil _).trans h.accepted
      counted := by
        apply drop_counted h.counted
        show lostBy t.writes + (t.tx.dropped + _) + t.rxLost = _
        omega }

/-! ## Runs -/

theorem Good.step (h : t.Good) {a : ConsoleAction} (hstep : Step t a t') : t'.Good := by
  obtain ⟨hsound, hact⟩ := hstep
  cases a with
  | received got => exact h.receive got hact
  | read size => exact h.take size hact
  | writeBegin => exact h.writeBegin hact
  | writeLoop => exact h.writeLoop hact
  | lineState | disconnect =>
    cases hact
    exact { h with }
  | serviceBegin connected =>
    unfold act at hact
    dsimp only at hact
    split at hact
    · cases hact
      exact { h with }
    · cases hact
  | serviceLoop => exact h.serviceLoop hsound hact

theorem Good.run (h : t.Good) {trace : List ConsoleAction} (hrun : Run Step t trace t') :
    t'.Good :=
  hrun.invariant Good h fun _ _ _ hu hstep => hu.step hstep

end ConsoleTrack

end UllReceiver.Usb
