import UllReceiver.Host.ConsolePackets
import UllReceiver.Usb.UsbConsoleRun

/-!
# From the host's bytes to the controller

The console reads its characters from the queue of the CDC interface. However the host's bytes are
cut into USB transfers, and whenever the console gets to read them, the lines that it carries out are
the lines that the host has sent.
-/

namespace UllReceiver.Host

open Library Usb

inductive ConsoleLinkAction
  | usb (a : ConsoleAction)
  /-- `getchar` and the turn of `app_main` with its result. -/
  | getchar (pumpBusy : Bool) (takes : Nat → Bool)

structure ConsoleLink where
  usb : ConsoleTrack
  console : Console
  /-- What `getchar` has returned. -/
  inputs : List ConsoleInput
  effects : List ConsoleEffect

namespace ConsoleLink

def boot : ConsoleLink :=
  ⟨.boot, .boot, [], []⟩

/-- `stdin` is not buffered, so a character is a `cdc_read` of one byte. -/
def nextInput (s : ConsoleLink) (pumpBusy : Bool) (takes : Nat → Bool) : ConsoleInput :=
  ⟨(s.usb.console.cdcRead 1).2.bind List.head?, pumpBusy, takes⟩

def act (s : ConsoleLink) : ConsoleLinkAction → Option ConsoleLink
  | .usb (.read _) => none
  | .usb a => do
    let usb ← s.usb.act a
    some { s with usb }
  | .getchar pumpBusy takes => do
    let usb ← s.usb.act (.read 1)
    let i := s.nextInput pumpBusy takes
    let (console, effects) := s.console.step i
    some { usb, console, inputs := s.inputs ++ [i], effects := s.effects ++ effects }

/-- `tud_cdc_write` accepts no more than it is given. -/
def Sound (s : ConsoleLink) : ConsoleLinkAction → Prop
  | .usb a => s.usb.Sound a
  | .getchar _ _ => True

def Step (s : ConsoleLink) (a : ConsoleLinkAction) (s' : ConsoleLink) : Prop :=
  s.Sound a ∧ s.act a = some s'

/-- The console has carried out what was read. -/
structure Good (s : ConsoleLink) : Prop where
  usb : s.usb.Good
  run : Console.boot.run s.inputs = (s.console, s.effects)
  chars : s.inputs.filterMap ConsoleInput.char = s.usb.rx.delivered.map Prod.snd

variable {s s' : ConsoleLink}

theorem good_boot : boot.Good :=
  ⟨ConsoleTrack.good_boot, rfl, rfl⟩

/-- A read of one byte gives at most one. -/
theorem cdcRead_one (c : UsbConsole) :
    ((c.cdcRead 1).2.bind List.head?).toList = (c.cdcRead 1).2.getD [] := by
  unfold UsbConsole.cdcRead streamReceive
  cases c.consoleRx with
  | nil => rfl
  | cons byte rest => rfl

theorem delivered_snd (p : Passage UInt8) (got : List UInt8) :
    (p.deliver got).delivered.map Prod.snd = p.delivered.map Prod.snd ++ got := by
  show (p.delivered ++ (List.range' p.head got.length).zip got).map Prod.snd = _
  rw [List.map_append, List.map_snd_zip (Nat.le_of_eq List.length_range'.symm)]

theorem Good.getchar (h : s.Good) {pumpBusy : Bool} {takes : Nat → Bool}
    (hstep : s.act (.getchar pumpBusy takes) = some s') : s'.Good := by
  unfold act at hstep
  obtain ⟨usb, husb, hstep⟩ := Option.bind_eq_some_iff.mp hstep
  cases hstep
  refine ⟨h.usb.take 1 husb, ?_, ?_⟩
  · show Console.boot.run (s.inputs ++ [s.nextInput pumpBusy takes]) = _
    have hrun := h.run
    unfold Console.run at hrun ⊢
    rw [List.foldl_append, hrun]
    rfl
  · cases husb
    show (s.inputs ++ [s.nextInput pumpBusy takes]).filterMap ConsoleInput.char =
      (s.usb.rx.deliver ((s.usb.console.cdcRead 1).2.getD [])).delivered.map Prod.snd
    rw [delivered_snd, List.filterMap_append, h.chars, ← cdcRead_one]
    unfold nextInput
    cases (s.usb.console.cdcRead 1).2.bind List.head? with
    | none => rfl
    | some char => rfl

/-- The other steps of the USB side hand nothing to the reader. -/
theorem Good.aside (h : s.Good) {a : ConsoleAction} {usb : ConsoleTrack}
    (hsound : s.usb.Sound a) (hact : s.usb.act a = some usb) (hread : ∀ size, a ≠ .read size) :
    ({ s with usb } : ConsoleLink).Good := by
  refine ⟨h.usb.step ⟨hsound, hact⟩, h.run, h.chars.trans ?_⟩
  have hsame : usb.rx.delivered = s.usb.rx.delivered := by
    cases a with
    | read size => exact absurd rfl (hread size)
    | received | lineState | disconnect =>
      cases hact
      rfl
    | writeBegin | serviceBegin =>
      unfold ConsoleTrack.act at hact
      dsimp only at hact
      split at hact
      all_goals
        cases hact
        try rfl
    | writeLoop =>
      obtain ⟨w, -, hact⟩ := Option.bind_eq_some_iff.mp hact
      cases hact
      rfl
    | serviceLoop =>
      obtain ⟨budget, -, hact⟩ := Option.bind_eq_some_iff.mp hact
      split at hact
      all_goals
        cases hact
        rfl
  show s.usb.rx.delivered.map Prod.snd = usb.rx.delivered.map Prod.snd
  rw [hsame]

theorem Good.step (h : s.Good) {a : ConsoleLinkAction} (hstep : Step s a s') : s'.Good := by
  obtain ⟨hsound, hact⟩ := hstep
  cases a with
  | getchar pumpBusy takes => exact h.getchar hact
  | usb a =>
    have hread : ∀ size, a ≠ .read size := by
      rintro size rfl
      cases hact
    have hother : (s.usb.act a).bind (fun usb => some { s with usb }) = some s' := by
      cases a with
      | read size => exact absurd rfl (hread size)
      | _ => exact hact
    obtain ⟨usb, husb, hsame⟩ := Option.bind_eq_some_iff.mp hother
    cases hsame
    exact h.aside hsound husb hread

end ConsoleLink

/-! ## Lines -/

end UllReceiver.Host
