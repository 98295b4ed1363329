import Mathlib

/-!
# Pool of transmit descriptors

`llcp_pool.c` over the controller's twenty transmit slots.  The ROM's list operations are a
parameter: a slot is taken from the head of the free list, and where it goes back is left open.
-/

namespace UllReceiver.Parent

abbrev Slot := Fin 20

/-- Offset of a slot's buffer in exchange memory. -/
def slotOffset (i : Slot) : UInt16 :=
  0x1c00 + 27 * UInt16.ofNat i.val

theorem slotOffset_inj {i j : Slot} : slotOffset i = slotOffset j ↔ i = j := by
  revert i j
  decide +kernel

/-- `r_ble_util_buf_llcp_tx_free` of the ROM. -/
structure PoolRom where
  giveBack : Slot → List Slot → List Slot
  perm : ∀ i free, (giveBack i free).Perm (i :: free)

/-- The slots one call of `ull_pool_reserve` took, and those that went back since. -/
structure PoolReservation where
  taken : List Slot
  returned : List Slot
deriving DecidableEq

structure LlcpPool where
  free : List Slot
  /-- Slots the controller took for itself. -/
  controller : List Slot
  /-- A record of the reservations, newest first, which the program never reads. -/
  reservations : List PoolReservation
deriving DecidableEq

namespace LlcpPool

def init : LlcpPool :=
  { free := List.finRange 20, controller := [], reservations := [] }

/-- The ROM's own free. -/
def actualFree (rom : PoolRom) (i : Slot) (p : LlcpPool) : LlcpPool :=
  { p with free := rom.giveBack i p.free }

/-- The newest reservation gives a slot back. -/
def noteReturned (i : Slot) (p : LlcpPool) : LlcpPool :=
  match p.reservations with
  | [] => p
  | r :: rest => { p with reservations := { r with returned := i :: r.returned } :: rest }

/-- The allocation loop of `ull_pool_reserve` for `n` more slots: whether all were sound, what is
owned, and what is left of the free list. -/
def takeAll : Nat → List Slot → List Slot → Bool × List Slot × List Slot
  | 0, owned, free => (true, owned, free)
  | _ + 1, owned, [] => (true, owned, [])
  | n + 1, owned, d :: free =>
      if d ∈ owned then (false, owned, free) else takeAll n (d :: owned) free

/-- The first `count` neighbouring slots that are all owned. -/
def windowStart (owned : List Slot) (count : Nat) : Option Nat :=
  (List.range (21 - count)).find? fun start =>
    (List.range count).all fun j => owned.any fun d => d.val == start + j

/-- The slot belongs to the window. -/
def inWindow (start count : Nat) (i : Slot) : Bool :=
  decide (start ≤ i.val) && decide (i.val < start + count)

/-- The window's buffers are neighbours in memory too. -/
def contiguous (memAddr : UInt16 → UInt32) (start count : Nat) : Bool :=
  (List.range count).all fun j =>
    memAddr (0x1c00 + 27 * UInt16.ofNat (start + j)) ==
      memAddr (0x1c00 + 27 * UInt16.ofNat start) + 27 * UInt32.ofNat j

/-- Where the reserved window starts. -/
def reservedStart (memAddr : UInt16 → UInt32) (valid : Bool) (owned : List Slot) (count : Nat) :
    Option Nat :=
  if valid then (windowStart owned count).filter fun start => contiguous memAddr start count
  else none

/-- What a reservation keeps of the slots it owns. -/
def kept (start : Option Nat) (count : Nat) (owned : List Slot) : List Slot :=
  match start with
  | none => []
  | some start => (List.finRange 20).filter fun i => decide (i ∈ owned) && inWindow start count i

/-- What it gives back at once. -/
def surplus (start : Option Nat) (count : Nat) (owned : List Slot) : List Slot :=
  (List.finRange 20).filter fun i => decide (i ∈ owned) &&
    !(start.any fun start => inWindow start count i)

end LlcpPool

end UllReceiver.Parent
