import UllReceiver.Library.Runs
import UllReceiver.Parent.RawSend

/-!
# Runs of the raw link

The entry points of `raw_llcp.c` in any order over a controller that may change between any two of
them, with a record of the exchange: E0 offered, E1 answered, plans prepared and committed.
-/

namespace UllReceiver.Parent

open Air

/-- An E0 the driver took. -/
structure Offer where
  e0 : Vector UInt8 39
  anchor : AirAnchor
  llc : UInt32
  lld : UInt32
  sentUs : Int

def Offer.of (c : SendCall) (second : Bool) : Offer where
  e0 := e0Bytes second (c.k.eventCounter + if second then 24 else 12)
  anchor := (RawLlcp.captureAnchor c.k).getD noAnchor
  llc := c.k.llcEnv
  lld := c.k.lldEnv
  sentUs := c.sentUs

inductive RawEvent
  | offered (o : Offer)
  | answered (e1 : Vector UInt8 9)
  | prepared (plan : AirSessionPlan)
  /-- A successful commit, with the controller it found. -/
  | committed (plan : AirSessionPlan) (k : Controller)
  /-- E4 was sent or the sequence reset. -/
  | cleared

inductive RawAction
  | reset
  | send (c : SendCall) (opcode : UInt8)
  | requestSecond (c : SendCall) (first : AirSessionPlan)
  | acknowledged (link opcode : UInt8) (nowUs : Int)
  | receiveE1 (k : Controller) (ind : RawModule.Indication)
  | receiveAir (k : Controller) (received : AirControlRx) (sent : ParentPdu)
  | prepare (k : Controller) (seed : AirSessionSeed) (offset : UInt32)
  | prepareSecond (k0 k1 k2 : Controller) (first : AirSessionPlan)
  | commit (c : SendCall) (plan : AirSessionPlan)
  | parentRetired
  | detachedPdu (k : Controller)
  /-- The lower driver frees a slot. -/
  | driverFree (i : Slot) (tail : Bool)
  | controllerAlloc

/-- A slot is taken by the controller itself. -/
def LlcpPool.controllerAlloc (p : LlcpPool) : LlcpPool :=
  match p.free with
  | [] => p
  | i :: free => { p with free, controller := i :: p.controller }

/-- The driver may free what the controller took, and the first slot it was handed. -/
def RawModule.driverOwns (m : RawModule) (i : Slot) : Prop :=
  i ∈ m.pool.controller ∨ (m.raw.handedOff = true ∧ m.held.head? = some i)

namespace RawModule

def driverFree (rom : PoolRom) (tail : Bool) (i : Slot) (m : RawModule) : RawModule :=
  (m.onPool fun p => { p with controller := p.controller.erase i }).wrapFree rom tail i

def onResult {α : Type} (m : RawModule) (result : α × RawLlcp) : α × RawModule :=
  (result.1, { m with raw := result.2 })

/-- One action, and what it adds to the record. -/
def act (rom : PoolRom) : RawAction → RawModule → RawModule × List RawEvent
  | .reset, m => (m.resetSequence, [.cleared])
  | .send c opcode, m =>
      let (status, m) := m.send rom c opcode
      (m, if status = 0 then
          if opcode = 0xe4 then [.cleared] else if opcode = 0xe0 then [.offered (.of c false)] else []
        else [])
  | .requestSecond c first, m =>
      let (status, m) := m.requestSecondStream rom c first
      (m, if status = 0 then [.offered (.of c true)] else [])
  | .acknowledged link opcode nowUs, m => (m.acknowledged link opcode nowUs, [])
  | .receiveE1 k ind, m =>
      let (taken, m) := m.receiveE1 k ind
      (m, if taken then [.answered m.raw.receivedE1] else [])
  | .receiveAir k received sent, m =>
      let (_, raw, _) := m.raw.receiveAirControl k received sent
      ({ m with raw }, if m.raw.e1Expected && !raw.e1Expected then [.answered raw.receivedE1] else [])
  | .prepare k seed offset, m =>
      let (plan, m) := m.onResult (m.raw.prepareSession k seed offset)
      (m, (plan.map .prepared).toList)
  | .prepareSecond k0 k1 k2 first, m =>
      let (plan, m) := m.prepareSecondStream k0 k1 k2 first
      (m, (plan.map .prepared).toList)
  | .commit c plan, m =>
      let (status, m) := m.commitSession rom c plan
      (m, if status = 0 then [.committed plan c.k] else [])
  | .parentRetired, m => (m.onRaw fun s => { s with parentRetired := true }, [])
  | .detachedPdu k, m => ((m.onResult (m.raw.detachedParentAirPdu k)).2, [])
  | .driverFree i tail, m => (m.driverFree rom tail i, [])
  | .controllerAlloc, m => (m.onPool LlcpPool.controllerAlloc, [])

end RawModule

structure RawSystem where
  module : RawModule
  history : List RawEvent

def RawSystem.init : RawSystem :=
  { module := .init, history := [] }

def RawSystem.act (rom : PoolRom) (a : RawAction) (s : RawSystem) : RawSystem :=
  { module := (s.module.act rom a).1, history := (s.module.act rom a).2 ++ s.history }

/-- The driver frees only what it owns; every other call may come at any time. -/
def RawAction.Allowed (m : RawModule) : RawAction → Prop
  | .driverFree i _ => m.driverOwns i
  | _ => True

instance (m : RawModule) (i : Slot) : Decidable (m.driverOwns i) :=
  inferInstanceAs (Decidable (_ ∨ _))

instance (m : RawModule) (a : RawAction) : Decidable (a.Allowed m) :=
  match a with
  | .driverFree i _ => inferInstanceAs (Decidable (m.driverOwns i))
  | .reset | .send .. | .requestSecond .. | .acknowledged .. | .receiveE1 .. | .receiveAir ..
  | .prepare .. | .prepareSecond .. | .commit .. | .parentRetired | .detachedPdu ..
  | .controllerAlloc => inferInstanceAs (Decidable True)

def RawSystem.Step (rom : PoolRom) (s : RawSystem) (a : RawAction) (s' : RawSystem) : Prop :=
  a.Allowed s.module ∧ s' = s.act rom a

/-! ## A link to run on -/

def queueRom : PoolRom :=
  { giveBack := fun i free => free ++ [i], perm := fun i free => List.perm_append_singleton i free }

/-- A link at rest at its connection event `n`; events are 30 ms apart. -/
def linkAt (n : UInt16) : Controller where
  llcEnv := 1
  lldEnv := 2
  llc _ := { queued := false, flags := 0 }
  lld _ :=
    { arbitrationHs := 96 * n.toUInt32, arbitrationHus := 0, descriptor := false
      anchorHs := 96 * n.toUInt32, intervalHs := 96, eventsPending := 0, flags := 0x60
      csIndex := 0 }
  cs _ i := if i = 12 then 0 else 0x1f1f
  eventCounter := n
  timeUs := 30000 * n.toNat

def sendAt (n : UInt16) : SendCall where
  k := linkAt n
  hookReady := true
  txReady := true
  memAddr offset := offset.toUInt32
  nodeAllocated := true
  driverStatus := 0
  sentUs := 30000 * n.toNat

/-- The actions of a trace in turn, as far as `ok` holds of them. -/
def RawSystem.tryRun (ok : RawModule → RawAction → Bool) (trace : List RawAction)
    (s : RawSystem) : Option RawSystem :=
  trace.foldlM (fun s a => if ok s.module a then some (s.act queueRom a) else none) s

theorem RawSystem.tryRun_run {ok : RawModule → RawAction → Bool} {trace : List RawAction}
    {s s' : RawSystem} {step : RawSystem → RawAction → RawSystem → Prop}
    (hok : ∀ s a, ok s.module a = true → step s a (s.act queueRom a))
    (h : s.tryRun ok trace = some s') : Library.Run step s trace s' := by
  apply (Library.Run.of_foldlM h).mono
  intro t a u htu
  split at htu
  next hallowed =>
    rw [← Option.some.inj htu]
    exact hok t a hallowed
  · exact (nomatch htu)

/-! ## What an action can do -/

/-- The variables of one exchange. -/
structure SessionState where
  e1Expected : Bool
  e1Received : Bool
  sessionPrepared : Bool
  e0SentUs : Int
  sentE0 : Vector UInt8 39
  receivedE1 : Vector UInt8 9
  originAnchor : AirAnchor
  preparedPlan : AirSessionPlan
  sessionLlc : UInt32
  sessionLld : UInt32

def RawLlcp.session (s : RawLlcp) : SessionState where
  e1Expected := s.e1Expected
  e1Received := s.e1Received
  sessionPrepared := s.sessionPrepared
  e0SentUs := s.e0SentUs
  sentE0 := s.sentE0
  receivedE1 := s.receivedE1
  originAnchor := s.originAnchor
  preparedPlan := s.preparedPlan
  sessionLlc := s.sessionLlc
  sessionLld := s.sessionLld

/-- Only the slots change. -/
def SlotsOnly (m m' : RawModule) : Prop :=
  m' = { m with
    raw := { m.raw with handedOff := m'.raw.handedOff }
    held := m'.held, releasedSlots := m'.releasedSlots, tailOk := m'.tailOk, pool := m'.pool }

namespace SlotsOnly

theorem refl (m : RawModule) : SlotsOnly m m :=
  rfl

theorem trans {m m1 m2 : RawModule} (h1 : SlotsOnly m m1) (h2 : SlotsOnly m1 m2) :
    SlotsOnly m m2 := by
  unfold SlotsOnly at *
  rw [h2, h1]

theorem foldl {f : RawModule → Slot → RawModule} (hf : ∀ m i, SlotsOnly m (f m i))
    (slots : List Slot) (m : RawModule) : SlotsOnly m (slots.foldl f m) := by
  induction slots generalizing m with
  | nil => exact refl m
  | cons i rest ih => exact (hf m i).trans (ih _)

theorem session {m m' : RawModule} (h : SlotsOnly m m') : m'.raw.session = m.raw.session := by
  rw [h]
  rfl

end SlotsOnly

namespace RawModule

variable {rom : PoolRom} {tail : Bool} {m : RawModule}

theorem returnSlot_slots (m : RawModule) (i : Slot) : SlotsOnly m (m.returnSlot rom i) :=
  rfl

theorem wrapFree_slots (i : Slot) (m : RawModule) : SlotsOnly m (m.wrapFree rom tail i) := by
  unfold wrapFree
  split
  · have hfold := SlotsOnly.foldl (@returnSlot_slots rom) m.held
      { m.onRaw fun s => { s with handedOff := false } with
        releasedSlots := m.held.length, tailOk := tail }
    have hstart : SlotsOnly m { m.onRaw fun s => { s with handedOff := false } with
        releasedSlots := m.held.length, tailOk := tail } := rfl
    exact (hstart.trans hfold).trans rfl
  · rfl

theorem freeReserved_slots (m : RawModule) (i : Slot) : SlotsOnly m (m.freeReserved rom i) :=
  (wrapFree_slots i m).trans rfl

theorem poolReserve_slots (memAddr : UInt16 → UInt32) (count : Nat) (m : RawModule) :
    SlotsOnly m (m.poolReserve rom memAddr count).2 := by
  unfold poolReserve
  split
  · rfl
  · simp only
    have hstart : SlotsOnly m { m with
        held := []
        pool := { m.pool with
          free := (LlcpPool.takeAll 20 [] m.pool.free).2.2
          reservations := { taken := (LlcpPool.takeAll 20 [] m.pool.free).2.1, returned := [] } ::
            m.pool.reservations } } := rfl
    exact (hstart.trans (SlotsOnly.foldl freeReserved_slots _ _)).trans rfl

theorem poolRelease_slots (m : RawModule) : SlotsOnly m (m.poolRelease rom) :=
  (SlotsOnly.foldl freeReserved_slots m.held m).trans rfl

/-- What a send leaves: only slots moved, or the driver took the PDU. -/
theorem rawSend_cases (rom : PoolRom) (c : SendCall) (opcode : UInt8)
    (plan : Option AirSessionPlan) (m : RawModule) :
    ((m.rawSend rom c opcode plan).1 ≠ 0 ∧ SlotsOnly m (m.rawSend rom c opcode plan).2) ∨
    ((m.rawSend rom c opcode plan).1 = 0 ∧ m.sendReady c opcode plan = true ∧
      ∃ m1, SlotsOnly m m1 ∧ (m.rawSend rom c opcode plan).2 = m1.sent c opcode plan) := by
  have hreserve := @poolReserve_slots rom c.memAddr 7 m
  unfold rawSend
  split
  · exact .inl ⟨show (0x12 : UInt8) ≠ 0 by decide, .refl m⟩
  · split
    · exact .inl ⟨show (0x12 : UInt8) ≠ 0 by decide, .refl m⟩
    · split
      · exact .inl ⟨show (0x0c : UInt8) ≠ 0 by decide, .refl m⟩
      next hready =>
        generalize m.poolReserve rom c.memAddr 7 = reserved at hreserve ⊢
        obtain ⟨found, m1⟩ := reserved
        cases found with
        | false => exact .inl ⟨by simp, hreserve⟩
        | true =>
            simp only
            split
            · exact .inl ⟨by simp, hreserve.trans (poolRelease_slots m1)⟩
            · split
              next hstatus =>
                refine .inl ⟨hstatus, ?_⟩
                have hback : SlotsOnly m1 ({ m1.onRaw fun s => { s with handedOff := true } with
                    releasedSlots := 0, tailOk := false }.onRaw fun s =>
                      { s with handedOff := false }) := rfl
                exact (hreserve.trans hback).trans (poolRelease_slots _)
              next hstatus =>
                refine .inr ⟨rfl, by simpa using hready, _, hreserve.trans ?_, rfl⟩
                rfl

end RawModule

/-- Whether E2 is on its way over Air or confirmed. -/
def RawLlcp.e2Under (s : RawLlcp) : Bool :=
  s.airParent.pending || s.e2Confirmed

/-- The effect of an action on the exchange, with what it adds to the record. -/
inductive Effect (m m' : RawModule) : List RawEvent → Prop
  /-- No exchange moves; E2 stays under way or confirmed. -/
  | aside (hsession : m'.raw.session = m.raw.session)
      (hunder : m.raw.e2Under = true → m'.raw.e2Under = true)
      (hpending : m'.raw.airParent.pending = true → m.raw.airParent.pending = true ∧
        m'.raw.airParent.active = m.raw.airParent.active)
      (hfirst : m'.committedFirst = m.committedFirst) : Effect m m' []
  | cleared (hexpected : m'.raw.e1Expected = false) (hreceived : m'.raw.e1Received = false)
      (hprepared : m'.raw.sessionPrepared = false)
      (hpending : m'.raw.airParent.pending = true → m'.raw.airParent = m.raw.airParent)
      (hfirst : m'.committedFirst = noPlan) : Effect m m' [.cleared]
  | offered (o : Offer) (hreceived : m'.raw.e1Received = false)
      (hprepared : m'.raw.sessionPrepared = false)
      (ho : m'.raw.sentE0 = o.e0 ∧ m'.raw.originAnchor = o.anchor ∧ m'.raw.sessionLlc = o.llc ∧
        m'.raw.sessionLld = o.lld ∧ m'.raw.e0SentUs = o.sentUs)
      (hair : m'.raw.airParent = m.raw.airParent) (hfirst : m'.committedFirst = m.committedFirst) :
      Effect m m' [.offered o]
  | answered (hexpected : m.raw.e1Expected = true)
      (hsession : m'.raw.session = { m.raw.session with
        e1Expected := false, e1Received := true, sessionPrepared := false
        receivedE1 := m'.raw.receivedE1 })
      (hpending : m'.raw.airParent.pending = true → m'.raw.airParent = m.raw.airParent)
      (hfirst : m'.committedFirst = m.committedFirst) : Effect m m' [.answered m'.raw.receivedE1]
  | prepared (k : Controller) (seed : AirSessionSeed) (offset : UInt32) (plan : AirSessionPlan)
      (hplan : m.raw.planForCurrentAnchor k seed offset = some plan)
      (hraw : m'.raw = { m.raw with preparedPlan := plan, sessionPrepared := true })
      (hfirst : m'.committedFirst = m.committedFirst) : Effect m m' [.prepared plan]
  /-- E2 went to the controller's queue. -/
  | queued (k : Controller) (plan : AirSessionPlan) (hidle : m.raw.airParent.active = false)
      (hcurrent : m.raw.preparedPlanCurrent k plan = true)
      (hexpected : m'.raw.e1Expected = m.raw.e1Expected) (hreceived : m'.raw.e1Received = false)
      (hprepared : m'.raw.sessionPrepared = false) (hair : m'.raw.airParent = m.raw.airParent)
      (hfirst : m'.committedFirst = plan ∨ m'.committedFirst = noPlan) :
      Effect m m' [.committed plan k]
  /-- E2 became the pending message of the Air transaction. -/
  | aired (k : Controller) (plan : AirSessionPlan) (hactive : m.raw.airParent.active = true)
      (hfree : m.raw.airParent.pending = false)
      (hcurrent : m.raw.preparedPlanCurrent k plan = true)
      (hsession : m'.raw.session = { m.raw.session with sessionPrepared := false })
      (hpending : m'.raw.airParent.pending = true ∧ m'.raw.airParent.active = true)
      (hfirst : m'.committedFirst = m.committedFirst) : Effect m m' [.committed plan k]

namespace Effect

variable {rom : PoolRom} {m m' : RawModule}

theorem slots (h : SlotsOnly m m') : Effect m m' [] := by
  refine .aside h.session (fun hu => ?_) (fun hp => ?_) ?_
  · rw [h]
    exact hu
  · rw [h] at hp ⊢
    exact ⟨hp, rfl⟩
  · rw [h]

/-- An action that leaves the raw link's exchange, E2 and the committed plan alone. -/
theorem same (hsession : m'.raw.session = m.raw.session) (hair : m'.raw.airParent = m.raw.airParent)
    (he2 : m.raw.e2Confirmed = true → m'.raw.e2Confirmed = true)
    (hfirst : m'.committedFirst = m.committedFirst) : Effect m m' [] := by
  refine .aside hsession (fun hu => ?_) (fun hp => ?_) hfirst
  · simp only [RawLlcp.e2Under, Bool.or_eq_true, hair] at hu ⊢
    exact hu.imp id he2
  · rw [hair] at hp ⊢
    exact ⟨hp, rfl⟩

theorem acknowledged (link opcode : UInt8) (nowUs : Int) (m : RawModule) :
    Effect m (m.acknowledged link opcode nowUs) [] := by
  unfold RawModule.acknowledged
  split
  · split
    · exact .same rfl rfl id rfl
    · split
      · exact .same rfl rfl (fun _ => rfl) rfl
      · exact .slots (.refl m)
  · exact .slots (.refl m)

theorem reset (m : RawModule) : Effect m m.resetSequence [.cleared] :=
  .cleared rfl rfl rfl (fun hf => (nomatch hf)) rfl

/-- The driver took an E0. -/
theorem sentE0 (c : SendCall) (second : Bool) {m1 : RawModule} (h : SlotsOnly m m1) :
    Effect m (m1.sentE0 c second) [.offered (.of c second)] := by
  refine .offered _ rfl rfl ⟨rfl, rfl, rfl, rfl, rfl⟩ ?_ ?_
  · rw [h]
    rfl
  · rw [h]
    rfl

theorem sentE4 {m1 : RawModule} (h : SlotsOnly m m1) : Effect m m1.sentE4 [.cleared] := by
  refine .cleared rfl rfl rfl (fun _ => ?_) rfl
  rw [h]
  rfl

/-- The driver took the E2 of the prepared plan. -/
theorem sentE2 (c : SendCall) {plan : AirSessionPlan} {m1 : RawModule} (h : SlotsOnly m m1)
    (hidle : m.raw.airParent.active = false) (hcurrent : m.raw.preparedPlanCurrent c.k plan = true) :
    Effect m (m1.sentE2 c plan) [.committed plan c.k] := by
  unfold RawModule.sentE2
  rw [h]
  split
  · exact .queued c.k plan hidle hcurrent rfl rfl rfl rfl (.inl rfl)
  · exact .queued c.k plan hidle hcurrent rfl rfl rfl rfl (.inr rfl)

/-- What a PDU sent adds to the record. -/
def sentEvents (c : SendCall) (opcode : UInt8) (plan : Option AirSessionPlan) : List RawEvent :=
  if opcode = 0xe4 then [.cleared]
  else if opcode = 0xe0 then [.offered (.of c plan.isSome)]
  else if opcode = 0xe2 then [.committed (plan.getD noPlan) c.k]
  else []

theorem sent (c : SendCall) {opcode : UInt8} {plan : Option AirSessionPlan} {m1 : RawModule}
    (h : SlotsOnly m m1) (hready : m.sendReady c opcode plan = true)
    (hidle : opcode = 0xe2 → m.raw.airParent.active = false) :
    Effect m (m1.sent c opcode plan) (sentEvents c opcode plan) := by
  unfold RawModule.sent sentEvents
  split
  · exact sentE4 h
  · split
    · exact sentE0 c plan.isSome h
    next hoffer =>
      split
      next he2 =>
        have hcurrent : (plan.any fun plan => m.raw.preparedPlanCurrent c.k plan) = true := by
          unfold RawModule.sendReady at hready
          have hopcode := ((Bool.and_eq_true _ _).mp hready).2
          unfold RawModule.opcodeReady at hopcode
          rw [if_neg hoffer, if_pos he2] at hopcode
          exact hopcode
        cases plan with
        | none => exact (nomatch hcurrent)
        | some plan => exact sentE2 c h (hidle he2) hcurrent
      · exact .slots h

theorem rawSend (c : SendCall) (opcode : UInt8) (plan : Option AirSessionPlan) (m : RawModule)
    (hidle : opcode = 0xe2 → m.raw.airParent.active = false) :
    Effect m (m.rawSend rom c opcode plan).2
      (if (m.rawSend rom c opcode plan).1 = 0 then sentEvents c opcode plan else []) := by
  rcases RawModule.rawSend_cases rom c opcode plan m with ⟨hstatus, h⟩ | ⟨hstatus, hready, m1, h, hm⟩
  · rw [if_neg hstatus]
    exact .slots h
  · rw [if_pos hstatus, hm]
    exact sent c h hready hidle

theorem send (c : SendCall) (opcode : UInt8) (m : RawModule) :
    Effect m (m.act rom (.send c opcode)).1 (m.act rom (.send c opcode)).2 := by
  change Effect m (m.send rom c opcode).2 (if (m.send rom c opcode).1 = 0 then _ else [])
  unfold RawModule.send
  split
  · exact .slots (.refl m)
  next hnot =>
    have h := @rawSend rom c opcode none m fun he2 => absurd he2 hnot
    unfold sentEvents at h
    simp only [if_neg hnot] at h
    exact h

theorem requestSecond (c : SendCall) (first : AirSessionPlan) (m : RawModule) :
    Effect m (m.act rom (.requestSecond c first)).1 (m.act rom (.requestSecond c first)).2 :=
  rawSend c 0xe0 (some first) m fun hf => absurd hf (by decide)

theorem commitAir (k : Controller) (plan : AirSessionPlan) (m : RawModule)
    (hactive : m.raw.airParent.active = true) :
    Effect m { m with raw := (m.raw.commitAir k plan).2 }
      (if (m.raw.commitAir k plan).1 then [.committed plan k] else []) := by
  unfold RawLlcp.commitAir
  simp only
  split
  next hready =>
    obtain ⟨_, _, hfree, _, _, _, _, hcurrent⟩ := hready
    exact .aired k plan hactive (by simpa using hfree) hcurrent rfl ⟨rfl, hactive⟩ rfl
  · exact .slots (.refl m)

theorem commit (c : SendCall) (plan : AirSessionPlan) (m : RawModule) :
    Effect m (m.act rom (.commit c plan)).1 (m.act rom (.commit c plan)).2 := by
  change Effect m (m.commitSession rom c plan).2
    (if (m.commitSession rom c plan).1 = 0 then [.committed plan c.k] else [])
  unfold RawModule.commitSession
  split
  next hactive =>
    have h := commitAir c.k plan m hactive
    generalize m.raw.commitAir c.k plan = result at h ⊢
    obtain ⟨valid, raw⟩ := result
    cases valid with
    | true => exact h
    | false => exact h
  next hidle =>
    exact rawSend c 0xe2 (some plan) m fun _ => by simpa using hidle

theorem receiveE1 (k : Controller) (ind : RawModule.Indication) (m : RawModule) :
    Effect m (m.act rom (.receiveE1 k ind)).1 (m.act rom (.receiveE1 k ind)).2 := by
  change Effect m (m.receiveE1 k ind).2
    (if (m.receiveE1 k ind).1 then [.answered (m.receiveE1 k ind).2.raw.receivedE1] else [])
  unfold RawModule.receiveE1
  split
  · exact .slots (.refl m)
  · split
    next hready => exact .answered hready.1 rfl (fun _ => rfl) rfl
    · exact .slots (.refl m)

/-- An E1 over Air, or nothing. -/
theorem airE1 (k : Controller) (received : AirControlRx) (sent : ParentPdu) (m : RawModule) :
    Effect m { m with raw := (m.raw.receiveE1 k received sent).2 }
      (if m.raw.e1Expected && !(m.raw.receiveE1 k received sent).2.e1Expected then
        [.answered (m.raw.receiveE1 k received sent).2.receivedE1] else []) := by
  unfold RawLlcp.receiveE1
  simp only
  split
  · rw [Bool.and_not_self]
    exact .slots (.refl m)
  · split
    next hready =>
      rw [hready.1]
      exact .answered hready.1 rfl (fun hf => (by cases hf)) rfl
    · rw [Bool.and_not_self]
      exact .slots (.refl m)

/-- A reply within the Air transaction: E2 is confirmed at the latest when it is taken off. -/
theorem receiveReply (k : Controller) (received : AirControlRx) (sent : ParentPdu)
    (m : RawModule) : Effect m { m with raw := m.raw.receiveReply k received sent } [] := by
  unfold RawLlcp.receiveReply
  simp only
  generalize (RawLlcp.exactPdu m.raw.airParent sent &&
    nesnBit received.header != m.raw.airParent.txSn) = acked
  obtain ⟨hactive, hpending, _⟩ := answered_fields m.raw.airParent acked received.header
  generalize RawLlcp.answered m.raw.airParent acked received.header = a at hpending hactive ⊢
  generalize (k.parentSequence a.llc a.lld == some (_ ||| _)) = equal
  refine .aside rfl (fun hu => ?_) (fun hp => ?_) rfl
  · simp only [RawLlcp.e2Under] at hu ⊢
    cases acked <;> cases hwas : m.raw.airParent.pending <;> cases equal <;> simp_all
  · simp only at hp ⊢
    cases acked <;> cases hwas : m.raw.airParent.pending <;> cases equal <;> simp_all

theorem receiveAir (k : Controller) (received : AirControlRx) (sent : ParentPdu) (m : RawModule) :
    Effect m (m.act rom (.receiveAir k received sent)).1
      (m.act rom (.receiveAir k received sent)).2 := by
  have hnone : Effect m { m with raw := m.raw }
      (if m.raw.e1Expected && !m.raw.e1Expected then [.answered m.raw.receivedE1] else []) := by
    rw [Bool.and_not_self]
    exact .slots (.refl m)
  change Effect m { m with raw := (m.raw.receiveAirControl k received sent).2.1 }
    (if m.raw.e1Expected && !(m.raw.receiveAirControl k received sent).2.1.e1Expected then
      [.answered (m.raw.receiveAirControl k received sent).2.1.receivedE1] else [])
  unfold RawLlcp.receiveAirControl
  split
  · exact hnone
  · split
    · change Effect m _ (if m.raw.e1Expected && !m.raw.e1Expected then _ else [])
      rw [Bool.and_not_self]
      exact .same rfl rfl id rfl
    · simp only
      split
      · exact hnone
      · split
        · split
          · exact airE1 k received sent m
          · exact hnone
        · split
          · change Effect m _ (if m.raw.e1Expected && !m.raw.e1Expected then _ else [])
            rw [Bool.and_not_self]
            exact receiveReply k received sent m
          · exact hnone

theorem prepare (k : Controller) (seed : AirSessionSeed) (offset : UInt32) (m : RawModule) :
    Effect m (m.act rom (.prepare k seed offset)).1 (m.act rom (.prepare k seed offset)).2 := by
  change Effect m { m with raw := (m.raw.prepareSession k seed offset).2 }
    ((m.raw.prepareSession k seed offset).1.map .prepared).toList
  unfold RawLlcp.prepareSession
  cases hplan : m.raw.planForCurrentAnchor k seed offset with
  | none => exact .slots (.refl m)
  | some plan => exact .prepared k seed offset plan hplan rfl rfl

theorem prepareSecond (k0 k1 k2 : Controller) (first : AirSessionPlan) (m : RawModule) :
    Effect m (m.act rom (.prepareSecond k0 k1 k2 first)).1
      (m.act rom (.prepareSecond k0 k1 k2 first)).2 := by
  change Effect m (m.prepareSecondStream k0 k1 k2 first).2
    ((m.prepareSecondStream k0 k1 k2 first).1.map .prepared).toList
  unfold RawModule.prepareSecondStream
  split
  · exact .slots (.refl m)
  · split
    · exact .slots (.refl m)
    · split
      · exact .slots (.refl m)
      · simp only
        split
        · split
          · exact .slots (.refl m)
          next second hplan => exact .prepared k2 _ _ second hplan rfl rfl
        · exact .slots (.refl m)

theorem detachedPdu (k : Controller) (m : RawModule) :
    Effect m (m.act rom (.detachedPdu k)).1 (m.act rom (.detachedPdu k)).2 := by
  change Effect m { m with raw := (m.raw.detachedParentAirPdu k).2 } []
  unfold RawLlcp.detachedParentAirPdu
  simp only
  split
  · split
    · exact .same rfl rfl id rfl
    · split <;> exact .same rfl rfl id rfl
  · exact .same rfl rfl id rfl

/-- What an action can do. -/
theorem act (a : RawAction) (m : RawModule) : Effect m (m.act rom a).1 (m.act rom a).2 := by
  cases a with
  | reset => exact reset m
  | send c opcode => exact send c opcode m
  | requestSecond c first => exact requestSecond c first m
  | acknowledged link opcode nowUs => exact acknowledged link opcode nowUs m
  | receiveE1 k ind => exact receiveE1 k ind m
  | receiveAir k received sent => exact receiveAir k received sent m
  | prepare k seed offset => exact prepare k seed offset m
  | prepareSecond k0 k1 k2 first => exact prepareSecond k0 k1 k2 first m
  | commit c plan => exact commit c plan m
  | parentRetired => exact .same rfl rfl id rfl
  | detachedPdu k => exact detachedPdu k m
  | driverFree i tail =>
      have hdriver : SlotsOnly m (m.onPool fun p =>
          { p with controller := p.controller.erase i }) := rfl
      exact .slots (hdriver.trans (RawModule.wrapFree_slots i _))
  | controllerAlloc => exact .slots rfl

end Effect

end UllReceiver.Parent
