import Mathlib
import UllReceiver.Air.TonePacket
import UllReceiver.Library.Buffer

/-!
# The session cipher

The cached CCM context of `tone_packet.c`.  A context is misused when it is set up or wiped while
it is live, freed while it is not, or used without a key; such a call has no result here.
-/

namespace UllReceiver.Air

open Library

/-! ## Contexts -/

/-- `mbedtls_ccm_context`: all zero, set up, or set up with a key. -/
inductive CcmContext
  | clear
  | opened
  | keyed (key : Vector UInt8 16)
deriving DecidableEq

/-- `mbedtls_ccm_init`. -/
def CcmContext.init : CcmContext → Option CcmContext
  | .clear => some .opened
  | _ => none

/-- `mbedtls_ccm_setkey`, which returns `result`. -/
def CcmContext.setkey (c : CcmContext) (key : Vector UInt8 16) (result : Int) :
    Option CcmContext :=
  match c with
  | .clear => none
  | _ => some (if result = 0 then .keyed key else .opened)

/-- `mbedtls_ccm_free`. -/
def CcmContext.free : CcmContext → Option CcmContext
  | .clear => none
  | _ => some .clear

/-- `mbedtls_platform_zeroize` of the context. -/
def CcmContext.zeroize : CcmContext → Option CcmContext
  | .clear => some .clear
  | _ => none

def CcmContext.key? : CcmContext → Option (Vector UInt8 16)
  | .keyed key => some key
  | _ => none

/-! ## The cache -/

structure CcmState where
  context : CcmContext
  sessionKey : Vector UInt8 16
  ready : Bool
deriving DecidableEq

/-- Static storage at start. -/
def CcmState.boot : CcmState :=
  { context := .clear, sessionKey := Vector.replicate 16 0, ready := false }

/-- `ull_ble_ccm_reset`. -/
def CcmState.reset (s : CcmState) : Option CcmState := do
  let context ← if s.ready then s.context.free else some s.context
  let context ← context.zeroize
  return { context, sessionKey := Vector.replicate 16 0, ready := false }

/-- `ccm_session_key`, when `mbedtls_ccm_setkey` returns `setkey` if it is called. -/
def CcmState.useKey (s : CcmState) (setkey : Int) (key : Vector UInt8 16) :
    Option (Int × CcmState) := do
  if s.ready ∧ s.sessionKey = key then return (0, s)
  let s ← s.reset
  let context ← s.context.init
  let context ← context.setkey key.reverse setkey
  if setkey ≠ 0 then
    let context ← context.free
    return (setkey, { s with context })
  return (0, { context, sessionKey := key, ready := true })

/-! ## The two operations -/

/-- What differs between the two: the lengths taken, those put out, and the scratch buffer. -/
structure CcmMode where
  least : Nat
  most : Nat
  outLength : Nat → Nat
  scratch : Nat
  crypt : Ccm → Vector UInt8 16 → List UInt8 → UInt8 → List UInt8 → Option (List UInt8)

def CcmMode.encrypt : CcmMode :=
  { least := 1, most := 240, outLength := fun n => n + 4, scratch := 244
    crypt := fun ccm key nonce aad input => (ccm.encrypt key nonce aad input).map Subtype.val }

def CcmMode.decrypt : CcmMode :=
  { least := 5, most := 244, outLength := fun n => n - 4, scratch := 240
    crypt := fun ccm key nonce aad input => (ccm.decrypt key nonce aad input).map Subtype.val }

/-- The arguments; a missing one is a null pointer.  The capacity is the length of `out`. -/
structure CcmArgs where
  key : Option (Vector UInt8 16)
  iv : Option (Vector UInt8 8)
  counter : UInt64
  direction : UInt8
  aad : UInt8
  payload : Option (List UInt8)
  out : Option (List UInt8)

/-- `nonce`, written in two parts. -/
def nonceAt (iv : Vector UInt8 8) (counter : UInt64) (direction : UInt8) : Option (List UInt8) := do
  let nonce ← storeSpan (List.replicate 13 0) 0
    [counter.toUInt8, (counter >>> 8).toUInt8, (counter >>> 16).toUInt8, (counter >>> 24).toUInt8,
      (counter >>> 32).toUInt8 ||| direction <<< 7]
  storeSpan nonce 5 iv.toList

/-- The output of the operation under `key`, through its scratch buffer; no bytes if it fails. -/
def CcmMode.through (mode : CcmMode) (ccm : Ccm) (key : Vector UInt8 16) (nonce : List UInt8)
    (aad : UInt8) (payload out : List UInt8) : Option (Int × List UInt8) :=
  match mode.crypt ccm key nonce aad payload with
  | none => some (-2, out)
  | some bytes => do
    let scratch ← storeSpan (List.replicate mode.scratch 0) 0 bytes
    let bytes ← loadSpan scratch 0 (mode.outLength payload.length)
    let out ← storeSpan out 0 bytes
    return (0, out)

def CcmMode.run (mode : CcmMode) (ccm : Ccm) (setkey : Int) (a : CcmArgs) (s : CcmState) :
    Option ((Int × Option (List UInt8)) × CcmState) :=
  match a.key, a.iv, a.payload, a.out with
  | some key, some iv, some payload, some out =>
    if payload.length < mode.least ∨ payload.length > mode.most ∨
        out.length < mode.outLength payload.length ∨ a.counter ≥ (1 : UInt64) <<< 39 ∨
        a.direction > 1 then some ((-1, some out), s)
    else do
      let nonce ← nonceAt iv a.counter a.direction
      let (result, s) ← s.useKey setkey key
      if result ≠ 0 then return ((-2, some out), s)
      let key ← s.context.key?
      let (status, out) ← mode.through ccm key nonce a.aad payload out
      return ((status, some out), s)
  | _, _, _, _ => some ((-1, a.out), s)

/-- `ull_ble_ccm_encrypt`. -/
def bleCcmEncrypt (ccm : Ccm) (setkey : Int) (a : CcmArgs) (s : CcmState) :
    Option ((Int × Option (List UInt8)) × CcmState) :=
  CcmMode.encrypt.run ccm setkey a s

/-- `ull_ble_ccm_decrypt`. -/
def bleCcmDecrypt (ccm : Ccm) (setkey : Int) (a : CcmArgs) (s : CcmState) :
    Option ((Int × Option (List UInt8)) × CcmState) :=
  CcmMode.decrypt.run ccm setkey a s

inductive CcmCall
  | encrypt (a : CcmArgs)
  | decrypt (a : CcmArgs)
  | reset

/-- A call and what it gives back: nothing for a reset. -/
def CcmState.call (ccm : Ccm) (s : CcmState) (setkey : Int) :
    CcmCall → Option ((Int × Option (List UInt8)) × CcmState)
  | .encrypt a => bleCcmEncrypt ccm setkey a s
  | .decrypt a => bleCcmDecrypt ccm setkey a s
  | .reset => s.reset.map fun s => ((0, none), s)

/-- Calls one after the other, each with what `mbedtls_ccm_setkey` returns if it is called. -/
def CcmState.calls (ccm : Ccm) (s : CcmState) :
    List (CcmCall × Int) → Option (List (Int × Option (List UInt8)) × CcmState)
  | [] => some ([], s)
  | (c, setkey) :: rest => do
    let (result, s) ← s.call ccm setkey c
    let (results, s) ← s.calls ccm rest
    return (result :: results, s)

/-! ## Without the cache -/

/-- The operation with a context of its own, and the status of its setup. -/
def withFreshKey (status : Int) (cipher : Except PacketError (List UInt8)) (out : List UInt8) :
    Int × Option (List UInt8) :=
  match cipher with
  | .error .argument => (-1, some out)
  | .error .cipher => (-2, some out)
  | .ok bytes => if status ≠ 0 then (-2, some out) else (0, some (bytes ++ out.drop bytes.length))

def CcmCall.fresh (ccm : Ccm) (setkey : Int) : CcmCall → Int × Option (List UInt8)
  | .encrypt a =>
    match a.key, a.iv, a.payload, a.out with
    | some key, some iv, some payload, some out => withFreshKey setkey
        (ccmEncrypt ccm key iv a.counter a.direction a.aad payload out.length) out
    | _, _, _, _ => (-1, a.out)
  | .decrypt a =>
    match a.key, a.iv, a.payload, a.out with
    | some key, some iv, some payload, some out => withFreshKey setkey
        (ccmDecrypt ccm key iv a.counter a.direction a.aad payload out.length) out
    | _, _, _, _ => (-1, a.out)
  | .reset => (0, none)

def CcmCall.args? : CcmCall → Option CcmArgs
  | .encrypt a => some a
  | .decrypt a => some a
  | .reset => none

/-- The status of the setup of the key a call uses: that of the setup kept, or of its own. -/
def CcmState.status (s : CcmState) (setkey : Int) (c : CcmCall) : Int :=
  if s.ready ∧ (c.args?.bind CcmArgs.key) = some s.sessionKey then 0 else setkey

/-- The calls with the status of the setup that each relies on. -/
def CcmState.settled (ccm : Ccm) (s : CcmState) : List (CcmCall × Int) → List (CcmCall × Int)
  | [] => []
  | (c, setkey) :: rest => (c, s.status setkey c) ::
      match s.call ccm setkey c with
      | none => []
      | some (_, s) => s.settled ccm rest

/-! ## The cache does not show -/

/-- The context is live just while the cache is ready, and then has the saved key. -/
structure CcmState.Good (s : CcmState) : Prop where
  live : s.ready = true → s.context = .keyed s.sessionKey.reverse
  idle : s.ready = false → s.context = .clear

/-- A key that is ready has been ready before, or was set up with success now. -/
def CcmState.Keeps (s : CcmState) (setkey : Int) (key : Option (Vector UInt8 16)) (t : CcmState) :
    Prop :=
  t.ready = true → (s.ready = true ∧ t.sessionKey = s.sessionKey) ∨
    (setkey = 0 ∧ key = some t.sessionKey)

theorem CcmState.keeps_self (s : CcmState) (setkey : Int) (key : Option (Vector UInt8 16)) :
    s.Keeps setkey key s :=
  fun h => .inl ⟨h, rfl⟩

theorem CcmState.boot_good : CcmState.boot.Good :=
  ⟨fun h => (nomatch h), fun _ => rfl⟩

theorem CcmState.Good.reset {s : CcmState} (h : s.Good) :
    s.reset = some { context := .clear, sessionKey := Vector.replicate 16 0, ready := false } := by
  unfold CcmState.reset
  cases hready : s.ready with
  | true =>
    rw [h.live hready]
    rfl
  | false =>
    rw [h.idle hready]
    rfl

/-- A hit keeps the context; a miss frees it, and sets up one that is kept if it works. -/
theorem CcmState.Good.useKey {s : CcmState} (h : s.Good) (setkey : Int) (key : Vector UInt8 16) :
    ∃ t, s.useKey setkey key = some (if s.ready ∧ s.sessionKey = key then 0 else setkey, t) ∧
      t.Good ∧ s.Keeps setkey (some key) t ∧
      ((if s.ready ∧ s.sessionKey = key then 0 else setkey) = 0 →
        t.context = .keyed key.reverse) := by
  unfold CcmState.useKey
  by_cases hhit : s.ready ∧ s.sessionKey = key
  · rw [if_pos hhit, if_pos hhit]
    refine ⟨s, rfl, h, s.keeps_self _ _, fun _ => ?_⟩
    rw [h.live hhit.1, hhit.2]
  · rw [if_neg hhit, if_neg hhit, h.reset]
    simp only [Option.bind_eq_bind, Option.bind_some, CcmContext.init, CcmContext.setkey]
    by_cases hset : setkey = 0
    · rw [if_pos hset, if_neg (not_not_intro hset), hset]
      exact ⟨_, rfl, ⟨fun _ => rfl, fun h => (nomatch h)⟩, fun _ => .inr ⟨rfl, rfl⟩, fun _ => rfl⟩
    · rw [if_neg hset, if_pos hset]
      exact ⟨_, rfl, ⟨fun h => (nomatch h), fun _ => rfl⟩, fun h => (nomatch h),
        fun h => absurd h hset⟩

theorem nonceAt_eq (iv : Vector UInt8 8) (counter : UInt64) (direction : UInt8) :
    nonceAt iv counter direction = some (ccmNonce iv counter direction) := by
  have hiv : iv.toList.length = 8 := Vector.length_toList
  unfold nonceAt ccmNonce
  generalize hfront : [counter.toUInt8, (counter >>> 8).toUInt8, (counter >>> 16).toUInt8,
    (counter >>> 24).toUInt8, (counter >>> 32).toUInt8 ||| direction <<< 7] = front
  have hlength : front.length = 5 := by
    rw [← hfront]
    rfl
  have hfirst := @storeSpan_front _ (List.replicate 13 (0 : UInt8)) front
    (by rw [hlength, List.length_replicate]; omega)
  have hsecond := @storeSpan_append _ front ((List.replicate 13 (0 : UInt8)).drop front.length)
    iv.toList (by rw [hiv, hlength, List.length_drop, List.length_replicate])
  rw [hlength] at hsecond
  rw [hfirst, hlength]
  simp only [Option.bind_eq_bind, Option.bind_some]
  rw [hsecond, hiv, List.drop_drop, List.drop_of_length_le (by rw [List.length_replicate]),
    List.append_nil]

/-- The mode's output fits its scratch buffer. -/
structure CcmMode.Sound (mode : CcmMode) : Prop where
  size : ∀ {ccm : Ccm} {key nonce aad input bytes}, mode.crypt ccm key nonce aad input = some bytes →
    bytes.length = mode.outLength input.length
  fits : ∀ n, n ≤ mode.most → mode.outLength n ≤ mode.scratch

theorem CcmMode.encrypt_sound : CcmMode.encrypt.Sound := by
  refine ⟨fun h => ?_, fun n h => ?_⟩
  · obtain ⟨c, _, rfl⟩ := Option.map_eq_some_iff.mp h
    exact c.property
  · show n + 4 ≤ 244
    exact Nat.add_le_add_right h 4

theorem CcmMode.decrypt_sound : CcmMode.decrypt.Sound := by
  refine ⟨fun h => ?_, fun n h => ?_⟩
  · obtain ⟨c, _, rfl⟩ := Option.map_eq_some_iff.mp h
    exact c.property
  · show n - 4 ≤ 240
    exact Nat.sub_le_sub_right h 4

theorem CcmMode.Sound.through {mode : CcmMode} (h : mode.Sound) (ccm : Ccm)
    (key : Vector UInt8 16) (nonce : List UInt8) (aad : UInt8) {payload out : List UInt8}
    (hmost : payload.length ≤ mode.most) (hout : mode.outLength payload.length ≤ out.length) :
    mode.through ccm key nonce aad payload out =
      match mode.crypt ccm key nonce aad payload with
      | none => some (-2, out)
      | some bytes => some (0, bytes ++ out.drop bytes.length) := by
  unfold CcmMode.through
  cases hcrypt : mode.crypt ccm key nonce aad payload with
  | none => rfl
  | some bytes =>
    have hsize := h.size hcrypt
    have hfits := h.fits _ hmost
    have hscratch := @storeSpan_front _ (List.replicate mode.scratch (0 : UInt8)) bytes
      (by rw [List.length_replicate]; omega)
    have hload : loadSpan (bytes ++ (List.replicate mode.scratch (0 : UInt8)).drop bytes.length) 0
        (mode.outLength payload.length) = some bytes := by
      rw [loadSpan_of_le (by rw [List.length_append]; omega), List.drop_zero, ← hsize,
        List.take_left]
    have hstore := @storeSpan_front _ out bytes (by omega)
    simp only [hscratch, Option.bind_eq_bind, Option.bind_some, hload, hstore]
    rfl

/-- The operation without a cache, in the form of `ccmEncrypt` and `ccmDecrypt`. -/
def CcmMode.cipher (mode : CcmMode) (ccm : Ccm) (key : Vector UInt8 16) (iv : Vector UInt8 8)
    (counter : UInt64) (direction aad : UInt8) (payload : List UInt8) (capacity : Nat) :
    Except PacketError (List UInt8) :=
  if payload.length < mode.least ∨ payload.length > mode.most ∨
      capacity < mode.outLength payload.length ∨ counter ≥ (1 : UInt64) <<< 39 ∨
      direction > 1 then .error .argument
  else
    match mode.crypt ccm key.reverse (ccmNonce iv counter direction) aad payload with
    | none => .error .cipher
    | some bytes => .ok bytes

def CcmMode.fresh (mode : CcmMode) (ccm : Ccm) (setkey : Int) (a : CcmArgs) :
    Int × Option (List UInt8) :=
  match a.key, a.iv, a.payload, a.out with
  | some key, some iv, some payload, some out => withFreshKey setkey
      (mode.cipher ccm key iv a.counter a.direction a.aad payload out.length) out
  | _, _, _, _ => (-1, a.out)

theorem CcmMode.cipher_encrypt (ccm : Ccm) (key : Vector UInt8 16) (iv : Vector UInt8 8)
    (counter : UInt64) (direction aad : UInt8) (payload : List UInt8) (capacity : Nat) :
    CcmMode.encrypt.cipher ccm key iv counter direction aad payload capacity =
      ccmEncrypt ccm key iv counter direction aad payload capacity := by
  unfold CcmMode.cipher ccmEncrypt
  have hleast : payload.length < CcmMode.encrypt.least ↔ payload.length = 0 := Nat.lt_one_iff
  simp only [hleast]
  congr 1
  show (match (ccm.encrypt _ _ _ _).map Subtype.val with | none => _ | some bytes => _) = _
  cases ccm.encrypt key.reverse (ccmNonce iv counter direction) aad payload <;> rfl

theorem CcmMode.cipher_decrypt (ccm : Ccm) (key : Vector UInt8 16) (iv : Vector UInt8 8)
    (counter : UInt64) (direction aad : UInt8) (payload : List UInt8) (capacity : Nat) :
    CcmMode.decrypt.cipher ccm key iv counter direction aad payload capacity =
      ccmDecrypt ccm key iv counter direction aad payload capacity := by
  unfold CcmMode.cipher ccmDecrypt
  congr 1
  show (match (ccm.decrypt _ _ _ _).map Subtype.val with | none => _ | some bytes => _) = _
  cases ccm.decrypt key.reverse (ccmNonce iv counter direction) aad payload <;> rfl

/-- One operation with all its pointers: what it gives back is that of a context of its own. -/
theorem CcmState.Good.run {s : CcmState} (hs : s.Good) {mode : CcmMode} (hmode : mode.Sound)
    (ccm : Ccm) (setkey : Int) (a : CcmArgs) {key : Vector UInt8 16} {iv : Vector UInt8 8}
    {payload out : List UInt8} (hkey : a.key = some key) (hiv : a.iv = some iv)
    (hpayload : a.payload = some payload) (hout : a.out = some out) :
    ∃ t, mode.run ccm setkey a s =
      some (mode.fresh ccm (if s.ready ∧ a.key = some s.sessionKey then 0 else setkey) a, t) ∧
      t.Good ∧ s.Keeps setkey a.key t := by
  have hhit : (s.ready = true ∧ a.key = some s.sessionKey) ↔
      (s.ready = true ∧ s.sessionKey = key) := by
    rw [hkey, Option.some.injEq, @eq_comm _ key]
  unfold CcmMode.run CcmMode.fresh CcmMode.cipher
  simp only [hkey, hiv, hpayload, hout]
  by_cases hbad : payload.length < mode.least ∨ payload.length > mode.most ∨
      out.length < mode.outLength payload.length ∨ a.counter ≥ (1 : UInt64) <<< 39 ∨
      a.direction > 1
  · rw [if_pos hbad, if_pos hbad]
    exact ⟨s, rfl, hs, s.keeps_self _ _⟩
  rw [if_neg hbad, if_neg hbad, nonceAt_eq]
  push Not at hbad
  obtain ⟨t, huse, ht, hkeeps, hcontext⟩ := hs.useKey setkey key
  rw [hkey] at hhit
  simp only [hhit, huse, Option.bind_eq_bind, Option.bind_some]
  generalize (if s.ready = true ∧ s.sessionKey = key then 0 else setkey) = status at hcontext ⊢
  by_cases hset : status = 0
  · have hkeyed : t.context.key? = some key.reverse := by
      rw [hcontext hset]
      rfl
    have hthrough := hmode.through ccm key.reverse (ccmNonce iv a.counter a.direction) a.aad
      hbad.2.1 hbad.2.2.1
    rw [if_neg (not_not_intro hset), hkeyed]
    simp only [Option.bind_some, hthrough]
    cases mode.crypt ccm key.reverse (ccmNonce iv a.counter a.direction) a.aad payload with
    | none => exact ⟨t, rfl, ht, hkeeps⟩
    | some bytes =>
      refine ⟨t, ?_, ht, hkeeps⟩
      show some ((0, some _), t) = some ((if status ≠ 0 then _ else _), t)
      rw [if_neg (not_not_intro hset)]
  · rw [if_pos hset]
    refine ⟨t, ?_, ht, hkeeps⟩
    cases mode.crypt ccm key.reverse (ccmNonce iv a.counter a.direction) a.aad payload with
    | none => rfl
    | some bytes =>
      show some ((-2, some out), t) = some ((if status ≠ 0 then _ else _), t)
      rw [if_pos hset]

theorem CcmState.Good.operation {s : CcmState} (hs : s.Good) {mode : CcmMode}
    (hmode : mode.Sound) (ccm : Ccm) (setkey : Int) (a : CcmArgs) :
    ∃ t, mode.run ccm setkey a s =
      some (mode.fresh ccm (if s.ready ∧ a.key = some s.sessionKey then 0 else setkey) a, t) ∧
      t.Good ∧ s.Keeps setkey a.key t := by
  cases hkey : a.key with
  | none =>
    refine ⟨s, ?_, hs, s.keeps_self _ _⟩
    simp only [CcmMode.run, CcmMode.fresh, hkey]
  | some key =>
    cases hiv : a.iv with
    | none =>
      refine ⟨s, ?_, hs, s.keeps_self _ _⟩
      simp only [CcmMode.run, CcmMode.fresh, hkey, hiv]
    | some iv =>
      cases hpayload : a.payload with
      | none =>
        refine ⟨s, ?_, hs, s.keeps_self _ _⟩
        simp only [CcmMode.run, CcmMode.fresh, hkey, hiv, hpayload]
      | some payload =>
        cases hout : a.out with
        | none =>
          refine ⟨s, ?_, hs, s.keeps_self _ _⟩
          simp only [CcmMode.run, CcmMode.fresh, hkey, hiv, hpayload, hout]
        | some out =>
          have h := hs.run hmode ccm setkey a hkey hiv hpayload hout
          rw [hkey] at h
          exact h

theorem CcmCall.fresh_encrypt (ccm : Ccm) (setkey : Int) (a : CcmArgs) :
    (CcmCall.encrypt a).fresh ccm setkey = CcmMode.encrypt.fresh ccm setkey a := by
  simp only [CcmMode.fresh, CcmMode.cipher_encrypt]
  rfl

theorem CcmCall.fresh_decrypt (ccm : Ccm) (setkey : Int) (a : CcmArgs) :
    (CcmCall.decrypt a).fresh ccm setkey = CcmMode.decrypt.fresh ccm setkey a := by
  simp only [CcmMode.fresh, CcmMode.cipher_decrypt]
  rfl

theorem CcmState.Good.call {s : CcmState} (hs : s.Good) (ccm : Ccm) (setkey : Int) (c : CcmCall) :
    ∃ t, s.call ccm setkey c = some (c.fresh ccm (s.status setkey c), t) ∧ t.Good ∧
      s.Keeps setkey (c.args?.bind CcmArgs.key) t := by
  cases c with
  | encrypt a =>
    rw [CcmCall.fresh_encrypt]
    exact hs.operation CcmMode.encrypt_sound ccm setkey a
  | decrypt a =>
    rw [CcmCall.fresh_decrypt]
    exact hs.operation CcmMode.decrypt_sound ccm setkey a
  | reset =>
    refine ⟨_, ?_, CcmState.boot_good, fun h => (nomatch h)⟩
    show s.reset.map _ = _
    rw [hs.reset]
    rfl

theorem CcmState.Good.calls (ccm : Ccm) (calls : List (CcmCall × Int)) :
    ∀ {s : CcmState}, s.Good → ∃ t,
      s.calls ccm calls =
        some ((s.settled ccm calls).map fun c => c.1.fresh ccm c.2, t) ∧ t.Good := by
  induction calls with
  | nil =>
    intro s hs
    exact ⟨s, rfl, hs⟩
  | cons c rest ih =>
    intro s hs
    obtain ⟨c, setkey⟩ := c
    obtain ⟨t, hcall, ht, -⟩ := hs.call ccm setkey c
    obtain ⟨u, hcalls, hu⟩ := ih ht
    refine ⟨u, ?_, hu⟩
    simp only [CcmState.calls, CcmState.settled, hcall, Option.bind_eq_bind, Option.bind_some,
      hcalls, List.map_cons]
    rfl

theorem withFreshKey_failed {setkey : Int} {cipher : Except PacketError (List UInt8)}
    {out : List UInt8} (h : (withFreshKey setkey cipher out).1 ≠ 0) :
    (withFreshKey setkey cipher out).2 = some out := by
  cases cipher with
  | error e => cases e <;> rfl
  | ok bytes =>
    by_cases hset : setkey ≠ 0
    · show (if setkey ≠ 0 then _ else _ : Int × Option (List UInt8)).2 = _
      rw [if_pos hset]
    · change (if setkey ≠ 0 then _ else _ : Int × Option (List UInt8)).1 ≠ 0 at h
      rw [if_neg hset] at h
      exact absurd rfl h

theorem CcmMode.fresh_failed {mode : CcmMode} {ccm : Ccm} {setkey : Int} {a : CcmArgs}
    (h : (mode.fresh ccm setkey a).1 ≠ 0) : (mode.fresh ccm setkey a).2 = a.out := by
  unfold CcmMode.fresh at h ⊢
  split
  · next hout =>
    rw [hout]
    simp only [*] at h
    exact withFreshKey_failed h
  · rfl

/-- A call that fails gives its output buffer back as it was. -/
theorem CcmCall.fresh_failed {ccm : Ccm} {setkey : Int} {c : CcmCall}
    (h : (c.fresh ccm setkey).1 ≠ 0) :
    (c.fresh ccm setkey).2 = c.args?.bind CcmArgs.out := by
  cases c with
  | reset => rfl
  | encrypt a =>
    rw [CcmCall.fresh_encrypt] at h ⊢
    exact CcmMode.fresh_failed h
  | decrypt a =>
    rw [CcmCall.fresh_decrypt] at h ⊢
    exact CcmMode.fresh_failed h

/-- When setting up a key always ends the same way, the calls rely on no setup but their own. -/
theorem CcmState.Good.settled_eq (ccm : Ccm) (result : Vector UInt8 16 → Int)
    (calls : List (CcmCall × Int)) :
    ∀ {s : CcmState}, s.Good → (s.ready = true → result s.sessionKey = 0) →
      (∀ c ∈ calls, ∀ key, c.1.args?.bind CcmArgs.key = some key → c.2 = result key) →
      s.settled ccm calls = calls := by
  induction calls with
  | nil =>
    intro s _ _ _
    rfl
  | cons c rest ih =>
    intro s hs hready hresult
    obtain ⟨c, setkey⟩ := c
    obtain ⟨t, hcall, ht, hkeeps⟩ := hs.call ccm setkey c
    have hown : ∀ key, c.args?.bind CcmArgs.key = some key → setkey = result key :=
      hresult (c, setkey) List.mem_cons_self
    have hstatus : s.status setkey c = setkey := by
      unfold CcmState.status
      split
      · next hhit => rw [hown _ hhit.2, hready hhit.1]
      · rfl
    have htready : t.ready = true → result t.sessionKey = 0 := by
      intro h
      rcases hkeeps h with hkept | hset
      · rw [hkept.2]
        exact hready hkept.1
      · rw [← hown _ hset.2]
        exact hset.1
    have hrest := ih ht htready fun c hc => hresult c (List.mem_cons_of_mem _ hc)
    simp only [CcmState.settled, hcall, hstatus, hrest]

theorem CcmState.settled_args (ccm : Ccm) (calls : List (CcmCall × Int)) :
    ∀ {s : CcmState}, s.Good → (s.settled ccm calls).map Prod.fst = calls.map Prod.fst := by
  induction calls with
  | nil =>
    intro s _
    rfl
  | cons c rest ih =>
    intro s hs
    obtain ⟨c, setkey⟩ := c
    obtain ⟨t, hcall, ht, -⟩ := hs.call ccm setkey c
    simp only [CcmState.settled, hcall, List.map_cons, ih ht]

theorem CcmState.Good.failed (ccm : Ccm) (calls : List (CcmCall × Int)) :
    ∀ {s : CcmState}, s.Good →
      List.Forall₂ (fun (c : CcmCall × Int) (r : Int × Option (List UInt8)) =>
        r.1 ≠ 0 → r.2 = c.1.args?.bind CcmArgs.out) calls
        ((s.settled ccm calls).map fun c => c.1.fresh ccm c.2) := by
  induction calls with
  | nil =>
    intro s _
    exact .nil
  | cons c rest ih =>
    intro s hs
    obtain ⟨c, setkey⟩ := c
    obtain ⟨t, hcall, ht, -⟩ := hs.call ccm setkey c
    simp only [CcmState.settled, hcall, List.map_cons]
    exact .cons CcmCall.fresh_failed (ih ht)

/-- Every run of calls goes through without misuse of the context, and gives back what calls with
a context of their own do: with the setups that were made, and with their own where setting up a
key ends the same way each time. -/
theorem ccm_cache_invisible (ccm : Ccm) (calls : List (CcmCall × Int)) :
    ∃ results s, CcmState.boot.calls ccm calls = some (results, s) ∧
      results = ((CcmState.boot.settled ccm calls).map fun c => c.1.fresh ccm c.2) ∧
      (CcmState.boot.settled ccm calls).map Prod.fst = calls.map Prod.fst ∧
      (∀ result : Vector UInt8 16 → Int,
        (∀ c ∈ calls, ∀ key, c.1.args?.bind CcmArgs.key = some key → c.2 = result key) →
        results = calls.map fun c => c.1.fresh ccm c.2) ∧
      List.Forall₂ (fun (c : CcmCall × Int) (r : Int × Option (List UInt8)) =>
        r.1 ≠ 0 → r.2 = c.1.args?.bind CcmArgs.out) calls results := by
  obtain ⟨s, hcalls, -⟩ := CcmState.boot_good.calls ccm calls
  have hargs := CcmState.settled_args ccm calls CcmState.boot_good
  refine ⟨_, s, hcalls, rfl, hargs, fun result hresult => ?_, CcmState.boot_good.failed ccm calls⟩
  rw [CcmState.boot_good.settled_eq ccm result calls (fun h => nomatch h) hresult]

/-- A cipher that only tags, with a byte of the key. -/
def tagCcm : Ccm where
  encrypt key _ _ plain := some ⟨plain ++ List.replicate 4 key[0], by simp⟩
  decrypt key _ _ cipher :=
    if cipher.drop (cipher.length - 4) = List.replicate 4 key[0] then
      some ⟨cipher.take (cipher.length - 4), by rw [List.length_take]; omega⟩
    else none

/-- One byte encrypted under the key of sixteen bytes `b`. -/
def oneByte (b : UInt8) : CcmCall :=
  .encrypt { key := some (Vector.replicate 16 b), iv := some (Vector.replicate 8 0), counter := 0
             direction := 1, aad := 0, payload := some [7], out := some [0, 0, 0, 0, 0] }

/-- A key that cannot be set up between two calls with one that can. -/
theorem ccm_cache_invisible_keys :
    ∃ results s, CcmState.boot.calls tagCcm [(oneByte 1, 0), (oneByte 2, -1), (oneByte 1, 0)] =
        some (results, s) ∧
      results = [(0, some [7, 1, 1, 1, 1]), (-2, some [0, 0, 0, 0, 0]),
        (0, some [7, 1, 1, 1, 1])] := by
  obtain ⟨results, s, hcalls, -, -, hfresh, -⟩ :=
    ccm_cache_invisible tagCcm [(oneByte 1, 0), (oneByte 2, -1), (oneByte 1, 0)]
  refine ⟨results, s, hcalls, ?_⟩
  rw [hfresh (fun key => if key[0] = 1 then 0 else -1) ?_]
  · decide +kernel
  · intro c hc key hkey
    simp only [List.mem_cons, List.not_mem_nil, or_false] at hc
    rcases hc with rfl | rfl | rfl <;> cases hkey <;> rfl

end UllReceiver.Air
