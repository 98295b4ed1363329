import UllReceiver.Diagnostics.ControlLog

/-!
# What the diagnostics may show

The view of a call is all that the log and the probe keep of it: its headers, its length and the
command byte, unless the message is one of the known scalars. The calls are compared with programs
computed from the view alone.
-/

namespace UllReceiver.Diagnostics

open Parent

/-- What a call hands over: a PDU of the link, or a message with its headers taken off. -/
inductive Carried where
  | pdu (header : UInt8) (p : List UInt8) (n : UInt32)
  | message (p : List UInt8) (n : UInt32)

def DiagCall.carried (c : DiagCall) : Option Carried :=
  match c.entry, c.payload with
  | .controlLogAir, some p => some (.pdu c.header p c.length)
  | .statusProbeAir, some p => some (.pdu c.header p c.length)
  | .statusProbeControlOnly, some p =>
    if controlOnlyFrame c.header p c.length then
      some (.pdu (byteAt p 1) (p.drop 3) (byteAt p 2).toUInt32)
    else none
  | .controlLogAcl, some p => some (.message p c.length)
  | .statusProbeAcl, some p => some (.message p c.length)
  | _, none => none

/-- A valid envelope: the L2CAP header of the control channel, with the length of what follows. -/
def enveloped (header : UInt8) (p : List UInt8) (n : UInt32) : Prop :=
  header &&& 3 = 2 ∧ 4 ≤ n ∧ lengthField p = n - 4 ∧ byteAt p 2 = 1 ∧ byteAt p 3 = 1
deriving Decidable

/-- A complete message of the control channel. -/
def Carried.message? : Carried → Option (List UInt8 × UInt32)
  | .message p n => some (p, n)
  | .pdu header p n =>
    if enveloped header p n then some (p.drop 4, n - 4) else none

/-- A control PDU of the link layer, which has no L2CAP header. -/
def Carried.onLink : Carried → Bool
  | .message _ _ => false
  | .pdu header _ _ => header &&& 3 == 3

def Carried.command : Carried → Option UInt8
  | .message p n => if n = 0 then none else some (byteAt p 0)
  | .pdu header p n =>
    if header &&& 3 = 3 then if n = 0 then none else some (byteAt p 0)
    else
      match (Carried.pdu header p n).message? with
      | some (p, n) => if n = 0 then none else some (byteAt p 0)
      | none => none

/-- The message is one of the five scalar shapes. -/
def DiagCall.listed (c : DiagCall) : Prop :=
  ∃ p n, c.carried.bind Carried.message? = some (p, n) ∧ safePayload p n ≠ 0

structure View where
  entry : DiagEntry
  header : UInt8
  length : UInt32
  framed : Bool
  enveloped : Bool
  onLink : Bool
  command : Option UInt8
deriving DecidableEq

def DiagCall.view (c : DiagCall) : View :=
  { entry := c.entry
    header := c.header
    length := c.length
    framed := c.carried.isSome
    enveloped := (c.carried.bind Carried.message?).isSome
    onLink := c.carried.any Carried.onLink
    command := c.carried.bind Carried.command }

/-- A proprietary setup message, or a link layer PDU with the session's diversifiers or setup. -/
def View.secret (v : View) : Bool :=
  match v.command with
  | none => false
  | some op => setupOpcode op || (v.onLink && (op == 3 || op == 4))

/-! ## Programs of a view -/

def View.observed (v : View) (origin n : UInt32) : List DiagOp :=
  match v.command with
  | none => []
  | some op =>
    if setupOpcode op then [.add .setupHidden]
    else [.add (if origin = 1 then .airSeen else .aclSeen),
      .lastUnknown (origin <<< 24 ||| (n &&& 0xffff) <<< 8 ||| op.toUInt32), .add .unknownSeen]

def View.probedAir (v : View) : List DiagOp :=
  if v.length < 4 ∨ v.header &&& 3 ≠ 2 then []
  else if !v.enveloped then [.add .unframedSeen]
  else v.observed 1 (v.length - 4)

def View.described (v : View) (origin : UInt32) (header : UInt8) : Option Record :=
  if v.secret then none
  else some { us := 0, length := v.length.toUInt16, origin := origin.toUInt8, header := header
              opcode := v.command, payload := [] }

def View.published (v : View) (origin : UInt32) (header : UInt8) : List DiagOp :=
  [.capture, .check, .stamp, .commit (v.described origin header)]

def View.probedControlOnly (v : View) : List DiagOp :=
  match v.command with
  | none => []
  | some op =>
    if v.onLink then []
    else if setupOpcode op then [.add .controlOnlySetupHidden]
    else [.add .controlOnlyProprietary,
      .controlOnlyLastMeta ((v.length - 7) <<< 8 ||| op.toUInt32)]

def View.program (v : View) : List DiagOp :=
  match v.entry with
  | .controlLogAir =>
    if v.framed ∧ v.length ≠ 0 ∧ v.length ≤ 60 then
      v.probedAir ++ v.published originAir v.header
    else []
  | .controlLogAcl =>
    if v.length ≤ 4092 ∧ (v.length = 0 ∨ v.framed) then
      v.observed 2 v.length ++ v.published originAcl 0
    else []
  | .statusProbeAir => if v.framed then v.probedAir else []
  | .statusProbeAcl => if v.length ≤ 4092 then v.observed 2 v.length else []
  | .statusProbeControlOnly =>
    if v.framed then .add .controlOnlySeen :: v.probedControlOnly else []

/-! ## A call shows its view -/

theorem message?_enveloped {header : UInt8} {p : List UInt8} {n : UInt32}
    (h : enveloped header p n) : (Carried.pdu header p n).message? = some (p.drop 4, n - 4) :=
  if_pos h

theorem message?_stray {header : UInt8} {p : List UInt8} {n : UInt32}
    (h : ¬enveloped header p n) : (Carried.pdu header p n).message? = none :=
  if_neg h

theorem command_enveloped {header : UInt8} {p : List UInt8} {n : UInt32}
    (h : enveloped header p n) :
    (Carried.pdu header p n).command =
      if n - 4 = 0 then none else some (byteAt (p.drop 4) 0) := by
  have hctl : header &&& 3 ≠ 3 := by
    rw [h.1]
    decide
  change (if header &&& 3 = 3 then _ else _) = _
  rw [if_neg hctl, message?_enveloped h]

theorem command_stray {header : UInt8} {p : List UInt8} {n : UInt32}
    (hctl : header &&& 3 ≠ 3) (h : ¬enveloped header p n) :
    (Carried.pdu header p n).command = none := by
  change (if header &&& 3 = 3 then _ else _) = _
  rw [if_neg hctl, message?_stray h]

theorem safePayload_ne_zero_iff (p : List UInt8) (n : UInt32) :
    safePayload p n ≠ 0 ↔ knownScalar p n = true := by
  unfold safePayload knownScalar
  by_cases hwheel : parentAckWheel p n = true
  · simp [hwheel]
  by_cases hmedia : parentAckMedia p n = true
  · simp [hwheel, hmedia]
  by_cases hmic : parentAckMic p n = true
  · simp [hwheel, hmedia, hmic]
  -- the volume and the mute shape are left, tested one after the other
  simp only [hwheel, hmedia, hmic]
  split
  · next h => simp [h]
  split
  · next h => simp [h]
  · next hvolume hmute => grind

/-- A complete message, or one that is not there, is observed by its length and command. -/
theorem observe_eq {v : View} {p : List UInt8} {n : UInt32} (origin : UInt32)
    (hcommand : v.command = if n = 0 then none else some (byteAt p 0))
    (hplain : safePayload p n = 0) : observe origin (some p) n = v.observed origin n := by
  have hscalar : knownScalar p n = false := by
    by_contra h
    exact (safePayload_ne_zero_iff p n).mpr (by simpa using h) hplain
  unfold observe View.observed
  by_cases hn : n = 0
  · simp [hcommand, hn]
  · simp [hcommand, hn, hscalar]

/-- The steps of `publish` for a message with its headers off. -/
theorem described_message {v : View} {origin : UInt32} {header : UInt8} {p : List UInt8}
    {m : UInt32} {n : UInt32} (hcommand : v.command = if n = 0 then none else some (byteAt p 0))
    (hlink : v.onLink = false) (hlength : v.length = m) (hplain : safePayload p n = 0)
    (hlocated : located origin header q m = (some (p, n), false, none)) :
    described origin header q m = v.described origin header := by
  unfold described View.described View.secret
  rw [hlocated, hcommand, hlink, hlength]
  by_cases hn : n = 0
  · simp [hn]
  · by_cases hsetup : setupOpcode (byteAt p 0) = true
    · simp [hn, hsetup]
    · simp [hn, hsetup, hplain]

/-- The steps of `publish` for a PDU of the link. -/
theorem described_pdu {v : View} {header : UInt8} {p : List UInt8} {n : UInt32}
    (hcommand : v.command = (Carried.pdu header p n).command)
    (hlink : v.onLink = (Carried.pdu header p n).onLink) (hlength : v.length = n)
    (hplain : ∀ q m, (Carried.pdu header p n).message? = some (q, m) → safePayload q m = 0) :
    described originAir header p n = v.described originAir header := by
  have horigin : originAir ≠ originAcl := by decide
  by_cases hctl : header &&& 3 = 3
  · -- the opcode alone, whatever follows it
    have hc : v.command = if n = 0 then none else some (byteAt p 0) := by
      rw [hcommand]; simp [Carried.command, hctl]
    have hl : v.onLink = true := by rw [hlink]; simp [Carried.onLink, hctl]
    unfold described View.described View.secret located
    rw [hc, hl, hlength]
    by_cases hn : n = 0
    · simp [horigin, hctl, hn]
    · simp only [horigin, hctl, hn]
      by_cases h3 : byteAt p 0 = 3
      · simp [hn, h3]
      · by_cases h4 : byteAt p 0 = 4
        · simp [hn, h4]
        · by_cases hs : setupOpcode (byteAt p 0) = true
          · simp [hn, hs]
          · simp [hn, hs, h3, h4]
  · have hl : v.onLink = false := by rw [hlink]; simp [Carried.onLink, hctl]
    by_cases henv : enveloped header p n
    · have hc := hcommand.trans (command_enveloped henv)
      refine described_message hc hl hlength (hplain _ _ (message?_enveloped henv)) ?_
      obtain ⟨h2, hn, hfield, hcid⟩ := henv
      unfold located
      rw [if_neg horigin, if_neg (fun h => hctl h.1), if_pos ⟨h2, hn⟩, if_pos ⟨hfield, hcid⟩,
        hfield]
    · have hc := hcommand.trans (command_stray hctl henv)
      have hlocated : located originAir header p n = (none, false, none) := by
        unfold located
        rw [if_neg horigin, if_neg (fun h => hctl h.1)]
        split
        · next h =>
          rw [if_neg]
          intro hrest
          exact henv ⟨h.1, h.2, hrest⟩
        · rfl
      unfold described View.described View.secret
      rw [hlocated, hc, hlength]

theorem probedAir_eq {v : View} {header : UInt8} {p : List UInt8} {n : UInt32}
    (hheader : v.header = header) (hlength : v.length = n)
    (henv : v.enveloped = (Carried.pdu header p n).message?.isSome)
    (hcommand : v.command = (Carried.pdu header p n).command)
    (hplain : ∀ q m, (Carried.pdu header p n).message? = some (q, m) → safePayload q m = 0) :
    statusProbeAir header (some p) n = v.probedAir := by
  unfold statusProbeAir View.probedAir
  rw [hheader, hlength]
  by_cases hframe : n < 4 ∨ header &&& 3 ≠ 2
  · simp only [if_pos hframe]
  · simp only [if_neg hframe]
    push Not at hframe
    by_cases h : enveloped header p n
    · have hmessage := message?_enveloped h
      rw [hmessage] at henv
      have hshown := observe_eq 1 (hcommand.trans (command_enveloped h)) (hplain _ _ hmessage)
      obtain ⟨-, -, hfield, hcid, hcid'⟩ := h
      rw [if_neg (by simp [hfield, hcid, hcid']), henv, hfield]
      exact hshown
    · have hmessage := message?_stray h
      rw [hmessage] at henv
      have hbad : lengthField p ≠ n - 4 ∨ byteAt p 2 ≠ 1 ∨ byteAt p 3 ≠ 1 := by
        by_contra hnot
        push Not at hnot
        exact h ⟨hframe.2, by simpa using hframe.1, hnot⟩
      rw [if_pos hbad, henv]
      rfl

theorem probedControlOnly_eq {v : View} {header : UInt8} {p : List UInt8} {n : UInt32}
    (hf : controlOnlyFrame header p n) (hlength : v.length = n)
    (hlink : v.onLink = (Carried.pdu (byteAt p 1) (p.drop 3) (byteAt p 2).toUInt32).onLink)
    (hcommand : v.command = (Carried.pdu (byteAt p 1) (p.drop 3) (byteAt p 2).toUInt32).command) :
    statusProbeControlOnly header (some p) n = .add .controlOnlySeen :: v.probedControlOnly := by
  change (if ¬controlOnlyFrame header p n then [] else _) = _
  rw [if_neg (not_not_intro hf)]
  congr 1
  have hsize : n - 7 = (byteAt p 2).toUInt32 - 4 := by
    rw [← hf.2.2.2.1]
    grind
  have hbyte : byteAt (p.drop 3) 4 = byteAt ((p.drop 3).drop 4) 0 := by
    simp [byteAt]
  unfold View.probedControlOnly
  by_cases hctl : byteAt p 1 &&& 3 = 3
  · have hl : v.onLink = true := by
      rw [hlink]
      simp [Carried.onLink, hctl]
    rw [if_pos (Or.inl (by rw [hctl]; decide)), hl]
    split <;> rfl
  · have hl : v.onLink = false := by
      rw [hlink]
      simp [Carried.onLink, hctl]
    rw [hl]
    by_cases henv : enveloped (byteAt p 1) (p.drop 3) (byteAt p 2).toUInt32
    · rw [hcommand, command_enveloped henv]
      obtain ⟨h2, h4, hfield, hcid, hcid'⟩ := henv
      by_cases hempty : (byteAt p 2).toUInt32 - 4 = 0
      · have hshort : byteAt p 2 < 5 := by
          rw [UInt8.lt_iff_toNat_lt]
          have hnat := congrArg UInt32.toNat hempty
          rw [UInt32.toNat_sub_of_le _ _ h4, UInt8.toNat_toUInt32] at hnat
          change (byteAt p 2).toNat < 5
          have : (4 : UInt32).toNat = 4 := rfl
          have : (0 : UInt32).toNat = 0 := rfl
          omega
        rw [if_pos (Or.inr hshort), if_pos hempty]
      · have hlong : ¬byteAt p 2 < 5 := by
          intro hshort
          apply hempty
          rw [UInt8.lt_iff_toNat_lt] at hshort
          rw [UInt32.le_iff_toNat_le, UInt8.toNat_toUInt32] at h4
          change (byteAt p 2).toNat < 5 at hshort
          change 4 ≤ (byteAt p 2).toNat at h4
          have heq : byteAt p 2 = 4 := by
            apply UInt8.toNat_inj.mp
            change (byteAt p 2).toNat = 4
            omega
          rw [heq]
          rfl
        rw [if_neg (by simp [h2, hlong]), if_neg hempty]
        simp only [hfield, hcid, hcid', hbyte, hlength, hsize]
        simp
    · rw [hcommand, command_stray hctl henv]
      split
      · rfl
      · next hlong =>
        push Not at hlong
        have hbad : lengthField (p.drop 3) ≠ (byteAt p 2).toUInt32 - 4 ∨
            byteAt (p.drop 3) 2 ≠ 1 ∨ byteAt (p.drop 3) 3 ≠ 1 := by
          by_contra hnot
          push Not at hnot
          refine henv ⟨hlong.1, ?_, hnot⟩
          have h5 := UInt8.le_iff_toNat_le.mp (UInt8.not_lt.mp hlong.2)
          rw [UInt32.le_iff_toNat_le, UInt8.toNat_toUInt32]
          change 5 ≤ (byteAt p 2).toNat at h5
          change 4 ≤ (byteAt p 2).toNat
          omega
        exact if_pos hbad

/-- A message with its headers off, as both functions for ACL get it. -/
theorem probedAcl_eq {v : View} {p : List UInt8} {n : UInt32}
    (hcommand : v.command = if n = 0 then none else some (byteAt p 0))
    (hplain : safePayload p n = 0) :
    statusProbeAcl (some p) n = if n ≤ 4092 then v.observed 2 n else [] := by
  have hobserve := observe_eq 2 hcommand hplain
  unfold statusProbeAcl
  by_cases hn : n = 0
  · rw [if_neg (fun h => h.1 hn)]
    unfold View.observed
    rw [hcommand, if_pos hn]
    simp
  · simp only [hn, hobserve, ne_eq, not_false_eq_true, true_and]

theorem controlLogAir_eq {v : View} {header : UInt8} {p : List UInt8} {n : UInt32}
    (hheader : v.header = header) (hlength : v.length = n)
    (henv : v.enveloped = (Carried.pdu header p n).message?.isSome)
    (hlink : v.onLink = (Carried.pdu header p n).onLink)
    (hcommand : v.command = (Carried.pdu header p n).command)
    (hplain : ∀ q m, (Carried.pdu header p n).message? = some (q, m) → safePayload q m = 0) :
    controlLogAir header (some p) n =
      if n ≠ 0 ∧ n ≤ 60 then v.probedAir ++ v.published originAir header else [] := by
  have hprobe := probedAir_eq hheader hlength henv hcommand hplain
  have hrecord := described_pdu hcommand hlink hlength hplain
  unfold controlLogAir publish View.published
  rw [← hprobe, ← hrecord]

theorem controlLogAcl_eq {v : View} {p : List UInt8} {n : UInt32}
    (hcommand : v.command = if n = 0 then none else some (byteAt p 0))
    (hlink : v.onLink = false) (hlength : v.length = n) (hplain : safePayload p n = 0) :
    controlLogAcl (some p) n =
      if n ≤ 4092 then v.observed 2 n ++ v.published originAcl 0 else [] := by
  have hlocated : located originAcl 0 p n = (some (p, n), false, none) := if_pos rfl
  have hrecord := described_message hcommand hlink hlength hplain hlocated
  unfold controlLogAcl publish View.published
  rw [probedAcl_eq hcommand hplain, ← hrecord]
  by_cases hn : n ≤ 4092
  · simp [hn]
  · simp [hn]

/-- Unless its message is a known scalar, what a call does is read off its view. -/
theorem program_eq {c : DiagCall} (hplain : ¬c.listed) : c.program = c.view.program := by
  obtain ⟨entry, header, payload, n⟩ := c
  have hsafe : ∀ x, (DiagCall.mk entry header payload n).carried = some x →
      ∀ q m, x.message? = some (q, m) → safePayload q m = 0 := by
    intro x hx q m hm
    by_contra h
    refine hplain ⟨q, m, ?_, h⟩
    rw [hx]
    exact hm
  clear hplain
  cases entry with
  | controlLogAir =>
    cases payload with
    | none => rfl
    | some p =>
      change controlLogAir header (some p) n =
        if (true = true) ∧ n ≠ 0 ∧ n ≤ 60 then _ else []
      simp only [true_and]
      exact controlLogAir_eq rfl rfl rfl rfl rfl (hsafe _ rfl)
  | controlLogAcl =>
    cases payload with
    | none =>
      by_cases hn : n = 0
      · rw [hn]
        rfl
      · change (if n ≤ 4092 ∧ (n = 0 ∨ false = true) then _ else []) =
          if n ≤ 4092 ∧ (n = 0 ∨ false = true) then _ else []
        simp [hn]
    | some p =>
      change controlLogAcl (some p) n = if n ≤ 4092 ∧ (n = 0 ∨ true = true) then _ else []
      simp only [or_true, and_true]
      exact controlLogAcl_eq rfl rfl rfl (hsafe _ rfl _ _ rfl)
  | statusProbeAir =>
    cases payload with
    | none => rfl
    | some p => exact probedAir_eq rfl rfl rfl rfl (hsafe _ rfl)
  | statusProbeAcl =>
    cases payload with
    | none =>
      change (if n ≠ 0 ∧ n ≤ 4092 then [] else []) = if n ≤ 4092 then [] else []
      simp
    | some p => exact probedAcl_eq rfl (hsafe _ rfl _ _ rfl)
  | statusProbeControlOnly =>
    cases payload with
    | none => rfl
    | some p =>
      by_cases hf : controlOnlyFrame header p n
      · have hcarried : (DiagCall.mk .statusProbeControlOnly header (some p) n).carried =
            some (.pdu (byteAt p 1) (p.drop 3) (byteAt p 2).toUInt32) := if_pos hf
        have hstep := probedControlOnly_eq
          (v := (DiagCall.mk .statusProbeControlOnly header (some p) n).view) hf rfl
          (by simp [DiagCall.view, hcarried]) (by simp [DiagCall.view, hcarried])
        change statusProbeControlOnly header (some p) n =
          if (DiagCall.mk .statusProbeControlOnly header (some p) n).carried.isSome then _ else []
        rw [hstep, hcarried]
        rfl
      · have hcarried : (DiagCall.mk .statusProbeControlOnly header (some p) n).carried = none :=
          if_neg hf
        change (if ¬controlOnlyFrame header p n then [] else _) =
          if (DiagCall.mk .statusProbeControlOnly header (some p) n).carried.isSome then _ else []
        rw [hcarried, if_pos hf]
        rfl

end UllReceiver.Diagnostics
