import Mathlib
import UllReceiver.Diagnostics.Hiding

/-!
# Setup messages leave no trace but their count
-/

namespace UllReceiver.Diagnostics

open Parent

/-- The call carries a message or a PDU that must not be recorded. -/
def DiagCall.secret (c : DiagCall) : Bool :=
  c.view.secret

/-- The length is one that the function looks at. -/
def DiagCall.taken (c : DiagCall) : Bool :=
  match c.entry with
  | .controlLogAir => c.length ≤ 60
  | .controlLogAcl => c.length ≤ 4092
  | .statusProbeAcl => c.length ≤ 4092
  | _ => true

/-- All that is left of a secret call. -/
def hiddenProgram (entry : DiagEntry) (onLink taken : Bool) : List DiagOp :=
  match entry with
  | .controlLogAir =>
    if taken then
      (if onLink then [] else [.add .setupHidden]) ++ [.capture, .check, .stamp, .commit none]
    else []
  | .controlLogAcl =>
    if taken then [.add .setupHidden, .capture, .check, .stamp, .commit none] else []
  | .statusProbeAir => if onLink then [] else [.add .setupHidden]
  | .statusProbeAcl => if taken then [.add .setupHidden] else []
  | .statusProbeControlOnly =>
    .add .controlOnlySeen :: if onLink then [] else [.add .controlOnlySetupHidden]

theorem command_of_message {x : Carried} {p : List UInt8} {n : UInt32}
    (hm : x.message? = some (p, n)) (hn : n ≠ 0) :
    x.command = some (byteAt p 0) ∧ x.onLink = false := by
  cases x with
  | message q m =>
    cases hm
    exact ⟨if_neg hn, rfl⟩
  | pdu header q m =>
    by_cases henv : enveloped header q m
    · rw [message?_enveloped henv] at hm
      cases hm
      rw [command_enveloped henv, if_neg hn]
      have h2 := henv.1
      exact ⟨rfl, by simp [Carried.onLink, h2]⟩
    · rw [message?_stray henv] at hm
      cases hm

/-- No setup message has one of the known shapes. -/
theorem setupOpcode_of_known {p : List UInt8} {n : UInt32} (h : knownScalar p n = true) :
    n ≠ 0 ∧ setupOpcode (byteAt p 0) = false := by
  have hfirst : n ≠ 0 ∧ (byteAt p 0 = 10 ∨ byteAt p 0 = 13 ∨ byteAt p 0 = 5 ∨ byteAt p 0 = 6 ∨
      byteAt p 0 = 4) := by
    simp only [knownScalar, parentAckWheel, parentAckMedia, parentAckMic, Bool.or_eq_true,
      Bool.and_eq_true, beq_iff_eq] at h
    grind
  refine ⟨hfirst.1, ?_⟩
  rcases hfirst.2 with h | h | h | h | h <;> rw [h] <;> decide

theorem secret_not_listed {c : DiagCall} (h : c.secret = true) : ¬c.listed := by
  intro ⟨p, n, hm, hsafe⟩
  have hknown := setupOpcode_of_known ((safePayload_ne_zero_iff p n).mp hsafe)
  unfold DiagCall.secret View.secret DiagCall.view at h
  cases hx : c.carried with
  | none =>
    rw [hx] at hm
    cases hm
  | some x =>
    rw [hx] at hm h
    have hcommand := command_of_message hm hknown.1
    simp [hcommand.1, hcommand.2, hknown.2] at h

theorem View.secret_command {v : View} (h : v.secret = true) :
    ∃ op, v.command = some op ∧ (v.onLink = false → setupOpcode op = true) := by
  unfold View.secret at h
  cases hcommand : v.command with
  | none =>
    rw [hcommand] at h
    cases h
  | some op =>
    refine ⟨op, rfl, fun hlink => ?_⟩
    simpa [hcommand, hlink] using h

theorem View.secret_published {v : View} (h : v.secret = true) (origin : UInt32)
    (header : UInt8) : v.published origin header = [.capture, .check, .stamp, .commit none] := by
  unfold View.published View.described
  rw [if_pos h]

theorem View.observed_setup {v : View} {op : UInt8} (hcommand : v.command = some op)
    (hsetup : setupOpcode op = true) (origin n : UInt32) :
    v.observed origin n = [.add .setupHidden] := by
  unfold View.observed
  rw [hcommand]
  exact if_pos hsetup

/-- A PDU that has a command is not empty, and its envelope is valid if it needs one. -/
theorem command_pdu {header : UInt8} {p : List UInt8} {n : UInt32} {op : UInt8}
    (h : (Carried.pdu header p n).command = some op) :
    n ≠ 0 ∧ (header &&& 3 = 3 ∨ enveloped header p n) := by
  by_cases hctl : header &&& 3 = 3
  · refine ⟨?_, Or.inl hctl⟩
    rintro rfl
    change (if header &&& 3 = 3 then _ else _) = _ at h
    rw [if_pos hctl] at h
    cases h
  · by_cases henv : enveloped header p n
    · refine ⟨?_, Or.inr henv⟩
      rintro rfl
      exact absurd henv.2.1 (by decide)
    · rw [command_stray hctl henv] at h
      cases h

/-- The probe counts a setup message once; a PDU of the link layer it does not look at. -/
theorem probedAir_secret {v : View} {header : UInt8} {p : List UInt8} {n : UInt32}
    (hv : v.secret = true) (hheader : v.header = header) (hlength : v.length = n)
    (henv : v.enveloped = (Carried.pdu header p n).message?.isSome)
    (hlink : v.onLink = (Carried.pdu header p n).onLink)
    (hcommand : v.command = (Carried.pdu header p n).command) :
    v.probedAir = if v.onLink then [] else [.add .setupHidden] := by
  have ⟨op, hop, hsetup⟩ := View.secret_command hv
  have hshape := (command_pdu (hcommand.symm.trans hop)).2
  unfold View.probedAir
  rw [hheader, hlength]
  by_cases hctl : header &&& 3 = 3
  · have hon : v.onLink = true := by
      rw [hlink]
      simp [Carried.onLink, hctl]
    rw [hon, if_pos (Or.inr (by rw [hctl]; decide))]
    rfl
  · have henvelope : enveloped header p n := hshape.resolve_left hctl
    have hon : v.onLink = false := by
      rw [hlink]
      simp [Carried.onLink, hctl]
    have hin : v.enveloped = true := by
      rw [henv, message?_enveloped henvelope]
      rfl
    have hframe : ¬(n < 4 ∨ header &&& 3 ≠ 2) := by
      intro hbad
      rcases hbad with hshort | hkind
      · exact absurd henvelope.2.1 (UInt32.not_le.mpr hshort)
      · exact hkind henvelope.1
    rw [hon, if_neg hframe, hin, View.observed_setup hop (hsetup hon)]
    rfl

theorem secret_program {c : DiagCall} (h : c.secret = true) :
    c.program = hiddenProgram c.entry c.view.onLink c.taken := by
  rw [program_eq (secret_not_listed h)]
  obtain ⟨op, hop, hsetup⟩ := View.secret_command h
  obtain ⟨entry, header, payload, n⟩ := c
  have hpublished := View.secret_published h
  cases entry with
  | controlLogAir =>
    cases payload with
    | none => cases hop
    | some p =>
      have hprobe := probedAir_secret (p := p) h rfl rfl rfl rfl rfl
      have hn : n ≠ 0 := (command_pdu hop).1
      change (if true = true ∧ n ≠ 0 ∧ n ≤ 60 then _ ++ _ else []) =
        if (decide (n ≤ 60)) = true then _ ++ _ else []
      rw [hprobe, hpublished]
      simp [hn]
  | controlLogAcl =>
    cases payload with
    | none => cases hop
    | some p =>
      have hobserved := View.observed_setup hop (hsetup rfl) 2 n
      change (if n ≤ 4092 ∧ (n = 0 ∨ true = true) then View.observed _ 2 n ++ _ else []) =
        if (decide (n ≤ 4092)) = true then _ else []
      rw [hobserved, hpublished]
      simp
  | statusProbeAir =>
    cases payload with
    | none => cases hop
    | some p => exact probedAir_secret (p := p) h rfl rfl rfl rfl rfl
  | statusProbeAcl =>
    cases payload with
    | none => cases hop
    | some p =>
      have hobserved := View.observed_setup hop (hsetup rfl) 2 n
      change (if n ≤ 4092 then View.observed _ 2 n else []) =
        if (decide (n ≤ 4092)) = true then _ else []
      rw [hobserved]
      simp
  | statusProbeControlOnly =>
    have hframed : (DiagCall.mk .statusProbeControlOnly header payload n).view.framed = true := by
      by_contra hnot
      have hnone : (DiagCall.mk .statusProbeControlOnly header payload n).carried = none := by
        simpa [DiagCall.view] using hnot
      simp [DiagCall.view, hnone] at hop
    change (if _ = true then .add .controlOnlySeen :: View.probedControlOnly _ else []) =
      .add .controlOnlySeen :: _
    rw [if_pos hframed]
    congr 1
    unfold View.probedControlOnly
    rw [hop]
    by_cases hlink : (DiagCall.mk .statusProbeControlOnly header payload n).view.onLink = true
    · simp [hlink]
    · have hoff := Bool.eq_false_iff.mpr hlink
      simp [hoff, hsetup hoff]

/-! ## Two runs -/

theorem DiagState.act_call (s : DiagState) (i : Nat) (c : DiagCall) :
    s.act (.call i c) =
      if (s.workers i).todo = [] then
        some { s with workers := Function.update s.workers i
                        { todo := c.program, generation := 0, us := 0 } }
      else none :=
  rfl

theorem DiagState.act_idle {s : DiagState} {i : Nat} (h : (s.workers i).todo = []) (now : Int64) :
    s.act (.run i now) = some s := by
  simp only [DiagState.act, h]

theorem DiagState.act_step {s : DiagState} {i : Nat} {op : DiagOp} {rest : List DiagOp}
    (h : (s.workers i).todo = op :: rest) (now : Int64) :
    s.act (.run i now) = some { s with
      data := (op.exec now s.data { s.workers i with todo := rest }).1
      workers := Function.update s.workers i
        (op.exec now s.data { s.workers i with todo := rest }).2 } := by
  simp only [DiagState.act, h]

/-- Calls that the diagnostics cannot tell apart. -/
inductive DiagCall.Alike : DiagCall → DiagCall → Prop where
  | same (c : DiagCall) : Alike c c
  | view {c d : DiagCall} (hview : c.view = d.view) (hc : ¬c.listed) (hd : ¬d.listed) : Alike c d
  | secret {c d : DiagCall} (hentry : c.entry = d.entry) (hlink : c.view.onLink = d.view.onLink)
      (htaken : c.taken = d.taken) (hc : c.secret = true) (hd : d.secret = true) : Alike c d

inductive DiagAct.Alike : DiagAct → DiagAct → Prop where
  | same (a : DiagAct) : Alike a a
  | call (i : Nat) {c d : DiagCall} (h : c.Alike d) : Alike (.call i c) (.call i d)

theorem DiagCall.Alike.program {c d : DiagCall} (h : c.Alike d) : c.program = d.program := by
  cases h with
  | same => rfl
  | view hview hc hd => rw [program_eq hc, program_eq hd, hview]
  | secret hentry hlink htaken hc hd =>
    rw [secret_program hc, secret_program hd, hentry, hlink, htaken]

theorem DiagAct.Alike.act {a b : DiagAct} (h : a.Alike b) (s : DiagState) : s.act a = s.act b := by
  cases h with
  | same => rfl
  | call i h =>
    rw [DiagState.act_call, DiagState.act_call, h.program]

theorem run_alike {t u : List DiagAct} (h : List.Forall₂ DiagAct.Alike t u) :
    ∀ s : DiagState, s.run t = s.run u := by
  induction h with
  | nil =>
    intro s
    rfl
  | cons hhead _ ih =>
    intro s
    unfold DiagState.run at ih ⊢
    rw [List.foldlM_cons, List.foldlM_cons, hhead.act]
    congr 1
    funext e
    exact ih e

/-! ## The same run without its secrets -/

/-- A call that does nothing, or for a control-only frame one that carries an empty packet. -/
def DiagCall.erase (c : DiagCall) : DiagCall :=
  if c.secret then
    match c.entry with
    | .statusProbeControlOnly =>
      { entry := .statusProbeControlOnly, header := 1, payload := some [0, 1, 0], length := 3 }
    | _ => { entry := .statusProbeAir, header := 0, payload := none, length := 0 }
  else c

def DiagAct.erase : DiagAct → DiagAct
  | .call i c => .call i c.erase
  | a => a

/-- Equal but for the counts of hidden messages. -/
structure DiagData.Shown (d e : DiagData) : Prop where
  counters : ∀ k, k ≠ .setupHidden → k ≠ .controlOnlySetupHidden → d.counters k = e.counters k
  lastUnknown : d.lastUnknown = e.lastUnknown
  controlOnlyLastMeta : d.controlOnlyLastMeta = e.controlOnlyLastMeta
  log : { d.log with suppressed := 0 } = { e.log with suppressed := 0 }

/-- The steps that a secret call has and its erasure has not. -/
def DiagOp.hides : DiagOp → Bool
  | .add .setupHidden => true
  | .add .controlOnlySetupHidden => true
  | .capture => true
  | .check => true
  | .stamp => true
  | .commit none => true
  | _ => false

/-- What a secret call has left, beside what its erasure has left. -/
structure Worker.Covers (w v : Worker) : Prop where
  shared : ∀ op ∈ v.todo, op = .add .controlOnlySeen
  rest : ∃ hidden : List DiagOp, w.todo = v.todo ++ hidden ∧ ∀ op ∈ hidden, op.hides = true

structure DiagState.Shows (s t : DiagState) : Prop where
  data : s.data.Shown t.data
  printed : s.printed = t.printed
  workers : ∀ i, s.workers i = t.workers i ∨ (s.workers i).Covers (t.workers i)

theorem hiddenProgram_erase {c : DiagCall} (h : c.secret = true) :
    (∀ op ∈ c.erase.program, op = .add .controlOnlySeen) ∧
      ∃ hidden : List DiagOp, c.program = c.erase.program ++ hidden ∧
        ∀ op ∈ hidden, op.hides = true := by
  rw [secret_program h]
  unfold DiagCall.erase
  rw [if_pos h]
  generalize c.view.onLink = onLink
  generalize c.taken = taken
  cases c.entry with
  | controlLogAir => cases onLink <;> cases taken <;> exact ⟨by decide, _, rfl, by decide⟩
  | controlLogAcl => cases taken <;> exact ⟨by decide, _, rfl, by decide⟩
  | statusProbeAir => cases onLink <;> exact ⟨by decide, _, rfl, by decide⟩
  | statusProbeAcl => cases taken <;> exact ⟨by decide, _, rfl, by decide⟩
  | statusProbeControlOnly =>
    have hempty : statusProbeControlOnly 1 (some [0, 1, 0]) 3 = [.add .controlOnlySeen] := by
      decide
    refine ⟨?_, if onLink then [] else [.add .controlOnlySetupHidden], ?_, ?_⟩
    · change ∀ op ∈ statusProbeControlOnly 1 (some [0, 1, 0]) 3, _
      rw [hempty]
      decide
    · change _ = statusProbeControlOnly 1 (some [0, 1, 0]) 3 ++ _
      rw [hempty]
      rfl
    · cases onLink <;> decide

/-! ### One step -/

theorem DiagData.Shown.refl (d : DiagData) : d.Shown d :=
  ⟨fun _ _ _ => rfl, rfl, rfl, rfl⟩

theorem DiagData.Shown.add {d e : DiagData} (h : d.Shown e) (k : Counter) :
    (d.add k).Shown (e.add k) := by
  refine ⟨fun j hj hj' => ?_, h.lastUnknown, h.controlOnlyLastMeta, h.log⟩
  by_cases hk : j = k
  · subst hk
    change Function.update _ _ _ _ = Function.update _ _ _ _
    rw [Function.update_self, Function.update_self, h.counters j hj hj']
  · change Function.update _ _ _ _ = Function.update _ _ _ _
    rw [Function.update_of_ne hk, Function.update_of_ne hk, h.counters j hj hj']

theorem ControlLog.shown_iff {l m : ControlLog} :
    { l with suppressed := 0 } = { m with suppressed := 0 } ↔
      ∃ x, m = { l with suppressed := x } := by
  constructor
  · intro h
    refine ⟨m.suppressed, ?_⟩
    cases l
    cases m
    simp_all
  · rintro ⟨x, rfl⟩
    rfl

theorem ControlLog.commit_shown (l : ControlLog) (x : UInt32) (g : UInt32) (us : Int64)
    (r : Option Record) :
    ∃ y, ControlLog.commit { l with suppressed := x } g us r =
      { l.commit g us r with suppressed := y } := by
  unfold ControlLog.commit
  by_cases hon : l.enabled ∧ g = l.generation
  · rw [if_pos hon, if_pos hon]
    cases r with
    | none => exact ⟨x + 1, rfl⟩
    | some r =>
      by_cases hfull : l.count = 32
      · simp only [if_pos hfull]
        exact ⟨x, rfl⟩
      · simp only [if_neg hfull]
        exact ⟨x, rfl⟩
  · rw [if_neg hon, if_neg hon]
    exact ⟨x, rfl⟩

theorem ControlLog.enable_shown (l : ControlLog) (x : UInt32) (value : Bool) :
    ∃ y, ControlLog.enable { l with suppressed := x } value =
      { l.enable value with suppressed := y } := by
  cases value
  · exact ⟨x, rfl⟩
  · exact ⟨0, rfl⟩

/-- A hidden step leaves what is shown as it was. -/
theorem DiagOp.exec_hides {op : DiagOp} (hop : op.hides = true) {d e : DiagData}
    (h : d.Shown e) (now : Int64) (w : Worker) : (op.exec now d w).1.Shown e := by
  have hcount : ∀ k, k = .setupHidden ∨ k = .controlOnlySetupHidden → (d.add k).Shown e := by
    intro k hk
    refine ⟨fun j hj hj' => ?_, h.lastUnknown, h.controlOnlyLastMeta, h.log⟩
    have hne : j ≠ k := by
      rintro rfl
      rcases hk with rfl | rfl <;> contradiction
    rw [← h.counters j hj hj']
    exact Function.update_of_ne hne _ _
  cases op with
  | add k =>
    apply hcount
    cases k <;> first | exact Or.inl rfl | exact Or.inr rfl | cases hop
  | lastUnknown word => cases hop
  | controlOnlyLastMeta word => cases hop
  | capture => exact h
  | check => exact h
  | stamp => exact h
  | commit r =>
    cases r with
    | some r => cases hop
    | none =>
      refine ⟨h.counters, h.lastUnknown, h.controlOnlyLastMeta, ?_⟩
      rw [← h.log]
      change { ControlLog.commit d.log w.generation w.us none with suppressed := 0 } = _
      unfold ControlLog.commit
      split <;> rfl

/-- What is left after a step: the rest of the list, or nothing after a failed test. -/
theorem DiagOp.exec_todo (op : DiagOp) (now : Int64) (d : DiagData) (w : Worker) :
    (op.exec now d w).2.todo = w.todo ∨ (op.exec now d w).2.todo = [] := by
  cases op with
  | check =>
    change (if d.log.enabled then w else _).todo = _ ∨ (if d.log.enabled then w else _).todo = _
    split
    · exact Or.inl rfl
    · exact Or.inr rfl
  | _ => exact Or.inl rfl

/-- The same step on data that shows the same. -/
theorem DiagOp.exec_shown (op : DiagOp) {d e : DiagData} (h : d.Shown e) (now : Int64)
    (w : Worker) :
    (op.exec now d w).1.Shown (op.exec now e w).1 ∧ (op.exec now d w).2 = (op.exec now e w).2 := by
  obtain ⟨x, hx⟩ := ControlLog.shown_iff.mp h.log
  have henabled : d.log.enabled = e.log.enabled := by rw [hx]
  have hgeneration : d.log.generation = e.log.generation := by rw [hx]
  cases op with
  | add k => exact ⟨h.add k, rfl⟩
  | lastUnknown word => exact ⟨⟨h.counters, rfl, h.controlOnlyLastMeta, h.log⟩, rfl⟩
  | controlOnlyLastMeta word => exact ⟨⟨h.counters, h.lastUnknown, rfl, h.log⟩, rfl⟩
  | capture =>
    refine ⟨h, ?_⟩
    change { w with generation := d.log.generation } = { w with generation := e.log.generation }
    rw [hgeneration]
  | check =>
    refine ⟨h, ?_⟩
    change (if d.log.enabled then w else _) = if e.log.enabled then w else _
    rw [henabled]
  | stamp => exact ⟨h, rfl⟩
  | commit r =>
    refine ⟨⟨h.counters, h.lastUnknown, h.controlOnlyLastMeta, ?_⟩, rfl⟩
    apply ControlLog.shown_iff.mpr
    change ∃ y, e.log.commit w.generation w.us r = { d.log.commit w.generation w.us r with
      suppressed := y }
    rw [hx]
    exact ControlLog.commit_shown d.log x w.generation w.us r

theorem erase_plain {c : DiagCall} (h : ¬c.secret = true) : c.erase = c :=
  if_neg h

theorem DiagState.Shows.call {s t e : DiagState} (h : s.Shows t) {i : Nat} {c : DiagCall}
    (hact : s.act (.call i c) = some e) :
    ∃ f, t.act (.call i c.erase) = some f ∧ e.Shows f := by
  rw [DiagState.act_call] at hact
  by_cases hidle : (s.workers i).todo = []
  · rw [if_pos hidle] at hact
    cases hact
    have hidle' : (t.workers i).todo = [] := by
      rcases h.workers i with heq | hcovers
      · rw [← heq]
        exact hidle
      · obtain ⟨hidden, happ, -⟩ := hcovers.rest
        rw [hidle] at happ
        exact (List.append_eq_nil_iff.mp happ.symm).1
    refine ⟨_, (DiagState.act_call t i _).trans (if_pos hidle'), h.data, h.printed, ?_⟩
    intro j
    by_cases hj : j = i
    · subst hj
      simp only [Function.update_self]
      by_cases hsecret : c.secret = true
      · have hprogram := hiddenProgram_erase hsecret
        exact Or.inr ⟨hprogram.1, hprogram.2⟩
      · rw [erase_plain hsecret]
        exact Or.inl rfl
    · simp only [Function.update_of_ne hj]
      exact h.workers j
  · rw [if_neg hidle] at hact
    cases hact

theorem DiagState.Shows.run {s t e : DiagState} (h : s.Shows t) {i : Nat} {now : Int64}
    (hact : s.act (.run i now) = some e) : ∃ f, t.act (.run i now) = some f ∧ e.Shows f := by
  cases htodo : (s.workers i).todo with
  | nil =>
    rw [DiagState.act_idle htodo] at hact
    cases hact
    have hidle : (t.workers i).todo = [] := by
      rcases h.workers i with heq | hcovers
      · rw [← heq]
        exact htodo
      · obtain ⟨hidden, happ, -⟩ := hcovers.rest
        rw [htodo] at happ
        exact (List.append_eq_nil_iff.mp happ.symm).1
    exact ⟨t, DiagState.act_idle hidle now, h⟩
  | cons op rest =>
    rw [DiagState.act_step htodo] at hact
    cases hact
    rcases h.workers i with heq | hcovers
    · -- the same step on both sides
      have hother : (t.workers i).todo = op :: rest := by
        rw [← heq]
        exact htodo
      have hexec := op.exec_shown h.data now { s.workers i with todo := rest }
      refine ⟨_, DiagState.act_step hother now, ?_, h.printed, ?_⟩
      · rw [← heq]
        exact hexec.1
      · intro j
        by_cases hj : j = i
        · subst hj
          simp only [Function.update_self]
          rw [← heq]
          exact Or.inl hexec.2
        · simp only [Function.update_of_ne hj]
          exact h.workers j
    · obtain ⟨hidden, happ, hhides⟩ := hcovers.rest
      rw [htodo] at happ
      cases hother : (t.workers i).todo with
      | nil =>
        -- the other side has nothing left, and this one hides
        rw [hother, List.nil_append] at happ
        have hop : op.hides = true := hhides op (by rw [← happ]; exact List.mem_cons_self)
        refine ⟨t, DiagState.act_idle hother now, op.exec_hides hop h.data now _, h.printed, ?_⟩
        intro j
        by_cases hj : j = i
        · subst hj
          simp only [Function.update_self]
          refine Or.inr ⟨?_, ?_⟩
          · rw [hother]
            intro op hmem
            cases hmem
          · rw [hother]
            refine ⟨_, (List.nil_append _).symm, ?_⟩
            intro op' hmem
            rcases op.exec_todo now s.data { s.workers j with todo := rest } with heq | heq
            · rw [heq] at hmem
              exact hhides op' (by rw [← happ]; exact List.mem_cons_of_mem _ hmem)
            · rw [heq] at hmem
              cases hmem
        · simp only [Function.update_of_ne hj]
          exact h.workers j
      | cons op' rest' =>
        rw [hother, List.cons_append] at happ
        obtain ⟨rfl, rfl⟩ := List.cons.inj happ
        have hseen : op = .add .controlOnlySeen :=
          hcovers.shared op (by rw [hother]; exact List.mem_cons_self)
        subst hseen
        refine ⟨_, DiagState.act_step hother now, h.data.add _, h.printed, ?_⟩
        intro j
        by_cases hj : j = i
        · subst hj
          simp only [Function.update_self]
          refine Or.inr ⟨?_, hidden, rfl, hhides⟩
          intro op hmem
          exact hcovers.shared op (by rw [hother]; exact List.mem_cons_of_mem _ hmem)
        · simp only [Function.update_of_ne hj]
          exact h.workers j

/-- Switching the log and taking a record from it do not look at the hidden count. -/
theorem DiagState.Shows.console {s t e : DiagState} (h : s.Shows t) {a : DiagAct}
    (ha : a = .freeze ∨ (∃ value, a = .enable value) ∨ a = .drain)
    (hact : s.act a = some e) : ∃ f, t.act a = some f ∧ e.Shows f := by
  obtain ⟨x, hx⟩ := ControlLog.shown_iff.mp h.data.log
  rcases ha with rfl | ⟨value, rfl⟩ | rfl
  · cases hact
    refine ⟨_, rfl, ⟨h.data.counters, h.data.lastUnknown, h.data.controlOnlyLastMeta, ?_⟩,
      h.printed, h.workers⟩
    change _ = { t.data.log with enabled := false, suppressed := 0 }
    rw [hx]
  · cases hact
    refine ⟨_, rfl, ⟨h.data.counters, h.data.lastUnknown, h.data.controlOnlyLastMeta, ?_⟩,
      h.printed, h.workers⟩
    apply ControlLog.shown_iff.mpr
    change ∃ y, t.data.log.enable value = { s.data.log.enable value with suppressed := y }
    rw [hx]
    exact ControlLog.enable_shown s.data.log x value
  · have hcount : t.data.log.count = s.data.log.count := by rw [hx]
    by_cases hempty : s.data.log.count = 0
    · have hs : s.act .drain = some s := by
        simp only [DiagState.act, ControlLog.drain, hempty, if_true]
      have ht : t.act .drain = some t := by
        simp only [DiagState.act, ControlLog.drain, hcount, hempty, if_true]
      rw [hs] at hact
      cases hact
      exact ⟨t, ht, h⟩
    · simp only [DiagState.act, ControlLog.drain, if_neg hempty] at hact
      cases hact
      simp only [DiagState.act, ControlLog.drain, hcount, if_neg hempty]
      refine ⟨_, rfl, ⟨h.data.counters, h.data.lastUnknown, h.data.controlOnlyLastMeta, ?_⟩, ?_,
        h.workers⟩
      · refine ControlLog.shown_iff.mpr ⟨x, ?_⟩
        simp only [hx]
      · change s.printed ++ _ = t.printed ++ _
        rw [h.printed, hx]

theorem DiagState.Shows.act {s t e : DiagState} (h : s.Shows t) {a : DiagAct}
    (hact : s.act a = some e) : ∃ f, t.act a.erase = some f ∧ e.Shows f := by
  cases a with
  | call i c => exact h.call hact
  | run i now => exact h.run hact
  | freeze => exact h.console (Or.inl rfl) hact
  | enable value => exact h.console (Or.inr (Or.inl ⟨value, rfl⟩)) hact
  | drain => exact h.console (Or.inr (Or.inr rfl)) hact

theorem DiagState.Shows.runs {trace : List DiagAct} : ∀ {s t e : DiagState}, s.Shows t →
    s.run trace = some e → ∃ f, t.run (trace.map DiagAct.erase) = some f ∧ e.Shows f := by
  induction trace with
  | nil =>
    intro s t e h hrun
    cases hrun
    exact ⟨t, rfl, h⟩
  | cons a trace ih =>
    intro s t e h hrun
    unfold DiagState.run at hrun ih ⊢
    rw [List.foldlM_cons] at hrun
    cases hact : s.act a with
    | none =>
      rw [hact] at hrun
      cases hrun
    | some s' =>
      rw [hact] at hrun
      obtain ⟨t', hact', h'⟩ := h.act hact
      obtain ⟨f, hf, hshows⟩ := ih h' hrun
      refine ⟨f, ?_, hshows⟩
      rw [List.map_cons, List.foldlM_cons, hact']
      exact hf

/-! ## Stray frames -/

/-- The steps for an Air data PDU that is no complete message of the control channel. -/
def strayProgram (entry : DiagEntry) (header : UInt8) (n : UInt32) : List DiagOp :=
  let probed := if n < 4 then [] else [DiagOp.add .unframedSeen]
  match entry with
  | .controlLogAir =>
    if n ≠ 0 ∧ n ≤ 60 then
      probed ++ [.capture, .check, .stamp, .commit (some
        { us := 0, length := n.toUInt16, origin := 1, header := header, opcode := none
          payload := [] })]
    else []
  | _ => probed

theorem stray_program {entry : DiagEntry}
    (hentry : entry = .controlLogAir ∨ entry = .statusProbeAir) {header : UInt8} {p : List UInt8}
    {n : UInt32} (hframe : header &&& 3 = 2) (hstray : ¬enveloped header p n) :
    (DiagCall.mk entry header (some p) n).program = strayProgram entry header n := by
  have hctl : header &&& 3 ≠ 3 := by
    rw [hframe]
    decide
  have hnone := message?_stray hstray
  have hcommand := command_stray hctl hstray
  have hcarried : (DiagCall.mk entry header (some p) n).carried = some (.pdu header p n) := by
    rcases hentry with rfl | rfl <;> rfl
  have hplain : ¬(DiagCall.mk entry header (some p) n).listed := by
    intro ⟨q, m, hm, _⟩
    rw [hcarried] at hm
    exact Option.some_ne_none _ (hm.symm.trans hnone)
  have hview : (DiagCall.mk entry header (some p) n).view =
      { entry := entry, header := header, length := n, framed := true, enveloped := false
        onLink := false, command := none } := by
    have hlink : (Carried.pdu header p n).onLink = false := by
      simp [Carried.onLink, hctl]
    unfold DiagCall.view
    rw [hcarried]
    simp [hnone, hcommand, hlink]
  rw [program_eq hplain, hview]
  have hprobed : View.probedAir { entry := entry, header := header, length := n, framed := true
                                  enveloped := false, onLink := false, command := none } =
      if n < 4 then [] else [.add .unframedSeen] := by
    simp [View.probedAir, hframe]
  rcases hentry with rfl | rfl
  · change (if true = true ∧ n ≠ 0 ∧ n ≤ 60 then View.probedAir _ ++ _ else []) = _
    rw [hprobed]
    simp only [true_and]
    rfl
  · exact hprobed

/-! ## The diagnostics do not reveal payload -/

/-- Runs of calls that look alike end in the same state. Without its secrets a run ends in the
same state but for the counts of hidden messages, and each secret call has the same steps. -/
theorem diagnostics_hide_payload :
    (∀ (s : DiagState) (t u : List DiagAct), List.Forall₂ DiagAct.Alike t u →
      s.run t = s.run u) ∧
    (∀ (s e : DiagState) (t : List DiagAct), s.run t = some e →
      ∃ f, s.run (t.map DiagAct.erase) = some f ∧ e.data.Shown f.data ∧
        e.printed = f.printed) ∧
    (∀ c : DiagCall, c.secret = true →
      c.program = hiddenProgram c.entry c.view.onLink c.taken) ∧
    (∀ entry, entry = .controlLogAir ∨ entry = .statusProbeAir →
      ∀ (header : UInt8) (p : List UInt8) (n : UInt32), header &&& 3 = 2 →
        ¬enveloped header p n →
        (DiagCall.mk entry header (some p) n).program = strayProgram entry header n) ∧
    ∀ (p : List UInt8) (n : UInt32), safePayload p n ≠ 0 ↔ knownScalar p n = true := by
  refine ⟨fun s t u h => run_alike h s, ?_, fun c h => secret_program h, ?_,
    safePayload_ne_zero_iff⟩
  · intro s e t hrun
    have hstart : s.Shows s := ⟨DiagData.Shown.refl s.data, rfl, fun _ => Or.inl rfl⟩
    obtain ⟨f, hf, hshows⟩ := hstart.runs hrun
    exact ⟨f, hf, hshows.data, hshows.printed⟩
  · intro entry hentry header p n hframe hstray
    exact stray_program hentry hframe hstray

/-- The state after a reset. -/
def DiagState.reset : DiagState :=
  { data :=
      { counters := fun _ => 0, lastUnknown := 0, controlOnlyLastMeta := 0
        log :=
          { records := fun _ => { us := 0, length := 0, origin := 0, header := 0, opcode := none
                                  payload := [] }
            head := 0, tail := 0, count := 0, dropped := 0, suppressed := 0, total := 0
            enabled := false, generation := 0 } }
    workers := fun _ => { todo := [], generation := 0, us := 0 }
    printed := [] }

/-- A setup message in a control-only frame. -/
def setupFrame : DiagCall :=
  { entry := .statusProbeControlOnly, header := 1, payload := some [0, 2, 5, 1, 0, 1, 1, 0x0e]
    length := 8 }

theorem diagnostics_hide_payload_setup :
    DiagState.reset.run
      [.enable true, .call 0 ⟨.controlLogAcl, 0, some [7, 1, 2, 3], 4⟩, .run 0 5] =
      DiagState.reset.run
        [.enable true, .call 0 ⟨.controlLogAcl, 0, some [7, 9, 8, 6], 4⟩, .run 0 5] ∧
    (∃ f, DiagState.reset.run
        ([.call 0 setupFrame, .run 0 0, .run 0 0].map DiagAct.erase) = some f ∧
      f.data.counters .controlOnlySeen = 1) ∧
    setupFrame.program = hiddenProgram .statusProbeControlOnly false true ∧
    (DiagCall.mk .controlLogAir 2 (some [9, 9, 9]) 3).program =
      strayProgram .controlLogAir 2 3 ∧
    (safePayload [13, 1] 2 ≠ 0 ↔ knownScalar [13, 1] 2 = true) := by
  have hall := diagnostics_hide_payload
  refine ⟨?_, ?_, ?_, ?_, hall.2.2.2.2 _ _⟩
  · refine hall.1 _ _ _ (.cons (.same _) (.cons (.call 0 (.view rfl ?_ ?_)) (.cons (.same _) .nil)))
    · intro ⟨p, n, hm, hsafe⟩
      cases hm
      exact hsafe (by decide)
    · intro ⟨p, n, hm, hsafe⟩
      cases hm
      exact hsafe (by decide)
  · obtain ⟨f, hf, hshown, -⟩ := hall.2.1 DiagState.reset _
      [.call 0 setupFrame, .run 0 0, .run 0 0] rfl
    refine ⟨f, hf, ?_⟩
    rw [← hshown.counters _ (by decide) (by decide)]
    decide
  · exact hall.2.2.1 setupFrame (by decide)
  · exact hall.2.2.2.1 _ (Or.inl rfl) 2 [9, 9, 9] 3 (by decide) (by decide)

/-- A secret message that changes more than the counts of hidden messages. -/
theorem setup_frame_counted :
    ¬∀ (s e : DiagState) (t : List DiagAct), s.run t = some e →
      (∀ i c, DiagAct.call i c ∈ t → c.secret = true) →
      ∀ k, k ≠ .setupHidden → k ≠ .controlOnlySetupHidden →
        e.data.counters k = s.data.counters k := by
  intro hclaim
  have hkept := hclaim DiagState.reset _ [.call 0 setupFrame, .run 0 0] rfl ?_ .controlOnlySeen
    (by decide) (by decide)
  · exact absurd hkept (by decide)
  · intro i c hmem
    simp only [List.mem_cons, DiagAct.call.injEq, reduceCtorEq, List.not_mem_nil, or_false] at hmem
    rw [hmem.2]
    decide

end UllReceiver.Diagnostics
