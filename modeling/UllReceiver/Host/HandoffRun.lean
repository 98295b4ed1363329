import UllReceiver.Host.Handoff

/-!
# Runs of the handoff

In every interleaving the console and the keeper never use the controller at the same time, and no
packet of one caller comes between another's question and its packet.
-/

namespace UllReceiver.Host

open Library

namespace Handoff

variable {s s' : Handoff}

/-! ## The owners -/

theorem Owned.consoleStep (h : s.Owned) (hstep : s.consoleStep = some s') : s'.Owned := by
  unfold Handoff.consoleStep at hstep
  split at hstep
  · cases hstep
  · next hpc =>
    cases hstep
    split
    · exact h
    · next hbusy =>
      have hpause := h.pausing (.inl hpc)
      -- The keeper is where its flag is clear, so not at work.
      have haway : s.keeper ≠ .working := fun hk => hbusy (by rw [h.busy, hk]; rfl)
      exact ⟨h.busy, fun _ => hpause, fun _ _ => hpause, fun _ => haway,
        fun hc => ConsolePc.noConfusion hc,
        fun hc => ConsolePc.noConfusion (hpc.symm.trans (h.consoleTry hc)), h.keeperTry⟩
  · next hpc =>
    cases hstep
    exact ⟨h.busy, fun hc => hc.elim nofun nofun, fun _ _ => h.pausing (.inr hpc),
      fun _ => h.away (.inl hpc), nofun,
      fun hc => ConsolePc.noConfusion (hpc.symm.trans (h.consoleTry hc)), h.keeperTry⟩
  · next hpc =>
    cases hstep
    exact ⟨h.busy, fun hc => hc.elim nofun nofun, nofun, (fun hc => hc.elim nofun nofun),
      nofun, fun hc => ConsolePc.noConfusion (hpc.symm.trans (h.consoleTry hc)), h.keeperTry⟩
  · next hpc =>
    split at hstep
    · next hout =>
      cases hstep
      exact ⟨h.busy, fun hc => hc.elim nofun nofun, fun he _ => h.manual he (by rw [hpc]; nofun),
        fun hc => h.away (.inr ⟨h.sending hpc, by rw [hpc]; nofun⟩), nofun,
        fun hc => absurd hout hc, h.keeperTry⟩
    · cases hstep

/-- A keeper that is not at work goes on; it goes to work only when no pause is requested. -/
theorem Owned.keeperTo (h : s.Owned) (hrest : s.keeper ≠ .working) {pc : KeeperPc} {busy : Bool}
    (hbusy : busy = pc.inside) (hwork : pc = .working → s.pauseRequested = false) :
    { s with busy := busy, keeper := pc }.Owned where
  busy := hbusy
  pausing := h.pausing
  manual := h.manual
  away := by
    intro hc hpc
    have hpause := hwork hpc
    rcases hc with hc | ⟨he, hc⟩
    · exact Bool.noConfusion (hpause.symm.trans (h.pausing (.inr hc)))
    · exact Bool.noConfusion (hpause.symm.trans (h.manual he hc))
  sending := h.sending
  consoleTry := h.consoleTry
  keeperTry := fun ht => absurd (h.keeperTry ht) hrest

theorem Owned.keeperStep (h : s.Owned) (hstep : s.keeperStep = some s') : s'.Owned := by
  unfold Handoff.keeperStep at hstep
  have hbusy := h.busy
  cases hpc : s.keeper with
  | working =>
    rw [hpc] at hstep
    cases hstep
  | stop | enter | retreat | leaving =>
    rw [hpc] at hstep
    cases hstep
    exact h.keeperTo (by rw [hpc]; nofun) rfl nofun
  | resting =>
    rw [hpc] at hstep hbusy
    cases hstep
    exact h.keeperTo (by rw [hpc]; nofun) hbusy nofun
  | top | recheck =>
    rw [hpc] at hstep hbusy
    cases hstep
    apply h.keeperTo (by rw [hpc]; nofun)
    · rw [hbusy]
      split
      · rfl
      · rfl
    · split
      · nofun
      · nofun
  | topPause | recheckPause =>
    rw [hpc] at hstep hbusy
    cases hstep
    apply h.keeperTo (by rw [hpc]; nofun)
    · rw [hbusy]
      split
      · rfl
      · rfl
    · split
      · nofun
      · next hpause => exact fun _ => Bool.not_eq_true _ ▸ hpause

/-- Nothing but a caller's own steps in `ull_hci_try_send` has changed. -/
theorem Owned.tries (h : s.Owned) {tries : Sender → TryPc} {sender : Bool} {calls : List HciCall}
    (hconsole : tries .console ≠ .out → s.console = .sending)
    (hkeeper : tries .keeper ≠ .out → s.keeper = .working) :
    { s with sender := sender, tries := tries, calls := calls }.Owned :=
  ⟨h.busy, h.pausing, h.manual, h.away, h.sending, hconsole, hkeeper⟩

/-- A caller that has begun goes on. -/
theorem Owned.setTry (h : s.Owned) {p : Sender} (pc : TryPc) {sender : Bool}
    {calls : List HciCall} (hconsole : p = .console → s.console = .sending)
    (hkeeper : p = .keeper → s.keeper = .working) :
    { s.setTry p pc with sender := sender, calls := calls }.Owned := by
  apply h.tries
  · intro ht
    by_cases hp : p = .console
    · exact hconsole hp
    · exact h.consoleTry fun hout => ht ((s.setTry_other pc (Ne.symm hp)).trans hout)
  · intro ht
    by_cases hp : p = .keeper
    · exact hkeeper hp
    · exact h.keeperTry fun hout => ht ((s.setTry_other pc (Ne.symm hp)).trans hout)

theorem Owned.attemptStep (h : s.Owned) {p : Sender} {available : Bool}
    (hstep : s.attemptStep p available = some s') : s'.Owned := by
  have hconsole : s.tries p ≠ .out → p = .console → s.console = .sending := by
    rintro hp rfl
    exact h.consoleTry hp
  have hkeeper : s.tries p ≠ .out → p = .keeper → s.keeper = .working := by
    rintro hp rfl
    exact h.keeperTry hp
  unfold Handoff.attemptStep at hstep
  cases hpc : s.tries p with
  | out =>
    rw [hpc] at hstep
    cases hstep
  | asked data =>
    have hp : s.tries p ≠ .out := by rw [hpc]; nofun
    rw [hpc] at hstep
    cases hstep
    split
    · exact h.setTry _ (hconsole hp) (hkeeper hp)
    · exact h.setTry _ (hconsole hp) (hkeeper hp)
  | locked | granted | unlocking =>
    have hp : s.tries p ≠ .out := by rw [hpc]; nofun
    rw [hpc] at hstep
    cases hstep
    exact h.setTry _ (hconsole hp) (hkeeper hp)

theorem owned_boot : boot.Owned where
  busy := rfl
  pausing := fun hc => hc.elim nofun nofun
  manual := nofun
  away := fun hc => hc.elim nofun nofun
  sending := nofun
  consoleTry := fun hc => absurd rfl hc
  keeperTry := fun hc => absurd rfl hc

theorem Owned.step (h : s.Owned) {a : HandoffAction} (hstep : Step s a s') : s'.Owned := by
  unfold Step at hstep
  cases a with
  | ownerLine auto =>
    unfold act at hstep
    dsimp only at hstep
    split at hstep
    · next hfree =>
      cases hstep
      have hout : s.tries .console ≠ .out → False := fun hc =>
        ConsolePc.noConfusion (hfree.symm.trans (h.consoleTry hc))
      cases auto with
      | true =>
        exact ⟨h.busy, fun hc => hc.elim nofun nofun, fun _ hc => absurd rfl hc,
          fun hc => hc.elim nofun fun hc => absurd rfl hc.2, nofun, fun hc => (hout hc).elim,
          h.keeperTry⟩
      | false =>
        exact ⟨h.busy, fun _ => rfl, fun _ _ => rfl,
          fun hc => hc.elim nofun fun hc => h.away (.inr ⟨hc.1, by rw [hfree]; nofun⟩), nofun,
          fun hc => (hout hc).elim, h.keeperTry⟩
    · cases hstep
  | packetLine =>
    unfold act at hstep
    dsimp only at hstep
    split at hstep
    · next hfree =>
      cases hstep
      have hout : s.tries .console ≠ .out → False := fun hc =>
        ConsolePc.noConfusion (hfree.symm.trans (h.consoleTry hc))
      cases henabled : s.enabled with
      | true =>
        exact ⟨h.busy, fun hc => hc.elim nofun nofun, nofun, (fun hc => hc.elim nofun nofun), nofun,
          fun hc => (hout hc).elim, h.keeperTry⟩
      | false =>
        have haway := h.away (.inr ⟨henabled, by rw [hfree]; nofun⟩)
        exact ⟨h.busy, fun hc => hc.elim nofun nofun,
          fun _ _ => h.manual henabled (by rw [hfree]; nofun), fun _ => haway, fun _ => rfl,
          fun hc => (hout hc).elim, h.keeperTry⟩
    · cases hstep
  | console => exact h.consoleStep hstep
  | keeper => exact h.keeperStep hstep
  | finish =>
    unfold act at hstep
    dsimp only at hstep
    split at hstep
    · next hpc =>
      cases hstep
      have hbusy := h.busy
      rw [hpc.1] at hbusy
      exact ⟨hbusy, h.pausing, h.manual, (fun _ => nofun), h.sending, h.consoleTry,
        fun hc => absurd hpc.2 hc⟩
    · cases hstep
  | begin p data =>
    unfold act at hstep
    dsimp only at hstep
    split at hstep
    · next hbegin =>
      cases hstep
      have hmay := hbegin.2
      refine h.setTry _ ?_ ?_
      · rintro rfl
        exact beq_iff_eq.mp hmay
      · rintro rfl
        exact beq_iff_eq.mp (Bool.and_eq_true_iff.mp hmay).1
    · cases hstep
  | attempt p available => exact h.attemptStep hstep

/-! ## The flag of the sender -/

theorem prompted_nil : Prompted [] := by
  intro before p data after hsplit
  have hmem : HciCall.packet p data ∈ ([] : List HciCall) := by
    rw [hsplit]
    exact List.mem_append_right _ List.mem_cons_self
  cases hmem

/-- A question may come at any time. -/
theorem Prompted.available {calls : List HciCall} (h : Prompted calls) (p : Sender) (yes : Bool) :
    Prompted (calls ++ [.available p yes]) := by
  intro before q data after hsplit
  rcases List.eq_nil_or_concat after with rfl | ⟨rest, last, rfl⟩
  · have hlast := (List.append_inj' hsplit rfl).2
    cases hlast
  · rw [List.concat_eq_append, ← List.cons_append, ← List.append_assoc] at hsplit
    exact h before q data rest (List.append_inj' hsplit rfl).1

theorem Prompted.packet {calls front : List HciCall} (h : Prompted calls) {p : Sender}
    (hlast : calls = front ++ [.available p true]) (data : List UInt8) :
    Prompted (calls ++ [.packet p data]) := by
  intro before q other after hsplit
  rcases List.eq_nil_or_concat after with rfl | ⟨rest, last, rfl⟩
  · obtain ⟨hbefore, hpacket⟩ := List.append_inj' hsplit rfl
    cases hpacket
    exact ⟨front, hbefore.symm.trans hlast⟩
  · rw [List.concat_eq_append, ← List.cons_append, ← List.append_assoc] at hsplit
    exact h before q other rest (List.append_inj' hsplit rfl).1

/-- Steps outside of `ull_hci_try_send`. -/
theorem Locked.congr (h : s.Locked) (hsender : s'.sender = s.sender) (htries : s'.tries = s.tries)
    (hcalls : s'.calls = s.calls) : s'.Locked := by
  obtain ⟨hunlocked, halone, hgranted, hprompted⟩ := h
  rw [← hsender, ← htries] at hunlocked
  rw [← htries] at halone
  rw [← htries, ← hcalls] at hgranted
  rw [← hcalls] at hprompted
  exact ⟨hunlocked, halone, hgranted, hprompted⟩

/-- A caller that does not hold the flag goes on without it. -/
theorem Locked.outside (h : s.Locked) {p : Sender} {pc : TryPc} (hpc : pc.holds = false) :
    (s.setTry p pc).Locked := by
  have hother : ∀ q, ((s.setTry p pc).tries q).holds = true → q ≠ p := by
    rintro q hq rfl
    rw [setTry_self, hpc] at hq
    exact Bool.noConfusion hq
  refine ⟨fun hs q => ?_, fun q r hq hr => ?_, fun q data hq => ?_, h.prompted⟩
  · by_cases hqp : q = p
    · rw [hqp, setTry_self, hpc]
    · rw [setTry_other s pc hqp]
      exact h.unlocked hs q
  · rw [setTry_other s pc (hother q hq)] at hq
    rw [setTry_other s pc (hother r hr)] at hr
    exact h.alone q r hq hr
  · rw [setTry_other s pc (hother q (by rw [hq]; rfl))] at hq
    exact h.granted q data hq

/-- What the holder of the flag does leaves all others without it. -/
theorem locked_holder {p : Sender} {pc : TryPc} {calls : List HciCall}
    (hothers : ∀ q, q ≠ p → (s.tries q).holds = false) (hprompted : Prompted calls)
    (hgranted : ∀ data, pc = .granted data → ∃ front, calls = front ++ [.available p true])
    {sender : Bool} (hsender : sender = pc.holds) :
    { s.setTry p pc with sender := sender, calls := calls }.Locked := by
  have honly : ∀ q, ((s.setTry p pc).tries q).holds = true → q = p := by
    intro q hq
    by_contra hqp
    rw [setTry_other s pc hqp, hothers q hqp] at hq
    exact Bool.noConfusion hq
  refine ⟨fun hs q => ?_, fun q r hq hr => (honly q hq).trans (honly r hr).symm,
    fun q data hq => ?_, hprompted⟩
  · by_cases hqp : q = p
    · show ((s.setTry p pc).tries q).holds = false
      rw [hqp, setTry_self, ← hsender]
      exact hs
    · show ((s.setTry p pc).tries q).holds = false
      rw [setTry_other s pc hqp, hothers q hqp]
  · have hqp := honly q (by
      show (({ s.setTry p pc with sender := sender, calls := calls } : Handoff).tries q).holds = true
      rw [hq]
      rfl)
    have hpc : (s.setTry p pc).tries q = .granted data := hq
    rw [hqp, setTry_self] at hpc
    rw [hqp]
    exact hgranted data hpc

theorem Locked.attemptStep (h : s.Locked) {p : Sender} {available : Bool}
    (hstep : s.attemptStep p available = some s') : s'.Locked := by
  unfold Handoff.attemptStep at hstep
  have halone : (s.tries p).holds = true → ∀ q, q ≠ p → (s.tries q).holds = false := by
    intro hp q hqp
    cases hq : (s.tries q).holds with
    | false => rfl
    | true => exact absurd (h.alone q p hq hp) hqp
  cases hpc : s.tries p with
  | out =>
    rw [hpc] at hstep
    cases hstep
  | asked data =>
    rw [hpc] at hstep
    cases hstep
    split
    · exact h.outside rfl
    · next hfree =>
      exact locked_holder (fun q _ => h.unlocked (Bool.not_eq_true _ ▸ hfree) q) h.prompted (fun _ hc => by cases hc) rfl
  | locked data =>
    have hothers := halone (by rw [hpc]; rfl)
    rw [hpc] at hstep
    cases hstep
    have hheld : s.sender = true := by
      by_contra hfree
      have hno := h.unlocked (Bool.not_eq_true _ ▸ hfree) p
      rw [hpc] at hno
      exact Bool.noConfusion hno
    cases available with
    | true =>
      exact locked_holder hothers (h.prompted.available p true) (fun _ _ => ⟨s.calls, rfl⟩) hheld
    | false => exact locked_holder hothers (h.prompted.available p false) (fun _ hc => by cases hc) hheld
  | granted data =>
    have hothers := halone (by rw [hpc]; rfl)
    rw [hpc] at hstep
    cases hstep
    have hheld : s.sender = true := by
      by_contra hfree
      have hno := h.unlocked (Bool.not_eq_true _ ▸ hfree) p
      rw [hpc] at hno
      exact Bool.noConfusion hno
    obtain ⟨front, hlast⟩ := h.granted p data hpc
    exact locked_holder hothers (h.prompted.packet hlast data) (fun _ hc => by cases hc) hheld
  | unlocking =>
    have hothers := halone (by rw [hpc]; rfl)
    rw [hpc] at hstep
    cases hstep
    exact locked_holder hothers h.prompted (fun _ hc => by cases hc) rfl

theorem Locked.step (h : s.Locked) {a : HandoffAction} (hstep : Step s a s') : s'.Locked := by
  unfold Step at hstep
  cases a with
  | ownerLine | packetLine | finish =>
    unfold act at hstep
    dsimp only at hstep
    split at hstep
    · cases hstep
      exact h.congr rfl rfl rfl
    · cases hstep
  | console =>
    unfold act consoleStep at hstep
    dsimp only at hstep
    split at hstep
    · cases hstep
    · cases hstep
      split
      · exact h
      · exact h.congr rfl rfl rfl
    · cases hstep
      exact h.congr rfl rfl rfl
    · cases hstep
      exact h.congr rfl rfl rfl
    · split at hstep
      · cases hstep
        exact h.congr rfl rfl rfl
      · cases hstep
  | keeper =>
    unfold act keeperStep at hstep
    dsimp only at hstep
    split at hstep
    all_goals
      cases hstep
    all_goals exact h.congr rfl rfl rfl
  | begin p data =>
    unfold act at hstep
    dsimp only at hstep
    split at hstep
    · cases hstep
      exact h.outside rfl
    · cases hstep
  | attempt p available => exact h.attemptStep hstep

theorem locked_boot : boot.Locked :=
  ⟨fun _ _ => rfl, nofun, nofun, prompted_nil⟩

theorem run_invariant {trace : List HandoffAction} (hrun : Run Step boot trace s) :
    s.Owned ∧ s.Locked :=
  ⟨hrun.invariant Owned owned_boot fun _ _ _ h hstep => h.step hstep,
    hrun.invariant Locked locked_boot fun _ _ _ h hstep => h.step hstep⟩

/-! ## A takeover comes to its end -/

/-- A step that the keeper or the console takes, so that nobody else is needed. -/
def ofOwners : HandoffAction → Bool
  | .console | .keeper | .finish => true
  | .attempt p _ => p == .keeper
  | .ownerLine _ | .packetLine | .begin _ _ => false

/-- A run of the owners alone that leaves the console waiting. -/
def Retires (s s' : Handoff) : Prop :=
  ∃ trace, Run Step s trace s' ∧ (∀ a ∈ trace, ofOwners a = true) ∧ s'.console = s.console

theorem Retires.refl (s : Handoff) : Retires s s :=
  ⟨[], .nil, nofun, rfl⟩

theorem Retires.trans {t u : Handoff} (h : Retires s t) (k : Retires t u) : Retires s u := by
  obtain ⟨l, hrun, howners, hsame⟩ := h
  obtain ⟨m, hrun', howners', hsame'⟩ := k
  refine ⟨l ++ m, hrun.append hrun', fun a ha => ?_, hsame'.trans hsame⟩
  rcases List.mem_append.mp ha with ha | ha
  · exact howners a ha
  · exact howners' a ha

theorem Retires.one {a : HandoffAction} (hstep : Step s a s') (howners : ofOwners a = true)
    (hsame : s'.console = s.console) : Retires s s' :=
  ⟨[a], Run.single hstep, fun _ hb => List.mem_singleton.mp hb ▸ howners, hsame⟩

/-- The keeper gets out of `ull_hci_try_send`: no try waits for the flag. -/
theorem keeper_tried (s : Handoff) :
    ∃ s', Retires s s' ∧ s'.tries .keeper = .out ∧ s'.keeper = s.keeper := by
  -- A try that has the flag only has to unset it.
  have hunlock : ∀ t : Handoff, t.tries .keeper = .unlocking →
      ∃ t', Retires t t' ∧ t'.tries .keeper = .out ∧ t'.keeper = t.keeper := by
    intro t ht
    refine ⟨{ t.setTry .keeper .out with sender := false }, ?_, setTry_self t .keeper .out, rfl⟩
    have hstep : Step t (.attempt .keeper false) { t.setTry .keeper .out with sender := false } := by
      show t.attemptStep .keeper false = _
      unfold attemptStep
      rw [ht]
    exact .one hstep rfl rfl
  have hasked : ∀ t : Handoff, ∀ data, t.tries .keeper = .locked data →
      ∃ t', Retires t t' ∧ t'.tries .keeper = .out ∧ t'.keeper = t.keeper := by
    intro t data ht
    let u : Handoff := { t.setTry .keeper .unlocking with
      calls := t.calls ++ [.available .keeper false] }
    have hstep : Step t (.attempt .keeper false) u := by
      show t.attemptStep .keeper false = _
      unfold attemptStep
      rw [ht]
      rfl
    obtain ⟨t', hretires, hout, hsame⟩ := hunlock u (setTry_self t .keeper .unlocking)
    exact ⟨t', (Retires.one hstep rfl rfl).trans hretires, hout, hsame⟩
  cases hpc : s.tries .keeper with
  | out => exact ⟨s, .refl s, hpc, rfl⟩
  | unlocking => exact hunlock s hpc
  | locked data => exact hasked s data hpc
  | granted data =>
    let u : Handoff := { s.setTry .keeper .unlocking with
      calls := s.calls ++ [.packet .keeper data] }
    have hstep : Step s (.attempt .keeper false) u := by
      show s.attemptStep .keeper false = _
      unfold attemptStep
      rw [hpc]
    obtain ⟨t', hretires, hout, hsame⟩ := hunlock u (setTry_self s .keeper .unlocking)
    exact ⟨t', (Retires.one hstep rfl rfl).trans hretires, hout, hsame⟩
  | asked data =>
    cases hsender : s.sender with
    | true =>
      have hstep : Step s (.attempt .keeper false) (s.setTry .keeper .out) := by
        show s.attemptStep .keeper false = _
        unfold attemptStep
        rw [hpc, hsender]
        rfl
      exact ⟨_, .one hstep rfl rfl, setTry_self .., rfl⟩
    | false =>
      let u : Handoff := { s.setTry .keeper (.locked data) with sender := true }
      have hstep : Step s (.attempt .keeper false) u := by
        show s.attemptStep .keeper false = _
        unfold attemptStep
        rw [hpc, hsender]
        rfl
      obtain ⟨t', hretires, hout, hsame⟩ := hasked u data (setTry_self s .keeper (.locked data))
      exact ⟨t', (Retires.one hstep rfl rfl).trans hretires, hout, hsame⟩

/-- The step that clears the flag `busy`. -/
theorem keeper_clears (hpc : s.keeper = .retreat ∨ s.keeper = .leaving) :
    ∃ s', Retires s s' ∧ s'.busy = false := by
  rcases hpc with hpc | hpc
  · have hstep : Step s .keeper { s with busy := false, keeper := .top } := by
      show s.keeperStep = _
      unfold keeperStep
      rw [hpc]
    exact ⟨_, .one hstep rfl rfl, rfl⟩
  · have hstep : Step s .keeper { s with busy := false, keeper := .resting } := by
      show s.keeperStep = _
      unfold keeperStep
      rw [hpc]
    exact ⟨_, .one hstep rfl rfl, rfl⟩

theorem keeper_rechecks (hpc : s.keeper = .recheckPause) (hpause : s.pauseRequested = true) :
    ∃ s', Retires s s' ∧ s'.busy = false := by
  have hstep : Step s .keeper { s with keeper := .retreat } := by
    show s.keeperStep = _
    unfold keeperStep
    rw [hpc, hpause]
    rfl
  obtain ⟨s', hretires, hbusy⟩ := keeper_clears (s := { s with keeper := .retreat }) (.inl rfl)
  exact ⟨s', (Retires.one hstep rfl rfl).trans hretires, hbusy⟩

/-- A keeper that is asked to pause comes to the point where it is not busy. -/
theorem keeper_retires (h : s.Owned) (hpause : s.pauseRequested = true) :
    ∃ s', Retires s s' ∧ s'.busy = false := by
  have hbusy := h.busy
  cases hpc : s.keeper with
  | top | topPause | stop | enter | resting =>
    rw [hpc] at hbusy
    exact ⟨s, .refl s, hbusy⟩
  | retreat => exact keeper_clears (.inl hpc)
  | leaving => exact keeper_clears (.inr hpc)
  | recheckPause => exact keeper_rechecks hpc hpause
  | recheck =>
    cases henabled : s.enabled with
    | true =>
      have hstep : Step s .keeper { s with keeper := .recheckPause } := by
        show s.keeperStep = _
        unfold keeperStep
        rw [hpc, henabled]
        rfl
      obtain ⟨s', hretires, hclear⟩ :=
        keeper_rechecks (s := { s with keeper := .recheckPause }) rfl hpause
      exact ⟨s', (Retires.one hstep rfl rfl).trans hretires, hclear⟩
    | false =>
      have hstep : Step s .keeper { s with keeper := .retreat } := by
        show s.keeperStep = _
        unfold keeperStep
        rw [hpc, henabled]
        rfl
      obtain ⟨s', hretires, hclear⟩ := keeper_clears (s := { s with keeper := .retreat }) (.inl rfl)
      exact ⟨s', (Retires.one hstep rfl rfl).trans hretires, hclear⟩
  | working =>
    obtain ⟨t, htried, hout, hsame⟩ := keeper_tried s
    have hstep : Step t .finish { t with keeper := .leaving } := by
      show t.act .finish = _
      unfold act
      dsimp only
      rw [if_pos ⟨hsame.trans hpc, hout⟩]
    obtain ⟨s', hretires, hclear⟩ := keeper_clears (s := { t with keeper := .leaving }) (.inr rfl)
    exact ⟨s', htried.trans ((Retires.one hstep rfl rfl).trans hretires), hclear⟩

/-- A console that waits for the keeper gets the radio by steps of the two alone. -/
theorem takeover_completes (h : s.Owned) (hwaiting : s.console = .waiting) :
    ∃ trace s', Run Step s trace s' ∧ (∀ a ∈ trace, ofOwners a = true) ∧ s'.console = .free ∧
      s'.enabled = false := by
  obtain ⟨t, ⟨trace, hrun, howners, hsame⟩, hbusy⟩ := keeper_retires h (h.pausing (.inl hwaiting))
  have hstep : Step t .console { t with console := .disabling } := by
    show t.consoleStep = _
    unfold consoleStep
    rw [hsame.trans hwaiting, hbusy]
    rfl
  have hlast : Step { t with console := .disabling } .console
      { t with enabled := false, console := .free } := rfl
  refine ⟨trace ++ [.console] ++ [.console], _, (hrun.snoc hstep).snoc hlast, ?_, rfl, rfl⟩
  intro a ha
  rw [List.append_assoc] at ha
  rcases List.mem_append.mp ha with ha | ha
  · exact howners a ha
  · have hconsole : a = .console := by
      rcases List.mem_cons.mp ha with ha | ha
      · exact ha
      · exact List.mem_singleton.mp ha
    rw [hconsole]
    rfl

/-- In every interleaving of the console, the keeper and the timer of the pump: a packet of the
console is on its way only while the keeper is disabled and away, and one of the keeper only while
it has the radio, which is never cut off by a takeover; of the three at most one uses the host
interface, and each packet follows directly on its sender's own question, answered with yes. A
takeover that waits for the keeper can always come to its end. -/
theorem handoff_exclusive {trace : List HandoffAction} (hrun : Run Step boot trace s) :
    (s.tries .console ≠ .out → s.enabled = false ∧ s.keeper ≠ .working) ∧
      (s.tries .keeper ≠ .out → s.keeper = .working) ∧
      (s.keeper = .working → s.console ≠ .sending ∧ (s.enabled = true ∨ s.console = .resuming)) ∧
      (∀ p q, (s.tries p).holds = true → (s.tries q).holds = true → p = q) ∧
      Prompted s.calls ∧
      (s.console = .waiting → ∃ actions s', Run Step s actions s' ∧
        (∀ a ∈ actions, ofOwners a = true) ∧ s'.console = .free ∧ s'.enabled = false) := by
  obtain ⟨h, hlocked⟩ := run_invariant hrun
  refine ⟨fun htry => ?_, h.keeperTry, fun hworking => ?_, hlocked.alone, hlocked.prompted,
    takeover_completes h⟩
  · have hsending := h.consoleTry htry
    have hmanual := h.sending hsending
    exact ⟨hmanual, h.away (.inr ⟨hmanual, by rw [hsending]; nofun⟩)⟩
  · have hbusy : s.enabled = false → s.console ≠ .resuming → False := fun hmanual hresuming =>
      h.away (.inr ⟨hmanual, hresuming⟩) hworking
    refine ⟨fun hsending => hbusy (h.sending hsending) (by rw [hsending]; nofun), ?_⟩
    by_cases henabled : s.enabled = true
    · exact .inl henabled
    · exact .inr (Classical.byContradiction fun hresuming =>
        hbusy (Bool.not_eq_true _ ▸ henabled) hresuming)

/-- The console takes the radio from a keeper at work and sends a packet. -/
def takeover : List HandoffAction :=
  [.keeper, .keeper, .keeper, .keeper, .keeper, .ownerLine false, .console, .finish, .keeper,
    .console, .console, .packetLine, .begin .console [1, 3, 12, 0], .attempt .console true,
    .attempt .console true, .attempt .console true]

theorem handoff_exclusive_takeover :
    ∃ s, Run Step boot takeover s ∧ s.enabled = false ∧ s.keeper ≠ .working ∧
      s.calls = [.available .console true, .packet .console [1, 3, 12, 0]] ∧ Prompted s.calls := by
  obtain ⟨s, hs⟩ : ∃ s, takeover.foldlM act boot = some s := ⟨_, rfl⟩
  have hrun : Run Step boot takeover s := Run.of_foldlM hs
  have hcalls : s.calls = [.available .console true, .packet .console [1, 3, 12, 0]] ∧
      s.tries .console = .unlocking := by
    cases hs
    exact ⟨rfl, rfl⟩
  obtain ⟨hconsole, -, -, -, hprompted, -⟩ := handoff_exclusive hrun
  obtain ⟨hmanual, haway⟩ := hconsole (by rw [hcalls.2]; nofun)
  exact ⟨s, hrun, hmanual, haway, hcalls.1, hprompted⟩

end Handoff

end UllReceiver.Host
