import Mathlib
import UllReceiver.Trial.Account
import UllReceiver.Trial.FrameRun

/-!
# Cooldown and warm-up of the automatic repeats

What lies between the start of a cooldown and the next automatic repeat, and before the first one.
-/

namespace UllReceiver.Trial

open Air Audio Parent Radio

variable {W : Type} {P : Platform W} {ms : W → Nat}

/-! ## Steady events -/

/-- Fifty steady events in a row, with nothing that disturbs among them. -/
def SettledIn (log : PolicyLog) : Prop :=
  ∃ newer row older, log = newer ++ row ++ older ∧
    (∀ e ∈ row, e.2 ≠ .disturbed ∧ e.2 ≠ .cooled ∧ e.2 ≠ .rearmed) ∧
    50 ≤ row.countP fun e => e.2 = .steady

/-- The steady events since the newest that disturbed. -/
def steadyRow : PolicyLog → Nat
  | [] => 0
  | (_, .steady) :: log => steadyRow log + 1
  | (_, .disturbed) :: _ | (_, .cooled) :: _ | (_, .rearmed) :: _ => 0
  | _ :: log => steadyRow log

/-- The millisecond of the newest start of a cooldown. -/
def cooledAt : PolicyLog → Option Nat
  | [] => none
  | (t, .cooled) :: _ => some t
  | _ :: log => cooledAt log

theorem SettledIn.cons {log : PolicyLog} (h : SettledIn log) (e : Nat × PolicyEvent) :
    SettledIn (e :: log) := by
  obtain ⟨newer, row, older, heq, hrow, hcount⟩ := h
  exact ⟨e :: newer, row, older, congrArg (e :: ·) heq, hrow, hcount⟩

/-- The row ends at the start of the cooldown. -/
theorem steadyRow_cooled (t : Nat) (older newer : PolicyLog) :
    ∃ row rest, newer = row ++ rest ∧
      (∀ e ∈ row, e.2 ≠ .disturbed ∧ e.2 ≠ .cooled ∧ e.2 ≠ .rearmed) ∧
      (row.countP fun e => e.2 = .steady) = steadyRow (newer ++ (t, .cooled) :: older) := by
  induction newer with
  | nil => exact ⟨[], [], rfl, fun _ he => (nomatch he), rfl⟩
  | cons e newer ih =>
    obtain ⟨row, rest, heq, hrow, hcount⟩ := ih
    obtain ⟨at_, event⟩ := e
    have hlonger (h : event ≠ .disturbed ∧ event ≠ .cooled ∧ event ≠ .rearmed) :
        ∀ e ∈ (at_, event) :: row, e.2 ≠ .disturbed ∧ e.2 ≠ .cooled ∧ e.2 ≠ .rearmed := by
      intro e he
      rcases List.mem_cons.mp he with rfl | hold
      · exact h
      · exact hrow e hold
    cases event with
    | disturbed | cooled | rearmed => exact ⟨[], _, rfl, fun _ he => (nomatch he), rfl⟩
    | steady =>
      refine ⟨_ :: row, rest, congrArg (_ :: ·) heq, hlonger (by decide), ?_⟩
      rw [List.countP_cons_of_pos (by simp), hcount]
      rfl
    | sent | asked | heard =>
      refine ⟨_ :: row, rest, congrArg (_ :: ·) heq, hlonger (by simp), ?_⟩
      rw [List.countP_cons_of_neg (by simp), hcount]
      rfl

theorem settledIn_of_row {t : Nat} {newer older : PolicyLog}
    (h : 50 ≤ steadyRow (newer ++ (t, .cooled) :: older)) : SettledIn newer := by
  obtain ⟨row, rest, heq, hrow, hcount⟩ := steadyRow_cooled t older newer
  exact ⟨[], row, rest, heq, hrow, hcount ▸ h⟩

/-- The newest start is no older than any other. -/
theorem cooledAt_ge {t : Nat} {newer older : PolicyLog}
    (hsorted : (newer ++ (t, PolicyEvent.cooled) :: older).Pairwise
      fun newer older => older.1 ≤ newer.1) :
    ∃ newest, cooledAt (newer ++ (t, .cooled) :: older) = some newest ∧ t ≤ newest := by
  induction newer with
  | nil => exact ⟨t, rfl, Nat.le_refl t⟩
  | cons e newer ih =>
    obtain ⟨hnewest, hrest⟩ := List.pairwise_cons.mp hsorted
    obtain ⟨at_, event⟩ := e
    cases event with
    | cooled =>
      exact ⟨at_, rfl, hnewest (t, .cooled) (List.mem_append_right _ List.mem_cons_self)⟩
    | _ => exact ih hrest

theorem cooledAt_mem {log : PolicyLog} {t : Nat} (h : cooledAt log = some t) :
    (t, .cooled) ∈ log := by
  induction log with
  | nil => cases h
  | cons e log ih =>
    obtain ⟨first, event⟩ := e
    cases event with
    | cooled =>
      rw [← Option.some.inj h]
      exact List.mem_cons_self
    | _ => exact List.mem_cons_of_mem _ (ih h)

/-! ## The cooldown -/

structure CooldownInv (log : PolicyLog) (v : RetryView) : Prop where
  /-- While it lasts, the counter and the stamp tell of the log. -/
  lasts : v.cooldown = true →
    v.stable.toNat ≤ steadyRow log ∧ ∃ t, cooledAt log = some t ∧ v.since = UInt32.ofNat t
  past : v.cooldown = false → v.blocked = false → ∀ newer start older,
    log = newer ++ (start, .cooled) :: older → (∀ e ∈ newer, e.2 ≠ .rearmed) →
      SettledIn newer ∧ ∃ e ∈ newer, start + 250 ≤ e.1

theorem CooldownInv.still {log : PolicyLog} {v v' : RetryView} {now : UInt32}
    (h : CooldownInv log v) (hstep : ViewStep now none v v') : CooldownInv log v' := by
  cases hstep with
  | still => exact h
  | block => exact ⟨fun hon => (nomatch hon), fun _ hopen => (nomatch hopen)⟩

/-- What is over stays over. -/
theorem CooldownInv.later {log : PolicyLog} {v : RetryView} (h : CooldownInv log v)
    {e : Nat × PolicyEvent} (he : e.2 ≠ .cooled) (hoff : v.cooldown = false)
    (hopen : v.blocked = false) (newer : PolicyLog) (start : Nat) (older : PolicyLog)
    (heq : e :: log = newer ++ (start, .cooled) :: older) (hsession : ∀ e ∈ newer, e.2 ≠ .rearmed) :
    SettledIn newer ∧ ∃ e ∈ newer, start + 250 ≤ e.1 := by
  cases newer with
  | nil =>
    rw [(List.cons.inj heq).1] at he
    exact absurd rfl he
  | cons first newer =>
    obtain ⟨hsettled, e', he', hlate⟩ := h.past hoff hopen newer start older (List.cons.inj heq).2
      fun e he => hsession e (List.mem_cons_of_mem _ he)
    exact ⟨hsettled.cons first, e', List.mem_cons_of_mem _ he', hlate⟩

/-- An event that leaves the cooldown as it is. -/
theorem CooldownInv.same {log : PolicyLog} {v v' : RetryView} {e : Nat × PolicyEvent}
    (h : CooldownInv log v) (he : e.2 ≠ .cooled) (hcooldown : v'.cooldown = v.cooldown)
    (hblocked : v'.blocked = v.blocked) (hsince : v'.since = v.since)
    (hstable : v.cooldown = true → v'.stable.toNat ≤ steadyRow (e :: log)) :
    CooldownInv (e :: log) v' := by
  refine ⟨fun hon => ?_, fun hoff hopen => ?_⟩
  · rw [hcooldown] at hon
    obtain ⟨_, t, hat, hstamp⟩ := h.lasts hon
    refine ⟨hstable hon, t, ?_, hsince.trans hstamp⟩
    obtain ⟨first, event⟩ := e
    cases event with
    | cooled => exact absurd rfl he
    | _ => exact hat
  · rw [hcooldown] at hoff
    rw [hblocked] at hopen
    exact h.later he hoff hopen

theorem elapsed {now t start : Nat} (hstart : start ≤ t) (hpast : t ≤ now)
    (h : ¬UInt32.ofNat now - UInt32.ofNat t < 250) : start + 250 ≤ now := by
  rw [UInt32.lt_iff_toNat_lt, UInt32.toNat_sub, UInt32.toNat_ofNat', UInt32.toNat_ofNat'] at h
  change ¬(4294967296 - t % 4294967296 + now % 4294967296) % 4294967296 < 250 at h
  omega

/-- Where a repeat is claimed, every cooldown of the session is over. -/
theorem CooldownInv.claimed {log : PolicyLog} {v : RetryView} {t : Nat}
    (h : CooldownInv log v) (hsorted : log.Pairwise fun newer older => older.1 ≤ newer.1)
    (honward : ∀ e ∈ log, e.1 ≤ t) (hopen : ¬v.Holds (UInt32.ofNat t))
    (hblocked : v.blocked = false) (newer : PolicyLog) (start : Nat) (older : PolicyLog)
    (heq : log = newer ++ (start, .cooled) :: older) (hsession : ∀ e ∈ newer, e.2 ≠ .rearmed) :
    SettledIn newer ∧ start + 250 ≤ t := by
  cases hcooldown : v.cooldown with
  | false =>
    obtain ⟨hsettled, e, he, hlate⟩ := h.past hcooldown hblocked newer start older heq hsession
    have hpast := honward e (heq ▸ List.mem_append_left _ he)
    exact ⟨hsettled, hlate.trans hpast⟩
  | true =>
    obtain ⟨hrow, newest, hat, hstamp⟩ := h.lasts hcooldown
    have hpassed : ¬(v.stable < 50 ∨ UInt32.ofNat t - v.since < 250) :=
      fun hholds => hopen ⟨hcooldown, hholds⟩
    rw [not_or, hstamp] at hpassed
    have hfifty : 50 ≤ v.stable.toNat := UInt32.le_iff_toNat_le.mp (UInt32.not_lt.mp hpassed.1)
    have hpast : newest ≤ t := honward _ (cooledAt_mem hat)
    rw [heq] at hrow hsorted hat
    obtain ⟨newest', hnewest, hstart⟩ := cooledAt_ge hsorted
    rw [hat, Option.some.injEq] at hnewest
    exact ⟨settledIn_of_row (hfifty.trans hrow), elapsed (hnewest ▸ hstart) hpast hpassed.2⟩

/-- A row of steady events is counted no further than it goes. -/
theorem complete_stable {v : RetryView} {t : Nat} {log : PolicyLog}
    (h : v.stable.toNat ≤ steadyRow log) :
    (v.complete true).stable.toNat ≤ steadyRow ((t, .steady) :: log) := by
  show _ ≤ steadyRow log + 1
  unfold RetryView.complete
  split
  · omega
  · split
    · exact Nat.zero_le _
    · split
      · show (v.stable + 1).toNat ≤ _
        rw [UInt32.toNat_add]
        change (v.stable.toNat + 1) % 4294967296 ≤ _
        omega
      · omega

theorem complete_fields (v : RetryView) (stereo : Bool) :
    (v.complete stereo).cooldown = v.cooldown ∧ (v.complete stereo).blocked = v.blocked ∧
      (v.complete stereo).since = v.since := by
  unfold RetryView.complete
  split
  · exact ⟨rfl, rfl, rfl⟩
  · split
    · exact ⟨rfl, rfl, rfl⟩
    · split
      · exact ⟨rfl, rfl, rfl⟩
      · exact ⟨rfl, rfl, rfl⟩

theorem disturb_fields (v : RetryView) :
    v.disturb.cooldown = v.cooldown ∧ v.disturb.blocked = v.blocked ∧
      v.disturb.since = v.since ∧ (v.cooldown = true → v.disturb.stable = 0) := by
  unfold RetryView.disturb
  split
  · exact ⟨rfl, rfl, rfl, fun _ => rfl⟩
  next hoff => exact ⟨rfl, rfl, rfl, fun hon => absurd hon hoff⟩

theorem warm_fields (v : RetryView) (frame : UInt32) :
    (v.warm frame).cooldown = v.cooldown ∧ (v.warm frame).blocked = v.blocked ∧
      (v.warm frame).since = v.since ∧ (v.warm frame).stable = v.stable := by
  unfold RetryView.warm
  split
  · exact ⟨rfl, rfl, rfl, rfl⟩
  · exact ⟨rfl, rfl, rfl, rfl⟩

theorem CooldownInv.event {log : PolicyLog} {v v' : RetryView} {t : Nat} {event : PolicyEvent}
    (h : CooldownInv log v) (hsorted : log.Pairwise fun newer older => older.1 ≤ newer.1)
    (honward : ∀ e ∈ log, e.1 ≤ t) (hstep : ViewStep (UInt32.ofNat t) (some event) v v') :
    CooldownInv ((t, event) :: log) v' := by
  cases hstep with
  | cooled =>
    exact ⟨fun _ => ⟨Nat.zero_le _, t, rfl, rfl⟩, fun hoff => (nomatch hoff)⟩
  | sent twice => exact h.same (by simp) rfl rfl rfl fun hon => (h.lasts hon).1
  | steady honce =>
    obtain ⟨hcooldown, hblocked, hsince⟩ := complete_fields v true
    exact h.same (by simp) hcooldown hblocked hsince fun hon => complete_stable (h.lasts hon).1
  | disturbed =>
    obtain ⟨hcooldown, hblocked, hsince, hstable⟩ := disturb_fields v
    refine h.same (by simp) hcooldown hblocked hsince fun hon => ?_
    rw [hstable hon]
    exact Nat.zero_le _
  | unwarmed hcold =>
    refine h.same (by simp) rfl rfl rfl fun hon => ?_
    rw [hcold] at hon
    cases hon
  | passed frame => exact h.same (by simp) rfl rfl rfl fun hon => (h.lasts hon).1
  | warmed frame hopen =>
    obtain ⟨hcooldown, hblocked, hsince, hstable⟩ := warm_fields v frame
    refine h.same (by simp) hcooldown hblocked hsince fun hon => ?_
    rw [hstable]
    exact (h.lasts hon).1
  | claimed frame hopen hblocked hwarm hframe =>
    refine ⟨fun hon => (nomatch hon), fun _ _ newer start older heq hsession => ?_⟩
    cases newer with
    | nil => cases (List.cons.inj heq).1
    | cons first newer =>
      -- the cooldown was over when the claim was made
      have hfirst := (List.cons.inj heq).1
      obtain ⟨hsettled, hlate⟩ := h.claimed hsorted honward hopen hblocked newer start older
        (List.cons.inj heq).2 fun e he => hsession e (List.mem_cons_of_mem _ he)
      refine ⟨hsettled.cons first, first, List.mem_cons_self, ?_⟩
      rw [← hfirst]
      exact hlate
  | heard => exact h.same (by simp) rfl rfl rfl fun hon => (h.lasts hon).1
  | rearmed =>
    refine ⟨fun hon => (nomatch hon), fun _ _ newer start older heq hsession => ?_⟩
    cases newer with
    | nil => cases (List.cons.inj heq).1
    | cons first newer =>
      have hfirst := hsession first List.mem_cons_self
      rw [← (List.cons.inj heq).1] at hfirst
      exact absurd rfl hfirst

/-- The eligible frames the policy was asked about in the session, newest first. -/
def asked : PolicyLog → List UInt32
  | [] => []
  | (_, .asked frame _) :: log => frame :: asked log
  | (_, .rearmed) :: _ => []
  | _ :: log => asked log

/-- In every session the frames asked about never decrease. -/
def AskedInOrder : PolicyLog → Prop
  | [] => True
  | e :: log =>
      (asked (e :: log)).Pairwise (fun newer older => older ≤ newer) ∧ AskedInOrder log

/-- `counted` are the frames the warm-up has counted. -/
structure WarmupInv (log : PolicyLog) (v : RetryView) (counted : Finset UInt32) : Prop where
  asked : ∀ frame ∈ counted, frame ∈ asked log ∧ frame ≤ v.lastFrame
  newest : counted.Nonempty → v.lastFrame ∈ UllReceiver.Trial.asked log
  warmup : v.warmup.toNat ≤ counted.card

/-- Neither the warm-up nor the frames change. -/
theorem WarmupInv.same {log log' : PolicyLog} {v v' : RetryView} {counted : Finset UInt32}
    (h : WarmupInv log v counted) (hasked : ∀ frame ∈ UllReceiver.Trial.asked log,
      frame ∈ UllReceiver.Trial.asked log')
    (hwarmup : v'.warmup = v.warmup) (hlast : v'.lastFrame = v.lastFrame) :
    WarmupInv log' v' counted := by
  refine ⟨fun frame hframe => ?_, fun hsome => ?_, ?_⟩
  · rw [hlast]
    exact ⟨hasked frame (h.asked frame hframe).1, (h.asked frame hframe).2⟩
  · rw [hlast]
    exact hasked _ (h.newest hsome)
  · rw [hwarmup]
    exact h.warmup

/-- The warm-up starts anew. -/
theorem WarmupInv.cold {log : PolicyLog} {v : RetryView} (h : v.warmup = 0) :
    WarmupInv log v ∅ := by
  refine ⟨fun frame hframe => ?_, fun hsome => ?_, ?_⟩
  · cases hframe
  · exact absurd rfl hsome.ne_empty
  · rw [h]
    exact Nat.zero_le _

/-- A frame is counted once, since the frames never decrease. -/
theorem WarmupInv.warm {log : PolicyLog} {v : RetryView} {counted : Finset UInt32}
    (h : WarmupInv log v counted) {t : Nat} {frame : UInt32} {claimed : Bool}
    (horder : (UllReceiver.Trial.asked ((t, .asked frame claimed) :: log)).Pairwise
      fun newer older => older ≤ newer) :
    ∃ counted', WarmupInv ((t, .asked frame claimed) :: log) (v.warm frame) counted' := by
  have hnewest : ∀ old ∈ UllReceiver.Trial.asked log, old ≤ frame :=
    (List.pairwise_cons.mp horder).1
  by_cases hagain : v.lastFrame = frame
  · refine ⟨counted, ?_⟩
    unfold RetryView.warm
    rw [if_pos hagain]
    exact h.same (fun _ hold => List.mem_cons_of_mem _ hold) rfl rfl
  · -- they are asked about in order, so one that is not the last of them is new
    have hnew : frame ∉ counted := by
      intro hold
      have hle := (h.asked frame hold).2
      have hge := hnewest _ (h.newest ⟨frame, hold⟩)
      exact hagain (UInt32.le_antisymm hge hle)
    refine ⟨insert frame counted, ?_, fun _ => ?_, ?_⟩
    · unfold RetryView.warm
      rw [if_neg hagain]
      intro other hother
      rcases Finset.mem_insert.mp hother with rfl | hold
      · exact ⟨List.mem_cons_self, UInt32.le_refl _⟩
      · have hasked := (h.asked other hold).1
        exact ⟨List.mem_cons_of_mem _ hasked, hnewest other hasked⟩
    · unfold RetryView.warm
      rw [if_neg hagain]
      exact List.mem_cons_self
    · unfold RetryView.warm
      rw [if_neg hagain, Finset.card_insert_of_notMem hnew]
      have hcount := h.warmup
      show (if v.warmup < 1000 then v.warmup + 1 else v.warmup).toNat ≤ _
      split
      · rw [UInt32.toNat_add]
        change (v.warmup.toNat + 1) % 4294967296 ≤ _
        omega
      · omega

theorem complete_warmup (v : RetryView) (stereo : Bool) :
    (v.complete stereo).warmup = v.warmup ∧ (v.complete stereo).lastFrame = v.lastFrame := by
  unfold RetryView.complete
  split
  · exact ⟨rfl, rfl⟩
  · split
    · exact ⟨rfl, rfl⟩
    · split
      · exact ⟨rfl, rfl⟩
      · exact ⟨rfl, rfl⟩

theorem disturb_warmup (v : RetryView) :
    v.disturb.warmup = v.warmup ∧ v.disturb.lastFrame = v.lastFrame := by
  unfold RetryView.disturb
  split
  · exact ⟨rfl, rfl⟩
  · exact ⟨rfl, rfl⟩

theorem WarmupInv.event {log : PolicyLog} {v v' : RetryView} {counted : Finset UInt32} {t : Nat}
    {event : PolicyEvent} (h : WarmupInv log v counted) (horder : AskedInOrder ((t, event) :: log))
    (hstep : ViewStep (UInt32.ofNat t) (some event) v v') :
    ∃ counted', WarmupInv ((t, event) :: log) v' counted' := by
  cases hstep with
  | cooled | sent | heard => exact ⟨counted, h.same (fun _ hold => hold) rfl rfl⟩
  | steady honce =>
    obtain ⟨hwarmup, hlast⟩ := complete_warmup v true
    exact ⟨counted, h.same (fun _ hold => hold) hwarmup hlast⟩
  | disturbed =>
    obtain ⟨hwarmup, hlast⟩ := disturb_warmup v
    exact ⟨counted, h.same (fun _ hold => hold) hwarmup hlast⟩
  | unwarmed hcold => exact ⟨∅, .cold rfl⟩
  | passed frame => exact ⟨counted, h.same (fun _ hold => List.mem_cons_of_mem _ hold) rfl rfl⟩
  | warmed frame hopen => exact h.warm horder.1
  | claimed frame hopen hblocked hwarm hframe =>
    obtain ⟨counted', hcounted⟩ := h.warm horder.1
    exact ⟨counted', hcounted.same (fun _ hold => hold) rfl rfl⟩
  | rearmed => exact ⟨∅, .cold rfl⟩

def claimFrames : List Call → List UInt32
  | [] => []
  | .claim c :: calls => c.frame :: claimFrames calls
  | _ :: calls => claimFrames calls

/-- The newest frame that may have been claimed. -/
def Stage.front (st : Stage) (t : ToneTrial) : UInt32 :=
  match st with
  | .flying | .settling | .ending => t.activeFrame
  | _ => t.nextFrame

structure ClaimInv (a : Stage × TrialSystem W) : Prop where
  order : (claimFrames a.2.history.calls).Pairwise fun newer older => older ≤ newer
  behind : ∀ frame ∈ claimFrames a.2.history.calls, frame ≤ a.1.front a.2.trial

theorem ClaimInv.same {st st' : Stage} {s s' : TrialSystem W} (h : ClaimInv (st, s))
    (hcalls : claimFrames s'.history.calls = claimFrames s.history.calls)
    (hfront : st.front s.trial ≤ st'.front s'.trial) : ClaimInv (st', s') := by
  refine ⟨?_, fun frame hframe => ?_⟩
  · rw [hcalls]
    exact h.order
  · rw [hcalls] at hframe
    exact UInt32.le_trans (h.behind frame hframe) hfront

theorem ClaimInv.aside {st : Stage} {s s' : TrialSystem W} (h : Aside P s s')
    (hi : ClaimInv (st, s)) : ClaimInv (st, s') := by
  obtain ⟨hbounds, _⟩ := h.same
  obtain ⟨_, _, _, _, _, hcalls⟩ := h.hears
  apply hi.same
  · rw [hcalls]
  · unfold Stage.front
    rw [hbounds.next, hbounds.active]
    exact UInt32.le_refl _

/-- Nothing is asked about in a rearm. -/
theorem AskedInOrder.rearmed {new log : PolicyLog} (h : AskedInOrder log)
    (hrearm : ∀ e ∈ new, e.2 = .rearmed) : AskedInOrder (new ++ log) := by
  induction new with
  | nil => exact h
  | cons e new ih =>
    refine ⟨?_, ih fun e' he' => hrearm e' (List.mem_cons_of_mem _ he')⟩
    obtain ⟨t, event⟩ := e
    have hevent : event = .rearmed := hrearm (t, event) List.mem_cons_self
    rw [hevent]
    exact .nil

/-- The frames of a session are in order when all of them are. -/
theorem AskedInOrder.session {new log : PolicyLog} (h : AskedInOrder log)
    (hsession : ∀ e ∈ new, e.2 ≠ .rearmed)
    (horder : (asked (new ++ log)).Pairwise fun newer older => older ≤ newer) :
    AskedInOrder (new ++ log) := by
  induction new with
  | nil => exact h
  | cons e new ih =>
    refine ⟨horder, ih (fun e' he' => hsession e' (List.mem_cons_of_mem _ he')) ?_⟩
    obtain ⟨t, event⟩ := e
    cases event with
    | asked frame claimed => exact (List.pairwise_cons.mp horder).2
    | rearmed => exact absurd rfl (hsession _ List.mem_cons_self)
    | _ => exact horder

end UllReceiver.Trial
