import UllReceiver.Link.Gate

/-!
# The gate in every run

Every step of the keeper keeps what the gate rests on, and so does its task as far as it comes.
-/

namespace UllReceiver.Link

open Library Library.Halting

/-- No access outside an array, whatever the keeper has heard. -/
structure Keeper.Safe (k : Keeper) : Prop where
  assembly : k.assembly.Good
  session : k.session.Safe

/-- The reassembly is that of what was heard, of which the flags tell. -/
structure Keeper.Sound (bond : Bond) (held : Bool) (k : Keeper) : Prop where
  assembly : k.assembly.Good
  session : ∃ heard, k.session.Sound bond held ⟨k.assembly, heard⟩

namespace Keeper

theorem Good.setHandle {a : Assembly} (h : a.Good) (handle : UInt16) :
    Assembly.Good { a with handle } :=
  ⟨h.assembled, h.fragment⟩

theorem vendorEvent_kept (d : List UInt8) (p : Peer) : Kept p (vendorEvent d p) := by
  unfold vendorEvent
  split
  · exact .of_same rfl
  · split
    · exact .of_same rfl
    · split
      · have hguard : Kept p (if byte d 5 = 1 then
            { p with rawGuard := byte d 8, rawStatus := byte d 9 } else p) := by
          split
          · exact .of_same rfl
          · exact .refl p
        dsimp only
        generalize (if byte d 5 = 1 then
          { p with rawGuard := byte d 8, rawStatus := byte d 9 } else p) = q at hguard
        split
        · split
          · exact ⟨hguard.encrypted, hguard.verified, hguard.idleSent, hguard.holding,
              fun _ => rfl, hguard.limit⟩
          · exact ⟨hguard.encrypted, hguard.verified, hguard.idleSent, hguard.holding,
              hguard.failed, hguard.limit⟩
        · exact hguard
      · split
        · exact .of_same rfl
        · split
          · exact .failing p
          · exact .refl p

/-! ## No access out of bounds -/

section Safe

variable {k : Keeper}

theorem Safe.update (h : k.Safe) {f : Peer → Peer} (hf : ∀ p, Kept p (f p)) : (k.update f).Safe :=
  ⟨h.assembly, h.session.update (hf _).limit⟩

theorem Safe.failing (h : k.Safe) : (k.onSession Session.fail).Safe :=
  ⟨h.assembly, h.session.fail⟩

theorem Safe.connected (h : k.Safe) (handle : UInt16) : (k.connected handle).Safe :=
  ⟨Good.setHandle h.assembly handle, h.session.limit, h.session.fault⟩

/-- A disconnection may retire the parent, and is noted in the peer unless the audio has
started. -/
theorem detached_cases (k : Keeper) (d : List UInt8) :
    ∃ s, (s = k.session ∨ s = k.session.note (.called .parentRetired)) ∧
      ((k.detached d).session = s ∨
        (k.detached d).session = s.update fun peer => { peer with disconnected := true }) := by
  unfold Keeper.detached
  dsimp only
  generalize hretired : (if k.session.peer.started = true ∧ byte d 0 = 0 ∧
    k.assembly.handle ≠ 0xffff ∧ word d 1 = k.assembly.handle then
      k.session.note (.called .parentRetired) else k.session) = s
  refine ⟨s, ?_, ?_⟩
  · split at hretired
    · exact .inr hretired.symm
    · exact .inl hretired.symm
  · split
    · exact .inl rfl
    · exact .inr rfl

theorem Safe.detached (h : k.Safe) (d : List UInt8) : (k.detached d).Safe := by
  refine ⟨Good.setHandle h.assembly _, ?_⟩
  obtain ⟨s, hs, hsession⟩ := detached_cases k d
  have hsafe : s.Safe := by
    rcases hs with rfl | rfl
    · exact h.session
    · exact h.session.note _
  rcases hsession with he | he
  · rw [he]
    exact hsafe
  · rw [he]
    exact hsafe.update rfl

theorem Safe.processEvent (h : k.Safe) (bond : Bond) (p : List UInt8) :
    (k.processEvent bond p).Safe := by
  unfold Keeper.processEvent
  dsimp only
  split
  · exact h.failing
  split
  · split
    · exact h.update fun _ => .of_same rfl
    · split
      · exact h.failing
      · exact h.connected _
  split
  · exact h.detached _
  split
  · exact h.update fun _ => .of_same rfl
  split
  · exact h.update (vendorEvent_kept _)
  split
  · exact ⟨h.assembly, h.session.limit, h.session.fault⟩
  split
  · exact ⟨h.assembly, h.session.sendPacket _ 200⟩
  · exact h

theorem Safe.processAcl (h : k.Safe) (bond : Bond) {p : List UInt8} (hp : 3 ≤ p.length) :
    (k.processAcl bond p).Safe := by
  obtain ⟨o, ho, hgood⟩ := acceptAcl_good h.assembly hp
  unfold Keeper.processAcl
  rw [ho]
  cases o with
  | ignored => exact h
  | kept a => exact ⟨hgood, h.session⟩
  | refused a => exact ⟨hgood, h.session.fail⟩
  | delivered a cid payload => exact ⟨hgood, h.session.l2cap bond a.handle cid payload⟩

theorem Safe.process (h : k.Safe) (bond : Bond) (p : List UInt8) : (k.process bond p).Safe := by
  unfold Keeper.process
  split
  · exact h
  · split
    · exact h.processEvent bond p
    · exact h.processAcl bond (by omega)

end Safe

/-! ## Events and packets -/

section Process

variable {bond : Bond} {held : Bool} {k : Keeper}

theorem Sound.safe (h : k.Sound bond held) : k.Safe :=
  have ⟨_, hs⟩ := h.session
  ⟨h.assembly, hs.safe⟩

theorem Sound.released (h : k.Sound bond held) : k.Sound bond false :=
  have ⟨heard, hs⟩ := h.session
  ⟨h.assembly, heard, hs.heard, hs.flags, hs.recorded, hs.safe, fun he => Bool.noConfusion he⟩

theorem Sound.onSession (h : k.Sound bond held) {f : Session → Session}
    (hf : ∀ heard, k.session.Sound bond held ⟨k.assembly, heard⟩ →
      (f k.session).Sound bond held ⟨k.assembly, heard⟩) : (k.onSession f).Sound bond held :=
  have ⟨heard, hs⟩ := h.session
  ⟨h.assembly, heard, hf heard hs⟩

theorem Sound.update (h : k.Sound bond held) {f : Peer → Peer} (hf : ∀ p, Kept p (f p)) :
    (k.update f).Sound bond held :=
  h.onSession fun _ hs => hs.update hf

theorem Sound.failing (h : k.Sound bond held) : (k.onSession Session.fail).Sound bond held :=
  h.onSession fun _ hs => hs.fail

/-- A disconnection is heard by the reassembly alone. -/
theorem Sound.detached {heard : List Heard} (hgood : k.assembly.Good)
    (hs : k.session.Sound bond held ⟨{ k.assembly with handle := 0xffff }, heard⟩)
    (d : List UInt8) : (k.detached d).Sound bond held := by
  refine ⟨Good.setHandle hgood _, heard, ?_⟩
  obtain ⟨s, hnote, hsession⟩ := detached_cases k d
  have hsound : s.Sound bond held ⟨{ k.assembly with handle := 0xffff }, heard⟩ := by
    rcases hnote with rfl | rfl
    · exact hs
    · exact hs.noteCalled (by decide) fun he => absurd he (by decide)
  rcases hsession with he | he
  · rw [he]
    exact hsound
  · rw [he]
    exact hsound.update fun _ => .of_same rfl

/-- The effect of an event that has just been heard. -/
theorem Sound.processEvent {heard : List Heard} {p : List UInt8} (hgood : k.assembly.Good)
    (hs : k.session.Knows bond held (if p.length = 3 + (byte p 2).toNat then
      Hearing.hearEvent bond p ⟨k.assembly, heard⟩ else ⟨k.assembly, heard⟩) heard) :
    (k.processEvent bond p).Sound bond held := by
  unfold Keeper.processEvent
  dsimp only
  split
  next hlength =>
    -- an event of another length than it says is not heard
    rw [if_neg hlength] at hs
    exact ⟨hgood, heard, hs.fail⟩
  next hlength =>
    rw [if_pos (not_not.mp hlength)] at hs
    unfold Hearing.hearEvent at hs
    dsimp only at hs
    split
    next hconnection =>
      -- only a connection to the saved peer sets the handle
      split
      next hstatus =>
        rw [if_neg (by simp [hstatus]), if_neg (by simp [hconnection.1]),
          if_neg (by simp [hconnection.1])] at hs
        exact .update ⟨hgood, heard, hs⟩ fun _ => .of_same rfl
      next hstatus =>
        split
        next hpeer =>
          rw [if_neg (by simp [hpeer]), if_neg (by simp [hconnection.1]),
            if_neg (by simp [hconnection.1])] at hs
          exact ⟨hgood, heard, hs.fail⟩
        next hpeer =>
          rw [if_pos ⟨hconnection.1, hconnection.2.1, hconnection.2.2, not_not.mp hstatus,
            not_not.mp hpeer⟩] at hs
          refine ⟨Good.setHandle hgood _, heard, ?_⟩
          exact hs.ask.update (f := fun peer => { peer with connectedAt := k.session.ask.1.now })
            fun _ => .of_same rfl
    next hconnection =>
      rw [if_neg fun hc => hconnection ⟨hc.1, hc.2.1, hc.2.2.1⟩] at hs
      split
      next hdisconnection =>
        rw [if_pos hdisconnection] at hs
        exact .detached hgood hs _
      next hdisconnection =>
        rw [if_neg hdisconnection] at hs
        -- of the events that are left only the encryption change is heard
        split
        next hlength =>
          rw [if_neg (by simp [hlength.1])] at hs
          exact .update ⟨hgood, heard, hs⟩ fun _ => .of_same rfl
        split
        next hvendor =>
          rw [if_neg (by simp [hvendor])] at hs
          exact .update ⟨hgood, heard, hs⟩ (vendorEvent_kept _)
        split
        next hencryption =>
          rw [if_pos hencryption] at hs
          exact ⟨hgood, _, hs.become (f := fun peer => { peer with encrypted := _, failed := _ })
            (hs.flags.encryption _) rfl id⟩
        next hother =>
          rw [if_neg hother] at hs
          split
          · refine ⟨hgood, heard, hs.sendPacket (fun ha => ?_) 200⟩
            have hopcode : (0x201b : UInt16) ∉ audioOpcodes := by decide
            exact absurd ha (not_audio_command hopcode _)
          · exact ⟨hgood, heard, hs⟩

/-- The effect of any other packet. -/
theorem Sound.processAcl {heard : List Heard} {p : List UInt8} (hp : 3 ≤ p.length)
    (hgood : k.assembly.Good)
    (hs : k.session.Knows bond held (((acceptAcl k.assembly p).map
      (Hearing.hearAcl ⟨k.assembly, heard⟩)).getD ⟨k.assembly, heard⟩) heard) :
    (k.processAcl bond p).Sound bond held := by
  obtain ⟨o, ho, hafter⟩ := acceptAcl_good hgood hp
  rw [ho] at hs
  unfold Keeper.processAcl
  rw [ho]
  cases o with
  | ignored => exact ⟨hgood, heard, hs⟩
  | kept a => exact ⟨hafter, heard, hs⟩
  | refused a => exact ⟨hafter, heard, hs.fail⟩
  | delivered a cid payload => exact ⟨hafter, _, hs.l2cap a.handle cid payload rfl⟩

theorem Sound.feed (h : k.Sound bond held) (p : List UInt8) : (k.feed bond p).Sound bond held := by
  obtain ⟨heard, hs⟩ := h.session
  have hnoted := hs.noteProcessed p
  unfold Hearing.hear at hnoted
  unfold Keeper.feed Keeper.process
  split
  next hshort =>
    rw [if_pos hshort] at hnoted
    exact ⟨h.assembly, heard, hnoted⟩
  next hshort =>
    rw [if_neg hshort] at hnoted
    split
    next hevent =>
      rw [if_pos hevent] at hnoted
      exact .processEvent h.assembly hnoted
    next hevent =>
      rw [if_neg hevent] at hnoted
      exact .processAcl (by omega) h.assembly hnoted

end Process

/-! ## The parts of the task -/

/-- The invariant of the task, in the audio that is held and outside it. -/
abbrev Holds (bond : Bond) (held : Bool) {α : Type} (m : Task α) : Prop :=
  Keeps (Keeper.Sound bond held) m

section Parts

variable {bond : Bond} {held : Bool}

theorem holds_ask : Holds bond held ask :=
  keeps_step fun _ h =>
    have ⟨heard, hs⟩ := h.session
    ⟨h.assembly, heard, hs.ask⟩

theorem holds_call {callee : Callee} (hcallee : callee ≠ .micNewSession)
    (haudio : callee = .trialContinuous ∨ callee = .pumpContinuous → held = true) :
    Holds bond held (call callee) :=
  keeps_modify fun _ h => h.onSession fun _ hs => hs.noteCalled hcallee haudio

theorem holds_updatePeer {f : Peer → Peer} (hf : ∀ p, Kept p (f p)) :
    Holds bond held (updatePeer f) :=
  keeps_modify fun _ h => h.update hf

theorem holds_updatePeer_bind {α : Type} {f : Peer → Peer} {g : Unit → Task α}
    (hf : ∀ p, Kept p (f p)) (hg : Holds bond held (g ())) :
    Holds bond held (updatePeer f >>= g) :=
  (holds_updatePeer hf).bind fun _ => hg

theorem holds_fail : Holds bond held Keeper.fail :=
  keeps_modify fun _ h => h.failing

theorem holds_sendPacket {packet : List UInt8} (haudio : AudioPacket packet → held = true) :
    Holds bond held (Keeper.sendPacket packet) :=
  keeps_step fun _ h =>
    have ⟨heard, hs⟩ := h.session
    ⟨h.assembly, heard, hs.sendPacket haudio 200⟩

theorem holds_sendAcl {cid : UInt16} {payload : List UInt8}
    (hsilent : held = true ∨ Silent (pduBytes cid payload)) :
    Holds bond held (Keeper.sendAcl cid payload) :=
  keeps_step fun _ h =>
    have ⟨heard, hs⟩ := h.session
    ⟨h.assembly, heard, hs.sendAcl _ hsilent⟩

theorem holds_get {α : Type} {f : Keeper → Task α} (hf : ∀ k, Holds bond held (f k)) :
    Holds bond held (Halting.get >>= f) :=
  keeps_get_bind fun k h => hf k k h

end Parts

end Keeper

open Keeper

section Run

variable {bond : Bond} {held : Bool}

theorem holds_awaitReply (opcode : UInt16) (reply : Option (List UInt8)) (deadline : Int)
    (n : Nat) : Holds bond held (awaitReply bond opcode reply deadline n) := by
  induction n with
  | zero => exact keeps_halt
  | succ n ih =>
      unfold awaitReply
      refine holds_ask.bind fun a => (keeps_pure _).ite ?_
      cases a.event with
      | none => exact ih
      | some b =>
          dsimp only
          cases commandAnswer opcode reply b with
          | some r => exact keeps_pure _
          | none =>
              refine (keeps_modify fun k h => ?_).bind fun _ => (keeps_pure _).ite ih
              -- the events between a command and its answer are processed like any others
              split
              · exact h
              · exact h.feed b

/-- A command is one of the audio only by its opcode. -/
theorem holds_command (n : Nat) {opcode : UInt16} (hopcode : opcode ∈ audioOpcodes → held = true)
    (params : List UInt8) (reply : Option (List UInt8)) :
    Holds bond held (command bond n opcode params reply) := by
  unfold command
  refine (keeps_pure _).ite (Keeps.bind (Keeps.ite ?_ (keeps_pure _)) fun _ => ?_)
  · exact holds_call (by decide) fun he => absurd he (by decide)
  · refine (holds_sendPacket fun ha => ?_).bind fun _ => Keeps.ite ?_ (keeps_pure _)
    · -- another opcode makes no packet of the audio
      by_contra hheld
      rw [List.append_assoc] at ha
      exact not_audio_command (fun hmem => hheld (hopcode hmem)) _ ha
    · exact holds_ask.bind fun _ => holds_awaitReply _ _ _ n

theorem holds_cmd (n : Nat) {opcode : UInt16} (hopcode : opcode ∈ audioOpcodes → held = true)
    (params : List UInt8) : Holds bond held (cmd bond n opcode params) :=
  (holds_command n hopcode params none).bind fun _ => keeps_pure _

/-- A command whose reply is checked. -/
theorem holds_commandReply (n : Nat) {opcode : UInt16}
    (hopcode : opcode ∈ audioOpcodes → held = true) (params : List UInt8) (room : Nat)
    (check : List UInt8 → Bool) :
    Holds bond held (commandReply bond n opcode params room check) :=
  holds_ask.bind fun _ => (holds_command n hopcode params _).bind fun _ => keeps_pure _

theorem gives_commandReply (n : Nat) (opcode : UInt16) (params : List UInt8) (room : Nat)
    (check : List UInt8 → Bool) :
    Gives (fun r => ∀ reply, r = some reply → check reply = true)
      (commandReply bond n opcode params room check) := by
  refine Gives.bind fun _ => Gives.bind fun r => gives_pure ?_
  intro reply h
  exact (Option.filter_eq_some_iff.mp h).2

/-- Outside the audio only the other commands are sent. -/
theorem plain_cmd (n : Nat) {opcode : UInt16} (hopcode : opcode ∉ audioOpcodes)
    (params : List UInt8) : Holds bond false (cmd bond n opcode params) :=
  holds_cmd n (fun hmem => absurd hmem hopcode) params

theorem plain_call {callee : Callee}
    (hcallee : callee ∉ [.micNewSession, .trialContinuous, .pumpContinuous]) :
    Holds bond false (call callee) := by
  simp only [List.mem_cons, List.not_mem_nil, or_false, not_or] at hcallee
  exact holds_call hcallee.1 fun he => absurd he (not_or.mpr hcallee.2)

/-! ## The setup of a connection -/

/-- `start_connection` begins: nothing has been heard of it. -/
theorem sound_start {k : Keeper} (h : k.Sound bond held) :
    Keeper.Sound bond false
      { assembly := ⟨0xffff, 0, List.replicate fragmentBytes 0⟩
        session := { k.session.note (.called .micNewSession) with peer := {} } } := by
  obtain ⟨heard, hs⟩ := h.session
  have hrecordable : Recordable bond ⟨k.session.peer.failed, .called .micNewSession⟩
      k.session.log := by
    refine ⟨fun ha => ?_, fun hne => absurd rfl hne⟩
    rcases ha with he | he
    · exact Callee.noConfusion he
    · exact Callee.noConfusion he
  have hflags : Flags bond {} [] :=
    ⟨rfl, (fun he => Bool.noConfusion he), (fun he => Bool.noConfusion he),
      (fun he => Bool.noConfusion he), (fun he => Bool.noConfusion he),
      (fun ⟨_, hmem, _⟩ => absurd hmem List.not_mem_nil)⟩
  have hlimit : 27 ≤ (27 : Nat) ∧ 27 ≤ 251 := by decide
  exact ⟨⟨Nat.zero_le _, List.length_replicate⟩,
    [], rfl, hflags, ⟨hrecordable, hs.recorded⟩, ⟨hlimit, hs.safe.fault⟩,
    fun he => Bool.noConfusion he⟩

theorem holds_start {α : Type} {m : Task α} (hm : Holds bond false m) :
    Holds bond false (call .micNewSession >>= fun _ => modify (fun k =>
      { assembly := ⟨0xffff, 0, List.replicate fragmentBytes 0⟩
        session := { k.session with peer := {} } }) >>= fun _ => m) :=
  fun _ h => hm _ (sound_start h)

theorem holds_startConnection (n : Nat) : Holds bond false (startConnection bond n) := by
  refine holds_start ((plain_call (by decide)).bind fun _ => ?_)
  refine (plain_cmd n (by decide) _).bind fun _ => Keeps.ite ?_ (keeps_pure _)
  refine (holds_commandReply n (fun hmem => absurd hmem (by decide)) _ _ _).bindGives
    (gives_commandReply n _ _ _ _) fun r hr => ?_
  cases r with
  | none => exact keeps_pure _
  | some reply =>
      have hcheck := hr reply rfl
      rw [decide_eq_true_eq] at hcheck
      -- the reply was checked, so the packets stay between 27 bytes and the buffer
      have hlimit : 27 ≤ (word reply 1).toNat := UInt16.le_iff_toNat_le.mp hcheck.2.1
      have hupdate : Holds bond false
          (updatePeer fun peer => { peer with aclLimit := min (word reply 1).toNat 251 }) := by
        refine keeps_modify fun k h => ?_
        obtain ⟨heard, hs⟩ := h.session
        exact ⟨h.assembly, heard, hs.heard,
          ⟨hs.flags.encrypted, hs.flags.secured, hs.flags.verified, hs.flags.idleSent,
            hs.flags.holding, hs.flags.failed⟩,
          hs.recorded, ⟨⟨Nat.le_min.mpr ⟨hlimit, by decide⟩, Nat.min_le_right _ _⟩,
            hs.safe.fault⟩, hs.held⟩
      refine hupdate.bind fun _ => (plain_call (by decide)).bind fun _ => ?_
      refine (holds_commandReply n (fun hmem => absurd hmem (by decide)) _ _ _).bind fun _ =>
        Keeps.ite ?_ (keeps_pure _)
      exact (plain_cmd n (by decide) _).andThen <| (plain_cmd n (by decide) _).andThen <|
        (plain_cmd n (by decide) _).andThen <| (plain_cmd n (by decide) _).andThen
          (plain_cmd n (by decide) _)

/-! ## The startup of the audio -/

section Audio

variable (n : Nat)

/-- In the audio any command may be sent. -/
theorem held_cmd (opcode : UInt16) (params : List UInt8) :
    Holds bond true (cmd bond n opcode params) :=
  holds_cmd n (fun _ => rfl) params

/-- And any message. -/
theorem held_sendAcl (payload : List UInt8) :
    Holds bond true (Keeper.sendAcl 0x101 payload) :=
  holds_sendAcl (.inl rfl)

theorem holds_verifyMap : Holds bond true (verifyMap bond n) :=
  holds_get fun _ => (holds_commandReply n (fun _ => rfl) _ _ _).bind fun _ =>
    holds_get fun _ => keeps_pure _

theorem holds_readActivity : Holds bond true (readActivity bond n) :=
  (held_cmd n _ _).andThen (holds_get fun _ => keeps_pure _)

theorem holds_reserveSlots (slots : List (Nat × UInt8)) :
    ∀ expected, Holds bond true (reserveSlots bond n slots expected) := by
  induction slots with
  | nil => exact fun _ => keeps_pure _
  | cons slot slots ih =>
      intro expected
      unfold reserveSlots
      refine holds_updatePeer_bind (fun _ => .of_same rfl) ?_
      refine ((held_cmd n _ _).andThen (holds_readActivity n)).bind fun _ => ?_
      refine Keeps.ite (holds_get fun _ => ?_) (keeps_pure _)
      exact (ih _).ite (keeps_pure _)

theorem holds_reserveAudio : Holds bond true (reserveAudio bond n) := by
  unfold reserveAudio
  refine holds_updatePeer_bind (fun _ => .of_same rfl) ?_
  refine (holds_readActivity n).bind fun _ => Keeps.ite (holds_get fun _ => ?_) (keeps_pure _)
  exact (holds_reserveSlots n _ _).ite (keeps_pure _)

theorem holds_openAudio : Holds bond true (openAudio bond n) := by
  unfold openAudio
  refine holds_ask.bind fun a => Keeps.ite ?_ (keeps_pure _)
  have hready : Holds bond true (Halting.get >>= fun k => Pure.pure k.session.peer.diagnosticOk) :=
    holds_get fun _ => keeps_pure _
  have hopen := (holds_verifyMap n).andThen <| (held_cmd n 0xfcf0 []).andThen <|
    hready.andThen <| (holds_reserveAudio n).andThen <|
    (@held_sendAcl bond [2, 1, 0]).andThen <|
    (held_sendAcl [4, 1, 0, 100, 100, 0]).andThen <| held_sendAcl [2, 2, 0]
  refine hopen.bind fun _ => Keeps.ite (holds_get fun _ => ?_) (keeps_pure _)
  refine (held_cmd n _ _).bind fun _ => Keeps.ite ?_ (keeps_pure _)
  exact holds_updatePeer_bind (fun _ => .of_same rfl) (keeps_pure _)

theorem holds_sendRaw (opcode : UInt16) (done : UInt8) (next : Int) :
    Holds bond true (sendRaw bond n opcode done next) := by
  unfold sendRaw
  refine holds_updatePeer_bind (fun _ => .of_same rfl) ?_
  refine (held_cmd n _ _).bind fun _ => Keeps.ite ?_ ?_
  · exact holds_updatePeer_bind (fun _ => .of_same rfl) (keeps_pure _)
  · refine holds_get fun _ => (keeps_pure _).ite ?_
    refine holds_updatePeer_bind (fun _ => .of_same rfl) ?_
    refine holds_get fun _ => (keeps_pure _).ite ?_
    exact holds_updatePeer_bind (fun _ => .of_same rfl) (keeps_pure _)

theorem holds_startTrial (now : Int) : Holds bond true (startTrial bond n now) := by
  unfold startTrial
  have htrial : Holds bond true (do call .trialContinuous; let a ← ask; Pure.pure a.trial) :=
    (holds_call (by decide) fun _ => rfl).bind fun _ => holds_ask.bind fun _ => keeps_pure _
  have hpump : Holds bond true (do call .pumpContinuous; let a ← ask; Pure.pure a.pump) :=
    (holds_call (by decide) fun _ => rfl).bind fun _ => holds_ask.bind fun _ => keeps_pure _
  refine ((holds_verifyMap n).andThen (htrial.andThen hpump)).bind fun _ =>
    Keeps.ite ?_ (keeps_pure _)
  refine holds_updatePeer_bind (fun _ => .of_same rfl) ?_
  refine (held_cmd n _ _).bind fun _ => Keeps.ite ?_ ?_
  · refine holds_updatePeer_bind (fun _ => .of_same rfl) ?_
    refine ((held_sendAcl _).andThen (held_sendAcl _)).bind fun _ =>
      Keeps.ite (holds_ask.bind fun _ => ?_) (keeps_pure _)
    exact holds_updatePeer_bind (fun _ => .of_same rfl) (keeps_pure _)
  · refine holds_updatePeer_bind (fun _ => .of_same rfl) ?_
    refine holds_get fun _ => (keeps_pure _).ite ?_
    exact holds_updatePeer_bind (fun _ => .of_same rfl) (keeps_pure _)

theorem holds_startupSwitch (now : Int) : Holds bond true (startupSwitch bond n now) := by
  unfold startupSwitch
  refine holds_get fun k => (holds_openAudio n).ite (Keeps.ite ?_ (Keeps.ite ?_ (Keeps.ite ?_ ?_)))
  · exact (keeps_pure _).ite (holds_sendRaw n _ _ _)
  · exact (keeps_pure _).ite (holds_sendRaw n _ _ _)
  · exact (keeps_pure _).ite (holds_startTrial n now)
  · exact keeps_pure _

theorem holds_audioStartup (now : Int) : Holds bond true (audioStartup bond n now) := by
  unfold audioStartup
  exact holds_get fun _ => (keeps_pure _).ite (holds_startupSwitch n now)

/-- The startup is only entered by a keeper that holds its connection. -/
theorem audioStartup_sound (now : Int) {k : Keeper} (h : k.Sound bond false)
    (hholding : k.session.peer.holding = true) :
    (audioStartup bond n now k).2.Sound bond true := by
  obtain ⟨heard, hs⟩ := h.session
  exact holds_audioStartup n now k
    ⟨h.assembly, heard, hs.heard, hs.flags, hs.recorded, hs.safe, fun _ => hholding⟩

end Audio

/-! ## The loop -/

theorem holds_audioLive (now : Int) : Holds bond false (audioLive now) := by
  unfold audioLive
  refine holds_ask.bind fun a => ?_
  have hupdate : Holds bond false (updatePeer fun peer =>
      if a.feedback ≠ peer.previousFeedback then
        { peer with previousFeedback := a.feedback, lastFeedback := now }
      else peer) := by
    apply holds_updatePeer
    intro p
    split
    · exact .of_same rfl
    · exact .refl p
  exact hupdate.bind fun _ => holds_get fun _ => keeps_pure _

theorem holds_cancelAudio (n : Nat) (deadline : Int) (m : Nat) :
    Holds bond false (cancelAudio bond n deadline m) := by
  induction m with
  | zero => exact keeps_halt
  | succ m ih =>
      unfold cancelAudio
      refine (plain_cmd n (by decide) _).bind fun _ => Keeps.ite ?_ (keeps_pure _)
      exact holds_ask.bind fun _ => (keeps_pure _).ite (ih.ite (keeps_pure _))

theorem holds_stopAudio (n : Nat) : Holds bond false (stopAudio bond n) := by
  unfold stopAudio
  refine holds_get fun _ => (keeps_pure _).ite (holds_ask.bind fun _ => ?_)
  refine (holds_cancelAudio n _ n).bind fun _ => Keeps.ite ?_ (keeps_pure _)
  refine holds_ask.bind fun _ => (keeps_pure _).ite ((plain_call (by decide)).bind fun _ => ?_)
  refine holds_ask.bind fun _ => Keeps.ite ?_ (keeps_pure _)
  refine (plain_cmd n (by decide) _).bind fun _ => Keeps.ite ?_ (keeps_pure _)
  exact (plain_call (by decide)).bind fun _ => keeps_pure _

theorem holds_requestEncryption (n : Nat) (now : Int) :
    Holds bond false (requestEncryption bond n now) := by
  unfold requestEncryption
  refine holds_get fun _ => Keeps.ite ?_ (keeps_pure _)
  refine holds_updatePeer_bind (fun _ => .of_same rfl) ?_
  exact (plain_cmd n (by decide) _).bind fun _ => (keeps_pure _).ite holds_fail

theorem holds_sendSetup : Holds bond false sendSetup := by
  unfold sendSetup
  refine holds_get fun _ => Keeps.ite ?_ (keeps_pure _)
  refine holds_updatePeer_bind (fun _ => .of_same rfl) ?_
  exact (holds_sendAcl (.inr silent_setup)).bind fun _ => (keeps_pure _).ite holds_fail

theorem holds_startHeld (n : Nat) (now : Int) : Holds bond false (startHeld bond n now) := by
  unfold startHeld
  apply keeps_get_bind
  intro k h
  split
  next hholding =>
    -- the task asks for `holding` right before `audio_startup`
    have hstarted := (audioStartup_sound n now h hholding).released
    exact bind_keeps hstarted fun _ => (keeps_pure _).ite holds_fail
  · exact h

theorem holds_turn (n : Nat) (now started : Int) : Holds bond false (turn bond n now started) := by
  unfold turn
  refine holds_get fun _ => Keeps.ite ?_ (Keeps.ite ?_ (keeps_pure _))
  · refine (holds_audioLive now).bind fun _ => (keeps_pure _).ite ?_
    exact holds_fail.bind fun _ => keeps_pure _
  · refine (holds_requestEncryption n now).bind fun _ => holds_sendSetup.bind fun _ => ?_
    refine (holds_startHeld n now).bind fun _ => holds_get fun _ => Keeps.ite ?_ (keeps_pure _)
    exact holds_fail.bind fun _ => keeps_pure _

theorem holds_receive : Holds bond false (receive bond) := by
  unfold receive
  refine holds_ask.bind fun a => ?_
  cases a.event with
  | none => exact keeps_pure _
  | some p => exact keeps_modify fun k h => h.feed p

theorem holds_connectionLoop (n : Nat) (started : Int) (m : Nat) :
    Holds bond false (connectionLoop bond n started m) := by
  induction m with
  | zero => exact keeps_halt
  | succ m ih =>
      unfold connectionLoop
      refine holds_ask.bind fun _ => holds_get fun _ => Keeps.ite ?_ (keeps_pure _)
      refine holds_receive.bind fun _ => holds_ask.bind fun _ => ?_
      exact (holds_turn n _ started).bind fun _ => ih.ite (keeps_pure _)

theorem holds_connection (n : Nat) : Holds bond false (connection bond n) := by
  unfold connection
  refine (holds_startConnection n).bind fun _ => Keeps.ite ?_ (keeps_pure _)
  refine holds_ask.bind fun _ => (holds_connectionLoop n _ n).bind fun _ => ?_
  refine (holds_stopAudio n).bind fun _ => (keeps_pure _).ite ?_
  exact (plain_call (by decide)).bind fun _ => keeps_halt

/-- Whatever comes from the controller and the surroundings, the task keeps the invariant. -/
theorem holds_run (n m : Nat) : Holds bond false (run bond n m) := by
  induction m with
  | zero => exact keeps_halt
  | succ m ih =>
      unfold run
      exact holds_ask.bind fun _ => ih.ite ((holds_connection n).bind fun _ => ih)

theorem sound_init (answers : Nat → Answer) : (Keeper.init answers).Sound bond false where
  assembly := ⟨Nat.zero_le _, List.length_replicate⟩
  session :=
    ⟨[], rfl, ⟨rfl, (fun he => Bool.noConfusion he), (fun he => Bool.noConfusion he),
      (fun he => Bool.noConfusion he), (fun he => Bool.noConfusion he),
      (fun ⟨_, hmem, _⟩ => absurd hmem List.not_mem_nil)⟩, trivial,
      ⟨⟨Nat.le_refl 27, (by decide : 27 ≤ 251)⟩, rfl⟩, fun he => Bool.noConfusion he⟩

end Run

/-! ## Only an authenticated peer -/

/-- In every run of the keeper: a stream message or a command of the audio is sent, and the trial
or its pump is called, only once the packets `process` was given since the last `start_connection`
had brought the encryption change, the peer's setup, its idle request and its idle message, in
that order and under encryption; and once they have brought a proprietary message in the clear or
another peer's setup, `failed` is set at all that is taken, sent or called in the connection, and
still is at its end. -/
theorem startup_authenticated (bond : Bond) (n m : Nat) (answers : Nat → Answer) :
    let k := (run bond n m (Keeper.init answers)).2
    (∀ later y earlier, k.session.log = later ++ y :: earlier →
      (StartsAudio y.event → Saw (gate bond) (hearing bond earlier).heard) ∧
      (ActsInConnection y.event → (∃ e ∈ (hearing bond earlier).heard, Offence bond e) →
        y.failed = true)) ∧
    ((∃ e ∈ (hearing bond k.session.log).heard, Offence bond e) →
      k.session.peer.failed = true) := by
  have hsound := @holds_run bond n m (Keeper.init answers) (sound_init answers)
  obtain ⟨heard, hs⟩ := hsound.session
  refine ⟨?_, ?_⟩
  · intro later y earlier hlog
    have hrecorded := hs.recorded
    rw [hlog] at hrecorded
    exact ⟨hrecorded.at.audio, hrecorded.at.failed⟩
  · rw [hs.heard]
    exact hs.flags.failed

/-! ### A connection up to its trial -/

def heldBond : Bond where
  target := Vector.replicate 6 7
  identity := Vector.replicate 6 1
  rand := Vector.replicate 8 2
  ediv := Vector.replicate 2 3
  ltk := Vector.replicate 16 4
  sirk := Vector.replicate 16 5

/-- Everything is granted, a tenth of a second goes by with each question, and the events come at
the questions they are listed with. -/
def answersOf (events : List (Nat × List UInt8)) (i : Nat) : Answer where
  enabled := true
  paused := false
  lost := false
  accepted := true
  event := events.lookup i
  now := i * 100000
  source := true
  trial := true
  pump := true
  pumpBusy := true
  phase := 0
  feedback := 0
  quiesced := false
  stack := fun _ => 0

/-- A command complete event. -/
def completeEvent (opcode : UInt16) (reply : List UInt8) : List UInt8 :=
  [4, 14, UInt8.ofNat (4 + reply.length), 1] ++ le16 opcode ++ [0] ++ reply

/-- A vendor event behind its tag. -/
def vendorPacket (tag : UInt8) (data : List UInt8) : List UInt8 :=
  [4, 0xff, UInt8.ofNat (4 + data.length), 0x55, 0x4c, 0x4c, tag] ++ data

/-- The activities with the given kinds, each in use or free. -/
def activityEvent (kinds : List (Option UInt8)) : List UInt8 :=
  vendorPacket 0x43 ([1, 0, 6, 0] ++ kinds.flatMap fun kind =>
    match kind with
    | none => [0, 0, 255, 0, 0]
    | some kind => [1, 1, kind, 0, 0])

def setupReply : List UInt8 :=
  [14, 2, 1, 1] ++ heldBond.sirk.toList ++ List.replicate 5 0 ++ expectedMode ++ List.replicate 8 0

/-- A message of the peer in one packet. -/
def peerMessage (cid : UInt16) (payload : List UInt8) : List UInt8 :=
  aclPacket 0x2040 (pduBytes cid payload)

/-- The setup up to the connection. -/
def connectionEvents : List (Nat × List UInt8) :=
  [(8, completeEvent 0x0c03 []),
   (13, completeEvent 0x2002 [27, 0, 1]),
   (18, completeEvent 0x2003 features.tail),
   (23, completeEvent 0x0c01 []),
   (28, completeEvent 0x2001 []),
   (33, completeEvent 0x2005 []),
   (38, completeEvent 0x2014 []),
   (43, completeEvent 0x2043 []),
   (46, [4, 0x3e, 19, 1, 0, 0x40, 0, 0, 0] ++ heldBond.target.toList ++ [24, 0, 0, 0, 0, 0, 0])]

/-- The exchange with the peer. -/
def exchangeEvents : List (Nat × List UInt8) :=
  [(61, [4, 15, 4, 0, 1, 0x19, 0x20]),
   (63, [4, 8, 4, 0, 0x40, 0, 1]),
   (70, peerMessage 0x101 setupReply),
   (73, peerMessage 0x101 idleRequest),
   (100, peerMessage 0x101 idleMessage)]

/-- The answers to the startup of the audio. -/
def startupEvents : List (Nat × List UInt8) :=
  [(107, completeEvent 0x2015 ([0x40, 0] ++ cleanMap)),
   (111, vendorPacket 0x44 [1, 0, 0, 1, 27, 0, 1, 2]),
   (112, completeEvent 0xfcf0 []),
   (116, activityEvent [none, none, none, none, none, none]),
   (117, completeEvent 0xfcfa []),
   (121, completeEvent 0x2036 []),
   (125, activityEvent [none, some 0xee, none, none, none, none]),
   (126, completeEvent 0xfcfa []),
   (130, completeEvent 0x2036 []),
   (134, activityEvent [none, some 0xee, some 0xef, none, none, none]),
   (135, completeEvent 0xfcfa []),
   (139, completeEvent 0x2036 []),
   (143, activityEvent [none, some 0xee, some 0xef, some 0xed, none, none]),
   (144, completeEvent 0xfcfa []),
   (154, completeEvent 0x2022 []),
   (156, [4, 0x3e, 11, 7, 0x40, 0, 251, 0, 0x48, 8, 251, 0, 0x48, 8]),
   (161, vendorPacket 0x54 [1, 2, 0xe4, 0, 7, 1, 0, 0]),
   (162, completeEvent 0xfcf3 []),
   (169, vendorPacket 0x52 (1 :: 1 :: List.replicate 10 0)),
   (170, completeEvent 0xfcf4 []),
   (178, completeEvent 0x2015 ([0x40, 0] ++ cleanMap)),
   (184, completeEvent 0xfcfb [])]

def heldAnswers : Nat → Answer :=
  answersOf (connectionEvents ++ exchangeEvents ++ startupEvents)

/-- The peer speaks before the encryption. -/
def clearAnswers : Nat → Answer :=
  answersOf (connectionEvents ++ [(50, peerMessage 0x101 setupReply)])

/-- In the whole exchange the trial is started, behind the gate; a setup in the clear fails the
connection. -/
theorem startup_authenticated_held :
    (∃ later y earlier,
      (run heldBond 24 1 (Keeper.init heldAnswers)).2.session.log = later ++ y :: earlier ∧
      y.event = .called .trialContinuous ∧
      Saw (gate heldBond) (hearing heldBond earlier).heard) ∧
    (run heldBond 24 1 (Keeper.init clearAnswers)).2.session.peer.failed = true := by
  constructor
  · have hcalled : ∃ y ∈ (run heldBond 24 1 (Keeper.init heldAnswers)).2.session.log,
        y.event = .called .trialContinuous := by
      decide +kernel
    obtain ⟨y, hmem, hy⟩ := hcalled
    obtain ⟨later, earlier, hlog⟩ := List.append_of_mem hmem
    have hgate := ((startup_authenticated heldBond 24 1 heldAnswers).1 later y earlier hlog).1
    rw [hy] at hgate
    exact ⟨later, y, earlier, hlog, hy, hgate (.inl rfl)⟩
  · have hmessage : .message false 0x101 setupReply ∈ (hearing heldBond
        (run heldBond 24 1 (Keeper.init clearAnswers)).2.session.log).heard := by
      decide +kernel
    exact (startup_authenticated heldBond 24 1 clearAnswers).2
      ⟨_, hmessage, false, setupReply, rfl, .inl rfl⟩

end UllReceiver.Link
