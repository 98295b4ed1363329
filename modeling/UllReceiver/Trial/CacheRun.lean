import UllReceiver.Trial.Walk

/-!
# Cached frames over whole runs

Whatever cache a submitted frame was taken from, it is the frame that would be built afresh, with
the audio its event was first given.
-/

namespace UllReceiver.Trial

open Air Audio Parent Radio

/-! ## Frames of the same key -/

/-- The frames differ in nothing that is sent or read back. -/
structure SameFrame (p q : PreparedFrame) : Prop where
  wire : p.wire = q.wire
  length : p.length = q.length
  header : p.header = q.header
  channel : p.channel = q.channel
  outer : p.outerHs = q.outerHs ∧ p.outerHus = q.outerHus
  inner : p.innerHs = q.innerHs ∧ p.innerHus = q.innerHus
  index : p.index = q.index
  streamMask : p.streamMask = q.streamMask
  sequences : p.txSequence = q.txSequence ∧ p.ackSequence = q.ackSequence
  pollHeader : p.pollHeader = q.pollHeader
  parent : p.parent.header = q.parent.header ∧ p.parent.length = q.parent.length ∧
    p.parent.payload.toList.take p.parent.length.toNat =
      q.parent.payload.toList.take q.parent.length.toNat
  receive : p.receive = q.receive
  stereoAudio : p.stereoAudio = q.stereoAudio
  valid : p.valid = q.valid

namespace FrameKey.Same

variable {k k' : FrameKey} (h : k.Same k')

include h

theorem poll : k.poll = k'.poll := by
  unfold FrameKey.poll
  rw [h.index, h.streamMask]

theorem header : k.header = k'.header := by
  unfold FrameKey.header
  rw [h.streamMask, h.poll, h.parentAck]

theorem options : k.options = k'.options := by
  unfold FrameKey.options
  rw [h.index, h.header, h.txSequence, h.ackSequence, h.streamMask]

/-- A parent PDU that is sent is the same one. -/
theorem parent (hsent : (k.poll || k.parentAck) = true) :
    k.parent.header = k'.parent.header ∧ k.parent.length = k'.parent.length ∧
      k.parent.payload.toList.take k.parent.length.toNat =
        k'.parent.payload.toList.take k'.parent.length.toNat := by
  have hcontent := h.content
  unfold FrameKey.content at hcontent
  rw [← h.poll, ← h.parentAck, if_pos hsent, if_pos hsent] at hcontent
  exact ⟨congrArg Prod.fst hcontent, congrArg (fun c => c.2.1) hcontent,
    congrArg (fun c => c.2.2) hcontent⟩

theorem refused : k.refused = k'.refused := by
  unfold FrameKey.refused
  rw [← h.parentAck]
  cases hack : k.parentAck with
  | false => rfl
  | true =>
      obtain ⟨hheader, hlength, _⟩ := h.parent (by rw [hack, Bool.or_true])
      rw [hheader, hlength]

theorem packetLength (audio : FrameAudio) : k.packetLength audio = k'.packetLength audio := by
  unfold FrameKey.packetLength
  rw [← h.poll, ← h.parentAck, h.streamMask]
  cases hpoll : k.poll with
  | false => rfl
  | true =>
      obtain ⟨_, hlength, _⟩ := h.parent (by rw [hpoll, Bool.true_or])
      rw [hlength]

theorem event (plan : AirSessionPlan) (packet : TonePacket) :
    k.event plan packet = k'.event plan packet := by
  unfold FrameKey.event
  rw [h.poll, h.index]

end FrameKey.Same

/-- Of a control payload only the first `n` bytes are read. -/
theorem buildPacket_take (ccm : Ccm) (tone : UInt32 → Stereo) (plan : AirSessionPlan)
    (o : TonePacketOptions) (empty : Bool) (pollHeader : Option UInt8) (stereoAck : Bool)
    (control : List UInt8) (n : Nat) (audio : Option Stereo) :
    buildPacket ccm tone plan o empty pollHeader stereoAck control n audio =
      buildPacket ccm tone plan o empty pollHeader stereoAck (control.take n) n audio := by
  have happend (aggregate : List UInt8) :
      appendParent o empty pollHeader stereoAck control n aggregate =
        appendParent o empty pollHeader stereoAck (control.take n) n aggregate := by
    unfold appendParent
    rw [List.take_take, Nat.min_self]
  unfold buildPacket
  simp only [happend]

theorem FrameKey.Same.packet {k k' : FrameKey} (h : k.Same k') (ccm : Ccm) (tone : UInt32 → Stereo)
    (plan : AirSessionPlan) (audio : FrameAudio) :
    k.packet ccm tone plan audio = k'.packet ccm tone plan audio := by
  unfold FrameKey.packet
  rw [← h.parentAck, ← h.poll, h.options]
  cases hack : k.parentAck with
  | true =>
      obtain ⟨hheader, _, _⟩ := h.parent (by rw [hack, Bool.or_true])
      simp only [if_true, hheader]
  | false =>
      cases hpoll : k.poll with
      | true =>
          obtain ⟨hheader, hlength, hpayload⟩ := h.parent (by rw [hpoll, Bool.true_or])
          have hcontrol : controlPacketBuild ccm tone plan k'.options k.parent.header
              k.parent.payload.toList k.parent.length.toNat =
              controlPacketBuild ccm tone plan k'.options k'.parent.header
                k'.parent.payload.toList k'.parent.length.toNat := by
            unfold controlPacketBuild
            rw [buildPacket_take, hpayload, hlength, hheader, ← buildPacket_take]
          rw [hcontrol, hheader, hlength]
      | false => rfl

/-- The same packet is built for keys of the same packet. -/
theorem FrameKey.Same.buildFrame {k k' : FrameKey} (h : k.Same k') {ccm : Ccm}
    {tone : UInt32 → Stereo} {plan : AirSessionPlan} {audio : FrameAudio} {g : UInt32}
    {p : PreparedFrame} (hbuilt : buildFrame ccm tone plan k audio g = some p) (g' : UInt32) :
    buildFrame ccm tone plan k' audio g' = some { p with
      generation := g', pollHeader := k'.parent.header
      parent := if k'.poll || k'.parentAck then k'.parent else .zero } := by
  unfold Trial.buildFrame at hbuilt ⊢
  rw [← h.refused, ← h.packet ccm tone plan audio]
  split at hbuilt
  · exact absurd hbuilt (by simp)
  · rename_i hrefused
    rw [if_neg hrefused]
    cases hpacket : k.packet ccm tone plan audio with
    | error e =>
        rw [hpacket] at hbuilt
        exact absurd hbuilt (by simp)
    | ok packet =>
        rw [hpacket] at hbuilt
        simp only at hbuilt ⊢
        rw [← h.packetLength, ← h.header]
        split at hbuilt
        · exact absurd hbuilt (by simp)
        · rename_i hlength
          rw [if_neg hlength, ← h.event]
          obtain ⟨event, hevent, rfl⟩ := Option.map_eq_some_iff.mp hbuilt
          rw [hevent, Option.map_some, h.index, h.streamMask, h.txSequence, h.ackSequence]

theorem FrameKey.Proper.header {k k' : FrameKey} (hk : k.Proper) (hk' : k'.Proper)
    (h : k.Same k') : k.parent.header = k'.parent.header := by
  cases hsent : k.poll || k.parentAck with
  | true => exact (h.parent hsent).1
  | false =>
      rw [hk hsent]
      rw [h.poll, h.parentAck] at hsent
      rw [hk' hsent]

/-- Frames built for keys of the same packet differ in nothing that matters. -/
theorem FrameKey.Same.frame {k k' : FrameKey} (h : k.Same k') (hk : k.Proper) (hk' : k'.Proper)
    {audio : FrameAudio} {p : PreparedFrame} (hp : BuiltFor k audio p) (g : UInt32) :
    SameFrame p { p with
      generation := g, pollHeader := k'.parent.header
      parent := if k'.poll || k'.parentAck then k'.parent else .zero } := by
  refine ⟨rfl, rfl, rfl, rfl, ⟨rfl, rfl⟩, ⟨rfl, rfl⟩, rfl, rfl, ⟨rfl, rfl⟩, ?_, ?_, rfl, rfl, rfl⟩
  · exact hp.pollHeader.trans (hk.header hk' h)
  · rw [hp.parent, ← h.poll, ← h.parentAck]
    cases hsent : k.poll || k.parentAck with
    | true => exact h.parent hsent
    | false => exact ⟨rfl, rfl, rfl⟩

/-! ## The audio of an event -/

/-- What the answer of the source stands for. -/
def FrameAudio.ofAnswer (answer : Option Stereo) : FrameAudio :=
  match answer with
  | none => .empty
  | some audio => .frames audio

variable {W : Type} {P : Platform W}

/-- The audio of a frame: of a source, the answer its event was first given. -/
def TrialSystem.Latched (s : TrialSystem W) (k : FrameKey) (audio : FrameAudio) : Prop :=
  if k.streamMask = 2 then audio = .empty
  else if s.audioSource = false then audio = .cue
  else ∃ a, (k.index.toNat, a) ∈ s.source.history.answers ∧ audio = .ofAnswer a

/-- Answers of the same source stay on record. -/
structure Hears (s s' : TrialSystem W) : Prop where
  audioSource : s'.audioSource = s.audioSource
  answers : s.source.history.answers ⊆ s'.source.history.answers
  conserved : s.source.Conserved → s'.source.Conserved

theorem Hears.of_source {s s' : TrialSystem W} (h : s'.source = s.source)
    (ha : s'.audioSource = s.audioSource) : Hears s s' := by
  refine ⟨ha, ?_, ?_⟩ <;> rw [h]
  · exact List.Subset.refl _
  · exact id

theorem Hears.trans {s s' s'' : TrialSystem W} (h : Hears s s') (h' : Hears s' s'') :
    Hears s s'' :=
  ⟨h'.audioSource.trans h.audioSource, List.Subset.trans h.answers h'.answers,
    fun hc => h'.conserved (h.conserved hc)⟩

theorem TrialSystem.Latched.mono {s s' : TrialSystem W} {k : FrameKey} {audio : FrameAudio}
    (h : s.Latched k audio) (hs : Hears s s') : s'.Latched k audio := by
  unfold TrialSystem.Latched at h ⊢
  rw [hs.audioSource]
  split
  · rename_i hmask
    rwa [if_pos hmask] at h
  · rename_i hmask
    rw [if_neg hmask] at h
    split
    · rename_i hsource
      rwa [if_pos hsource] at h
    · rename_i hsource
      rw [if_neg hsource] at h
      obtain ⟨a, ha, heq⟩ := h
      exact ⟨a, hs.answers ha, heq⟩

theorem hears_push (frames : List Stereo) (s : TrialSystem W) (world : W) :
    Hears s { s with
      world, source := frames.foldl (fun source f => source.step (.push f)) s.source } := by
  refine ⟨rfl, ?_, ?_⟩
  · change _ ⊆ (frames.foldl _ s.source).history.answers
    have hanswers (source : Tracked Stereo) :
        (frames.foldl (fun source f => source.step (.push f)) source).history.answers =
          source.history.answers := by
      induction frames generalizing source with
      | nil => rfl
      | cons f frames ih => exact (ih _).trans (source.push_answers f)
    rw [hanswers]
    exact List.Subset.refl _
  · intro hc
    change (frames.foldl _ s.source).Conserved
    generalize s.source = source at hc
    induction frames generalizing source with
    | nil => exact hc
    | cons f frames ih => exact ih _ (hc.push f)

/-- Audio that is selected is what its event was first given. -/
theorem selectAudio_latched (k : FrameKey) {s : TrialSystem W} (hc : s.source.Conserved) :
    Hears s (s.selectAudio P k).2 ∧
      ∀ audio, (s.selectAudio P k).1 = some audio → (s.selectAudio P k).2.Latched k audio := by
  unfold TrialSystem.selectAudio
  -- an empty packet, a packet of the tone, or one that asks the audio source
  split
  · rename_i hmask
    refine ⟨.of_source rfl rfl, fun audio h => ?_⟩
    unfold TrialSystem.Latched
    rw [if_pos hmask]
    exact (Option.some.inj h).symm
  · rename_i hmask
    split
    · rename_i hsource
      refine ⟨.of_source rfl rfl, fun audio h => ?_⟩
      unfold TrialSystem.Latched
      rw [if_neg hmask, if_pos (by simpa using hsource)]
      exact (Option.some.inj h).symm
    · rename_i hsource
      have hpush := hears_push (P.arrivals s.world).1 s (P.arrivals s.world).2
      simp only
      generalize (P.arrivals s.world).1.foldl _ s.source = source at hpush
      have hcs : source.Conserved := hpush.conserved hc
      -- the source answers an event it has answered before with the same frames
      obtain ⟨hanswers, hanswer⟩ := hcs.select_answer k.index default
      generalize hs1 : ({ s with
        world := (P.arrivals s.world).2
        source := source.step (.select k.index default) } : TrialSystem W) = s1
      have h1 : Hears s s1 := by
        rw [← hs1]
        exact hpush.trans ⟨rfl, hanswers, fun _ => hcs.step (.select k.index default)⟩
      have hlatched (a : Option Stereo) (ha : (k.index.toNat, a) ∈
          (source.step (.select k.index default)).history.answers) :
          s1.Latched k (.ofAnswer a) := by
        unfold TrialSystem.Latched
        rw [if_neg hmask, if_neg (by rw [h1.audioSource]; simpa using hsource)]
        exact ⟨a, by rw [← hs1]; exact ha, rfl⟩
      rcases hanswer with hrefused | ⟨a, ha, hcode, hdata⟩
      · rw [hrefused, if_pos (by decide)]
        exact ⟨h1, fun audio h => (nomatch h)⟩
      · rw [hcode, hdata]
        cases a with
        | none =>
            rw [answerCode_none, if_neg (by decide), if_pos rfl]
            refine ⟨h1, fun audio h => ?_⟩
            rw [← Option.some.inj h]
            exact hlatched none ha
        | some frames =>
            rw [answerCode_some, if_neg (by decide), if_neg (by decide)]
            refine ⟨h1, fun audio h => ?_⟩
            rw [← Option.some.inj h]
            exact hlatched (some frames) ha

/-! ## Cache entries -/

/-- A cache entry is a frame that was built for some key, with the audio of its event. -/
def Entry (P : Platform W) (s : TrialSystem W) (p : PreparedFrame) : Prop :=
  ∃ k audio built, k.Proper ∧ s.Latched k audio ∧
    buildFrame P.ccm P.tone s.trial.plan k audio built.generation = some built ∧
    p = { built with generation := p.generation, cacheReused := p.cacheReused }

theorem Entry.mono {s s' : TrialSystem W} {p : PreparedFrame} (h : Entry P s p) (hs : Hears s s')
    (hplan : s'.trial.plan = s.trial.plan) : Entry P s' p := by
  obtain ⟨k, audio, built, hproper, hlatched, hbuilt, heq⟩ := h
  exact ⟨k, audio, built, hproper, hlatched.mono hs, hplan ▸ hbuilt, heq⟩

theorem Entry.reused {s : TrialSystem W} {p : PreparedFrame} (h : Entry P s p) (g : UInt32) :
    Entry P s (p.reused g) := by
  obtain ⟨k, audio, built, hproper, hlatched, hbuilt, heq⟩ := h
  refine ⟨k, audio, built, hproper, hlatched, hbuilt, ?_⟩
  rw [heq]
  rfl

theorem Entry.proper {s : TrialSystem W} {p : PreparedFrame} (h : Entry P s p) : p.key.Proper := by
  obtain ⟨k, audio, built, hproper, _, hbuilt, heq⟩ := h
  have hfields := buildFrame_fields hbuilt
  have hsame := hfields.key_same
  have hkey : p.key = built.key := by
    rw [heq]
    rfl
  rw [hkey]
  intro hsent
  have hk := hsent
  rw [hsame.poll, hsame.parentAck] at hk
  change built.parent.header = 0
  rw [hfields.parent, hk]
  rfl

/-- Every cache holds entries only. -/
structure Cached (P : Platform W) (s : TrialSystem W) : Prop where
  conserved : s.source.Conserved
  prepared : ∀ i, (s.trial.prepared i).valid = true → Entry P s (s.trial.prepared i)
  alternate : ∀ i, (s.trial.alternate i).valid = true → Entry P s (s.trial.alternate i)
  gap : ∀ i, (s.trial.gap i).valid = true → Entry P s (s.trial.gap i)

theorem store_entry {s : TrialSystem W} {slots : Fin 2 → PreparedFrame}
    (h : ∀ i, (slots i).valid = true → Entry P s (slots i)) (slot : Fin 2)
    {built : Option PreparedFrame} (hb : ∀ p, built = some p → Entry P s p) (i : Fin 2)
    (hvalid : (TrialSystem.store slots slot built i).valid = true) :
    Entry P s (TrialSystem.store slots slot built i) := by
  unfold TrialSystem.store at hvalid ⊢
  by_cases hi : i = slot
  · rw [hi, Function.update_self] at hvalid ⊢
    cases built with
    | none => exact (nomatch hvalid)
    | some p => exact hb p rfl
  · rw [Function.update_of_ne hi] at hvalid ⊢
    exact h i hvalid

theorem Cached.mono {s s' : TrialSystem W} (h : Cached P s) (hs : Hears s s')
    (hplan : s'.trial.plan = s.trial.plan) (hprepared : s'.trial.prepared = s.trial.prepared)
    (halternate : s'.trial.alternate = s.trial.alternate) (hgap : s'.trial.gap = s.trial.gap) :
    Cached P s' := by
  refine ⟨hs.conserved h.conserved, ?_, ?_, ?_⟩
  · rw [hprepared]
    exact fun i hi => (h.prepared i hi).mono hs hplan
  · rw [halternate]
    exact fun i hi => (h.alternate i hi).mono hs hplan
  · rw [hgap]
    exact fun i hi => (h.gap i hi).mono hs hplan

theorem buildPreparedFrame_entry {k : FrameKey} (hk : k.Proper) {s : TrialSystem W}
    (hc : s.source.Conserved) :
    Hears s (s.buildPreparedFrame P k).2 ∧ (s.buildPreparedFrame P k).2.trial = s.trial ∧
      ∀ p, (s.buildPreparedFrame P k).1 = some p → Entry P (s.buildPreparedFrame P k).2 p := by
  unfold TrialSystem.buildPreparedFrame
  split
  · exact ⟨.of_source rfl rfl, rfl, fun p h => (nomatch h)⟩
  · obtain ⟨hhears, hlatched⟩ := selectAudio_latched (P := P) k hc
    obtain ⟨source, world, hsame⟩ := selectAudio_same P k s
    generalize s.selectAudio P k = r at hhears hlatched hsame
    obtain ⟨audio, s1⟩ := r
    change s1 = _ at hsame
    have htrial : s1.trial = s.trial := by rw [hsame]
    cases audio with
    | none => exact ⟨hhears, htrial, fun p h => (nomatch h)⟩
    | some audio =>
        refine ⟨hhears.trans (.of_source rfl rfl), htrial, fun p hp => ?_⟩
        -- the frame remembers the acknowledgements it was built under
        have hgeneration : p.generation = s1.trial.feedback.generation := by
          change buildFrame _ _ _ _ _ _ = some p at hp
          unfold buildFrame at hp
          split at hp
          · exact absurd hp (by simp)
          · split at hp
            · exact absurd hp (by simp)
            · split at hp
              · exact absurd hp (by simp)
              · obtain ⟨_, _, rfl⟩ := Option.map_eq_some_iff.mp hp
                rfl
        refine ⟨k, audio, p, hk, (hlatched audio rfl).mono (.of_source rfl rfl), ?_, rfl⟩
        rw [hgeneration]
        exact hp

theorem prepareKey_cached {k : FrameKey} (hk : k.Proper) {s : TrialSystem W} (h : Cached P s) :
    Hears s (s.prepareKey P k).2 ∧ Cached P (s.prepareKey P k).2 := by
  unfold TrialSystem.prepareKey
  cases hc : TrialSystem.cached s.trial k with
  | some p =>
      have hentry : Entry P s p := by
        obtain ⟨hmatch, hfrom⟩ := cached_some hc
        have hvalid := (frameMatches_same hmatch).1
        rcases hfrom with rfl | rfl | rfl
        · exact h.prepared _ hvalid
        · exact h.alternate _ hvalid
        · exact h.gap _ hvalid
      refine ⟨.of_source rfl rfl, h.conserved, ?_, h.alternate, h.gap⟩
      refine store_entry (fun i hi => h.prepared i hi) _ fun q hq => ?_
      rw [← Option.some.inj hq]
      exact hentry.reused _
  | none =>
      obtain ⟨hhears, htrial, hbuilt⟩ := buildPreparedFrame_entry (P := P) hk h.conserved
      simp only
      generalize s.buildPreparedFrame P k = r at hhears htrial hbuilt
      obtain ⟨built, s1⟩ := r
      simp only at hhears htrial hbuilt ⊢
      have h1 : Cached P s1 := h.mono hhears (by rw [htrial]) (by rw [htrial]) (by rw [htrial])
        (by rw [htrial])
      refine ⟨hhears.trans (.of_source rfl rfl), h1.conserved, ?_, h1.alternate, h1.gap⟩
      exact store_entry (fun i hi => h1.prepared i hi) _ hbuilt

theorem prepareFrame_cached (index : UInt32) {s : TrialSystem W} (h : Cached P s) :
    Hears s (s.prepareFrame P index).2 ∧ Cached P (s.prepareFrame P index).2 := by
  unfold TrialSystem.prepareFrame
  split
  · exact ⟨.of_source rfl rfl, h⟩
  · obtain ⟨world, hsame⟩ := parentPdu_same P index s
    generalize hr : s.parentPdu P index = r at hsame
    obtain ⟨parent, s1⟩ := r
    change s1 = _ at hsame
    subst hsame
    cases parent with
    | none => exact ⟨.of_source rfl rfl, h.mono (.of_source rfl rfl) rfl rfl rfl rfl⟩
    | some parent =>
        have hproper := parentPdu_proper P hr
        have hfirst : Hears s { s with world, history := { s.history with parent } } :=
          .of_source rfl rfl
        obtain ⟨hhears, hcached⟩ := prepareKey_cached (P := P) hproper
          (h.mono hfirst rfl rfl rfl rfl)
        exact ⟨hfirst.trans hhears, hcached⟩

theorem prepareGuess_cached {k : FrameKey} (hk : k.Proper) {s : TrialSystem W} (h : Cached P s) :
    Hears s (s.prepareGuess P k).2 ∧ Cached P (s.prepareGuess P k).2 := by
  unfold TrialSystem.prepareGuess
  obtain ⟨hhears, htrial, hbuilt⟩ := buildPreparedFrame_entry (P := P) hk h.conserved
  generalize s.buildPreparedFrame P k = r at hhears htrial hbuilt
  obtain ⟨built, s1⟩ := r
  simp only at hhears htrial hbuilt ⊢
  have h1 : Cached P s1 := h.mono hhears (by rw [htrial]) (by rw [htrial]) (by rw [htrial])
    (by rw [htrial])
  exact ⟨hhears.trans (.of_source rfl rfl), h1.conserved, h1.prepared,
    store_entry (fun i hi => h1.alternate i hi) _ hbuilt, h1.gap⟩

theorem prepareGap_cached {k : FrameKey} (hk : k.Proper) {s : TrialSystem W} (h : Cached P s) :
    Hears s (s.prepareGap P k).2 ∧ Cached P (s.prepareGap P k).2 := by
  unfold TrialSystem.prepareGap
  obtain ⟨hhears, htrial, hbuilt⟩ := buildPreparedFrame_entry (P := P) hk h.conserved
  generalize s.buildPreparedFrame P k = r at hhears htrial hbuilt
  obtain ⟨built, s1⟩ := r
  simp only at hhears htrial hbuilt ⊢
  have h1 : Cached P s1 := h.mono hhears (by rw [htrial]) (by rw [htrial]) (by rw [htrial])
    (by rw [htrial])
  exact ⟨hhears.trans (.of_source rfl rfl), h1.conserved, h1.prepared, h1.alternate,
    store_entry (fun i hi => h1.gap i hi) _ hbuilt⟩

/-- A guessed acknowledgement leaves the parent PDU of a key alone. -/
theorem proper_ack {p : PreparedFrame} (h : p.key.Proper) (ack : Vector UInt8 2) :
    FrameKey.Proper { p.key with ackSequence := ack } :=
  h

theorem prepareAlternate_cached (index : UInt32) {s : TrialSystem W} (h : Cached P s) :
    Hears s (s.prepareAlternate P index).2 ∧ Cached P (s.prepareAlternate P index).2 := by
  unfold TrialSystem.prepareAlternate
  split
  · exact ⟨.of_source rfl rfl, h⟩
  · simp only
    generalize hs1 : s.onTrial _ = s1
    -- first both guesses are made invalid
    have h1 : Hears s s1 ∧ Cached P s1 := by
      rw [← hs1]
      refine ⟨.of_source rfl rfl, h.conserved, h.prepared, ?_, ?_⟩
      · exact store_entry (fun i hi => h.alternate i hi) _ fun _ hf => (nomatch hf)
      · exact store_entry (fun i hi => h.gap i hi) _ fun _ hf => (nomatch hf)
    obtain ⟨hhears1, hcached1⟩ := h1
    split
    · exact ⟨hhears1, hcached1⟩
    · rename_i hguard
      have hvalid : (s1.trial.prepared (frameSlot index)).valid = true := by
        by_contra hne
        exact hguard (.inl (by simpa using hne))
      have hproper := (hcached1.prepared _ hvalid).proper
      split
      · exact ⟨hhears1, hcached1⟩
      · have hguess := prepareGuess_cached (P := P) (proper_ack hproper
          ((s1.trial.prepared (frameSlot index)).ackSequence.set 0
            (TrialSystem.guessedAck (s1.trial.prepared (frameSlot index)) index))) hcached1
        generalize s1.prepareGuess P _ = r at hguess
        obtain ⟨built, s2⟩ := r
        obtain ⟨hhears2, hcached2⟩ := hguess
        cases built with
        | false => exact ⟨hhears1.trans hhears2, hcached2⟩
        | true =>
            simp only
            split
            · exact ⟨hhears1.trans hhears2, hcached2⟩
            · rename_i ack _
              obtain ⟨hhears3, hcached3⟩ := prepareGap_cached (P := P) (proper_ack hproper
                ((s1.trial.prepared (frameSlot index)).ackSequence.set 0 ack)) hcached2
              exact ⟨(hhears1.trans hhears2).trans hhears3, hcached3⟩

/-! ## Submissions -/

/-- The key of a submitted frame, from the feedback and the parent PDU at that moment. -/
def Submission.key (s : Submission) : FrameKey :=
  s.trial.frameKey s.trial.nextFrame s.parent

/-- The request carries the frame that would be built afresh. -/
def Fresh (P : Platform W) (s : TrialSystem W) (sub : Submission) : Prop :=
  ∃ audio built, s.Latched sub.key audio ∧
    buildFrame P.ccm P.tone sub.trial.plan sub.key audio sub.trial.feedback.generation =
      some built ∧
    SameFrame sub.frame built ∧ FrameRequest built sub.request

theorem Fresh.mono {s s' : TrialSystem W} {sub : Submission} (h : Fresh P s sub)
    (hs : Hears s s') : Fresh P s' sub := by
  obtain ⟨audio, built, hlatched, hbuilt, hsame, hrequest⟩ := h
  exact ⟨audio, built, hlatched.mono hs, hbuilt, hsame, hrequest⟩

theorem SameFrame.request {p q : PreparedFrame} (h : SameFrame p q) {r : RadioTxRequest}
    (hr : FrameRequest p r) : FrameRequest q r :=
  ⟨hr.startHs.trans h.outer.1, hr.startHus.trans h.outer.2, hr.payload.trans h.wire,
    hr.channel.trans h.channel, hr.header.trans h.header⟩

theorem FrameKey.Same.symm {k k' : FrameKey} (h : k.Same k') : k'.Same k :=
  ⟨h.index.symm, h.streamMask.symm, h.txSequence.symm, h.ackSequence.symm, h.parentAck.symm,
    h.content.symm⟩

theorem FrameKey.Same.trans {k k' k'' : FrameKey} (h : k.Same k') (h' : k'.Same k'') :
    k.Same k'' :=
  ⟨h.index.trans h'.index, h.streamMask.trans h'.streamMask, h.txSequence.trans h'.txSequence,
    h.ackSequence.trans h'.ackSequence, h.parentAck.trans h'.parentAck,
    h.content.trans h'.content⟩

theorem TrialSystem.Latched.same {s : TrialSystem W} {k k' : FrameKey} {audio : FrameAudio}
    (h : s.Latched k audio) (hs : k.Same k') : s.Latched k' audio := by
  unfold TrialSystem.Latched at h ⊢
  rw [← hs.streamMask, ← hs.index]
  exact h

/-- A cached entry stands for the frame built afresh for any key of the same packet. -/
theorem Entry.fresh {s : TrialSystem W} {p : PreparedFrame} (h : Entry P s p) {k : FrameKey}
    (hk : k.Proper) (hsame : p.key.Same k) (g : UInt32) :
    ∃ audio built, s.Latched k audio ∧
      buildFrame P.ccm P.tone s.trial.plan k audio g = some built ∧ SameFrame p built := by
  obtain ⟨k0, audio, built, hproper, hlatched, hbuilt, heq⟩ := h
  have hfields := buildFrame_fields hbuilt
  have hkey : p.key = built.key := by
    rw [heq]
    rfl
  have hk0 : k0.Same k := hfields.key_same.symm.trans (hkey ▸ hsame)
  refine ⟨audio, _, hlatched.same hk0, hk0.buildFrame hbuilt g, ?_⟩
  have hframe := hk0.frame hproper hk hfields g
  rw [heq]
  exact ⟨hframe.wire, hframe.length, hframe.header, hframe.channel, hframe.outer, hframe.inner,
    hframe.index, hframe.streamMask, hframe.sequences, hframe.pollHeader, hframe.parent,
    hframe.receive, hframe.stereoAudio, hframe.valid⟩

theorem submission_fresh {s : TrialSystem W} (hc : Cached P s) (hready : s.Ready)
    {request : RadioTxRequest} (hrequest : FrameRequest s.nextPrepared request) (status : UInt8) :
    Fresh P s { trial := s.trial, parent := s.history.parent, request, status } := by
  obtain ⟨audio, built, hlatched, hbuilt, hsame⟩ :=
    (hc.prepared _ hready.valid).fresh hready.proper hready.same s.trial.feedback.generation
  exact ⟨audio, built, hlatched, hbuilt, hsame, hsame.request hrequest⟩

/-! ## The invariant -/

structure CacheInv (P : Platform W) (a : Stage × TrialSystem W) : Prop where
  cached : Cached P a.2
  idle : a.1 = .starting ∨ (a.1 = .rest ∧ a.2.trial.phase = .idle) →
    (∀ i, (a.2.trial.alternate i).valid = false ∧ (a.2.trial.gap i).valid = false) ∧
      ∀ sub, .submit sub ∉ a.2.history.calls
  ready : a.1 = .claimed ∨ a.1 = .fallback → a.2.Ready
  fresh : ∀ sub, .submit sub ∈ a.2.history.calls → Fresh P a.2 sub

/-- Between sessions the caches are empty and nothing is on record. -/
theorem CacheInv.empty {st : Stage} {s : TrialSystem W} (hc : s.source.Conserved)
    (hprepared : ∀ i, (s.trial.prepared i).valid = false)
    (hahead : ∀ i, (s.trial.alternate i).valid = false ∧ (s.trial.gap i).valid = false)
    (hnone : ∀ sub, .submit sub ∉ s.history.calls) (hst : st ≠ .claimed ∧ st ≠ .fallback) :
    CacheInv P (st, s) := by
  refine ⟨⟨hc, fun i hi => ?_, fun i hi => ?_, fun i hi => ?_⟩, fun _ => ⟨hahead, hnone⟩,
    fun hor => ?_, fun sub hsub => absurd hsub (hnone sub)⟩
  · exact absurd ((hprepared i).symm.trans hi) (by decide)
  · exact absurd ((hahead i).1.symm.trans hi) (by decide)
  · exact absurd ((hahead i).2.symm.trans hi) (by decide)
  · rcases hor with hf | hf
    · exact absurd hf hst.1
    · exact absurd hf hst.2

/-- A move that touches no cache. -/
theorem CacheInv.same {st st' : Stage} {s s' : TrialSystem W} (h : CacheInv P (st, s))
    (hs : Hears s s') (hplan : s'.trial.plan = s.trial.plan)
    (hprepared : s'.trial.prepared = s.trial.prepared)
    (halternate : s'.trial.alternate = s.trial.alternate) (hgap : s'.trial.gap = s.trial.gap)
    (hidle : st' = .starting ∨ (st' = .rest ∧ s'.trial.phase = .idle) →
      st = .starting ∨ (st = .rest ∧ s.trial.phase = .idle))
    (hready : st' = .claimed ∨ st' = .fallback → s'.Ready)
    (hcalls : ∀ sub, .submit sub ∈ s'.history.calls → .submit sub ∈ s.history.calls) :
    CacheInv P (st', s') := by
  refine ⟨h.cached.mono hs hplan hprepared halternate hgap, fun hst => ?_, hready, fun sub hsub => ?_⟩
  · obtain ⟨hinvalid, hnone⟩ := h.idle (hidle hst)
    refine ⟨?_, fun sub hsub => hnone sub (hcalls sub hsub)⟩
    simp only [halternate, hgap]
    exact hinvalid
  · exact (h.fresh sub (hcalls sub hsub)).mono hs

theorem Aside.hears {s s' : TrialSystem W} (h : Aside P s s') :
    Hears s s' ∧ s'.trial.plan = s.trial.plan ∧ s'.trial.prepared = s.trial.prepared ∧
      s'.trial.alternate = s.trial.alternate ∧ s'.trial.gap = s.trial.gap ∧
      s'.history.calls = s.history.calls := by
  cases h with
  | push frame => exact ⟨hears_push [frame] s s.world, rfl, rfl, rfl, rfl, rfl⟩
  | joined t ht =>
      refine ⟨.of_source rfl rfl, ?_, ?_, ?_, ?_, rfl⟩ <;> rw [ht.same]
  | _ => exact ⟨.of_source rfl rfl, rfl, rfl, rfl, rfl, rfl⟩

theorem CacheInv.aside {st : Stage} (hst : st = .rest ∨ st = .flying) {s s' : TrialSystem W}
    (h : Aside P s s') (hi : CacheInv P (st, s)) : CacheInv P (st, s') := by
  obtain ⟨hhears, hplan, hprepared, halternate, hgap, hcalls⟩ := h.hears
  refine hi.same hhears hplan hprepared halternate hgap ?_ ?_ ?_
  · rw [h.same.1.phase]
    exact id
  · rintro (hf | hf) <;> rcases hst with rfl | rfl <;> exact (nomatch hf)
  · rw [hcalls]
    exact fun _ hsub => hsub

/-- A frame is prepared while a session is under way. -/
theorem CacheInv.prepared {st : Stage} {s s' : TrialSystem W} (h : CacheInv P (st, s))
    (hst : st = .rest ∨ st = .flying) (hactive : Active s'.trial.phase)
    (hhears : Hears s s') (hcached : Cached P s') (hcalls : s'.history.calls = s.history.calls) :
    CacheInv P (st, s') := by
  refine ⟨hcached, ?_, ?_, ?_⟩
  · rintro (hf | ⟨_, hidle⟩)
    · rcases hst with rfl | rfl <;> exact (nomatch hf)
    · exact absurd (hidle ▸ hactive) not_active_idle
  · rintro (hf | hf) <;> rcases hst with rfl | rfl <;> exact (nomatch hf)
  · rw [hcalls]
    exact fun sub hsub => (h.fresh sub hsub).mono hhears

/-- A submission is recorded. -/
theorem CacheInv.submission {st st' : Stage} {s s' : TrialSystem W} (h : CacheInv P (st, s))
    (hst : st = .claimed ∨ st = .fallback) {request : RadioTxRequest}
    (hrequest : FrameRequest s.nextPrepared request) (status : UInt8)
    (hsame : s' = { s.log (s.submission request status) with retry := s'.retry })
    (hst' : st' = .sent ∨ st' = .claimed) : CacheInv P (st', s') := by
  have hready := h.ready hst
  have htrial : s'.trial = s.trial := by rw [hsame]; rfl
  have hhears : Hears s s' := by rw [hsame]; exact .of_source rfl rfl
  refine ⟨h.cached.mono hhears (by rw [htrial]) (by rw [htrial]) (by rw [htrial]) (by rw [htrial]),
    ?_, fun _ => ?_, ?_⟩
  · rintro (hf | ⟨hf, _⟩) <;> rcases hst' with rfl | rfl <;> exact (nomatch hf)
  · rw [hsame]
    exact ⟨hready.next, hready.valid, hready.same, hready.proper⟩
  · have hcalls : s'.history.calls = s.submission request status :: s.history.calls := by
      rw [hsame]
      rfl
    rw [hcalls]
    intro sub hsub
    rcases List.mem_cons.mp hsub with heq | hmem
    · rw [Call.submit.inj heq]
      exact (submission_fresh h.cached hready hrequest status).mono hhears
    · exact (h.fresh sub hmem).mono hhears

theorem CacheInv.finish {st : Stage} {s : TrialSystem W} (h : CacheInv P (st, s))
    {phase : TrialPhase} (hphase : phase ≠ .idle) (reason : UInt8) :
    CacheInv P (.rest, s.finish P phase reason) := by
  refine ⟨⟨h.cached.conserved, ?_, ?_, ?_⟩, ?_, ?_, ?_⟩
  · exact fun i hf => (nomatch hf)
  · exact fun i hf => (nomatch hf)
  · exact fun i hf => (nomatch hf)
  · rintro (hf | ⟨_, hidle⟩)
    · exact (nomatch hf)
    · exact absurd hidle hphase
  · rintro (hf | hf) <;> exact (nomatch hf)
  · exact fun sub hsub => (h.fresh sub hsub).mono (.of_source rfl rfl)

theorem Move.cacheInv {a b : Stage × TrialSystem W} (h : Move P a b) (hb : Bounded a)
    (hi : CacheInv P a) : CacheInv P b := by
  -- what the invariant says of a frame that is claimed, and of a trial that is at rest, is empty
  -- at most stages
  have hnot {st : Stage} {Q : Prop} (h : st ≠ .claimed ∧ st ≠ .fallback) :
      st = .claimed ∨ st = .fallback → Q := fun hor => by
    rcases hor with hf | hf
    · exact absurd hf h.1
    · exact absurd hf h.2
  have hbusy {st : Stage} {phase : TrialPhase} {Q : Prop} (h : st ≠ .starting)
      (hphase : st = .rest → phase ≠ .idle) : st = .starting ∨ (st = .rest ∧ phase = .idle) → Q :=
    fun hor => by
      rcases hor with hf | ⟨hf, hidle⟩
      · exact absurd hf h
      · exact absurd hidle (hphase hf)
  have haway {st : Stage} {Q R : Prop} (h : st ≠ .starting ∧ st ≠ .rest) :
      st = .starting ∨ (st = .rest ∧ R) → Q := fun hor => by
    rcases hor with hf | ⟨hf, _⟩
    · exact absurd hf h.1
    · exact absurd hf h.2
  have hlog {s : TrialSystem W} {c : Call} (hc : ∀ sub, c ≠ .submit sub) (sub : Submission)
      (hsub : .submit sub ∈ c :: s.history.calls) : .submit sub ∈ s.history.calls := by
    rcases List.mem_cons.mp hsub with hf | hmem
    · exact absurd hf.symm (hc sub)
    · exact hmem
  have hactive {phase : TrialPhase} (h : Active phase) : phase ≠ .idle := fun hf =>
    absurd (hf ▸ h) not_active_idle
  cases h with
  | world | report =>
      exact hi.same (.of_source rfl rfl) rfl rfl rfl rfl id (fun hst =>
        ⟨(hi.ready hst).next, (hi.ready hst).valid, (hi.ready hst).same, (hi.ready hst).proper⟩)
        fun _ h => h
  | asideRest h => exact hi.aside (.inl rfl) h
  | asideFlying h => exact hi.aside (.inr rfl) h
  | setAudioSource on hidle | continuous on hidle =>
      obtain ⟨hahead, hnone⟩ := hi.idle (.inr ⟨rfl, hidle⟩)
      exact .empty hi.cached.conserved (hb.1 hidle).2 hahead hnone (by decide)
  | rearmSource paused hidle =>
      obtain ⟨hahead, hnone⟩ := hi.idle (.inr ⟨rfl, hidle⟩)
      exact .empty (hi.cached.conserved.step (.rearm paused)) (hb.1 hidle).2 hahead hnone (by decide)
  | rearm hphase =>
      exact .empty hi.cached.conserved (fun _ => rfl) (fun _ => ⟨rfl, rfl⟩)
        (fun sub hsub => (nomatch hsub)) (by decide)
  | «begin» hidle starts =>
      exact hi.same (.of_source rfl rfl) rfl rfl rfl rfl id (hnot (by decide)) fun _ h => h
  | plan hidle plan =>
      obtain ⟨hahead, hnone⟩ := hi.idle (.inr ⟨rfl, hidle⟩)
      exact .empty hi.cached.conserved (hb.1 hidle).2 hahead hnone (by decide)
  | crc crcInit =>
      exact hi.same (.of_source rfl rfl) rfl rfl rfl rfl id (hnot (by decide)) fun _ h => h
  | prepareFirst =>
      rename_i s
      obtain ⟨hahead, hnone⟩ := hi.idle (.inl rfl)
      obtain ⟨hhears, hcached⟩ := prepareFrame_cached (P := P) 0 hi.cached
      obtain ⟨p, source, world, ccmKey, parent, hsame⟩ := prepareFrame_same P 0 s
      have hcalls : (s.prepareFrame P 0).2.history.calls = s.history.calls := by rw [hsame]
      refine ⟨hcached, fun _ => ⟨?_, ?_⟩, ?_, ?_⟩
      · rw [hsame]
        exact hahead
      · rw [hcalls]
        exact hnone
      · rintro (hf | hf) <;> exact (nomatch hf)
      · rw [hcalls]
        exact fun sub hsub => absurd hsub (hnone sub)
  | abandon prepared h =>
      obtain ⟨hahead, hnone⟩ := hi.idle (.inl rfl)
      exact .empty hi.cached.conserved h hahead hnone (by decide)
  | commit now =>
      exact hi.same (.of_source rfl rfl) rfl rfl rfl rfl (fun _ => .inl rfl) (hnot (by decide))
        fun _ h => h
  | confirm | takeLead =>
      exact hi.same (.of_source rfl rfl) rfl rfl rfl rfl id (hnot (by decide)) fun _ h => h
  | prepare hnext hphase =>
      rename_i s
      obtain ⟨hhears, hcached⟩ := prepareFrame_cached (P := P) s.trial.nextFrame hi.cached
      obtain ⟨p, source, world, ccmKey, parent, hsame⟩ :=
        prepareFrame_same P s.trial.nextFrame s
      exact hi.prepared (.inl rfl) (by rw [hsame]; exact hphase) hhears hcached (by rw [hsame])
  | skip hnext hphase =>
      exact hi.same (.of_source rfl rfl) rfl rfl rfl rfl (hbusy (by decide) fun _ => hactive hphase)
        (hnot (by decide)) fun _ h => h
  | wait hphase =>
      exact hi.same (.of_source rfl rfl) rfl rfl rfl rfl (hbusy (by decide) fun _ hf => (nomatch hf))
        (hnot (by decide)) fun _ h => h
  | claim h hphase =>
      refine hi.same (.of_source rfl rfl) rfl rfl rfl rfl (haway (by decide))
        (fun _ => ⟨h.next, h.valid, h.same, h.proper⟩) (hlog ?_)
      exact fun sub hf => (nomatch hf)
  -- a submission, accepted or not, is of the claimed frame
  | accepted request h => exact hi.submission (.inl rfl) h 0 rfl (.inl rfl)
  | refused request h status hstatus => exact hi.submission (.inl rfl) h status rfl (.inr rfl)
  | fallback now status hstatus =>
      have hready := hi.ready (.inl rfl)
      exact hi.same (.of_source rfl rfl) rfl rfl rfl rfl (haway (by decide))
        (fun _ => ⟨hready.next, hready.valid, hready.same, hready.proper⟩) fun _ h => h
  | fallbackSent request h => exact hi.submission (.inr rfl) h 0 rfl (.inl rfl)
  | fallbackRejected request h status hstatus =>
      exact hi.submission (.inr rfl) h status rfl (.inr rfl)
  | submitted now recorded repeated fallback =>
      exact hi.same (.of_source rfl rfl) rfl rfl rfl rfl (haway (by decide))
        (hnot (by decide)) fun _ h => h
  | unsubmitted now status hstatus recorded repeated fallback hrecorded =>
      exact hi.same (.of_source rfl rfl) rfl rfl rfl rfl (hbusy (by decide) fun _ => hactive hb.1)
        (hnot (by decide)) fun _ h => h
  | launch =>
      exact hi.same (.of_source rfl rfl) rfl rfl rfl rfl (haway (by decide))
        (hnot (by decide)) fun _ h => h
  | prepareNext index hindex =>
      rename_i s
      obtain ⟨hhears, hcached⟩ := prepareFrame_cached (P := P) index hi.cached
      obtain ⟨p, source, world, ccmKey, parent, hsame⟩ := prepareFrame_same P index s
      exact hi.prepared (.inr rfl) (by rw [hsame]; exact .inr hb.1) hhears hcached (by rw [hsame])
  | alternate index hindex =>
      rename_i s
      obtain ⟨hhears, hcached⟩ := prepareAlternate_cached (P := P) index hi.cached
      obtain ⟨alternate, gap, source, world, ccmKey, hsame⟩ := prepareAlternate_ahead P index s
      exact hi.prepared (.inr rfl) (by rw [hsame]; exact .inr hb.1) hhears hcached (by rw [hsame])
  | giveUp | lost =>
      exact hi.same (.of_source rfl rfl) rfl rfl rfl rfl (haway (by decide))
        (hnot (by decide)) fun _ h => h
  | collected now result ended =>
      cases ended <;>
        exact hi.same (.of_source rfl rfl) rfl rfl rfl rfl (haway (by decide))
          (hnot (by decide)) (hlog fun sub hf => (nomatch hf))
  | ordinary | heard | controlReceived =>
      exact hi.same (.of_source rfl rfl) rfl rfl rfl rfl (haway (by decide))
        (hnot (by decide)) fun _ h => h
  | control | noteTx =>
      refine hi.same (.of_source rfl rfl) rfl rfl rfl rfl (haway (by decide))
        (hnot (by decide)) (hlog ?_)
      exact fun sub hf => (nomatch hf)
  | rewind | drop | settled =>
      refine hi.same (.of_source rfl rfl) rfl rfl rfl rfl (hbusy (by decide) fun _ => ?_)
        (hnot (by decide)) fun _ h => h
      exact fun hidle => absurd (hidle.symm.trans hb.1) (by decide)
  | finish phase reason hphase hst hactive =>
      exact hi.finish (by rcases hphase with rfl | rfl | rfl <;> decide) reason
  | fault reason => exact hi.finish (by decide) reason

theorem cacheInv_init (world : W) : CacheInv P (Stage.rest, TrialSystem.init world) :=
  .empty conserved_init (fun _ => rfl) (fun _ => ⟨rfl, rfl⟩) (fun _ hsub => (nomatch hsub))
    (by decide)

theorem Moves.cacheInv {a b : Stage × TrialSystem W} (h : Moves P a b) (hb : Bounded a)
    (hi : CacheInv P a) : CacheInv P b := by
  induction h with
  | refl => exact hi
  | tail hmoves hmove ih => exact hmove.cacheInv (Moves.bounded hmoves hb) ih

theorem latched_unique {s : TrialSystem W} (hc : s.source.Conserved) {k : FrameKey}
    {audio other : FrameAudio} (h : s.Latched k audio) (h' : s.Latched k other) :
    other = audio := by
  unfold TrialSystem.Latched at h h'
  split at h
  · rename_i hmask
    rw [if_pos hmask] at h'
    rw [h, h']
  · rename_i hmask
    rw [if_neg hmask] at h'
    split at h
    · rename_i hsource
      rw [if_pos hsource] at h'
      rw [h, h']
    · rename_i hsource
      rw [if_neg hsource] at h'
      obtain ⟨a, ha, rfl⟩ := h
      obtain ⟨b, hb, rfl⟩ := h'
      rw [hc.answer_unique ha hb]

/-- Whatever cache it was taken from, a submitted frame is the one a fresh build would give for the
feedback and the parent PDU of that moment, with the audio its event was first given. -/
theorem submitted_fresh {world : W} {trace : List (TrialAction W)} {s : TrialSystem W}
    (h : Library.Run (TrialSystem.Step P) (.init world) trace s) {sub : Submission}
    (hsub : .submit sub ∈ s.history.calls) :
    ∃ audio built, s.Latched sub.key audio ∧ (∀ other, s.Latched sub.key other → other = audio) ∧
      buildFrame P.ccm P.tone sub.trial.plan sub.key audio sub.trial.feedback.generation =
        some built ∧
      SameFrame sub.frame built ∧ FrameRequest built sub.request := by
  have hi := Moves.cacheInv (run_moves h) (bounded_init world) (cacheInv_init world)
  obtain ⟨audio, built, hlatched, hbuilt, hsame, hrequest⟩ := hi.fresh sub hsub
  exact ⟨audio, built, hlatched, fun _ hother => latched_unique hi.cached.conserved hlatched hother,
    hbuilt, hsame, hrequest⟩

/-- The microphone is heard in event 3 and again in event 6, with three frames sent between. -/
def gapResult : Nat → RadioTxResult
  | 2 => eventReply 2 0x30 [0, 0x01, 4, 0x01, 4]
  | 3 => eventReply 3 0x30 [0, 0x13, 4, 0x02, 4]
  | 6 => eventReply 6 0x30 [0, 0x46, 4, 0x05, 4]
  | _ => silentResult .ended 1

/-- The frames up to the gap. -/
def gapTrace : List (TrialAction Nat) :=
  [.setAudioSource true, .start, .step, .step, .step, .step, .step, .step, .step]

/-- The only cached packet that fits the next frame is the one for a gap. -/
def onlyGapFits (t : ToneTrial) (k : FrameKey) : Bool :=
  !frameMatches (t.prepared (frameSlot k.index)) k &&
    !frameMatches (t.alternate (frameSlot k.index)) k && frameMatches (t.gap (frameSlot k.index)) k

/-- The frame submitted after the gap comes from the cache for it. -/
theorem submitted_fresh_gap :
    let P := eventPlatform gapResult
    let before := (TrialSystem.init 0).run P gapTrace
    let s := (TrialSystem.init 0).run P (gapTrace ++ [.step])
    ∃ sub, lastSubmitted s.history.calls = some sub ∧ onlyGapFits before.trial sub.key = true ∧
      ∃ audio built, s.Latched sub.key audio ∧ (∀ other, s.Latched sub.key other → other = audio) ∧
        buildFrame P.ccm P.tone sub.trial.plan sub.key audio sub.trial.feedback.generation =
          some built ∧
        SameFrame sub.frame built ∧ FrameRequest built sub.request := by
  intro P before s
  have hgap : ((lastSubmitted s.history.calls).any fun sub =>
      onlyGapFits before.trial sub.key) = true := by
    decide +kernel
  obtain ⟨sub, hsub, hfits⟩ := (Option.any_eq_true _ _).mp hgap
  exact ⟨sub, hsub, hfits,
    submitted_fresh (TrialSystem.run_steps _ _ _) (lastSubmitted_mem hsub)⟩

end UllReceiver.Trial
