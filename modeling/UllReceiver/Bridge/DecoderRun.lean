import UllReceiver.Bridge.MicCodec
import UllReceiver.Bridge.PairingRun

/-!
# Decoder history and sessions

The codec slave with a record of what it does to its microphone decoder.  As long as session numbers
do not come back, a frame is decoded on a fresh decoder, or on what the frame before it in the same
session left.
-/

namespace UllReceiver.Bridge

open Library

variable {E D L : Type}

/-! ## The record -/

/-- A call of `mic_codec_reset` or `mic_codec_decode`, with the decoder before and after it. -/
inductive DecoderCall (D : Type)
  | reset (result : Int) (after : D)
  | decode (before after : D)

/-- The decoder a call leaves. -/
def DecoderCall.after : DecoderCall D → D
  | .reset _ after => after
  | .decode _ after => after

/-- The codecs with a log of decoder calls, newest first, beside the decoder. -/
def Codecs.logged (c : Codecs E D) : Codecs E (D × List (DecoderCall D)) where
  encode := c.encode
  reset := fun (d, log) =>
    let (result, after) := c.reset d
    (result, (after, .reset result after :: log))
  decode := fun (d, log) payload out =>
    let (result, out, after) := c.decode d payload out
    (result, out, (after, .decode d after :: log))

/-- A decoder call with the session of the request it was made for. -/
abbrev SessionCall (D : Type) := UInt32 × DecoderCall D

/-- The slave and its decoder calls so far, newest first. -/
structure DecodingSlave (E D : Type) where
  slave : Slave E (D × List (DecoderCall D))
  history : List (SessionCall D)

/-- A request as it arrives. -/
structure Arrival where
  rx : CwFrame
  bits : Nat

def Arrival.session (a : Arrival) : UInt32 :=
  cwGet32 a.rx 8

/-- The request passes the checks of `process`. -/
def Arrival.wellFormed (crc32 : List UInt8 → UInt32) (a : Arrival) : Bool :=
  cwCrcOk crc32 a.rx && requestHeader a.rx a.bits

namespace DecodingSlave

def serve (c : Codecs E D) (crc32 : List UInt8 → UInt32) (s : DecodingSlave E D) (a : Arrival) :
    DecodingSlave E D :=
  let slave := (s.slave.process c.logged crc32 a.rx a.bits).1
  { slave := { slave with decoder := (slave.decoder.1, []) }
    history := slave.decoder.2.map (fun call => (a.session, call)) ++ s.history }

def Step (c : Codecs E D) (crc32 : List UInt8 → UInt32) (s : DecodingSlave E D) (a : Arrival)
    (s' : DecodingSlave E D) : Prop :=
  s' = s.serve c crc32 a

def init (crc32 : List UInt8 → UInt32) (encoder : E) (decoder : D) : DecodingSlave E D where
  slave := .init crc32 encoder (decoder, [])
  history := []

end DecodingSlave

/-! ## What lies beside the codecs changes nothing -/

/-- The slave with other codec states. -/
def Slave.mapCodecs {E' D' : Type} (f : E → E') (g : D → D') (s : Slave E D) : Slave E' D' where
  tx := s.tx
  cached := s.cached
  haveCached := s.haveCached
  lastSession := s.lastSession
  lastSeq := s.lastSeq
  decoderSession := s.decoderSession
  haveDecoderSession := s.haveDecoderSession
  decoderDirty := s.decoderDirty
  decReady := s.decReady
  encoder := f s.encoder
  decoder := g s.decoder
  micOut := s.micOut

/-- The codecs `c` are `c'` seen through `f` and `g`. -/
structure Codecs.Sees {E' D' : Type} (c : Codecs E' D') (c' : Codecs E D) (f : E → E')
    (g : D → D') : Prop where
  encode : ∀ e pcm, c.encode (f e) pcm =
    ((c'.encode e pcm).1, (c'.encode e pcm).2.1, f (c'.encode e pcm).2.2)
  reset : ∀ d, c.reset (g d) = ((c'.reset d).1, g (c'.reset d).2)
  decode : ∀ d payload out, c.decode (g d) payload out =
    ((c'.decode d payload out).1, (c'.decode d payload out).2.1, g (c'.decode d payload out).2.2)

/-- The reset part of `decode_worker`. -/
def Slave.resetWork (c : Codecs E D) (s : Slave E D) (reset : Bool) : Int × Slave E D :=
  if reset then
    let (rc, decoder) := if s.decoderDirty then c.reset s.decoder else (0, s.decoder)
    if rc = 0 then (rc, { s with decoder, decoderDirty := false })
    else (rc, { s with decoder, decReady := false })
  else (0, s)

/-- The decode part of `decode_worker`, after the reset part has left `s` with status `rc`. -/
def Slave.audioWork (c : Codecs E D) (rc : Int) (s : Slave E D) (audio plc : Bool)
    (payload : MicPayload) : Int × Slave E D :=
  if rc = 0 ∧ audio then
    let (rc, micOut, decoder) := c.decode s.decoder (if plc then none else some payload) s.micOut
    (if rc = 2 then 0 else rc, { s with decoder, micOut, decoderDirty := true })
  else (rc, s)

theorem decodeWork_eq (c : Codecs E D) (s : Slave E D) (reset audio plc : Bool)
    (payload : MicPayload) : s.decodeWork c reset audio plc payload =
      if !s.decReady then (-1, s)
      else Slave.audioWork c (s.resetWork c reset).1 (s.resetWork c reset).2 audio plc payload :=
  rfl

section Sees

variable {E' D' : Type} {c : Codecs E' D'} {c' : Codecs E D} {f : E → E'} {g : D → D'}

theorem Codecs.Sees.resetWork (h : c.Sees c' f g) (s : Slave E D) (reset : Bool) :
    (s.mapCodecs f g).resetWork c reset =
      ((s.resetWork c' reset).1, (s.resetWork c' reset).2.mapCodecs f g) := by
  unfold Slave.resetWork
  cases reset with
  | false => rfl
  | true =>
    cases hdirty : s.decoderDirty with
    | false => simp only [if_true, Slave.mapCodecs, hdirty, Bool.false_eq_true, if_false]
    | true =>
      simp only [if_true, Slave.mapCodecs, hdirty, h.reset]
      split <;> rfl

theorem Codecs.Sees.audioWork (h : c.Sees c' f g) (rc : Int) (s : Slave E D) (audio plc : Bool)
    (payload : MicPayload) :
    Slave.audioWork c rc (s.mapCodecs f g) audio plc payload =
      ((Slave.audioWork c' rc s audio plc payload).1,
        (Slave.audioWork c' rc s audio plc payload).2.mapCodecs f g) := by
  unfold Slave.audioWork
  split
  · simp only [Slave.mapCodecs, h.decode]
  · rfl

theorem Codecs.Sees.decodeWork (h : c.Sees c' f g) (s : Slave E D) (reset audio plc : Bool)
    (payload : MicPayload) :
    (s.mapCodecs f g).decodeWork c reset audio plc payload =
      ((s.decodeWork c' reset audio plc payload).1,
        (s.decodeWork c' reset audio plc payload).2.mapCodecs f g) := by
  rw [decodeWork_eq, decodeWork_eq, h.resetWork, h.audioWork]
  have hready : (s.mapCodecs f g).decReady = s.decReady := rfl
  rw [hready]
  cases s.decReady <;> rfl

theorem Codecs.Sees.serveMic (h : c.Sees c' f g) (s : Slave E D) (rx tx : CwFrame) :
    (s.mapCodecs f g).serveMic c rx tx =
      ((s.serveMic c' rx tx).1, (s.serveMic c' rx tx).2.mapCodecs f g) := by
  unfold Slave.serveMic
  simp only [h.decodeWork]
  have hsession : (!(s.mapCodecs f g).haveDecoderSession ||
      (s.mapCodecs f g).decoderSession != cwGet32 rx 8) =
      (!s.haveDecoderSession || s.decoderSession != cwGet32 rx 8) := rfl
  rw [hsession]
  split
  · split <;> rfl
  · rfl

theorem Codecs.Sees.servePlay (h : c.Sees c' f g) (s : Slave E D) (rx tx : CwFrame) :
    (s.mapCodecs f g).servePlay c rx tx =
      ((s.servePlay c' rx tx).1, (s.servePlay c' rx tx).2.1.mapCodecs f g,
        (s.servePlay c' rx tx).2.2) := by
  unfold Slave.servePlay
  split
  · simp only [Slave.mapCodecs, h.encode]
  · rfl

/-- The slave does with its codecs what it does with what they see. -/
theorem Codecs.Sees.process (h : c.Sees c' f g) (crc32 : List UInt8 → UInt32) (s : Slave E D)
    (rx : CwFrame) (bits : Nat) :
    (s.mapCodecs f g).process c crc32 rx bits =
      ((s.process c' crc32 rx bits).1.mapCodecs f g, (s.process c' crc32 rx bits).2) := by
  have hserve : (s.mapCodecs f g).serve c crc32 rx =
      ((s.serve c' crc32 rx).1.mapCodecs f g, (s.serve c' crc32 rx).2) := by
    unfold Slave.serve
    simp only [h.servePlay, h.serveMic]
    rfl
  have hdup : ((s.mapCodecs f g).haveCached && cwGet32 rx 8 == (s.mapCodecs f g).lastSession &&
      cwGet32 rx 12 == (s.mapCodecs f g).lastSeq) =
      (s.haveCached && cwGet32 rx 8 == s.lastSession && cwGet32 rx 12 == s.lastSeq) := rfl
  unfold Slave.process
  simp only [hserve]
  rw [hdup]
  split
  · rfl
  · split <;> rfl

end Sees

/-! ## The log changes nothing -/

/-- The slave without its log. -/
def Slave.forget (s : Slave E (D × List (DecoderCall D))) : Slave E D where
  tx := s.tx
  cached := s.cached
  haveCached := s.haveCached
  lastSession := s.lastSession
  lastSeq := s.lastSeq
  decoderSession := s.decoderSession
  haveDecoderSession := s.haveDecoderSession
  decoderDirty := s.decoderDirty
  decReady := s.decReady
  encoder := s.encoder
  decoder := s.decoder.1
  micOut := s.micOut

/-- The slave with the log does what the slave does. -/
theorem process_forget (c : Codecs E D) (crc32 : List UInt8 → UInt32)
    (s : Slave E (D × List (DecoderCall D))) (rx : CwFrame) (bits : Nat) :
    (s.process c.logged crc32 rx bits).1.forget = (s.forget.process c crc32 rx bits).1 ∧
      (s.process c.logged crc32 rx bits).2 = (s.forget.process c crc32 rx bits).2 := by
  have hsees : c.Sees c.logged id Prod.fst :=
    ⟨fun _ _ => rfl, fun _ => rfl, fun _ _ _ => rfl⟩
  have hprocess := hsees.process crc32 s rx bits
  exact ⟨(congrArg Prod.fst hprocess).symm, (congrArg Prod.snd hprocess).symm⟩

/-! ## Chained records -/

/-- The session whose frames the decoder has in its history. -/
def pending : List (SessionCall D) → Option UInt32
  | (session, .decode _ _) :: _ => some session
  | _ => none

/-- The newest call is no failed reset. -/
def alive : List (SessionCall D) → Prop
  | (_, .reset result _) :: _ => result = 0
  | _ => True

/-- The decoder as the newest call left it. -/
def lastDecoder (decoder : D) : List (SessionCall D) → D
  | [] => decoder
  | (_, call) :: _ => call.after

/-- Every call works on what the one before left, none follows a failed reset, and a frame is decoded
on a fresh decoder or on the history of its own session. -/
def Chained (c : Codecs E D) (decoder : D) : List (SessionCall D) → Prop
  | [] => True
  | (session, .decode before after) :: older =>
      before = lastDecoder decoder older ∧ (∃ frame out, after = (c.decode before frame out).2.2) ∧
        alive older ∧ (pending older = none ∨ pending older = some session) ∧
        Chained c decoder older
  | (_, .reset result after) :: older =>
      (result, after) = c.reset (lastDecoder decoder older) ∧ alive older ∧ Chained c decoder older

variable {c : Codecs E D} {decoder : D}

theorem Chained.tail {call : SessionCall D} {older : List (SessionCall D)}
    (h : Chained c decoder (call :: older)) : alive older ∧ Chained c decoder older := by
  obtain ⟨session, call⟩ := call
  cases call with
  | reset result after => exact h.2
  | decode before after => exact ⟨h.2.2.1, h.2.2.2.2⟩

theorem Chained.suffix {newer older : List (SessionCall D)}
    (h : Chained c decoder (newer ++ older)) : Chained c decoder older := by
  induction newer with
  | nil => exact h
  | cons call newer ih => exact ih h.tail.2

/-- Between frames of two sessions the decoder was reset. -/
theorem Chained.reset_between {session other : UInt32} {before after before' after' : D}
    {mid older : List (SessionCall D)}
    (h : Chained c decoder ((session, .decode before after) ::
      (mid ++ (other, .decode before' after') :: older))) (hne : session ≠ other) :
    ∃ u fresh, (u, .reset 0 fresh) ∈ mid := by
  induction mid generalizing session before after with
  | nil =>
      rcases h.2.2.2.1 with hnone | hsame
      · exact (nomatch hnone)
      · exact absurd (Option.some.inj hsame).symm hne
  | cons call mid ih =>
      obtain ⟨u, call⟩ := call
      cases call with
      | reset result fresh =>
          have halive : result = 0 := h.tail.1
          exact ⟨u, fresh, halive ▸ List.mem_cons_self⟩
      | decode b a =>
          have hsame : u = session := by
            rcases h.2.2.2.1 with hnone | hsame
            · exact (nomatch hnone)
            · exact Option.some.inj hsame
          subst hsame
          obtain ⟨v, fresh, hmem⟩ := ih h.tail.2 hne
          exact ⟨v, fresh, List.mem_cons_of_mem _ hmem⟩

/-- Nothing follows a failed reset. -/
theorem Chained.reset_failed {newer older : List (SessionCall D)} {session : UInt32} {result : Int}
    {after : D} (h : Chained c decoder (newer ++ (session, .reset result after) :: older))
    (hfailed : result ≠ 0) : newer = [] := by
  induction newer with
  | nil => rfl
  | cons call newer ih =>
      obtain ⟨halive, htail⟩ := h.tail
      obtain rfl := ih htail
      exact absurd halive hfailed

/-- Where the decoder of a frame comes from. -/
theorem Chained.decoded {session : UInt32} {before after : D} {older : List (SessionCall D)}
    (h : Chained c decoder ((session, .decode before after) :: older)) :
    before = decoder ∧ older = [] ∨ (∃ u rest, older = (u, .reset 0 before) :: rest) ∨
      ∃ b rest, older = (session, .decode b before) :: rest := by
  obtain ⟨hbefore, _, halive, hpending, _⟩ := h
  cases older with
  | nil => exact .inl ⟨hbefore, rfl⟩
  | cons call rest =>
      obtain ⟨u, call⟩ := call
      cases call with
      | reset result fresh =>
          have hzero : result = 0 := halive
          have hsame : before = fresh := hbefore
          exact .inr (.inl ⟨u, rest, by rw [hzero, hsame]⟩)
      | decode b a =>
          have hsame : before = a := hbefore
          rcases hpending with hnone | hother
          · exact (nomatch hnone)
          · exact .inr (.inr ⟨b, rest, by rw [Option.some.inj hother, hsame]⟩)

/-! ## Sessions -/

/-- A value that occurs twice in the list occurs everywhere in between. -/
def NeverReturns (l : List UInt32) : Prop :=
  ∀ (i j k : Nat) (x : UInt32), i ≤ j → j ≤ k → l[i]? = some x → l[k]? = some x → l[j]? = some x

theorem NeverReturns.front {l m : List UInt32} (h : NeverReturns (l ++ m)) : NeverReturns l := by
  intro i j k x hij hjk hi hk
  have hlt : k < l.length := (List.getElem?_eq_some_iff.mp hk).1
  have happend (n : Nat) (hn : n ≤ k) : (l ++ m)[n]? = l[n]? :=
    List.getElem?_append_left (by omega)
  have hj := h i j k x hij hjk ((happend i (by omega)).trans hi) ((happend k (by omega)).trans hk)
  rw [happend j hjk] at hj
  exact hj

/-- A session seen before is the newest one. -/
theorem NeverReturns.newest {l : List UInt32} {x : UInt32} (h : NeverReturns (l ++ [x]))
    (hmem : x ∈ l) : l.getLast? = some x := by
  obtain ⟨i, hi⟩ := List.mem_iff_getElem?.mp hmem
  have hlt : i < l.length := (List.getElem?_eq_some_iff.mp hi).1
  have hj := h i (l.length - 1) l.length x (by omega) (by omega)
    ((List.getElem?_append_left hlt).trans hi) (by rw [List.getElem?_concat_length])
  rw [List.getElem?_append_left (by omega)] at hj
  rw [List.getLast?_eq_getElem?]
  exact hj

/-- The sessions of the requests that pass the checks, oldest first. -/
def sessions (crc32 : List UInt8 → UInt32) (trace : List Arrival) : List UInt32 :=
  (trace.filter (Arrival.wellFormed crc32)).map Arrival.session

theorem sessions_snoc (crc32 : List UInt8 → UInt32) (trace : List Arrival) (a : Arrival) :
    sessions crc32 (trace ++ [a]) =
      sessions crc32 trace ++ if a.wellFormed crc32 then [a.session] else [] := by
  unfold sessions
  rw [List.filter_append, List.map_append]
  cases h : a.wellFormed crc32 with
  | true =>
      rw [List.filter_cons_of_pos h]
      rfl
  | false =>
      rw [List.filter_cons_of_neg (by rw [h]; decide)]
      rfl

/-! ## The invariant -/

/-- The decoder fields of the slave and its record `h`, after requests of `seen`. -/
structure DecoderInv (c : Codecs E D) (decoder : D) (s : Slave E (D × List (DecoderCall D)))
    (h : List (SessionCall D)) (seen : List UInt32) : Prop where
  state : s.decoder.1 = lastDecoder decoder h
  clean : s.decoderDirty = false → pending h = none
  ready : s.decReady = true → alive h
  known : s.haveDecoderSession = true → s.decoderSession ∈ seen
  -- the session taken for the decoder's is not one that another has followed
  current : s.haveDecoderSession = true → seen.getLast? = some s.decoderSession →
    pending h = none ∨ pending h = some s.decoderSession
  chained : Chained c decoder h

/-- The record while a request is served. -/
def Slave.record (s : Slave E (D × List (DecoderCall D))) (session : UInt32)
    (h : List (SessionCall D)) : List (SessionCall D) :=
  s.decoder.2.map (fun call => (session, call)) ++ h

/-- The invariant with what is logged so far. -/
def Serving (c : Codecs E D) (decoder : D) (s : Slave E (D × List (DecoderCall D)))
    (session : UInt32) (h : List (SessionCall D)) (seen : List UInt32) : Prop :=
  DecoderInv c decoder s (s.record session h) seen

/-- A request of a session that has not been left for another. -/
theorem DecoderInv.seen {s : Slave E (D × List (DecoderCall D))} {h : List (SessionCall D)}
    {seen : List UInt32} {session : UInt32} (hi : DecoderInv c decoder s h seen)
    (hsessions : NeverReturns (seen ++ [session])) :
    DecoderInv c decoder s h (seen ++ [session]) := by
  refine ⟨hi.state, hi.clean, hi.ready, fun hk => List.mem_append_left _ (hi.known hk),
    fun hk hlast => ?_, hi.chained⟩
  rw [List.getLast?_concat] at hlast
  have hsame := Option.some.inj hlast
  rw [hsame] at hsessions
  exact hi.current hk (hsessions.newest (hi.known hk))

/-- The reset part keeps the invariant; if it succeeds, the decoder has no history. -/
theorem Serving.resetWork {s : Slave E (D × List (DecoderCall D))} {h : List (SessionCall D)}
    {seen : List UInt32} {session : UInt32} (hi : Serving c decoder s session h seen)
    (hready : s.decReady = true) (reset : Bool) :
    Serving c decoder (s.resetWork c.logged reset).2 session h seen ∧
      ((s.resetWork c.logged reset).1 = 0 →
        (s.resetWork c.logged reset).2.decReady = true ∧
          (reset = true → pending ((s.resetWork c.logged reset).2.record session h) = none)) ∧
      (s.resetWork c.logged reset).2.haveDecoderSession = s.haveDecoderSession ∧
      (s.resetWork c.logged reset).2.decoderSession = s.decoderSession := by
  cases reset with
  | false => exact ⟨hi, fun _ => ⟨hready, fun hf => (nomatch hf)⟩, rfl, rfl⟩
  | true =>
      unfold Slave.resetWork
      simp only [if_true]
      cases hdirty : s.decoderDirty with
      | false =>
          have hnone := hi.clean hdirty
          exact ⟨⟨hi.state, fun _ => hnone, hi.ready, hi.known, hi.current, hi.chained⟩,
            fun _ => ⟨hready, fun _ => hnone⟩, rfl, rfl⟩
      | true =>
          simp only [if_true]
          have hlogged : Chained c decoder ((session,
              .reset (c.reset s.decoder.1).1 (c.reset s.decoder.1).2) :: s.record session h) :=
            ⟨by rw [← hi.state], hi.ready hready, hi.chained⟩
          by_cases hrc : (c.reset s.decoder.1).1 = 0
          · have hzero : (c.logged.reset s.decoder).1 = 0 := hrc
            rw [if_pos hzero]
            exact ⟨⟨rfl, fun _ => rfl, fun _ => hrc, hi.known, fun _ _ => .inl rfl, hlogged⟩,
              fun _ => ⟨hready, fun _ => rfl⟩, rfl, rfl⟩
          · have hne : (c.logged.reset s.decoder).1 ≠ 0 := hrc
            rw [if_neg hne]
            exact ⟨⟨rfl, fun _ => rfl, fun hf => (nomatch hf), hi.known, fun _ _ => .inl rfl,
              hlogged⟩, fun hz => absurd hz hne, rfl, rfl⟩

/-- The decode part keeps it when the decoder has no history but the session's own. -/
theorem Serving.audioWork {s : Slave E (D × List (DecoderCall D))} {h : List (SessionCall D)}
    {seen : List UInt32} {session : UInt32} {rc : Int} {audio plc : Bool} {payload : MicPayload}
    (hi : Serving c decoder s session h seen) (hlast : seen.getLast? = some session)
    (hready : rc = 0 → s.decReady = true)
    (hown : rc = 0 → audio = true → pending (s.record session h) = none ∨
      pending (s.record session h) = some session) :
    Serving c decoder (Slave.audioWork c.logged rc s audio plc payload).2 session h seen ∧
      (pending ((Slave.audioWork c.logged rc s audio plc payload).2.record session h) =
          pending (s.record session h) ∨
        pending ((Slave.audioWork c.logged rc s audio plc payload).2.record session h) =
          some session) ∧
      ((Slave.audioWork c.logged rc s audio plc payload).1 = 0 → rc = 0) ∧
      (Slave.audioWork c.logged rc s audio plc payload).2.haveDecoderSession =
        s.haveDecoderSession ∧
      (Slave.audioWork c.logged rc s audio plc payload).2.decoderSession = s.decoderSession := by
  unfold Slave.audioWork
  by_cases hgo : rc = 0 ∧ audio = true
  · rw [if_pos hgo]
    refine ⟨⟨rfl, fun hf => (nomatch hf), fun _ => trivial, hi.known, fun _ hl => .inr ?_, ?_⟩,
      .inr rfl, fun _ => hgo.1, rfl, rfl⟩
    · exact hlast.symm.trans hl
    · exact ⟨hi.state, ⟨_, _, rfl⟩, hi.ready (hready hgo.1), hown hgo.1 hgo.2, hi.chained⟩
  · rw [if_neg hgo]
    exact ⟨hi, .inl rfl, id, rfl, rfl⟩

/-- The decoder's work for a request: afterwards its history is the session's own, if it was reset
and all went well. -/
theorem Serving.decodeWork {s : Slave E (D × List (DecoderCall D))} {h : List (SessionCall D)}
    {seen : List UInt32} {session : UInt32} {reset audio : Bool}
    (hi : Serving c decoder s session h seen) (hlast : seen.getLast? = some session)
    (hown : reset = false → audio = true → s.haveDecoderSession = true ∧
      s.decoderSession = session) (plc : Bool) (payload : MicPayload) :
    Serving c decoder (s.decodeWork c.logged reset audio plc payload).2 session h seen ∧
      ((s.decodeWork c.logged reset audio plc payload).1 = 0 → reset = true →
        pending ((s.decodeWork c.logged reset audio plc payload).2.record session h) = none ∨
          pending ((s.decodeWork c.logged reset audio plc payload).2.record session h) =
            some session) := by
  rw [decodeWork_eq]
  cases hready : s.decReady with
  | false => exact ⟨hi, fun hf => absurd hf (show (-1 : Int) ≠ 0 by decide)⟩
  | true =>
      simp only [Bool.not_true, Bool.false_eq_true, if_false]
      obtain ⟨hi1, hzero, hhave, hsession⟩ := hi.resetWork hready reset
      have hpermit : (s.resetWork c.logged reset).1 = 0 → audio = true →
          pending ((s.resetWork c.logged reset).2.record session h) = none ∨
            pending ((s.resetWork c.logged reset).2.record session h) = some session := by
        intro hrc haudio
        cases hr : reset with
        | true =>
            subst hr
            exact .inl ((hzero hrc).2 rfl)
        | false =>
            obtain ⟨hh, hs⟩ := hown hr haudio
            subst hr
            have hcur := hi.current hh (by rw [hs]; exact hlast)
            rw [hs] at hcur
            exact hcur
      obtain ⟨hi2, hpend, hrc, _, _⟩ := hi1.audioWork hlast (fun hz => (hzero hz).1) hpermit
      refine ⟨hi2, fun hok hreset => ?_⟩
      rcases hpend with hsame | hown2
      · rw [hsame]
        exact .inl ((hzero (hrc hok)).2 hreset)
      · exact .inr hown2

theorem Serving.serveMic {s : Slave E (D × List (DecoderCall D))} {h : List (SessionCall D)}
    {seen : List UInt32} {rx tx : CwFrame}
    (hi : Serving c decoder s (cwGet32 rx 8) h (seen ++ [cwGet32 rx 8])) :
    Serving c decoder (s.serveMic c.logged rx tx).2 (cwGet32 rx 8) h (seen ++ [cwGet32 rx 8]) := by
  unfold Slave.serveMic
  simp only
  generalize decide (rx.byte 5 &&& cwPlc ≠ 0) = plc
  generalize decide (rx.byte 5 &&& (cwMic ||| cwPlc) ≠ 0) = audio
  generalize decide (rx.byte 5 &&& cwReset ≠ 0) = flagged
  generalize hreset : (flagged || audio && (!s.haveDecoderSession ||
    s.decoderSession != cwGet32 rx 8)) = reset
  by_cases hwork : (audio || reset) = true
  · rw [if_pos hwork]
    have hown : reset = false → audio = true → s.haveDecoderSession = true ∧
        s.decoderSession = cwGet32 rx 8 := by
      intro hr ha
      rw [hr, ha] at hreset
      have hboth : flagged = false ∧ s.haveDecoderSession = true ∧
          s.decoderSession = cwGet32 rx 8 := by
        simpa using hreset
      exact hboth.2
    obtain ⟨hi1, hpend⟩ := hi.decodeWork List.getLast?_concat hown plc (micIn rx)
    generalize s.decodeWork c.logged reset audio plc (micIn rx) = work at hi1 hpend ⊢
    by_cases hset : work.1 = 0 ∧ reset = true
    · rw [if_pos hset]
      refine ⟨hi1.state, hi1.clean, hi1.ready, fun _ => ?_, fun _ _ => hpend hset.1 hset.2,
        hi1.chained⟩
      exact List.mem_append_right _ (List.mem_singleton_self _)
    · rw [if_neg hset]
      exact hi1
  · rw [if_neg hwork]
    exact hi

/-- Only the decoder's own fields matter. -/
theorem Serving.same {s s' : Slave E (D × List (DecoderCall D))} {h : List (SessionCall D)}
    {seen : List UInt32} {session : UInt32} (hi : Serving c decoder s session h seen)
    (hdecoder : s'.decoder = s.decoder) (hdirty : s'.decoderDirty = s.decoderDirty)
    (hready : s'.decReady = s.decReady) (hhave : s'.haveDecoderSession = s.haveDecoderSession)
    (hsession : s'.decoderSession = s.decoderSession) :
    Serving c decoder s' session h seen := by
  unfold Serving Slave.record at hi ⊢
  rw [hdecoder]
  exact ⟨by rw [hdecoder]; exact hi.state, by rw [hdirty]; exact hi.clean,
    by rw [hready]; exact hi.ready, by rw [hhave, hsession]; exact hi.known,
    by rw [hhave, hsession]; exact hi.current, hi.chained⟩

theorem DecoderInv.serve {crc32 : List UInt8 → UInt32} {s : DecodingSlave E D} {seen : List UInt32}
    (hi : DecoderInv c decoder s.slave s.history seen) (hempty : s.slave.decoder.2 = [])
    (a : Arrival)
    (hsessions : a.wellFormed crc32 = true → NeverReturns (seen ++ [a.session])) :
    DecoderInv c decoder (s.serve c crc32 a).slave (s.serve c crc32 a).history
      (seen ++ if a.wellFormed crc32 then [a.session] else []) := by
  have hopen (seen : List UInt32) (h : DecoderInv c decoder s.slave s.history seen) :
      Serving c decoder s.slave a.session s.history seen := by
    unfold Serving Slave.record
    rw [hempty]
    exact h
  have hclosed (slave : Slave E (D × List (DecoderCall D))) (seen : List UInt32)
      (h : Serving c decoder slave a.session s.history seen) :
      DecoderInv c decoder { slave with decoder := (slave.decoder.1, []) }
        (slave.record a.session s.history) seen :=
    ⟨h.state, h.clean, h.ready, h.known, h.current, h.chained⟩
  apply hclosed
  unfold Slave.process
  simp only
  have hwell : (cwCrcOk crc32 a.rx && requestHeader a.rx a.bits) = a.wellFormed crc32 := rfl
  rw [hwell]
  cases hok : a.wellFormed crc32 with
  | false =>
      have hi1 := hopen _ hi
      rw [if_neg Bool.false_ne_true, List.append_nil]
      exact hi1.same rfl rfl rfl rfl rfl
  | true =>
      have hi1 := hopen _ (hi.seen (hsessions hok))
      rw [if_pos rfl]
      simp only [Bool.not_true, Bool.false_eq_true, if_false]
      split
      · exact hi1.same rfl rfl rfl rfl rfl
      · -- the encoder's part leaves the decoder alone
        have hplay (tx : CwFrame) : Serving c decoder (s.slave.servePlay c.logged a.rx tx).2.1
            a.session s.history (seen ++ [a.session]) := by
          unfold Slave.servePlay
          split
          · exact hi1.same rfl rfl rfl rfl rfl
          · exact hi1
        exact ((hplay _).serveMic).same rfl rfl rfl rfl rfl

/-! ## Every run -/

theorem decoderInv_run {crc32 : List UInt8 → UInt32} {encoder : E} {trace : List Arrival}
    {s : DecodingSlave E D}
    (hrun : Run (DecodingSlave.Step c crc32) (.init crc32 encoder decoder) trace s)
    (hsessions : NeverReturns (sessions crc32 trace)) :
    DecoderInv c decoder s.slave s.history (sessions crc32 trace) := by
  have hinv := hrun.history (fun l t => NeverReturns (sessions crc32 l) →
      DecoderInv c decoder t.slave t.history (sessions crc32 l) ∧ t.slave.decoder.2 = []) ?_ ?_
  · exact (hinv hsessions).1
  · intro _
    exact ⟨⟨rfl, fun _ => rfl, fun _ => trivial, fun hf => (nomatch hf), fun hf => (nomatch hf),
      trivial⟩, rfl⟩
  · intro l t a u ih hstep hnever
    obtain rfl := hstep
    rw [sessions_snoc] at hnever ⊢
    obtain ⟨hi, hempty⟩ := ih hnever.front
    refine ⟨hi.serve hempty a fun hok => ?_, rfl⟩
    rw [hok] at hnever
    exact hnever

/-- With `mic_codec.c` a frame is decoded on the decoder as it was initialised, or on the one left by
a frame of the same session. -/
theorem microphone_decoder_fresh {lc : Lc3plus L} {encode : E → PcmBlock → Int × Packet × E}
    {crc32 : List UInt8 → UInt32} {encoder : E} {trace : List Arrival}
    {s : DecodingSlave E (MicCodec L)}
    (hrun : Run (DecodingSlave.Step (micCodecs lc encode) crc32)
      (.init crc32 encoder (micCodecInit lc).2) trace s)
    (hsessions : NeverReturns (sessions crc32 trace)) {newer older : List (SessionCall (MicCodec L))}
    {session : UInt32} {before after : MicCodec L}
    (heq : s.history = newer ++ (session, .decode before after) :: older) :
    before = (micCodecInit lc).2 ∨ ∃ b rest, older = (session, .decode b before) :: rest := by
  have hchained := (heq ▸ (decoderInv_run hrun hsessions).chained).suffix
  rcases hchained.decoded with ⟨hfirst, _⟩ | ⟨u, rest, hreset⟩ | hown
  · exact .inl hfirst
  · have hcall := (hreset ▸ hchained.tail.2).1
    have hzero : (micCodecReset lc (lastDecoder (micCodecInit lc).2 rest)).1 = 0 :=
      (Prod.mk.inj hcall).1.symm
    have hfresh := micCodecReset_fresh hzero
    refine .inl ((Prod.mk.inj hcall).2.trans ?_)
    exact congrArg Prod.snd hfresh
  · exact .inr hown

/-- For every sequence of requests whose session numbers never come back: between decode attempts of
two sessions the decoder was reset; nothing is asked of it after a failed reset; and a frame is
decoded on the first decoder, one just reset or the one left by a frame of the same session. -/
theorem microphone_history_separate {crc32 : List UInt8 → UInt32} {encoder : E}
    {trace : List Arrival} {s : DecodingSlave E D}
    (hrun : Run (DecodingSlave.Step c crc32) (.init crc32 encoder decoder) trace s)
    (hsessions : NeverReturns (sessions crc32 trace)) :
    (∀ newer mid older session other before after before' after', s.history =
        newer ++ (session, .decode before after) ::
          (mid ++ (other, .decode before' after') :: older) → session ≠ other →
      ∃ u fresh, (u, .reset 0 fresh) ∈ mid) ∧
    (∀ newer older session result after, s.history =
        newer ++ (session, .reset result after) :: older → result ≠ 0 → newer = []) ∧
    (∀ newer older session before after,
        s.history = newer ++ (session, .decode before after) :: older →
      before = decoder ∧ older = [] ∨ (∃ u rest, older = (u, .reset 0 before) :: rest) ∨
        ∃ b rest, older = (session, .decode b before) :: rest) := by
  have hchained := (decoderInv_run hrun hsessions).chained
  refine ⟨?_, ?_, ?_⟩
  · intro newer mid older session other before after before' after' heq hne
    exact (heq ▸ hchained).suffix.reset_between hne
  · intro newer older session result after heq hfailed
    exact (heq ▸ hchained).reset_failed hfailed
  · intro newer older session before after heq
    exact (heq ▸ hchained).suffix.decoded

section Example

variable {s : Slave Unit (Unit × List (DecoderCall Unit))} {rx : CwFrame}

/-- What a microphone frame of another session does to a slave with silent codecs. -/
theorem serveMic_other (hflags : rx.byte 5 = cwMic) (hready : s.decReady = true)
    (hlog : s.decoder = ((), []))
    (hother : (!s.haveDecoderSession || s.decoderSession != cwGet32 rx 8) = true) (tx : CwFrame) :
    ∃ tx' micOut, s.serveMic silentCodecs.logged rx tx = (tx', { s with
      decoder := ((), .decode () () :: if s.decoderDirty then [.reset 0 ()] else [])
      decoderDirty := true, micOut, haveDecoderSession := true
      decoderSession := cwGet32 rx 8 }) := by
  have hwork (payload : MicPayload) :
      ∃ micOut, s.decodeWork silentCodecs.logged true true false payload = (0, { s with
        decoder := ((), .decode () () :: if s.decoderDirty then [.reset 0 ()] else [])
        decoderDirty := true, micOut }) := by
    obtain ⟨_, _, _, _, _, _, _, dirty, ready, _, log, out⟩ := s
    obtain rfl : ready = true := hready
    obtain rfl : log = ((), []) := hlog
    cases dirty <;> exact ⟨out, rfl⟩
  obtain ⟨micOut, hw⟩ := hwork (micIn rx)
  have haudio : decide (cwMic &&& (cwMic ||| cwPlc) ≠ 0) = true := by decide
  have hplc : decide (cwMic &&& cwPlc ≠ 0) = false := by decide
  have hreset : decide (cwMic &&& cwReset ≠ 0) = false := by decide
  unfold Slave.serveMic
  simp only
  rw [hflags, hother, haudio, hplc, hreset]
  simp only [Bool.false_or, Bool.true_and, Bool.or_self, if_true]
  rw [hw]
  exact ⟨_, _, rfl⟩

theorem process_other {crc32 : List UInt8 → UInt32} {bits : Nat}
    (hwell : (cwCrcOk crc32 rx && requestHeader rx bits) = true)
    (hnew : (s.haveCached && cwGet32 rx 8 == s.lastSession && cwGet32 rx 12 == s.lastSeq) = false)
    (hflags : rx.byte 5 = cwMic) (hready : s.decReady = true) (hlog : s.decoder = ((), []))
    (hother : (!s.haveDecoderSession || s.decoderSession != cwGet32 rx 8) = true) :
    ∃ tx micOut, (s.process silentCodecs.logged crc32 rx bits).1 = { s with
      tx, cached := tx, haveCached := true, lastSession := cwGet32 rx 8, lastSeq := cwGet32 rx 12
      decoder := ((), .decode () () :: if s.decoderDirty then [.reset 0 ()] else [])
      decoderDirty := true, micOut, haveDecoderSession := true
      decoderSession := cwGet32 rx 8 } := by
  have hplay (tx : CwFrame) : s.servePlay silentCodecs.logged rx tx = (tx, s, none) := by
    unfold Slave.servePlay
    rw [hflags]
    exact if_neg (by decide)
  unfold Slave.process
  simp only
  rw [hwell, hnew]
  simp only [Bool.not_true, Bool.false_eq_true, if_false]
  unfold Slave.serve
  simp only
  rw [hplay]
  obtain ⟨tx', micOut, hm⟩ := serveMic_other hflags hready hlog hother
    (cwBegin cwResponse 0 cwOk (cwGet32 rx 8) (cwGet32 rx 12) (cwGet32 rx 16))
  rw [hm]
  exact ⟨_, _, rfl⟩

end Example

/-- A microphone frame of `session`, numbered `seq`. -/
def micArrival (session seq : UInt32) : Arrival where
  rx := cwSeal crc32Le (cwBegin cwRequest cwMic 0 session seq 0)
  bits := cwBytes * 8

theorem micArrival_fields (session seq : UInt32) :
    (micArrival session seq).wellFormed crc32Le = true ∧
      (micArrival session seq).rx.byte 5 = cwMic ∧
      cwGet32 (micArrival session seq).rx 8 = session ∧
      cwGet32 (micArrival session seq).rx 12 = seq := by
  have hbody := (begin_body session seq cwMic 0 (by decide) (by decide) (by decide)).seal crc32Le
  refine ⟨?_, ?_, hbody.session, hbody.seq⟩
  · unfold Arrival.wellFormed micArrival
    simp only
    rw [cwSeal_crcOk, hbody.header]
    rfl
  · unfold micArrival
    simp only
    rw [cwSeal_byte _ _ (by decide)]
    simp

/-- The frame of a second session is decoded after a reset. -/
theorem microphone_history_separate_two :
    ∃ s : DecodingSlave Unit Unit,
      Run (DecodingSlave.Step silentCodecs crc32Le) (.init crc32Le () ())
        [micArrival 1 1, micArrival 2 2] s ∧
      s.history = [(2, .decode () ()), (2, .reset 0 ()), (1, .decode () ())] ∧
      ∃ u fresh, (u, .reset 0 fresh) ∈ [((2 : UInt32), DecoderCall.reset 0 ())] := by
  obtain ⟨hwell1, hflags1, hsession1, hseq1⟩ := micArrival_fields 1 1
  obtain ⟨hwell2, hflags2, hsession2, hseq2⟩ := micArrival_fields 2 2
  have hrun : Run (DecodingSlave.Step silentCodecs crc32Le) (.init crc32Le () ())
      [micArrival 1 1, micArrival 2 2] _ :=
    (Run.nil.snoc rfl).snoc rfl
  have hsessions : NeverReturns (sessions crc32Le [micArrival 1 1, micArrival 2 2]) := by
    have hlist : sessions crc32Le [micArrival 1 1, micArrival 2 2] = [1, 2] := by
      unfold sessions
      rw [List.filter_cons_of_pos hwell1, List.filter_cons_of_pos hwell2]
      exact congrArg₂ (fun a b => [a, b]) hsession1 hsession2
    rw [hlist]
    intro i j k x hij hjk hi hk
    have hklt : k < 2 := (List.getElem?_eq_some_iff.mp hk).1
    have hends : j = i ∨ j = k := by omega
    rcases hends with rfl | rfl
    · exact hi
    · exact hk
  have hhistory : (((DecodingSlave.init crc32Le () () : DecodingSlave Unit Unit).serve silentCodecs
      crc32Le (micArrival 1 1)).serve silentCodecs crc32Le (micArrival 2 2)).history =
        [(2, .decode () ()), (2, .reset 0 ()), (1, .decode () ())] := by
    obtain ⟨tx1, out1, hserved1⟩ := process_other
      (s := (DecodingSlave.init crc32Le () () : DecodingSlave Unit Unit).slave) hwell1 rfl hflags1
      rfl rfl rfl
    rw [hsession1, hseq1] at hserved1
    unfold DecodingSlave.serve
    rw [hserved1]
    simp only
    obtain ⟨tx2, out2, hserved2⟩ := process_other
      (s := { (DecodingSlave.init crc32Le () () : DecodingSlave Unit Unit).slave with
        tx := tx1, cached := tx1, haveCached := true, lastSession := 1, lastSeq := 1
        decoder := ((), []), decoderDirty := true, micOut := out1, haveDecoderSession := true
        decoderSession := 1 }) hwell2 (by rw [hsession2]; rfl) hflags2 rfl rfl
      (by rw [hsession2]; rfl)
    rw [hserved2]
    rw [show (micArrival 1 1).session = 1 from hsession1,
      show (micArrival 2 2).session = 2 from hsession2]
    rfl
  refine ⟨_, hrun, hhistory, ?_⟩
  exact (microphone_history_separate hrun hsessions).1 [] [(2, .reset 0 ())] [] 2 1 () () () ()
    hhistory (by decide)

end UllReceiver.Bridge
