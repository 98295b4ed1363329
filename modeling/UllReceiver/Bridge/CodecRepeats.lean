import UllReceiver.Bridge.DecoderRun

/-!
# Malformed and repeated requests

Runs of the codec slave with a record of every call it makes of its two codecs, and the same runs
without the requests that fail the checks or repeat the last good one.
-/

namespace UllReceiver.Bridge

variable {E D : Type}

/-! ## The record -/

/-- A call of one of the codecs with its arguments; `out` is what the output buffer held. -/
inductive CodecCall
  | encode (pcm : PcmBlock)
  | reset
  | decode (payload : Option MicPayload) (out : MicPcm)

/-- The codecs with a list of their calls, oldest first, beside each of them. -/
def Codecs.recorded (c : Codecs E D) : Codecs (E × List CodecCall) (D × List CodecCall) where
  encode := fun (e, calls) pcm =>
    let (result, packet, after) := c.encode e pcm
    (result, packet, (after, calls ++ [.encode pcm]))
  reset := fun (d, calls) =>
    let (result, after) := c.reset d
    (result, (after, calls ++ [.reset]))
  decode := fun (d, calls) payload out =>
    let (result, out', after) := c.decode d payload out
    (result, out', (after, calls ++ [.decode payload out]))

/-- The slave about to record. -/
def Slave.recording (s : Slave E D) : Slave (E × List CodecCall) (D × List CodecCall) :=
  s.mapCodecs (·, []) (·, [])

/-- What one request is answered with, and the calls made for it. -/
structure Exchange where
  reply : CwFrame
  calls : List CodecCall

/-- The codec calls made for one request. -/
def Slave.callsFor (c : Codecs E D) (crc32 : List UInt8 → UInt32) (s : Slave E D) (a : Arrival) :
    List CodecCall :=
  let s := (s.recording.process c.recorded crc32 a.rx a.bits).1
  s.encoder.2 ++ s.decoder.2

/-- One request after the other. -/
def Slave.serveAll (c : Codecs E D) (crc32 : List UInt8 → UInt32) (s : Slave E D) :
    List Arrival → Slave E D × List Exchange
  | [] => (s, [])
  | a :: as =>
      let s' := (s.process c crc32 a.rx a.bits).1
      let (final, exchanges) := s'.serveAll c crc32 as
      (final, ⟨s'.tx, s.callsFor c crc32 a⟩ :: exchanges)

/-! ## Deleting requests -/

/-- The session and the sequence number of a request. -/
def Arrival.id (a : Arrival) : UInt32 × UInt32 :=
  (cwGet32 a.rx 8, cwGet32 a.rx 12)

/-- The request passes the checks and does not repeat the last good one. -/
def Arrival.fresh (crc32 : List UInt8 → UInt32) (last : Option (UInt32 × UInt32)) (a : Arrival) :
    Bool :=
  a.wellFormed crc32 && last != some a.id

/-- Which requests stay. -/
def freshMarks (crc32 : List UInt8 → UInt32) (last : Option (UInt32 × UInt32)) :
    List Arrival → List Bool
  | [] => []
  | a :: as =>
      if a.fresh crc32 last then true :: freshMarks crc32 (some a.id) as
      else false :: freshMarks crc32 last as

/-- The elements that are marked. -/
def pick {α : Type} : List Bool → List α → List α
  | true :: marks, x :: xs => x :: pick marks xs
  | false :: marks, _ :: xs => pick marks xs
  | _, _ => []

/-- The last good request, after `last`. -/
def lastGood (crc32 : List UInt8 → UInt32) (last : Option (UInt32 × UInt32)) (as : List Arrival) :
    Option (UInt32 × UInt32) :=
  as.foldl (fun last a => if a.wellFormed crc32 then some a.id else last) last

/-- What a malformed request is answered with. -/
def badWireReply (crc32 : List UInt8 → UInt32) (a : Arrival) : CwFrame :=
  cwSeal crc32 (cwBegin cwResponse 0 cwBadWire (cwGet32 a.rx 8) (cwGet32 a.rx 12)
    (cwGet32 a.rx 16))

/-! ## Recording changes nothing -/

theorem recorded_sees (c : Codecs E D) : c.Sees c.recorded Prod.fst Prod.fst :=
  ⟨fun _ _ => rfl, fun _ => rfl, fun _ _ _ => rfl⟩

/-- The slave that records goes on as the slave does. -/
theorem recording_process (c : Codecs E D) (crc32 : List UInt8 → UInt32) (s : Slave E D)
    (a : Arrival) :
    (s.recording.process c.recorded crc32 a.rx a.bits).1.mapCodecs Prod.fst Prod.fst =
      (s.process c crc32 a.rx a.bits).1 :=
  (congrArg Prod.fst ((recorded_sees c).process crc32 s.recording a.rx a.bits)).symm

/-! ## What a request leaves -/

section Process

variable (c : Codecs E D) (crc32 : List UInt8 → UInt32) (s : Slave E D) (t : CwFrame)
variable {a : Arrival}

/-- The slave with another reply in its buffer. -/
def Slave.withTx (s : Slave E D) (t : CwFrame) : Slave E D :=
  { s with tx := t }

theorem resetWork_withTx (reset : Bool) :
    (s.withTx t).resetWork c reset =
      ((s.resetWork c reset).1, (s.resetWork c reset).2.withTx t) := by
  unfold Slave.resetWork Slave.withTx
  cases reset with
  | false => rfl
  | true =>
    simp only [if_true]
    split <;> split <;> rfl

theorem audioWork_withTx (rc : Int) (audio plc : Bool) (payload : MicPayload) :
    Slave.audioWork c rc (s.withTx t) audio plc payload =
      ((Slave.audioWork c rc s audio plc payload).1,
        (Slave.audioWork c rc s audio plc payload).2.withTx t) := by
  unfold Slave.audioWork Slave.withTx
  split <;> rfl

theorem decodeWork_withTx (reset audio plc : Bool) (payload : MicPayload) :
    (s.withTx t).decodeWork c reset audio plc payload =
      ((s.decodeWork c reset audio plc payload).1,
        (s.decodeWork c reset audio plc payload).2.withTx t) := by
  rw [decodeWork_eq, decodeWork_eq, resetWork_withTx, audioWork_withTx]
  have hready : (s.withTx t).decReady = s.decReady := rfl
  rw [hready]
  cases s.decReady <;> rfl

theorem serveMic_withTx (rx tx : CwFrame) :
    (s.withTx t).serveMic c rx tx =
      ((s.serveMic c rx tx).1, (s.serveMic c rx tx).2.withTx t) := by
  unfold Slave.serveMic
  simp only [decodeWork_withTx]
  have hsession : (!(s.withTx t).haveDecoderSession ||
      (s.withTx t).decoderSession != cwGet32 rx 8) =
      (!s.haveDecoderSession || s.decoderSession != cwGet32 rx 8) := rfl
  rw [hsession]
  split
  · split <;> rfl
  · rfl

/-- The reply buffer is written before it is read. -/
theorem serve_withTx (rx : CwFrame) : (s.withTx t).serve c crc32 rx = s.serve c crc32 rx := by
  have hplay : ∀ tx, (s.withTx t).servePlay c rx tx =
      ((s.servePlay c rx tx).1, (s.servePlay c rx tx).2.1.withTx t, (s.servePlay c rx tx).2.2) := by
    intro tx
    unfold Slave.servePlay Slave.withTx
    split <;> rfl
  unfold Slave.serve
  simp only [hplay, serveMic_withTx]
  rfl

/-- The last good request, as the slave remembers it. -/
def Slave.last (s : Slave E D) : Option (UInt32 × UInt32) :=
  if s.haveCached then some (s.lastSession, s.lastSeq) else none

theorem last_eq_id (a : Arrival) :
    (s.haveCached && cwGet32 a.rx 8 == s.lastSession && cwGet32 a.rx 12 == s.lastSeq) =
      (s.last == some a.id) := by
  unfold Slave.last
  cases s.haveCached with
  | false => rfl
  | true =>
    rw [Bool.eq_iff_iff]
    simp only [Bool.true_and, Bool.and_eq_true, beq_iff_eq, if_true, Option.some.injEq,
      Arrival.id, Prod.mk.injEq]
    exact and_congr eq_comm eq_comm

/-- A request that stays is served, whatever the reply buffer held. -/
theorem process_fresh (h : a.fresh crc32 s.last = true) :
    (s.withTx t).process c crc32 a.rx a.bits = s.serve c crc32 a.rx := by
  simp only [Arrival.fresh, Bool.and_eq_true, Arrival.wellFormed] at h
  obtain ⟨hgood, hnew⟩ := h
  have hdup : ((s.withTx t).haveCached && cwGet32 a.rx 8 == (s.withTx t).lastSession &&
      cwGet32 a.rx 12 == (s.withTx t).lastSeq) = false := by
    change (s.haveCached && cwGet32 a.rx 8 == s.lastSession && cwGet32 a.rx 12 == s.lastSeq) = _
    rw [last_eq_id]
    simpa [bne] using hnew
  unfold Slave.process
  dsimp only
  rw [hdup, hgood.1, hgood.2]
  exact serve_withTx c crc32 s t a.rx

/-- One that is deleted leaves the slave as it was but for its reply, and calls no codec. -/
theorem process_stale (h : a.fresh crc32 s.last = false) :
    s.process c crc32 a.rx a.bits =
      (s.withTx (if a.wellFormed crc32 then s.cached else badWireReply crc32 a), none) := by
  unfold Slave.process
  dsimp only
  rw [last_eq_id]
  cases hgood : a.wellFormed crc32 with
  | false =>
    unfold Arrival.wellFormed at hgood
    rw [hgood]
    rfl
  | true =>
    rw [Arrival.fresh, hgood, Bool.true_and] at h
    have hsame : (s.last == some a.id) = true := by
      simpa [bne] using h
    unfold Arrival.wellFormed at hgood
    rw [hgood, hsame]
    rfl

theorem callsFor_fresh (h : a.fresh crc32 s.last = true) :
    (s.withTx t).callsFor c crc32 a = s.callsFor c crc32 a := by
  have hrecording : (s.withTx t).recording = s.recording.withTx t := rfl
  have hlast : s.recording.last = s.last := rfl
  rw [← hlast] at h
  have hserve : s.recording.process c.recorded crc32 a.rx a.bits =
      s.recording.serve c.recorded crc32 a.rx := process_fresh c.recorded crc32 s.recording s.tx h
  unfold Slave.callsFor
  rw [hrecording, process_fresh c.recorded crc32 s.recording t h, hserve]

theorem callsFor_stale (h : a.fresh crc32 s.last = false) : s.callsFor c crc32 a = [] := by
  have hlast : s.recording.last = s.last := rfl
  rw [← hlast] at h
  unfold Slave.callsFor
  rw [process_stale c.recorded crc32 s.recording h]
  rfl

/-- What a request leaves as the last good one. -/
theorem process_last (a : Arrival) :
    (s.process c crc32 a.rx a.bits).1.last = lastGood crc32 s.last [a] := by
  cases hfresh : a.fresh crc32 s.last with
  | true =>
    have hserve : s.process c crc32 a.rx a.bits = s.serve c crc32 a.rx :=
      process_fresh c crc32 s s.tx hfresh
    have hgood : a.wellFormed crc32 = true := (Bool.and_eq_true_iff.mp hfresh).1
    rw [hserve]
    simp only [lastGood, List.foldl_cons, List.foldl_nil, hgood, if_true]
    rfl
  | false =>
    rw [process_stale c crc32 s hfresh]
    simp only [lastGood, List.foldl_cons, List.foldl_nil]
    split
    · next hgood =>
      rw [Arrival.fresh, hgood, Bool.true_and] at hfresh
      have hsame : s.last = some a.id := by simpa [bne] using hfresh
      exact hsame
    · rfl

end Process

/-! ## Runs -/

section Runs

variable (c : Codecs E D) (crc32 : List UInt8 → UInt32)

theorem serveAll_cons (s : Slave E D) (a : Arrival) (as : List Arrival) :
    s.serveAll c crc32 (a :: as) =
      (((s.process c crc32 a.rx a.bits).1.serveAll c crc32 as).1,
        ⟨(s.process c crc32 a.rx a.bits).1.tx, s.callsFor c crc32 a⟩ ::
          ((s.process c crc32 a.rx a.bits).1.serveAll c crc32 as).2) :=
  rfl

/-- The requests that stay are served alike without the others. -/
theorem serveAll_pick (as : List Arrival) (s : Slave E D) (t : CwFrame) :
    (∃ t', (s.serveAll c crc32 as).1 =
      ((s.withTx t).serveAll c crc32 (pick (freshMarks crc32 s.last as) as)).1.withTx t') ∧
    pick (freshMarks crc32 s.last as) (s.serveAll c crc32 as).2 =
      ((s.withTx t).serveAll c crc32 (pick (freshMarks crc32 s.last as) as)).2 ∧
    (s.serveAll c crc32 as).2.flatMap Exchange.calls =
      ((s.withTx t).serveAll c crc32 (pick (freshMarks crc32 s.last as) as)).2.flatMap
        Exchange.calls := by
  induction as generalizing s t with
  | nil => exact ⟨⟨s.tx, rfl⟩, rfl, rfl⟩
  | cons a as ih =>
    rw [serveAll_cons]
    cases hfresh : a.fresh crc32 s.last with
    | true =>
      have hserve : s.process c crc32 a.rx a.bits = s.serve c crc32 a.rx :=
        process_fresh c crc32 s s.tx hfresh
      have hlast : (s.serve c crc32 a.rx).1.last = some a.id := rfl
      have hmarks : freshMarks crc32 s.last (a :: as) =
          true :: freshMarks crc32 (s.serve c crc32 a.rx).1.last as := by
        rw [freshMarks, if_pos hfresh, hlast]
      obtain ⟨hfinal, hexchanges, hcalls⟩ :=
        ih (s.serve c crc32 a.rx).1 (s.serve c crc32 a.rx).1.tx
      rw [hmarks, pick, pick, serveAll_cons, process_fresh c crc32 s t hfresh,
        callsFor_fresh c crc32 s t hfresh, hserve]
      refine ⟨hfinal, congrArg (List.cons _) hexchanges, ?_⟩
      rw [List.flatMap_cons, List.flatMap_cons, hcalls]
      rfl
    | false =>
      have hmarks : freshMarks crc32 s.last (a :: as) =
          false :: freshMarks crc32 s.last as := by
        rw [freshMarks, hfresh, if_neg Bool.false_ne_true]
      rw [hmarks, pick, pick, process_stale c crc32 s hfresh, List.flatMap_cons,
        callsFor_stale c crc32 s hfresh]
      exact ih (s.withTx _) t

/-- A request in the middle of a run. -/
theorem serveAll_append (s : Slave E D) (before : List Arrival) (as : List Arrival) :
    (s.serveAll c crc32 (before ++ as)).2 =
      (s.serveAll c crc32 before).2 ++ ((s.serveAll c crc32 before).1.serveAll c crc32 as).2 := by
  induction before generalizing s with
  | nil => rfl
  | cons a before ih =>
    rw [List.cons_append, serveAll_cons, serveAll_cons, ih]
    rfl

theorem serveAll_length (s : Slave E D) (as : List Arrival) :
    (s.serveAll c crc32 as).2.length = as.length := by
  induction as generalizing s with
  | nil => rfl
  | cons a as ih =>
    rw [serveAll_cons, List.length_cons, List.length_cons, ih]

theorem serveAll_last (s : Slave E D) (as : List Arrival) :
    (s.serveAll c crc32 as).1.last = lastGood crc32 s.last as := by
  induction as generalizing s with
  | nil => rfl
  | cons a as ih =>
    rw [serveAll_cons]
    show ((s.process c crc32 a.rx a.bits).1.serveAll c crc32 as).1.last = _
    rw [ih, process_last]
    rfl

theorem serveAll_at (s : Slave E D) (before after : List Arrival) (a : Arrival) :
    (s.serveAll c crc32 (before ++ a :: after)).2[before.length]? =
      some ⟨((s.serveAll c crc32 before).1.process c crc32 a.rx a.bits).1.tx,
        (s.serveAll c crc32 before).1.callsFor c crc32 a⟩ := by
  rw [serveAll_append, List.getElem?_append_right (by rw [serveAll_length]), serveAll_length,
    Nat.sub_self, serveAll_cons]
  rfl

/-- The marks say which requests are fresh after those before them. -/
theorem freshMarks_at (last : Option (UInt32 × UInt32)) (before after : List Arrival)
    (a : Arrival) :
    (freshMarks crc32 last (before ++ a :: after))[before.length]? =
      some (a.fresh crc32 (lastGood crc32 last before)) := by
  induction before generalizing last with
  | nil =>
    rw [List.nil_append, freshMarks]
    cases hfresh : a.fresh crc32 last with
    | true => simp only [if_true, List.length_nil, List.getElem?_cons_zero, lastGood,
        List.foldl_nil, hfresh]
    | false => simp only [Bool.false_eq_true, if_false, List.length_nil, List.getElem?_cons_zero,
        lastGood, List.foldl_nil, hfresh]
  | cons b before ih =>
    rw [List.cons_append, freshMarks]
    cases hfresh : b.fresh crc32 last with
    | true =>
      have hgood : b.wellFormed crc32 = true := (Bool.and_eq_true_iff.mp hfresh).1
      rw [if_pos rfl, List.length_cons, List.getElem?_cons_succ, ih, lastGood, lastGood,
        List.foldl_cons, if_pos hgood]
    | false =>
      have hkeep : (if b.wellFormed crc32 then some b.id else last) = last := by
        split
        · next hgood =>
          rw [Arrival.fresh, hgood, Bool.true_and] at hfresh
          have hsame : last = some b.id := by simpa [bne] using hfresh
          exact hsame.symm
        · rfl
      rw [if_neg Bool.false_ne_true, List.length_cons, List.getElem?_cons_succ, ih, lastGood,
        lastGood, List.foldl_cons, hkeep]

theorem serveAll_snoc (s : Slave E D) (before : List Arrival) (a : Arrival) :
    (s.serveAll c crc32 (before ++ [a])).1 =
      ((s.serveAll c crc32 before).1.process c crc32 a.rx a.bits).1 := by
  induction before generalizing s with
  | nil => rfl
  | cons b before ih =>
    rw [List.cons_append, serveAll_cons, serveAll_cons]
    exact ih _

/-- The request whose reply is cached: the last fresh one, and no other good one since. -/
structure CachedFor (s : Slave E D) (before older : List Arrival) (b : Arrival)
    (newer : List Arrival) : Prop where
  split : before = older ++ b :: newer
  fresh : b.fresh crc32 (lastGood crc32 s.last older) = true
  last : (s.serveAll c crc32 before).1.last = some b.id
  cached : (s.serveAll c crc32 before).1.cached =
    ((s.serveAll c crc32 older).1.process c crc32 b.rx b.bits).1.tx
  newer : ∀ d ∈ newer, d.wellFormed crc32 = true → d.id = b.id

theorem serveAll_cached {s : Slave E D} (hs : s.haveCached = false) (before : List Arrival)
    (h : (s.serveAll c crc32 before).1.last ≠ none) :
    ∃ older b newer, CachedFor c crc32 s before older b newer := by
  induction before using List.reverseRecOn with
  | nil =>
    refine absurd ?_ h
    show s.last = none
    rw [Slave.last, hs]
    rfl
  | append_singleton before a ih =>
    have hlast := serveAll_last c crc32 s before
    cases hfresh : a.fresh crc32 (s.serveAll c crc32 before).1.last with
    | true =>
      have hserve : (s.serveAll c crc32 before).1.process c crc32 a.rx a.bits =
          (s.serveAll c crc32 before).1.serve c crc32 a.rx :=
        process_fresh c crc32 _ (s.serveAll c crc32 before).1.tx hfresh
      refine ⟨before, a, [], rfl, by rw [← hlast]; exact hfresh, ?_, ?_, fun _ h => nomatch h⟩
      · rw [serveAll_snoc, hserve]
        rfl
      · rw [serveAll_snoc, hserve]
        rfl
    | false =>
      have hstale := process_stale c crc32 _ hfresh
      have hsame : (s.serveAll c crc32 (before ++ [a])).1.last =
          (s.serveAll c crc32 before).1.last := by
        rw [serveAll_snoc, hstale]
        rfl
      rw [hsame] at h
      obtain ⟨older, b, newer, hcached⟩ := ih h
      refine ⟨older, b, newer ++ [a], ?_, hcached.fresh, hsame.trans hcached.last, ?_, ?_⟩
      · rw [hcached.split, List.append_assoc]
        rfl
      · rw [serveAll_snoc, hstale]
        exact hcached.cached
      · intro d hd hgood
        rcases List.mem_append.mp hd with hd | hd
        · exact hcached.newer d hd hgood
        · rw [List.mem_singleton.mp hd] at hgood ⊢
          rw [Arrival.fresh, hgood, Bool.true_and] at hfresh
          have hid : (s.serveAll c crc32 before).1.last = some a.id := by simpa [bne] using hfresh
          exact Option.some.inj (hid.symm.trans hcached.last)

end Runs

/-- A sealed refusal without audio. -/
structure BadWire (crc32 : List UInt8 → UInt32) (a : Arrival) (reply : CwFrame) : Prop where
  valid : cwValid crc32 reply cwResponse = true
  status : reply.byte 6 = cwBadWire
  flags : reply.byte 5 = 0
  session : cwGet32 reply 8 = cwGet32 a.rx 8
  seq : cwGet32 reply 12 = cwGet32 a.rx 12
  silent : ∀ i, 20 ≤ i → i < cwCrc → reply.byte i = 0

theorem badWireReply_badWire (crc32 : List UInt8 → UInt32) (a : Arrival) :
    BadWire crc32 a (badWireReply crc32 a) where
  valid := (replyHeader_begin _ _ _ _).valid crc32
  status := by
    rw [badWireReply, cwSeal_byte crc32 _ (by decide), cwBegin_status]
  flags := by
    rw [badWireReply, cwSeal_byte crc32 _ (by decide), cwBegin_flags]
  session := by
    rw [badWireReply, cwSeal_get32 crc32 _ (by decide), cwBegin_session]
  seq := by
    rw [badWireReply, cwSeal_get32 crc32 _ (by decide), cwBegin_seq]
  silent i hlo hhi := by
    rw [badWireReply, cwSeal_byte crc32 _ hhi, cwBegin_padding _ _ _ _ _ _ hlo]

/-- Malformed and repeated requests do nothing to the codecs, the cache and the other replies: the
run without them makes the same calls and leaves the same slave but for the reply buffer. A repeat
is answered with the reply of the request it repeats, a malformed request with a refusal. -/
theorem stale_requests_inert (c : Codecs E D) (crc32 : List UInt8 → UInt32) (encoder : E)
    (decoder : D) (as : List Arrival) :
    (∃ t, ((Slave.init crc32 encoder decoder).serveAll c crc32 as).1 =
      ((Slave.init crc32 encoder decoder).serveAll c crc32
        (pick (freshMarks crc32 none as) as)).1.withTx t) ∧
    pick (freshMarks crc32 none as) ((Slave.init crc32 encoder decoder).serveAll c crc32 as).2 =
      ((Slave.init crc32 encoder decoder).serveAll c crc32
        (pick (freshMarks crc32 none as) as)).2 ∧
    ((Slave.init crc32 encoder decoder).serveAll c crc32 as).2.flatMap Exchange.calls =
      ((Slave.init crc32 encoder decoder).serveAll c crc32
        (pick (freshMarks crc32 none as) as)).2.flatMap Exchange.calls ∧
    ∀ before a after, as = before ++ a :: after →
      (freshMarks crc32 none as)[before.length]? =
        some (a.fresh crc32 (lastGood crc32 none before)) ∧
      ∃ x, ((Slave.init crc32 encoder decoder).serveAll c crc32 as).2[before.length]? = some x ∧
        (a.fresh crc32 (lastGood crc32 none before) = false → x.calls = [] ∧
          (a.wellFormed crc32 = false → BadWire crc32 a x.reply) ∧
          (a.wellFormed crc32 = true →
            x.reply = ((Slave.init crc32 encoder decoder).serveAll c crc32 before).1.cached ∧
            ∃ older b newer y, before = older ++ b :: newer ∧ b.id = a.id ∧
              b.fresh crc32 (lastGood crc32 none older) = true ∧
              (∀ d ∈ newer, d.wellFormed crc32 = true → d.id = b.id) ∧
              ((Slave.init crc32 encoder decoder).serveAll c crc32 as).2[older.length]? = some y ∧
              x.reply = y.reply)) := by
  have hnone : (Slave.init crc32 encoder decoder : Slave E D).last = none := rfl
  obtain ⟨hfinal, hexchanges, hcalls⟩ := serveAll_pick c crc32 as
    (Slave.init crc32 encoder decoder) (Slave.init crc32 encoder decoder : Slave E D).tx
  rw [hnone] at hfinal hexchanges hcalls
  refine ⟨hfinal, hexchanges, hcalls, ?_⟩
  rintro before a after rfl
  refine ⟨freshMarks_at crc32 none before after a, _, serveAll_at c crc32 _ before after a, ?_⟩
  intro hstale
  have hlast := serveAll_last c crc32 (Slave.init crc32 encoder decoder : Slave E D) before
  rw [hnone] at hlast
  rw [← hlast] at hstale
  have hprocess := process_stale c crc32 _ hstale
  refine ⟨callsFor_stale c crc32 _ hstale, fun hbad => ?_, fun hgood => ?_⟩
  · dsimp only
    rw [hprocess, hbad]
    exact badWireReply_badWire crc32 a
  · rw [Arrival.fresh, hgood, Bool.true_and] at hstale
    have hid : ((Slave.init crc32 encoder decoder).serveAll c crc32 before).1.last = some a.id := by
      simpa [bne] using hstale
    have hreply : (((Slave.init crc32 encoder decoder).serveAll c crc32 before).1.process c crc32
        a.rx a.bits).1.tx =
        ((Slave.init crc32 encoder decoder).serveAll c crc32 before).1.cached := by
      rw [hprocess, hgood]
      rfl
    obtain ⟨older, b, newer, hcached⟩ := serveAll_cached c crc32
      (s := Slave.init crc32 encoder decoder) rfl before (by rw [hid]; exact Option.some_ne_none _)
    have hsplit : before ++ a :: after = older ++ b :: (newer ++ a :: after) := by
      rw [hcached.split, List.append_assoc]
      rfl
    have hat := serveAll_at c crc32 (Slave.init crc32 encoder decoder : Slave E D) older
      (newer ++ a :: after) b
    rw [← hsplit] at hat
    have hfresh := hcached.fresh
    rw [hnone] at hfresh
    exact ⟨hreply, older, b, newer, _, hcached.split,
      Option.some.inj (hcached.last.symm.trans hid), hfresh, hcached.newer, hat,
      hreply.trans hcached.cached⟩

end UllReceiver.Bridge
