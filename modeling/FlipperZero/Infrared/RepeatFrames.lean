import FlipperZero.Infrared.RoundTrip

/-!
# Frames and the repeat sequences after them

A held key sends its frame once and then, after a pause, a short sequence for each period. The
encoder counts its samples and adds up their durations, since the pause is what the frame leaves
of the period. The decoder splits at a long space and then compares four timings at a time.
-/

namespace FlipperZero

open Foundation

/-! ### Encoding -/

/-- The samples of calls of an encoder until it is done, with the encoder after them. -/
def encodeFrameTo (encode : InfraredEncode) : Nat → InfraredCommonEncoder →
    Option (List InfraredSample × InfraredCommonEncoder)
  | 0, _        => none
  | fuel + 1, e =>
    match encode e with
    | (.done, sample, e') => some ([sample], e')
    | (.error, _, _)      => none
    | (_, sample, e')     => (encodeFrameTo encode fuel e').map fun r => (sample :: r.1, r.2)

def encodeFrames (encode : InfraredEncode) (fuel : Nat) : Nat → InfraredCommonEncoder →
    Option (List InfraredSample)
  | 0, _     => some []
  | n + 1, e => do
    let (frame, e) ← encodeFrameTo encode fuel e
    let frames ← encodeFrames encode fuel n e
    return frame ++ frames

lemma encodeFrame_eq (encode : InfraredEncode) (fuel : Nat) (e : InfraredCommonEncoder) :
    encodeFrame encode fuel e = (encodeFrameTo encode fuel e).map Prod.fst := by
  induction fuel generalizing e with
  | zero => rfl
  | succ fuel ih =>
    rcases hcall : encode e with ⟨status, sample, e'⟩
    cases status with
    | done => simp only [encodeFrame, encodeFrameTo, hcall, Option.map_some]
    | error => simp only [encodeFrame, encodeFrameTo, hcall, Option.map_none]
    | ok | ready =>
      simp only [encodeFrame, encodeFrameTo, hcall, ih, Option.map_map]
      rfl

/-- How long the samples last. -/
def totalTime (samples : List InfraredSample) : Nat := (samples.map fun s => s.duration).sum

lemma totalTime_cons (s : InfraredSample) (samples : List InfraredSample) :
    totalTime (s :: samples) = s.duration + totalTime samples := by
  rw [totalTime, List.map_cons, List.sum_cons]
  rfl

lemma totalTime_append (a b : List InfraredSample) : totalTime (a ++ b) = totalTime a + totalTime b := by
  rw [totalTime, List.map_append, List.sum_append]
  rfl

variable {spec : InfraredCommonProtocolSpec}

def InFrame (e : InfraredCommonEncoder) : Prop := e.state = .preamble ∨ e.state = .encode

/-- One sample is counted and its duration added. After the last one the encoder goes over to the
repeat sequence. -/
structure Counts (e : InfraredCommonEncoder) (r : InfraredEncodeResult) : Prop where
  encoded : r.2.2.timingsEncoded = e.timingsEncoded + 1
  sum : r.2.2.timingsSum = e.timingsSum + r.2.1.duration
  bitsToEncode : r.2.2.bitsToEncode = e.bitsToEncode
  state : if r.1 = .done then r.2.2.state = .encodeRepeat else InFrame r.2.2

lemma counts_encode (hencode : spec.encode = infraredCommonEncodePdwm spec.timings)
    (hrepeat : spec.encodeRepeat.isSome) {e : InfraredCommonEncoder} (he : e.state = .encode) :
    Counts e (infraredCommonEncodeEncode spec e) := by
  obtain ⟨sample, e₁, hsample, hstate, hencoded, hsum, hbits⟩ : ∃ sample e₁,
      spec.encode e = (.ok, sample, e₁) ∧ e₁.state = .encode ∧
        e₁.timingsEncoded = e.timingsEncoded ∧ e₁.timingsSum = e.timingsSum ∧
        e₁.bitsToEncode = e.bitsToEncode := by
    rw [hencode, infraredCommonEncodePdwm]
    split_ifs
    all_goals exact ⟨_, _, rfl, he, rfl, rfl, rfl⟩
  rw [infraredCommonEncodeEncode, infraredCommonEncodeBits, hsample]
  by_cases hlast : (e₁.bitsEncoded = e₁.bitsToEncode && sample.level) = true
  · simp only [hlast, if_true, hrepeat]
    exact ⟨congrArg (· + 1) hencoded, congrArg (· + sample.duration) hsum, hbits, rfl⟩
  · simp only [hlast]
    exact ⟨congrArg (· + 1) hencoded, congrArg (· + sample.duration) hsum, hbits, Or.inr hstate⟩

lemma InFrame.counts (hencode : spec.encode = infraredCommonEncodePdwm spec.timings)
    (hrepeat : spec.encodeRepeat.isSome) {e : InfraredCommonEncoder} (he : InFrame e) :
    Counts e (infraredCommonEncode spec e) := by
  rcases he with he | he
  · rw [infraredCommonEncode, he]
    dsimp only
    by_cases hmark : spec.timings.preambleMark ≠ 0
    · rw [if_pos hmark]
      refine ⟨rfl, rfl, rfl, ?_⟩
      show InFrame _
      by_cases hfirst : e.timingsEncoded = 1
      · exact Or.inl (if_pos hfirst)
      · exact Or.inr (if_neg hfirst)
    · rw [if_neg hmark]
      have hcounts := counts_encode (e := { e with state := .encode }) hencode hrepeat rfl
      exact ⟨hcounts.encoded, hcounts.sum, hcounts.bitsToEncode, hcounts.state⟩
  · rw [infraredCommonEncode_of_encode he]
    exact counts_encode hencode hrepeat he

lemma InFrame.run (hencode : spec.encode = infraredCommonEncodePdwm spec.timings)
    (hrepeat : spec.encodeRepeat.isSome) {fuel : Nat} {e e' : InfraredCommonEncoder}
    {frame : List InfraredSample} (he : InFrame e)
    (h : encodeFrameTo (infraredCommonEncode spec) fuel e = some (frame, e')) :
    e'.timingsEncoded = e.timingsEncoded + frame.length ∧
      e'.timingsSum = e.timingsSum + totalTime frame ∧ e'.bitsToEncode = e.bitsToEncode ∧
      e'.state = .encodeRepeat := by
  induction fuel generalizing e frame with
  | zero => cases h
  | succ fuel ih =>
    obtain ⟨hencoded, hsum, hbits, hstate⟩ := he.counts hencode hrepeat
    rcases hcall : infraredCommonEncode spec e with ⟨status, sample, e₁⟩
    rw [hcall] at hencoded hsum hbits hstate
    rw [encodeFrameTo, hcall] at h
    cases status with
    | done =>
      cases h
      exact ⟨hencoded, hsum, hbits, hstate⟩
    | error => cases h
    | ok | ready =>
      obtain ⟨⟨rest, e₂⟩, hrest, heq⟩ := Option.map_eq_some_iff.mp h
      cases heq
      obtain ⟨hencoded', hsum', hbits', hstate'⟩ := ih hstate hrest
      refine ⟨?_, ?_, hbits'.trans hbits, hstate'⟩
      · rw [hencoded', hencoded, List.length_cons, Nat.add_assoc, Nat.add_comm 1]
      · rw [hsum', hsum, totalTime_cons, Nat.add_assoc]

/-- The encoder behind a frame of `n` bits and `j` repeat sequences. -/
structure Repeats (n j : Nat) (sum : Nat) (e : InfraredCommonEncoder) : Prop where
  state : e.state = .encodeRepeat
  encoded : e.timingsEncoded = 1 + 2 + n * 2 + 1 + 4 * j
  sum : e.timingsSum = sum
  bitsToEncode : e.bitsToEncode = n

/-- The repeat sequence of NEC after a pause. -/
def repeatFrame (pause : Nat) : List InfraredSample :=
  [⟨false, pause⟩, ⟨true, 9000⟩, ⟨false, 2250⟩, ⟨true, 560⟩]

/-- The pause in front of a repeat sequence: the first one is what the frame leaves of the
period. -/
def repeatPause (sum j : Nat) : Nat := if j = 0 then 110000 - sum else 98190

lemma infraredCommonEncode_repeat {n j i sum : Nat} {e : InfraredCommonEncoder}
    (hstate : e.state = .encodeRepeat) (hencoded : e.timingsEncoded = 1 + 2 + n * 2 + 1 + 4 * j + i)
    (hsum : e.timingsSum = sum) (hbits : e.bitsToEncode = n) (hi : i < 4) :
    infraredCommonEncode infraredProtocolNec e =
      (if i = 3 then .done else .ok,
        ⟨i % 2 = 1, if i = 0 then repeatPause sum j else [98190, 9000, 2250, 560].getD i 0⟩,
        { e with timingsEncoded := e.timingsEncoded + 1 }) := by
  have hcount : e.timingsEncoded - (1 + 2 + e.bitsToEncode * 2 + 1) = 4 * j + i := by omega
  have hmod : (4 * j + i) % 4 = i := by omega
  have hodd : (4 * j + i) % 2 = i % 2 := by omega
  have hlast : (4 * j + i + 1) % 4 = 0 ↔ i = 3 := by omega
  have hcall : infraredCommonEncode infraredProtocolNec e = infraredEncoderNecEncodeRepeat e := by
    rw [infraredCommonEncode, hstate]
    rfl
  rw [hcall, infraredEncoderNecEncodeRepeat, encodeRepeatSequence, hcount, hsum]
  simp only [List.length_cons, List.length_nil, Nat.reduceAdd, Nat.reduceSub, hmod, hodd, hlast,
    repeatPause]
  by_cases hj : j = 0
  · by_cases hzero : i = 0
    · simp [hj, hzero]
    · simp [hj, hzero, Nat.pos_of_ne_zero hzero]
  · by_cases hzero : i = 0
    · simp [hj, hzero, Nat.pos_of_ne_zero hj]
    · have hpos : 0 < 4 * j + i := by omega
      simp [hzero, hpos]

lemma Repeats.frame {n j sum : Nat} {e : InfraredCommonEncoder} (h : Repeats n j sum e) (fuel : Nat) :
    ∃ e', encodeFrameTo (infraredCommonEncode infraredProtocolNec) (fuel + 4) e =
        some (repeatFrame (repeatPause sum j), e') ∧ Repeats n (j + 1) sum e' := by
  obtain ⟨hstate, hencoded, hsum, hbits⟩ := h
  let after (k : Nat) : InfraredCommonEncoder := { e with timingsEncoded := e.timingsEncoded + k }
  have h₀ : infraredCommonEncode infraredProtocolNec e = (.ok, ⟨false, repeatPause sum j⟩, after 1) :=
    infraredCommonEncode_repeat (i := 0) hstate hencoded hsum hbits (by decide)
  have h₁ : infraredCommonEncode infraredProtocolNec (after 1) = (.ok, ⟨true, 9000⟩, after 2) :=
    infraredCommonEncode_repeat (i := 1) hstate (congrArg (· + 1) hencoded) hsum hbits (by decide)
  have h₂ : infraredCommonEncode infraredProtocolNec (after 2) = (.ok, ⟨false, 2250⟩, after 3) :=
    infraredCommonEncode_repeat (i := 2) hstate (congrArg (· + 2) hencoded) hsum hbits (by decide)
  have h₃ : infraredCommonEncode infraredProtocolNec (after 3) = (.done, ⟨true, 560⟩, after 4) :=
    infraredCommonEncode_repeat (i := 3) hstate (congrArg (· + 3) hencoded) hsum hbits (by decide)
  refine ⟨after 4, ?_, hstate, ?_, hsum, hbits⟩
  · simp only [encodeFrameTo, h₀, h₁, h₂, h₃]
    rfl
  · show e.timingsEncoded + 4 = _
    omega

lemma Repeats.frames {n j sum : Nat} {e : InfraredCommonEncoder} (h : Repeats n j sum e) (r : Nat) :
    encodeFrames (infraredCommonEncode infraredProtocolNec) frameTimings r e =
      some ((List.range' j r).flatMap fun i => repeatFrame (repeatPause sum i)) := by
  induction r generalizing j e with
  | zero => rfl
  | succ r ih =>
    obtain ⟨e', hframe, hnext⟩ := h.frame 196
    have hfuel : frameTimings = 196 + 4 := rfl
    rw [encodeFrames, hfuel, hframe]
    show (encodeFrames _ _ r e').bind _ = _
    rw [← hfuel, ih hnext, List.range'_succ, List.flatMap_cons]
    rfl

/-! ### Decoding -/

/-- The decoder holds the first timings of a repeat sequence for a message. -/
structure Repeating (m : InfraredMessage) (timings : List Nat) (level : Bool)
    (d : InfraredCommonDecoder) : Prop where
  state : d.state = .processRepeat
  timings : d.timings = timings
  level : d.level = level
  message : { d.message with repeat_ := true } = { m with repeat_ := true }
  databitCnt : d.databitCnt = 0

section

variable {m : InfraredMessage} {timings : List Nat} {level : Bool} {d : InfraredCommonDecoder}

lemma infraredDecoderNecDecodeRepeat_short (h : timings.length < 4) :
    infraredDecoderNecDecodeRepeat timings = (.ok, timings) := if_pos h

lemma infraredCommonDecodeRound_repeat {d : InfraredCommonDecoder} (hstate : d.state = .processRepeat)
    (h : d.timings.length < 4) (found : Bool) :
    infraredCommonDecodeRound infraredProtocolNec.toInfraredDecoderSpec (found, d) =
      .leave (.ok (if found then some d.message else none, d)) := by
  rcases d with ⟨payload, timings, state, level⟩
  cases hstate
  have hspec : infraredProtocolNec.toInfraredDecoderSpec.decodeRepeat =
      some infraredDecoderNecDecodeRepeat := rfl
  simp only [infraredCommonDecodeRound, hspec, infraredDecoderNecDecodeRepeat_short h]

lemma Repeating.wait (h : Repeating m timings level d) (hlen : timings.length + 1 < 4)
    (duration : Nat) :
    ∃ d', infraredCommonDecode infraredProtocolNec.toInfraredDecoderSpec d (!level) duration =
        .ok (none, d') ∧ Repeating m (timings ++ [duration]) (!level) d' := by
  obtain ⟨hstate, htimings, hlevel, hmessage, hcnt⟩ := h
  refine ⟨{ d with level := !level, timings := d.timings ++ [duration] }, ?_, hstate, ?_, rfl,
    hmessage, hcnt⟩
  · have hne : ¬d.level = !level := by
      rw [hlevel]
      cases level <;> decide
    rw [infraredCommonDecode, if_neg hne]
    apply infraredStoreAndDecode_leave
    · rw [htimings]
      exact Nat.lt_trans (Nat.lt_of_succ_lt hlen) (by decide)
    · have hshort : (d.timings ++ [duration]).length < 4 := by
        rw [htimings, List.length_append]
        exact hlen
      exact infraredCommonDecodeRound_repeat
        (d := { d with level := !level, timings := d.timings ++ [duration] }) hstate hshort false
  · rw [htimings]

lemma Repeating.ready {pause : Nat} (h : Repeating m [pause, 9000, 2250] false d)
    (hmin : 4000 < pause) (hmax : pause < 150000) :
    ∃ d', infraredCommonDecode infraredProtocolNec.toInfraredDecoderSpec d true 560 =
        .ok (some { m with repeat_ := true }, d') ∧ Repeating m [] true d' := by
  obtain ⟨hstate, htimings, hlevel, hmessage, hcnt⟩ := h
  refine ⟨{ d with level := true, timings := [], message := { d.message with repeat_ := true } }, ?_,
    hstate, rfl, rfl, hmessage, hcnt⟩
  have hne : ¬d.level = true := by
    rw [hlevel]
    decide
  rw [infraredCommonDecode, if_neg hne]
  apply infraredStoreAndDecode_leave
  · rw [htimings]
    simp [infraredTimingsSize]
  · have hmatch : infraredDecoderNecDecodeRepeat ([pause, 9000, 2250] ++ [560]) = (.ready, []) := by
      have hrepeat : matchRepeat infraredTimingsNec 4000 150000 9000 2250
          [infraredTimingsNec.bit1Mark] [pause, 9000, 2250, 560] = true := by
        simp only [matchRepeat, hmin, hmax, decide_true]
        decide
      rw [List.cons_append, List.cons_append, List.cons_append, List.nil_append,
        infraredDecoderNecDecodeRepeat, decodeRepeatSequence, if_neg (by simp), if_pos hrepeat]
    simp only [infraredCommonDecodeRound, hstate, htimings]
    rw [show infraredProtocolNec.toInfraredDecoderSpec.decodeRepeat =
      some infraredDecoderNecDecodeRepeat from rfl]
    dsimp only
    rw [hmatch]
    simp only [if_true, hmessage]

lemma infraredDecodeSamples_some {dspec : InfraredDecoderSpec} {d d' : InfraredCommonDecoder}
    {sample : InfraredSample} {samples : List InfraredSample} {message : InfraredMessage}
    (h : infraredCommonDecode dspec d sample.level sample.duration = .ok (some message, d')) :
    infraredDecodeSamples dspec d (sample :: samples) =
      (infraredDecodeSamples dspec d' samples).map fun r => (message :: r.1, r.2) := by
  rw [infraredDecodeSamples, h]
  rfl

lemma Repeating.rest {pause : Nat} (h : Repeating m [pause] false d) (hmin : 4000 < pause)
    (hmax : pause < 150000) (samples : List InfraredSample) :
    ∃ d', Repeating m [] true d' ∧
      infraredDecodeSamples infraredProtocolNec.toInfraredDecoderSpec d
          (⟨true, 9000⟩ :: ⟨false, 2250⟩ :: ⟨true, 560⟩ :: samples) =
        (infraredDecodeSamples infraredProtocolNec.toInfraredDecoderSpec d' samples).map
          fun r => ({ m with repeat_ := true } :: r.1, r.2) := by
  obtain ⟨d₁, h₁, hmark⟩ := h.wait (by simp) 9000
  obtain ⟨d₂, h₂, hspace⟩ := hmark.wait (by simp) 2250
  obtain ⟨d₃, h₃, hready⟩ := Repeating.ready hspace hmin hmax
  refine ⟨d₃, hready, ?_⟩
  rw [infraredDecodeSamples_none h₁, infraredDecodeSamples_none h₂, infraredDecodeSamples_some h₃]

lemma Repeating.frames (h : Repeating m [] true d) {pauses : List Nat}
    (hpauses : ∀ pause ∈ pauses, 4000 < pause ∧ pause < 150000) :
    ∃ d', d'.databitCnt = 0 ∧
      infraredDecodeSamples infraredProtocolNec.toInfraredDecoderSpec d (pauses.flatMap repeatFrame) =
        .ok (List.replicate pauses.length { m with repeat_ := true }, d') := by
  induction pauses generalizing d with
  | nil => exact ⟨d, h.databitCnt, rfl⟩
  | cons pause pauses ih =>
    obtain ⟨⟨hmin, hmax⟩, hrest⟩ := List.forall_mem_cons.mp hpauses
    obtain ⟨d₁, h₁, hpause⟩ := h.wait (by decide) pause
    obtain ⟨d₂, hnext, hframe⟩ := Repeating.rest hpause hmin hmax (pauses.flatMap repeatFrame)
    obtain ⟨d', hcnt, hframes⟩ := ih hnext hrest
    refine ⟨d', hcnt, ?_⟩
    rw [List.flatMap_cons, repeatFrame]
    show infraredDecodeSamples _ d (⟨false, pause⟩ :: ⟨true, 9000⟩ :: ⟨false, 2250⟩ :: ⟨true, 560⟩ ::
      pauses.flatMap repeatFrame) = _
    rw [infraredDecodeSamples_none h₁, hframe, hframes]
    rfl

lemma infraredCommonDecode_split {data : Nat → Nat} {n pause : Nat} (hstate : d.state = .decode)
    (hempty : d.timings = []) (hlevel : d.level = true) (hholds : HoldsBits data n d)
    (hmem : n ∈ infraredProtocolNec.databitLen) (hsplit : 4000 < pause)
    (hinterpret : (infraredDecoderNecInterpret d.toInfraredPayload).1 = true ∧
      (infraredDecoderNecInterpret d.toInfraredPayload).2.message = m) :
    ∃ d', infraredCommonDecode infraredProtocolNec.toInfraredDecoderSpec d false pause =
        .ok (some m, d') ∧ Repeating m [pause] false d' := by
  have hsplits : infraredCommonDecodeTimings infraredProtocolNec.toInfraredDecoderSpec false
      d.toInfraredDatabits [pause] = .ok (.ready, d.toInfraredDatabits, [pause]) := by
    have hlong : infraredTimingsNec.minSplitTime < pause := hsplit
    rw [infraredCommonDecodeTimings, if_pos]
    rw [List.length_singleton, infraredFrontLevel_one, hholds.databitCnt, List.contains_iff_mem.mpr hmem]
    simp only [infraredProtocolNec, hlong, decide_true, Bool.and_true, Bool.not_false]
    decide
  let held : InfraredCommonDecoder := { d with level := false, timings := [pause] }
  let read : InfraredPayload := (infraredDecoderNecInterpret d.toInfraredPayload).2
  let after : InfraredCommonDecoder := { held with
    toInfraredPayload := { read with databitCnt := 0 }
    state := .processRepeat }
  have hready : infraredCommonDecoderCheckReady infraredProtocolNec.toInfraredDecoderSpec held =
      (some m, after) :=
    infraredCommonDecoderCheckReady_accepted (hholds.databitCnt.symm ▸ hmem) hinterpret
  refine ⟨after, ?_, rfl, rfl, rfl, ?_, rfl⟩
  · have hne : ¬d.level = false := by
      rw [hlevel]
      decide
    rw [infraredCommonDecode, if_neg hne]
    apply infraredStoreAndDecode_again (s := (true, after))
    · rw [hempty]
      exact Nat.succ_pos _
    · have hround := @infraredCommonDecodeRound_of_decode infraredProtocolNec.toInfraredDecoderSpec
        false { d with level := false, timings := d.timings ++ [pause] } hstate
      rw [hround, infraredCommonDecodeBits]
      simp only [hempty, List.nil_append, hsplits, Except.map]
      show infraredReadyRound infraredProtocolNec.toInfraredDecoderSpec held = _
      rw [infraredReadyRound, hready]
    · rw [infraredCommonDecodeRound_repeat (d := after) rfl (by decide : 1 < 4), if_pos rfl]
      have hmessage : after.message = m := hinterpret.2
      rw [hmessage]
  · exact congrArg (fun m : InfraredMessage => { m with repeat_ := true }) hinterpret.2

end

end FlipperZero
