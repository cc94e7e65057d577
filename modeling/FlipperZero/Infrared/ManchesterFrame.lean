import FlipperZero.Infrared.RoundTrip

/-!
# Frames of Manchester code

A bit is sent as its level and then the inverse of it, and the last space is not sent at all.
Where the second half of a bit has the level of the first half of the next one, the two arrive as
one timing: the decoder has a flag for being inside a bit, and a long timing leaves it there.
-/

namespace FlipperZero

open Foundation

/-! ### Halves of bits -/

/-- A bit, and the time that each of its halves takes. -/
abbrev TimedBit := Bool × Nat

/-- The samples behind the first half of a bit. -/
def halvesAfter : TimedBit → List TimedBit → List InfraredSample
  | a, []        => if a.1 then [] else [⟨true, a.2⟩]
  | a, b :: bits => ⟨!a.1, a.2⟩ :: ⟨b.1, b.2⟩ :: halvesAfter b bits

/-- The samples from the second half of a bit to the first half of the next one, merged. -/
def runsBetween (a b : TimedBit) : List InfraredSample :=
  if b.1 = a.1 then [⟨!a.1, a.2⟩, ⟨b.1, b.2⟩] else [⟨!a.1, a.2 + b.2⟩]

/-- The samples behind the first half of a bit, merged. -/
def runsAfter : TimedBit → List TimedBit → List InfraredSample
  | a, []        => if a.1 then [] else [⟨true, a.2⟩]
  | a, b :: bits => runsBetween a b ++ runsAfter b bits

lemma mergeSamplesFrom_halvesAfter {tail : List InfraredSample}
    (htail : ∀ duration, mergeSamplesFrom ⟨true, duration⟩ tail = ⟨true, duration⟩ :: tail)
    (a : TimedBit) (bits : List TimedBit) (duration : Nat) :
    mergeSamplesFrom ⟨a.1, duration⟩ (halvesAfter a bits ++ tail) =
      ⟨a.1, duration⟩ :: (runsAfter a bits ++ tail) := by
  induction bits generalizing a duration with
  | nil =>
    obtain ⟨bit, time⟩ := a
    cases bit with
    | true => exact htail duration
    | false =>
      show mergeSamplesFrom ⟨false, duration⟩ (⟨true, time⟩ :: tail) = _
      have hother : ¬true = false := by decide
      rw [mergeSamplesFrom, if_neg hother, htail]
      rfl
  | cons b bits ih =>
    have hne : ¬(!a.1) = a.1 := by cases a.1 <;> decide
    rw [halvesAfter, List.cons_append, mergeSamplesFrom, if_neg hne, List.cons_append,
      mergeSamplesFrom, runsAfter, runsBetween]
    by_cases hsame : b.1 = a.1
    · have hother : ¬b.1 = !a.1 := fun h => hne (h.symm.trans hsame)
      rw [if_neg hother, if_pos hsame, ih]
      rfl
    · have hother : (!a.1) = b.1 := by
        cases ha : a.1 <;> cases hb : b.1 <;> simp_all
      rw [if_pos hother.symm, if_neg hsame, hother]
      rw [ih]
      rfl

/-- Some bits of an array of bytes, with the times of their halves. -/
def timedBits (data times : Nat → Nat) (k m : Nat) : List TimedBit :=
  (List.range' k m).map fun i => (bitAt data i, times i)

lemma timedBits_succ (data times : Nat → Nat) (k m : Nat) :
    timedBits data times k (m + 1) = (bitAt data k, times k) :: timedBits data times (k + 1) m := by
  rw [timedBits, List.range'_succ, List.map_cons]
  rfl

/-! ### Encoding -/

section

variable {spec : InfraredCommonProtocolSpec} {data times : Nat → Nat} {n k : Nat}
  {e : InfraredCommonEncoder}

/-- The encoder of a protocol sends Manchester code, the halves of bit `k` for `times k`. -/
def SendsManchester (spec : InfraredCommonProtocolSpec) (times : Nat → Nat) : Prop :=
  ∀ e, spec.encode e =
    ((infraredCommonEncodeManchester spec.timings e).1,
      ⟨(infraredCommonEncodeManchester spec.timings e).2.1.level, times e.bitsEncoded⟩,
      (infraredCommonEncodeManchester spec.timings e).2.2)

/-- The encoder is about to send a half of bit `k`. -/
structure SendsHalf (data : Nat → Nat) (n k : Nat) (second : Bool) (e : InfraredCommonEncoder) :
    Prop where
  state : e.state = .encode
  turn : decide (e.timingsEncoded % 2 = 0) = second
  bitsEncoded : e.bitsEncoded = k
  bitsToEncode : e.bitsToEncode = n
  data : e.data = data

lemma SendsHalf.encode {second : Bool} (h : SendsHalf data n k second e)
    (hspec : SendsManchester spec times) :
    spec.encode e = (.ok, ⟨second ^^ bitAt data k, times k⟩,
      if second = true ∨ bitAt data k = true ∧ k + 1 = n then { e with bitsEncoded := k + 1 }
      else e) := by
  rw [hspec e, infraredCommonEncodeManchester, h.turn, e.logicValue_eq, h.data, h.bitsEncoded,
    h.bitsToEncode]
  cases second <;> simp

lemma SendsHalf.first (h : SendsHalf data n k false e) (hspec : SendsManchester spec times)
    (hk : k < n) (hgoes : ¬(bitAt data k = true ∧ k + 1 = n)) :
    ∃ e', infraredCommonEncode spec e = (.ok, ⟨bitAt data k, times k⟩, e') ∧
      SendsHalf data n k true e' := by
  have hencode := h.encode hspec
  have hno : ¬(false = true ∨ bitAt data k = true ∧ k + 1 = n) := fun hor =>
    hor.elim Bool.false_ne_true hgoes
  rw [if_neg hno, Bool.false_xor] at hencode
  have hodd : ¬e.timingsEncoded % 2 = 0 := of_decide_eq_false h.turn
  refine ⟨_, infraredCommonEncode_ok h.state hencode ?_, h.state, ?_, h.bitsEncoded,
    h.bitsToEncode, h.data⟩
  · rintro ⟨heq, -⟩
    rw [h.bitsEncoded, h.bitsToEncode] at heq
    exact absurd heq (Nat.ne_of_lt hk)
  · have heven : (e.timingsEncoded + 1) % 2 = 0 := by omega
    exact decide_eq_true heven

lemma SendsHalf.lastMark (h : SendsHalf data n k false e) (hspec : SendsManchester spec times)
    (hbit : bitAt data k = true) (hlast : k + 1 = n) :
    ∃ e', infraredCommonEncode spec e = (.done, ⟨true, times k⟩, e') := by
  have hencode := h.encode hspec
  rw [if_pos (.inr ⟨hbit, hlast⟩), Bool.false_xor, hbit] at hencode
  exact infraredCommonEncode_done h.state hencode ⟨hlast.trans h.bitsToEncode.symm, rfl⟩

lemma SendsHalf.second (h : SendsHalf data n k true e) (hspec : SendsManchester spec times)
    (hgoes : k + 1 ≠ n) :
    ∃ e', infraredCommonEncode spec e = (.ok, ⟨!bitAt data k, times k⟩, e') ∧
      SendsHalf data n (k + 1) false e' := by
  have hencode := h.encode hspec
  rw [if_pos (.inl rfl), Bool.true_xor] at hencode
  have heven : e.timingsEncoded % 2 = 0 := of_decide_eq_true h.turn
  refine ⟨_, infraredCommonEncode_ok h.state hencode ?_, h.state, ?_, rfl, h.bitsToEncode, h.data⟩
  · rintro ⟨heq, -⟩
    exact hgoes (heq.trans h.bitsToEncode)
  · have hodd : ¬(e.timingsEncoded + 1) % 2 = 0 := by omega
    exact decide_eq_false hodd

lemma SendsHalf.last (h : SendsHalf data n k true e) (hspec : SendsManchester spec times)
    (hbit : bitAt data k = false) (hlast : k + 1 = n) :
    ∃ e', infraredCommonEncode spec e = (.done, ⟨true, times k⟩, e') := by
  have hencode := h.encode hspec
  rw [if_pos (.inl rfl), Bool.true_xor, hbit] at hencode
  exact infraredCommonEncode_done h.state hencode ⟨hlast.trans h.bitsToEncode.symm, rfl⟩

lemma SendsHalf.frame (hspec : SendsManchester spec times) (m : Nat)
    (h : SendsHalf data (k + 1 + m) k false e) (fuel : Nat) :
    encodeFrame (infraredCommonEncode spec) (fuel + 2 * (m + 1)) e =
      some (⟨bitAt data k, times k⟩ ::
        halvesAfter (bitAt data k, times k) (timedBits data times (k + 1) m)) := by
  induction m generalizing k e with
  | zero =>
    cases hbit : bitAt data k with
    | true =>
      obtain ⟨e', hmark⟩ := h.lastMark hspec hbit rfl
      exact encodeFrame_done hmark
    | false =>
      obtain ⟨e₁, hfirst, h₁⟩ := h.first hspec (Nat.lt_succ_self k) (fun hmark =>
        absurd (hbit.symm.trans hmark.1) Bool.false_ne_true)
      obtain ⟨e₂, hlast⟩ := h₁.last hspec hbit rfl
      rw [hbit] at hfirst
      exact encodeFrame_ok hfirst (encodeFrame_done hlast)
  | succ m ih =>
    obtain ⟨e₁, hfirst, h₁⟩ := h.first hspec (by omega) (fun hmark => by omega)
    obtain ⟨e₂, hsecond, h₂⟩ := h₁.second hspec (by omega)
    rw [show k + 1 + (m + 1) = k + 1 + 1 + m by omega] at h₂
    rw [show fuel + 2 * (m + 1 + 1) = fuel + 2 * (m + 1) + 1 + 1 by omega, timedBits_succ]
    exact encodeFrame_ok hfirst (encodeFrame_ok hsecond (ih h₂))

end

/-! ### Decoding -/

section

variable {dspec : InfraredDecoderSpec} {level level' level'' : Bool} {b b' b'' : InfraredDatabits}
  {samples samples' : List InfraredSample}

/-- The samples are decoded and consumed one by one: their levels alternate, and no space is a
split or comes behind the last bit. -/
inductive Takes (dspec : InfraredDecoderSpec) :
    Bool → InfraredDatabits → List InfraredSample → Bool → InfraredDatabits → Prop
  | nil (level : Bool) (b : InfraredDatabits) : Takes dspec level b [] level b
  | cons {level level' : Bool} {b b₁ b' : InfraredDatabits} {sample : InfraredSample}
      {samples : List InfraredSample} (hlevel : level ≠ sample.level)
      (hspace : sample.level = false →
        sample.duration ≤ dspec.timings.minSplitTime ∧ dspec.longest ≠ b.databitCnt)
      (hdecode : dspec.decode b sample.level sample.duration = (.ok, b₁))
      (hle : b₁.databitCnt ≤ dspec.longest) (h : Takes dspec sample.level b₁ samples level' b') :
      Takes dspec level b (sample :: samples) level' b'

lemma Takes.append (h : Takes dspec level b samples level' b')
    (h' : Takes dspec level' b' samples' level'' b'') :
    Takes dspec level b (samples ++ samples') level'' b'' := by
  induction h with
  | nil => exact h'
  | cons hlevel hspace hdecode hle _ ih => exact .cons hlevel hspace hdecode hle (ih h')

lemma Takes.decodeSamples (h : Takes dspec level b samples level' b')
    (hsplits : dspec.timings.minSplitTime ≠ 0) {d : InfraredCommonDecoder}
    (hstate : d.state = .decode) (hempty : d.timings = []) (hlevel : d.level = level)
    (hbits : d.toInfraredDatabits = b) :
    ∃ d', (∀ tail, infraredDecodeSamples dspec d (samples ++ tail) =
        infraredDecodeSamples dspec d' tail) ∧
      d'.state = .decode ∧ d'.timings = [] ∧ d'.level = level' ∧ d'.toInfraredDatabits = b' := by
  induction h generalizing d with
  | nil => exact ⟨d, fun _ => rfl, hstate, hempty, hlevel, hbits⟩
  | cons hne hspace hdecode hle _ ih =>
    subst hlevel hbits
    obtain ⟨d₁, h₁, hstate₁, hempty₁, hlevel₁, hbits₁⟩ :=
      infraredCommonDecode_bit hsplits hstate hempty hne hspace hdecode hle
    obtain ⟨d', hrun, hd'⟩ := ih hstate₁ hempty₁ hlevel₁ hbits₁
    refine ⟨d', fun tail => ?_, hd'⟩
    rw [List.cons_append, infraredDecodeSamples_none h₁, hrun]

/-- The decoder is inside bit `k`, behind its first half. -/
structure InBit (data : Nat → Nat) (k : Nat) (level : Bool) (b : InfraredDatabits) : Prop where
  level : level = bitAt data k
  switchDetect : b.switchDetect = true
  databitCnt : b.databitCnt = k + 1
  collected : Collected data b.data (k + 1)

/-- What a protocol with bits of these times has to show: from inside a bit its decoder gets inside
the next one, and behind the last one. -/
structure TakesManchester (dspec : InfraredDecoderSpec) (times : Nat → Nat) (n : Nat) : Prop where
  next : ∀ {data : Nat → Nat} {k : Nat} {level : Bool} {b : InfraredDatabits},
    InBit data k level b → k + 1 < n →
    ∃ level' b', Takes dspec level b
      (runsBetween (bitAt data k, times k) (bitAt data (k + 1), times (k + 1))) level' b' ∧
      InBit data (k + 1) level' b'
  last : ∀ {data : Nat → Nat} {k : Nat} {level : Bool} {b : InfraredDatabits},
    InBit data k level b → k + 1 = n → bitAt data k = false →
    ∃ b', Takes dspec level b [⟨true, times k⟩] true b' ∧ b'.databitCnt = b.databitCnt ∧
      b'.data = b.data

lemma TakesManchester.frame {times data : Nat → Nat} {n k : Nat}
    (hspec : TakesManchester dspec times n) (m : Nat) (h : InBit data k level b)
    (hn : k + 1 + m = n) :
    ∃ b', Takes dspec level b
        (runsAfter (bitAt data k, times k) (timedBits data times (k + 1) m)) true b' ∧
      b'.databitCnt = n ∧ Collected data b'.data n := by
  induction m generalizing k level b with
  | zero =>
    rw [Nat.add_zero] at hn
    cases hbit : bitAt data k with
    | true =>
      rw [h.level, hbit]
      exact ⟨b, .nil true b, h.databitCnt.trans hn, hn ▸ h.collected⟩
    | false =>
      obtain ⟨b', htakes, hcnt, hdata⟩ := hspec.last h hn hbit
      refine ⟨b', htakes, hcnt.trans (h.databitCnt.trans hn), ?_⟩
      rw [hdata, ← hn]
      exact h.collected
  | succ m ih =>
    obtain ⟨level₁, b₁, hnext, h₁⟩ := hspec.next h (by omega)
    obtain ⟨b', hrest, hcnt, hcollected⟩ := ih h₁ (by omega)
    refine ⟨b', ?_, hcnt, hcollected⟩
    rw [timedBits_succ]
    exact hnext.append hrest

/-- The time of half a bit, and twice as long. -/
structure InfraredTimings.HalfBit (timings : InfraredTimings) (time : Nat) : Prop where
  single : matchTiming time timings.bit1Mark timings.bitTolerance = true
  single_double : matchTiming time (2 * timings.bit1Mark) timings.bitTolerance = false
  double : matchTiming (time + time) (2 * timings.bit1Mark) timings.bitTolerance = true
  double_single : matchTiming (time + time) timings.bit1Mark timings.bitTolerance = false
  short : time + time ≤ timings.minSplitTime

variable {timings : InfraredTimings} {start : Bool} {longest : Nat}

lemma infraredCommonDecodeManchester_leave {time : Nat} (htime : timings.HalfBit time)
    (hinside : b.switchDetect = true) (hcnt : b.databitCnt ≠ 0) (level : Bool) :
    infraredCommonDecodeManchester timings start longest b level time =
      (.ok, { b with switchDetect := false }) := by
  simp [infraredCommonDecodeManchester, htime.single, hinside, hcnt]

lemma infraredCommonDecodeManchester_enter {time : Nat} (htime : timings.HalfBit time)
    (houtside : b.switchDetect = false) (hstart : start = false ∨ b.databitCnt ≠ 0)
    (hcnt : longest ≠ b.databitCnt) (level : Bool) :
    infraredCommonDecodeManchester timings start longest b level time =
      (.ok, accumulateLsb { b with switchDetect := true } level) := by
  have hno : (start && decide (b.databitCnt = 0)) = false := by
    rcases hstart with hstart | hne
    · rw [hstart, Bool.false_and]
    · rw [decide_eq_false hne, Bool.and_false]
  simp [infraredCommonDecodeManchester, htime.single, htime.single_double, houtside, hno, hcnt]

lemma infraredCommonDecodeManchester_double {time : Nat} (htime : timings.HalfBit time)
    (hinside : b.switchDetect = true) (hne : b.databitCnt ≠ 0) (hcnt : longest ≠ b.databitCnt)
    (level : Bool) :
    infraredCommonDecodeManchester timings start longest b level (time + time) =
      (.ok, accumulateLsb { b with switchDetect := true } level) := by
  simp [infraredCommonDecodeManchester, htime.double, htime.double_single, hinside, hne, hcnt]

variable {data : Nat → Nat} {k : Nat}

lemma InBit.first (data : Nat → Nat) (hcnt : b.databitCnt = 0) :
    InBit data 0 (bitAt data 0) (accumulateLsb { b with switchDetect := true } (bitAt data 0)) := by
  obtain ⟨inside, cnt, collected⟩ := b
  obtain rfl : cnt = 0 := hcnt
  exact ⟨rfl, rfl, rfl, @Collected.accumulate data ⟨true, 0, collected⟩ (Collected.zero _ _)⟩

lemma InBit.accumulate (h : InBit data k level b) :
    InBit data (k + 1) (bitAt data (k + 1))
      (accumulateLsb { b with switchDetect := true } (bitAt data (k + 1))) := by
  refine ⟨rfl, rfl, congrArg (· + 1) h.databitCnt, ?_⟩
  have hcollected : Collected data b.data b.databitCnt := h.databitCnt.symm ▸ h.collected
  have haccumulate := Collected.accumulate (b := { b with switchDetect := true }) hcollected
  rw [← h.databitCnt]
  exact haccumulate

/-- The decoder treats the timings behind bit `k` as the common one does. -/
def DecodesManchester (dspec : InfraredDecoderSpec) (start : Bool) (k : Nat) : Prop :=
  ∀ (b : InfraredDatabits) (level : Bool) (timing : Nat), b.databitCnt = k + 1 →
    dspec.decode b level timing =
      infraredCommonDecodeManchester dspec.timings start dspec.longest b level timing

lemma DecodesManchester.between (hspec : DecodesManchester dspec start k) {time : Nat}
    (htime : dspec.timings.HalfBit time) (h : InBit data k level b) (hk : k + 1 < dspec.longest) :
    ∃ level' b', Takes dspec level b
      (runsBetween (bitAt data k, time) (bitAt data (k + 1), time)) level' b' ∧
      InBit data (k + 1) level' b' := by
  have hne : b.databitCnt ≠ 0 := by
    rw [h.databitCnt]
    exact Nat.succ_ne_zero k
  have hlongest : dspec.longest ≠ b.databitCnt := by
    rw [h.databitCnt]
    exact (Nat.ne_of_lt hk).symm
  have hother : ∀ bit : Bool, bit ≠ !bit := by decide
  have hshort : time ≤ dspec.timings.minSplitTime :=
    Nat.le_trans (Nat.le_add_right time time) htime.short
  have hcnt : b.databitCnt + 1 ≤ dspec.longest := by
    rw [h.databitCnt]
    exact hk
  refine ⟨_, _, ?_, h.accumulate⟩
  rw [runsBetween, h.level]
  by_cases hsame : bitAt data (k + 1) = bitAt data k
  · have hleave : dspec.decode b (!bitAt data k) time = (.ok, { b with switchDetect := false }) := by
      rw [hspec b _ _ h.databitCnt]
      exact infraredCommonDecodeManchester_leave htime h.switchDetect hne _
    have henter : dspec.decode { b with switchDetect := false } (bitAt data k) time =
        (.ok, accumulateLsb { b with switchDetect := true } (bitAt data k)) := by
      rw [hspec { b with switchDetect := false } _ _ h.databitCnt]
      exact infraredCommonDecodeManchester_enter (b := { b with switchDetect := false }) htime rfl
        (.inr hne) hlongest _
    rw [if_pos hsame, hsame]
    exact .cons (hother _) (fun _ => ⟨hshort, hlongest⟩) hleave (Nat.le_of_succ_le hcnt)
      (.cons (hother _).symm (fun _ => ⟨hshort, hlongest⟩) henter hcnt (.nil _ _))
  · have hswitch : bitAt data (k + 1) = !bitAt data k := Bool.eq_not.mpr hsame
    have hdouble : dspec.decode b (!bitAt data k) (time + time) =
        (.ok, accumulateLsb { b with switchDetect := true } (!bitAt data k)) := by
      rw [hspec b _ _ h.databitCnt]
      exact infraredCommonDecodeManchester_double htime h.switchDetect hne hlongest _
    rw [if_neg hsame, hswitch]
    exact .cons (hother _) (fun _ => ⟨htime.short, hlongest⟩) hdouble hcnt (.nil _ _)

lemma DecodesManchester.last (hspec : DecodesManchester dspec start k) {time : Nat}
    (htime : dspec.timings.HalfBit time) (h : InBit data k level b) (hk : k + 1 = dspec.longest)
    (hbit : bitAt data k = false) :
    ∃ b', Takes dspec level b [⟨true, time⟩] true b' ∧ b'.databitCnt = b.databitCnt ∧
      b'.data = b.data := by
  have hne : b.databitCnt ≠ 0 := by
    rw [h.databitCnt]
    exact Nat.succ_ne_zero k
  have hleave : dspec.decode b true time = (.ok, { b with switchDetect := false }) := by
    rw [hspec b _ _ h.databitCnt]
    exact infraredCommonDecodeManchester_leave htime h.switchDetect hne _
  have hle : b.databitCnt ≤ dspec.longest := Nat.le_of_eq (h.databitCnt.trans hk)
  refine ⟨{ b with switchDetect := false }, ?_, rfl, rfl⟩
  rw [h.level, hbit]
  exact .cons Bool.false_ne_true nofun hleave hle (.nil _ _)

/-! ### Receiving -/

/-- The decoder has the bits of a whole message, behind a mark. -/
structure HoldsFrame (data : Nat → Nat) (n : Nat) (d : InfraredCommonDecoder) : Prop where
  state : d.state = .decode
  timings : d.timings = []
  level : d.level = true
  bits : HoldsBits data n d

lemma HoldsFrame.split {n : Nat} {d : InfraredCommonDecoder} {m : InfraredMessage} {silence : Nat}
    (h : HoldsFrame data n d) (hmem : n ∈ dspec.databitLen) (hrepeat : dspec.decodeRepeat = none)
    (hsplits : dspec.timings.minSplitTime ≠ 0) (hsilence : dspec.timings.minSplitTime < silence)
    (hinterpret : (dspec.interpret d.toInfraredPayload).1 = true ∧
      (dspec.interpret d.toInfraredPayload).2.message = m) :
    ∃ d', infraredCommonDecode dspec d false silence = .ok (some m, d') ∧ d'.databitCnt = 0 := by
  obtain ⟨hstate, hempty, hlevel, hcnt, -⟩ := h
  have hready : infraredCommonDecodeTimings dspec false d.toInfraredDatabits [silence] =
      .ok (.ready, d.toInfraredDatabits, [silence]) := by
    rw [infraredCommonDecodeTimings, if_pos]
    rw [List.length_singleton, infraredFrontLevel_one, hcnt, List.contains_iff_mem.mpr hmem]
    simp [hsplits, hsilence]
  let held : InfraredCommonDecoder := { d with level := false, timings := [silence] }
  let after : InfraredCommonDecoder := { held with
    toInfraredPayload := { (dspec.interpret d.toInfraredPayload).2 with databitCnt := 0 }
    state := .waitPreamble }
  have haccepted : infraredCommonDecoderCheckReady dspec held = (some m, after) := by
    have haccept := @infraredCommonDecoderCheckReady_accepted dspec held m (hcnt.symm ▸ hmem)
      hinterpret
    rw [hrepeat] at haccept
    exact haccept
  have hfirst : infraredCommonDecodeRound dspec
      (false, { d with level := false, timings := d.timings ++ [silence] }) =
        .again (true, after) := by
    have hround := @infraredCommonDecodeRound_of_decode dspec false
      { d with level := false, timings := d.timings ++ [silence] } hstate
    rw [hround, infraredCommonDecodeBits]
    simp only [hempty, List.nil_append, hready, Except.map]
    show infraredReadyRound dspec held = _
    rw [infraredReadyRound, haccepted]
  have hmessage : after.message = m := hinterpret.2
  have hne : ¬d.level = false := by
    rw [hlevel]
    decide
  have hlen : d.timings.length < infraredTimingsSize := by
    rw [hempty]
    exact Nat.succ_pos _
  have hspace : ¬after.frontLevel = true := by
    show ¬infraredFrontLevel false 1 = true
    decide
  rw [infraredCommonDecode, if_neg hne]
  by_cases hmark : dspec.timings.preambleMark = 0
  · -- without a preamble the decoder waits for the next bit
    let next : InfraredCommonDecoder := { after with
      timings := [], state := .decode, databitCnt := 0, switchDetect := false }
    have hcheck : infraredCheckPreamble dspec after = (true, { after with timings := [] }) := by
      rw [infraredCheckPreamble, if_neg (List.cons_ne_nil silence []), if_neg hspace, if_pos hmark]
      rfl
    refine ⟨next, infraredStoreAndDecode_twice hlen hfirst
      (infraredCommonDecodeRound_preamble rfl hcheck) ?_, rfl⟩
    rw [@infraredCommonDecodeRound_of_decode dspec true _ rfl, ← hmessage]
    rfl
  · let next : InfraredCommonDecoder := { after with timings := [] }
    have hcheck : infraredCheckPreamble dspec after = (false, next) := by
      rw [infraredCheckPreamble, if_neg (List.cons_ne_nil silence []), if_neg hspace, if_neg hmark]
      rfl
    refine ⟨next, infraredStoreAndDecode_again hlen hfirst ?_, rfl⟩
    rw [infraredCommonDecodeRound_waiting rfl hcheck, ← hmessage]
    rfl

lemma HoldsFrame.receive {n : Nat} {d d' : InfraredCommonDecoder} {m : InfraredMessage}
    (h : HoldsFrame data n d') (hmem : n ∈ dspec.databitLen) (hzero : 0 ∉ dspec.databitLen)
    (hrepeat : dspec.decodeRepeat = none) (hsplits : dspec.timings.minSplitTime ≠ 0)
    (hinterpret : (dspec.interpret d'.toInfraredPayload).1 = true ∧
      (dspec.interpret d'.toInfraredPayload).2.message = m)
    (hrun : ∀ tail, infraredDecodeSamples dspec (infraredCommonDecoderReset dspec d)
      (samples ++ tail) = infraredDecodeSamples dspec d' tail) :
    infraredReceive dspec d samples = .ok [m] ∧
      ∀ silence, dspec.timings.minSplitTime < silence →
        infraredReceive dspec d (samples ++ [⟨false, silence⟩]) = .ok [m] := by
  constructor
  · have hready := @infraredCommonDecoderCheckReady_accepted dspec d' m
      (h.bits.databitCnt.symm ▸ hmem) hinterpret
    have hsamples := hrun []
    rw [List.append_nil] at hsamples
    rw [infraredReceive, hsamples]
    simp only [infraredDecodeSamples, Except.map, hready]
    rfl
  · intro silence hsilence
    obtain ⟨d₁, hsplit, hcnt⟩ := h.split hmem hrepeat hsplits hsilence hinterpret
    have hnone := infraredCommonDecoderCheckReady_none (hcnt.symm ▸ hzero)
    rw [infraredReceive, hrun, infraredDecodeSamples, hsplit]
    simp only [infraredDecodeSamples, Except.map, hnone]
    rfl

end

end FlipperZero
