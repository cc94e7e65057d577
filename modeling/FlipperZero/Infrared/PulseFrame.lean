import FlipperZero.Infrared.DecoderBounds

/-!
# Frames of pulses

What a frame of a pulse distance or pulse width protocol looks like: silence, the preamble, and
a mark and a space for each bit. The frame ends with a stop mark, with the last space, or, when
the marks carry the bits, with the last mark.

The encoder sends this frame, and the decoder collects its bits; both are shown against the
frame, which is the only thing the two have to agree on.
-/

namespace FlipperZero

open Foundation

/-! ### Frames -/

section

variable (timings : InfraredTimings)

def bitMark (bit : Bool) : Nat := if bit then timings.bit1Mark else timings.bit0Mark

def bitSpace (bit : Bool) : Nat := if bit then timings.bit1Space else timings.bit0Space

def bitSamples (bit : Bool) : List InfraredSample :=
  [⟨true, bitMark timings bit⟩, ⟨false, bitSpace timings bit⟩]

/-- How a frame ends. -/
inductive FrameEnd where
  | stopMark
  | lastSpace
  | lastMark
  deriving DecidableEq

def bitsFrame (ending : FrameEnd) (bits : List Bool) : List InfraredSample :=
  match ending with
  | .stopMark  => bits.flatMap (bitSamples timings) ++ [⟨true, timings.bit1Mark⟩]
  | .lastSpace => bits.flatMap (bitSamples timings)
  | .lastMark  => (bits.flatMap (bitSamples timings)).dropLast

def pulseFrame (ending : FrameEnd) (bits : List Bool) : List InfraredSample :=
  [⟨false, timings.silenceTime⟩, ⟨true, timings.preambleMark⟩, ⟨false, timings.preambleSpace⟩] ++
    bitsFrame timings ending bits

/-- What tells the timings of a protocol apart: the preamble matches itself, the two bits differ
either in their marks or in their spaces, and no space of a bit is a split. -/
structure InfraredTimings.Separable : Prop where
  splits : timings.minSplitTime ≠ 0
  preamble : timings.preambleMark ≠ 0
  preambleMark : matchTiming timings.preambleMark timings.preambleMark
    timings.preambleTolerance = true
  preambleSpace : matchTiming timings.preambleSpace timings.preambleSpace
    timings.preambleTolerance = true
  marks : ∀ bit, matchTiming (bitMark timings bit) (bitMark timings bit) timings.bitTolerance = true
  spaces : ∀ bit,
    matchTiming (bitSpace timings bit) (bitSpace timings bit) timings.bitTolerance = true
  spaces_le : ∀ bit, bitSpace timings bit ≤ timings.minSplitTime
  modulated : timings.bit1Mark = timings.bit0Mark ∧
        matchTiming timings.bit0Space timings.bit1Space timings.bitTolerance = false ∨
      timings.bit1Space = timings.bit0Space ∧ timings.bit1Mark ≠ timings.bit0Mark ∧
        matchTiming timings.bit0Mark timings.bit1Mark timings.bitTolerance = false

/-- The marks carry the bits: pulse width modulation. -/
def InfraredTimings.Pwm : Prop := timings.bit1Space = timings.bit0Space

instance : Decidable timings.Pwm := inferInstanceAs (Decidable (_ = _))

end

variable {timings : InfraredTimings}

lemma InfraredTimings.Separable.pwm_iff (h : timings.Separable) :
    timings.Pwm ↔ timings.bit1Mark ≠ timings.bit0Mark := by
  unfold InfraredTimings.Pwm
  constructor
  · intro hpwm hmark
    rcases h.modulated with ⟨-, hdiffer⟩ | ⟨-, hne, -⟩
    · have hself := h.spaces true
      simp only [bitSpace, if_true] at hself
      rw [← hpwm, hself] at hdiffer
      cases hdiffer
    · exact hne hmark
  · intro hne
    rcases h.modulated with ⟨heq, -⟩ | ⟨hpwm, -⟩
    · exact absurd heq hne
    · exact hpwm

/-! ### Bits of a frame -/

/-- The bits of an array of bytes, the low bits of a byte first. -/
def bitAt (data : Nat → Nat) (i : Nat) : Bool := (data (i / 8)).testBit (i % 8)

/-- The first `n` bits. -/
def bitsOf (data : Nat → Nat) (n : Nat) : List Bool := (List.range n).map (bitAt data)

lemma InfraredCommonEncoder.logicValue_eq (e : InfraredCommonEncoder) :
    e.logicValue = bitAt e.data e.bitsEncoded := by
  unfold InfraredCommonEncoder.logicValue bitAt
  exact and_one_shiftLeft_bne_zero _ _

/-- The first `k` bits have been collected: each byte that has begun holds its low bits. -/
def Collected (data collected : Nat → Nat) (k : Nat) : Prop :=
  ∀ i, 8 * i < k → collected i = data i % 2 ^ min 8 (k - 8 * i)

lemma Collected.zero (data collected : Nat → Nat) : Collected data collected 0 := by
  intro i hi
  exact absurd hi (Nat.not_lt_zero _)

lemma Collected.accumulate {data : Nat → Nat} {b : InfraredDatabits}
    (h : Collected data b.data b.databitCnt) :
    Collected data (accumulateLsb b (bitAt data b.databitCnt)).data (b.databitCnt + 1) := by
  intro i hi
  by_cases hidx : i = b.databitCnt / 8
  · subst hidx
    generalize hbyte : (if b.databitCnt % 8 = 0 then 0 else b.data (b.databitCnt / 8)) = byte
    have hlow : byte = data (b.databitCnt / 8) % 2 ^ (b.databitCnt % 8) := by
      rw [← hbyte]
      split_ifs with hzero
      · rw [hzero, Nat.pow_zero, Nat.mod_one]
      · have hmin : min 8 (b.databitCnt - 8 * (b.databitCnt / 8)) = b.databitCnt % 8 := by omega
        rw [h _ (by omega), hmin]
    have hmin : min 8 (b.databitCnt + 1 - 8 * (b.databitCnt / 8)) = b.databitCnt % 8 + 1 := by
      omega
    rw [hmin, ← mod_two_pow_or_bit, ← hlow]
    simp only [accumulateLsb, bitAt, if_true, hbyte]
  · have hmin : min 8 (b.databitCnt + 1 - 8 * i) = min 8 (b.databitCnt - 8 * i) := by omega
    simp only [accumulateLsb, if_neg hidx]
    rw [h i (by omega), hmin]

lemma Collected.byte {data collected : Nat → Nat} {n i : Nat} (h : Collected data collected n)
    (hi : 8 * i + 8 ≤ n) (hdata : data i < 256) : collected i = data i := by
  rw [h i (by omega), Nat.min_eq_left (by omega)]
  exact Nat.mod_eq_of_lt hdata

/-! ### Encoding a frame -/

variable {spec : InfraredCommonProtocolSpec}

/-- The samples of calls of an encoder until it is done, `fuel` calls at most. -/
def encodeFrame (encode : InfraredEncode) : Nat → InfraredCommonEncoder →
    Option (List InfraredSample)
  | 0, _        => none
  | fuel + 1, e =>
    match encode e with
    | (.done, sample, _)  => some [sample]
    | (.error, _, _)      => none
    | (_, sample, e')     => (encodeFrame encode fuel e').map (sample :: ·)

lemma encodeFrame_ok {encode : InfraredEncode} {e e' : InfraredCommonEncoder}
    {sample : InfraredSample} {fuel : Nat} {frame : List InfraredSample}
    (h : encode e = (.ok, sample, e')) (hframe : encodeFrame encode fuel e' = some frame) :
    encodeFrame encode (fuel + 1) e = some (sample :: frame) := by
  simp only [encodeFrame, h, hframe, Option.map_some]

lemma encodeFrame_done {encode : InfraredEncode} {e e' : InfraredCommonEncoder}
    {sample : InfraredSample} {fuel : Nat} (h : encode e = (.done, sample, e')) :
    encodeFrame encode (fuel + 1) e = some [sample] := by
  simp only [encodeFrame, h]

/-- The encoder is about to send a mark, with `k` bits sent. -/
structure SendsMark (data : Nat → Nat) (n k : Nat) (e : InfraredCommonEncoder) : Prop where
  state : e.state = .encode
  odd : e.timingsEncoded % 2 = 1
  bitsEncoded : e.bitsEncoded = k
  bitsToEncode : e.bitsToEncode = n
  data : e.data = data

/-- The encoder is about to send the space of bit `k`. -/
structure SendsSpace (timings : InfraredTimings) (data : Nat → Nat) (n k : Nat)
    (e : InfraredCommonEncoder) : Prop where
  state : e.state = .encode
  even : e.timingsEncoded % 2 = 0
  bitsEncoded : e.bitsEncoded = if timings.Pwm then k + 1 else k
  bitsToEncode : e.bitsToEncode = n
  data : e.data = data

/-- The entry of the table whose frames end this way. -/
def encodeUntil (ending : FrameEnd) (spec : InfraredCommonProtocolSpec)
    (e : InfraredCommonEncoder) : InfraredEncodeResult :=
  if ending = .stopMark then infraredCommonEncode spec e else encodeUntilSpace spec e

lemma encodeUntil_ok {ending : FrameEnd} {e e' : InfraredCommonEncoder} {sample : InfraredSample}
    (h : infraredCommonEncode spec e = (.ok, sample, e'))
    (hend : ending = .stopMark ∨ e'.bitsEncoded ≠ e'.bitsToEncode) :
    encodeUntil ending spec e = (.ok, sample, e') := by
  unfold encodeUntil encodeUntilSpace
  split_ifs with hstop
  · exact h
  · rw [h]
    exact if_neg (hend.resolve_left hstop)

lemma encodeUntil_done {ending : FrameEnd} {e e' : InfraredCommonEncoder} {sample : InfraredSample}
    (h : infraredCommonEncode spec e = (.done, sample, e')) :
    encodeUntil ending spec e = (.done, sample, e') := by
  unfold encodeUntil encodeUntilSpace
  split_ifs with hstop
  · exact h
  · rw [h]

section

variable {data : Nat → Nat} {n k : Nat} {e : InfraredCommonEncoder}

lemma infraredCommonEncode_of_encode (h : e.state = .encode) :
    infraredCommonEncode spec e = infraredCommonEncodeEncode spec e := by
  simp only [infraredCommonEncode, h]

lemma infraredCommonEncode_ok {sample : InfraredSample} {e₁ : InfraredCommonEncoder}
    (hstate : e.state = .encode) (hencode : spec.encode e = (.ok, sample, e₁))
    (hgoes : ¬(e₁.bitsEncoded = e₁.bitsToEncode ∧ sample.level = true)) :
    infraredCommonEncode spec e = (.ok, sample, { e₁ with
      timingsEncoded := e₁.timingsEncoded + 1
      timingsSum := e₁.timingsSum + sample.duration }) := by
  have hbits : infraredCommonEncodeBits spec e = (.ok, sample, { e₁ with
      timingsEncoded := e₁.timingsEncoded + 1
      timingsSum := e₁.timingsSum + sample.duration }) := by
    simp only [infraredCommonEncodeBits, hencode, Bool.and_eq_true, decide_eq_true_eq,
      if_neg hgoes]
  rw [infraredCommonEncode_of_encode hstate, infraredCommonEncodeEncode, hbits]

lemma infraredCommonEncode_done {sample : InfraredSample} {e₁ : InfraredCommonEncoder}
    (hstate : e.state = .encode) (hencode : spec.encode e = (.ok, sample, e₁))
    (hends : e₁.bitsEncoded = e₁.bitsToEncode ∧ sample.level = true) :
    ∃ e', infraredCommonEncode spec e = (.done, sample, e') := by
  have hbits : infraredCommonEncodeBits spec e = (.done, sample, { e₁ with
      timingsEncoded := e₁.timingsEncoded + 1
      timingsSum := e₁.timingsSum + sample.duration }) := by
    simp only [infraredCommonEncodeBits, hencode, Bool.and_eq_true, decide_eq_true_eq,
      if_pos hends]
  rw [infraredCommonEncode_of_encode hstate, infraredCommonEncodeEncode, hbits]
  exact ⟨_, rfl⟩

lemma SendsMark.encode (h : SendsMark data n k e)
    (hencode : spec.encode = infraredCommonEncodePdwm spec.timings) :
    spec.encode e = (.ok, ⟨true, bitMark spec.timings (bitAt data k)⟩,
      if spec.timings.Pwm then { e with bitsEncoded := e.bitsEncoded + 1 } else e) := by
  rw [hencode, infraredCommonEncodePdwm, if_pos h.odd, e.logicValue_eq, h.data, h.bitsEncoded]
  rfl

lemma SendsMark.mark (h : SendsMark data n k e)
    (hencode : spec.encode = infraredCommonEncodePdwm spec.timings)
    (hlast : (if spec.timings.Pwm then k + 1 else k) ≠ n) :
    ∃ e', infraredCommonEncode spec e = (.ok, ⟨true, bitMark spec.timings (bitAt data k)⟩, e') ∧
      SendsSpace spec.timings data n k e' := by
  have hodd := h.odd
  refine ⟨_, infraredCommonEncode_ok h.state (h.encode hencode) ?_, ?_⟩
  · rintro ⟨heq, -⟩
    apply hlast
    split_ifs at heq ⊢
    · rw [← h.bitsEncoded, ← h.bitsToEncode]
      exact heq
    · rw [← h.bitsEncoded, ← h.bitsToEncode]
      exact heq
  · constructor
    · split_ifs <;> exact h.state
    · split_ifs <;> exact Nat.succ_mod_two_eq_zero_iff.mpr hodd
    · split_ifs <;> simp only [h.bitsEncoded]
    · split_ifs <;> exact h.bitsToEncode
    · split_ifs <;> exact h.data

lemma SendsMark.lastMark (h : SendsMark data n k e)
    (hencode : spec.encode = infraredCommonEncodePdwm spec.timings)
    (hlast : (if spec.timings.Pwm then k + 1 else k) = n) :
    ∃ e', infraredCommonEncode spec e =
      (.done, ⟨true, bitMark spec.timings (bitAt data k)⟩, e') := by
  apply infraredCommonEncode_done h.state (h.encode hencode)
  refine ⟨?_, rfl⟩
  split_ifs at hlast ⊢
  · rw [h.bitsToEncode, ← hlast]
    exact congrArg (· + 1) h.bitsEncoded
  · rw [h.bitsToEncode, ← hlast]
    exact h.bitsEncoded

lemma SendsSpace.space (h : SendsSpace spec.timings data n k e)
    (hencode : spec.encode = infraredCommonEncodePdwm spec.timings) :
    ∃ e', infraredCommonEncode spec e = (.ok, ⟨false, bitSpace spec.timings (bitAt data k)⟩, e') ∧
      SendsMark data n (k + 1) e' := by
  have heven := h.even
  have hodd : ¬e.timingsEncoded % 2 = 1 := by
    rw [heven]
    decide
  -- with pulse width modulation both bits have the same space
  have hspace : bitSpace spec.timings (bitAt e.data e.bitsEncoded) =
      bitSpace spec.timings (bitAt data k) := by
    rw [h.bitsEncoded, h.data]
    split_ifs with hpwm
    · unfold InfraredTimings.Pwm at hpwm
      simp only [bitSpace, hpwm, ite_self]
    · rfl
  have hencoded : spec.encode e = (.ok, ⟨false, bitSpace spec.timings (bitAt data k)⟩,
      if spec.timings.Pwm then e else { e with bitsEncoded := e.bitsEncoded + 1 }) := by
    rw [hencode, infraredCommonEncodePdwm, if_neg hodd, e.logicValue_eq, ← hspace]
    rfl
  refine ⟨_, infraredCommonEncode_ok h.state hencoded (fun hlevel => nomatch hlevel.2), ?_⟩
  have hbits := h.bitsEncoded
  constructor
  · split_ifs <;> exact h.state
  · split_ifs <;> exact Nat.succ_mod_two_eq_one_iff.mpr heven
  · split_ifs at hbits ⊢
    · exact hbits
    · exact congrArg (· + 1) hbits
  · split_ifs <;> exact h.bitsToEncode
  · split_ifs <;> exact h.data

lemma SendsMark.bits (hencode : spec.encode = infraredCommonEncodePdwm spec.timings)
    (ending : FrameEnd) (m : Nat) (h : SendsMark data n k e)
    (hend : ending = .stopMark ∧ ¬spec.timings.Pwm ∧ k + m ≤ n ∨ k + m < n) :
    ∃ e', SendsMark data n (k + m) e' ∧ ∀ fuel frame,
      encodeFrame (encodeUntil ending spec) fuel e' = some frame →
      encodeFrame (encodeUntil ending spec) (fuel + 2 * m) e =
        some ((((List.range' k m).map (bitAt data)).flatMap (bitSamples spec.timings)) ++ frame) := by
  induction m generalizing k e with
  | zero => exact ⟨e, h, fun fuel frame hframe => hframe⟩
  | succ m ih =>
    have hk : k < n := by omega
    have hmark : (if spec.timings.Pwm then k + 1 else k) ≠ n := by
      split_ifs with hpwm
      · rcases hend with ⟨-, hno, -⟩ | hlt
        · exact absurd hpwm hno
        · omega
      · exact Nat.ne_of_lt hk
    obtain ⟨e₁, he₁, hspace⟩ := h.mark hencode hmark
    obtain ⟨e₂, he₂, hnext⟩ := hspace.space hencode
    obtain ⟨e', he', hframe'⟩ := ih hnext
      (hend.imp (fun hstop => ⟨hstop.1, hstop.2.1, by omega⟩) fun hlt => by omega)
    refine ⟨e', (by rw [Nat.add_right_comm] at he'; exact he'), fun fuel frame hframe => ?_⟩
    have hends₁ : ending = .stopMark ∨ e₁.bitsEncoded ≠ e₁.bitsToEncode :=
      .inr (by rw [hspace.bitsEncoded, hspace.bitsToEncode]; exact hmark)
    have hends₂ : ending = .stopMark ∨ e₂.bitsEncoded ≠ e₂.bitsToEncode := by
      rw [hnext.bitsEncoded, hnext.bitsToEncode]
      rcases hend with ⟨hstop, -⟩ | hlt
      · exact .inl hstop
      · exact .inr (by omega)
    have hrest := encodeFrame_ok (encodeUntil_ok he₁ hends₁)
      (encodeFrame_ok (encodeUntil_ok he₂ hends₂) (hframe' fuel frame hframe))
    rw [show fuel + 2 * (m + 1) = fuel + 2 * m + 1 + 1 by omega, hrest]
    rfl

/-- The encoder after a reset, with `n` bits to send. -/
structure StartsFrame (data : Nat → Nat) (n : Nat) (e : InfraredCommonEncoder) : Prop where
  state : e.state = .silence
  timingsEncoded : e.timingsEncoded = 0
  bitsEncoded : e.bitsEncoded = 0
  bitsToEncode : e.bitsToEncode = n
  data : e.data = data

lemma StartsFrame.preamble (h : StartsFrame data n e) (hn : 0 < n)
    (hpreamble : spec.timings.preambleMark ≠ 0) (ending : FrameEnd) :
    ∃ e', SendsMark data n 0 e' ∧ ∀ fuel frame,
      encodeFrame (encodeUntil ending spec) fuel e' = some frame →
      encodeFrame (encodeUntil ending spec) (fuel + 3) e =
        some (⟨false, spec.timings.silenceTime⟩ :: ⟨true, spec.timings.preambleMark⟩ ::
          ⟨false, spec.timings.preambleSpace⟩ :: frame) := by
  obtain ⟨hstate, htimings, hbits, hton, hdata⟩ := h
  have hgoes : e.bitsEncoded ≠ e.bitsToEncode := by
    rw [hbits, hton]
    exact Nat.ne_of_lt hn
  have h₁ : infraredCommonEncode spec e = (.ok, ⟨false, spec.timings.silenceTime⟩,
      { e with state := .preamble, timingsEncoded := 1, timingsSum := 0 }) := by
    simp only [infraredCommonEncode, hstate, htimings]
  have h₂ : infraredCommonEncode spec
      { e with state := .preamble, timingsEncoded := 1, timingsSum := 0 } =
        (.ok, ⟨true, spec.timings.preambleMark⟩,
          { e with
            state := .preamble, timingsEncoded := 2
            timingsSum := 0 + spec.timings.preambleMark }) := by
    simp only [infraredCommonEncode, ne_eq, hpreamble, not_false_eq_true, if_true]
  have h₃ : infraredCommonEncode spec
      { e with
        state := .preamble, timingsEncoded := 2
        timingsSum := 0 + spec.timings.preambleMark } =
        (.ok, ⟨false, spec.timings.preambleSpace⟩,
          { e with
            state := .encode, timingsEncoded := 3
            timingsSum := 0 + spec.timings.preambleMark + spec.timings.preambleSpace }) := by
    simp only [infraredCommonEncode, ne_eq, hpreamble, not_false_eq_true, if_true,
      Nat.reduceEqDiff, if_false]
  refine ⟨{ e with
      state := .encode, timingsEncoded := 3
      timingsSum := 0 + spec.timings.preambleMark + spec.timings.preambleSpace },
    ⟨rfl, show 3 % 2 = 1 from rfl, hbits, hton, hdata⟩, fun fuel frame hframe => ?_⟩
  exact encodeFrame_ok (encodeUntil_ok h₁ (.inr hgoes))
    (encodeFrame_ok (encodeUntil_ok h₂ (.inr hgoes))
      (encodeFrame_ok (encodeUntil_ok h₃ (.inr hgoes)) hframe))

lemma encodeFrame_lastSpace {e₁ e₂ : InfraredCommonEncoder} {mark space : InfraredSample}
    (ending : FrameEnd) (hending : ending ≠ .stopMark) (fuel : Nat)
    (h₁ : infraredCommonEncode spec e = (.ok, mark, e₁))
    (hgoes : e₁.bitsEncoded ≠ e₁.bitsToEncode)
    (h₂ : infraredCommonEncode spec e₁ = (.ok, space, e₂))
    (hends : e₂.bitsEncoded = e₂.bitsToEncode) :
    encodeFrame (encodeUntil ending spec) (fuel + 2) e = some [mark, space] := by
  have hdone : encodeUntil ending spec e₁ = (.done, space, { e₂ with state := .encodeRepeat }) := by
    unfold encodeUntil encodeUntilSpace
    rw [if_neg hending, h₂]
    exact if_pos hends
  exact encodeFrame_ok (encodeUntil_ok h₁ (.inr hgoes)) (encodeFrame_done hdone)

lemma bitsOf_succ (data : Nat → Nat) (n : Nat) :
    bitsOf data (n + 1) = bitsOf data n ++ [bitAt data n] := by
  simp only [bitsOf, List.range_succ, List.map_append, List.map_singleton]

/-- The encoder sends the frame with the bits of its data. -/
theorem encodeFrame_pulseFrame (hsep : spec.timings.Separable)
    (hencode : spec.encode = infraredCommonEncodePdwm spec.timings)
    (h : StartsFrame data n e) (hn : 0 < n) {ending : FrameEnd}
    (hend : ending = .lastMark ↔ spec.timings.Pwm) (fuel : Nat) :
    encodeFrame (encodeUntil ending spec) (fuel + 2 * n + 4) e =
      some (pulseFrame spec.timings ending (bitsOf data n)) := by
  obtain ⟨e₀, he₀, hpreamble⟩ := h.preamble hn hsep.preamble ending
  obtain ⟨m, rfl⟩ : ∃ m, n = m + 1 := ⟨n - 1, (Nat.sub_add_cancel hn).symm⟩
  have hrange (j : Nat) : (List.range' 0 j).map (bitAt data) = bitsOf data j := by
    rw [bitsOf, List.range_eq_range']
  rw [show fuel + 2 * (m + 1) + 4 = fuel + 2 * (m + 1) + 1 + 3 by omega]
  apply hpreamble
  cases ending with
  | stopMark =>
    have hpwm : ¬spec.timings.Pwm := fun hpwm => nomatch hend.mpr hpwm
    obtain ⟨e', he', hbits⟩ := he₀.bits hencode .stopMark (m + 1)
      (.inl ⟨rfl, hpwm, Nat.le_of_eq (Nat.zero_add _)⟩)
    rw [Nat.zero_add] at he'
    obtain ⟨e'', hlast⟩ := he'.lastMark hencode (if_neg hpwm)
    have hmark : bitMark spec.timings (bitAt data (m + 1)) = spec.timings.bit1Mark := by
      have heq := not_not.mp (mt hsep.pwm_iff.mpr hpwm)
      simp only [bitMark, ← heq, ite_self]
    have hframe := hbits (fuel + 1) _ (encodeFrame_done (encodeUntil_done hlast))
    rw [hmark, hrange] at hframe
    rw [show fuel + 2 * (m + 1) + 1 = fuel + 1 + 2 * (m + 1) by omega, hframe]
    rfl
  | lastSpace =>
    have hpwm : ¬spec.timings.Pwm := fun hpwm => nomatch hend.mpr hpwm
    obtain ⟨e', he', hbits⟩ := he₀.bits hencode .lastSpace m
      (.inr (Nat.lt_succ_of_le (Nat.le_of_eq (Nat.zero_add _))))
    rw [Nat.zero_add] at he'
    obtain ⟨e₁, he₁, hspace⟩ := he'.mark hencode (by rw [if_neg hpwm]; omega)
    obtain ⟨e₂, he₂, hnext⟩ := hspace.space hencode
    have hgoes : e₁.bitsEncoded ≠ e₁.bitsToEncode := by
      rw [hspace.bitsEncoded, hspace.bitsToEncode, if_neg hpwm]
      exact Nat.ne_of_lt (Nat.lt_succ_self m)
    have hends : e₂.bitsEncoded = e₂.bitsToEncode := by
      rw [hnext.bitsEncoded, hnext.bitsToEncode]
    have hframe := hbits (fuel + 3) _
      (encodeFrame_lastSpace .lastSpace (by decide) (fuel + 1) he₁ hgoes he₂ hends)
    rw [hrange] at hframe
    rw [show fuel + 2 * (m + 1) + 1 = fuel + 3 + 2 * m by omega, hframe, bitsOf_succ, bitsFrame,
      List.flatMap_append, List.flatMap_singleton]
    rfl
  | lastMark =>
    have hpwm : spec.timings.Pwm := hend.mp rfl
    obtain ⟨e', he', hbits⟩ := he₀.bits hencode .lastMark m
      (.inr (Nat.lt_succ_of_le (Nat.le_of_eq (Nat.zero_add _))))
    rw [Nat.zero_add] at he'
    obtain ⟨e'', hlast⟩ := he'.lastMark hencode (if_pos hpwm)
    have hframe := hbits (fuel + 3) _ (encodeFrame_done (encodeUntil_done hlast))
    rw [hrange] at hframe
    rw [show fuel + 2 * (m + 1) + 1 = fuel + 3 + 2 * m by omega, hframe, bitsOf_succ, bitsFrame,
      List.flatMap_append, List.flatMap_singleton, bitSamples, List.dropLast_append_cons]
    rfl

end

/-! ### Decoding a frame -/

/-- The messages that a list of samples yields, with the decoder after them. -/
def infraredDecodeSamples (spec : InfraredDecoderSpec) (d : InfraredCommonDecoder) :
    List InfraredSample → Except InfraredFault (List InfraredMessage × InfraredCommonDecoder)
  | []                => .ok ([], d)
  | sample :: samples =>
    match infraredCommonDecode spec d sample.level sample.duration with
    | .error fault       => .error fault
    | .ok (message, d')  =>
      (infraredDecodeSamples spec d' samples).map fun r => (message.toList ++ r.1, r.2)

lemma infraredDecodeSamples_none {dspec : InfraredDecoderSpec} {d d' : InfraredCommonDecoder}
    {sample : InfraredSample} {samples : List InfraredSample}
    (h : infraredCommonDecode dspec d sample.level sample.duration = .ok (none, d')) :
    infraredDecodeSamples dspec d (sample :: samples) = infraredDecodeSamples dspec d' samples := by
  rw [infraredDecodeSamples, h]
  dsimp only
  cases infraredDecodeSamples dspec d' samples with
  | error fault => rfl
  | ok r => rfl

section

variable {dspec : InfraredDecoderSpec} {d : InfraredCommonDecoder} {level : Bool} {duration : Nat}

lemma infraredStoreAndDecode_rounds (hlen : d.timings.length < infraredTimingsSize) :
    infraredStoreAndDecode dspec d level duration =
      (loop (infraredCommonDecodeRound dspec) infraredDecodeRounds
        (false, { d with level := level, timings := d.timings ++ [duration] })).getD
          (.error .endless) := by
  have hcheck : ¬4 * infraredTimingsSize < (d.timings ++ [duration]).length := by
    rw [List.length_append, List.length_singleton, Nat.not_lt]
    exact Nat.le_trans hlen (by decide)
  unfold infraredStoreAndDecode
  rw [if_neg (Nat.not_le.mpr hlen)]
  exact if_neg hcheck

lemma infraredStoreAndDecode_leave {r : InfraredDecodeResult}
    (hlen : d.timings.length < infraredTimingsSize)
    (hround : infraredCommonDecodeRound dspec
      (false, { d with level := level, timings := d.timings ++ [duration] }) = .leave r) :
    infraredStoreAndDecode dspec d level duration = r := by
  rw [infraredStoreAndDecode_rounds hlen]
  simp only [infraredDecodeRounds, loop, hround, Option.getD_some]

lemma infraredStoreAndDecode_again {r : InfraredDecodeResult} {s : Bool × InfraredCommonDecoder}
    (hlen : d.timings.length < infraredTimingsSize)
    (hround : infraredCommonDecodeRound dspec
      (false, { d with level := level, timings := d.timings ++ [duration] }) = .again s)
    (hnext : infraredCommonDecodeRound dspec s = .leave r) :
    infraredStoreAndDecode dspec d level duration = r := by
  rw [infraredStoreAndDecode_rounds hlen]
  simp only [infraredDecodeRounds, loop, hround, hnext, Option.getD_some]

lemma infraredStoreAndDecode_twice {r : InfraredDecodeResult} {s s' : Bool × InfraredCommonDecoder}
    (hlen : d.timings.length < infraredTimingsSize)
    (hround : infraredCommonDecodeRound dspec
      (false, { d with level := level, timings := d.timings ++ [duration] }) = .again s)
    (hnext : infraredCommonDecodeRound dspec s = .again s')
    (hlast : infraredCommonDecodeRound dspec s' = .leave r) :
    infraredStoreAndDecode dspec d level duration = r := by
  rw [infraredStoreAndDecode_rounds hlen]
  simp only [infraredDecodeRounds, loop, hround, hnext, hlast, Option.getD_some]

lemma infraredFrontLevel_one (level : Bool) : infraredFrontLevel level 1 = level := by
  cases level <;> rfl

lemma infraredCommonDecode_bit {b : InfraredDatabits} (hsplits : dspec.timings.minSplitTime ≠ 0)
    (hstate : d.state = .decode) (hempty : d.timings = []) (hlevel : d.level ≠ level)
    (hspace : level = false → duration ≤ dspec.timings.minSplitTime ∧ dspec.longest ≠ d.databitCnt)
    (hdecode : dspec.decode d.toInfraredDatabits level duration = (.ok, b))
    (hle : b.databitCnt ≤ dspec.longest) :
    ∃ d', infraredCommonDecode dspec d level duration = .ok (none, d') ∧ d'.state = .decode ∧
      d'.timings = [] ∧ d'.level = level ∧ d'.toInfraredDatabits = b := by
  have htimings : infraredCommonDecodeTimings dspec level d.toInfraredDatabits [duration] =
      .ok (.ok, b, []) := by
    unfold infraredCommonDecodeTimings
    simp only [List.length_singleton, infraredFrontLevel_one, hdecode, infraredCommonDecodeTimings]
    rw [if_neg, if_neg, if_neg (Nat.not_lt.mpr hle), if_neg (by decide), if_neg]
    · simp [hsplits]
    · cases level with
      | true => simp
      | false => simp [(hspace rfl).2]
    · cases level with
      | true => simp
      | false => simp [Nat.not_lt.mpr (hspace rfl).1]
  refine ⟨{ d with toInfraredDatabits := b, level := level }, ?_, hstate, hempty, rfl, rfl⟩
  unfold infraredCommonDecode
  rw [if_neg hlevel]
  apply infraredStoreAndDecode_leave
  · rw [hempty]
    exact Nat.succ_pos _
  · have hround := @infraredCommonDecodeRound_of_decode dspec false
      { d with level := level, timings := d.timings ++ [duration] } hstate
    rw [hround, infraredCommonDecodeBits]
    simp only [hempty, List.nil_append, htimings, Except.map]
    rfl

lemma infraredCommonDecodeRound_preamble {d' : InfraredCommonDecoder} {found : Bool}
    (hstate : d.state = .waitPreamble) (h : infraredCheckPreamble dspec d = (true, d')) :
    infraredCommonDecodeRound dspec (found, d) = .again (found,
      { d' with state := .decode, databitCnt := 0, switchDetect := false }) := by
  simp only [infraredCommonDecodeRound, hstate, h]

lemma infraredCommonDecodeRound_waiting {d' : InfraredCommonDecoder} {found : Bool}
    (hstate : d.state = .waitPreamble) (h : infraredCheckPreamble dspec d = (false, d')) :
    infraredCommonDecodeRound dspec (found, d) =
      .leave (.ok (if found then some d'.message else none, d')) := by
  simp only [infraredCommonDecodeRound, hstate, h]

lemma infraredCommonDecode_waiting {rest : List Nat}
    (hmark : dspec.timings.preambleMark ≠ 0) (hstate : d.state = .waitPreamble)
    (hlevel : d.level ≠ level) (hlen : d.timings.length < infraredTimingsSize)
    (hfind : infraredFindPreamble dspec.timings
      (if infraredFrontLevel level (d.timings.length + 1) then d.timings ++ [duration]
        else (d.timings ++ [duration]).drop 1) = (false, rest)) :
    ∃ d', infraredCommonDecode dspec d level duration = .ok (none, d') ∧
      d'.state = .waitPreamble ∧ d'.timings = rest ∧ d'.level = level := by
  refine ⟨{ d with level := level, timings := rest }, ?_, hstate, rfl, rfl⟩
  unfold infraredCommonDecode
  rw [if_neg hlevel]
  apply infraredStoreAndDecode_leave hlen
  have hne : d.timings ++ [duration] ≠ [] := List.append_ne_nil_of_right_ne_nil _ (by simp)
  simp only [infraredCommonDecodeRound, hstate, infraredCheckPreamble, if_neg hne, if_neg hmark,
    InfraredCommonDecoder.frontLevel, List.length_append, List.length_singleton, hfind]
  rfl

lemma infraredCommonDecode_preamble (hmark : dspec.timings.preambleMark ≠ 0)
    (hstate : d.state = .waitPreamble) (hlevel : d.level ≠ level)
    (hlen : d.timings.length < infraredTimingsSize)
    (hfind : infraredFindPreamble dspec.timings
      (if infraredFrontLevel level (d.timings.length + 1) then d.timings ++ [duration]
        else (d.timings ++ [duration]).drop 1) = (true, [])) :
    ∃ d', infraredCommonDecode dspec d level duration = .ok (none, d') ∧ d'.state = .decode ∧
      d'.timings = [] ∧ d'.level = level ∧ d'.databitCnt = 0 ∧ d'.switchDetect = false := by
  let d' := { d with
    level := level, timings := [], state := .decode, databitCnt := 0, switchDetect := false }
  refine ⟨d', ?_, rfl, rfl, rfl, rfl, rfl⟩
  unfold infraredCommonDecode
  rw [if_neg hlevel]
  have hne : d.timings ++ [duration] ≠ [] := List.append_ne_nil_of_right_ne_nil _ (by simp)
  apply infraredStoreAndDecode_again (s := (false, d')) hlen
  · simp only [infraredCommonDecodeRound, hstate, infraredCheckPreamble, if_neg hne, if_neg hmark,
      InfraredCommonDecoder.frontLevel, List.length_append, List.length_singleton, hfind]
    rfl
  · have hround := @infraredCommonDecodeRound_of_decode dspec false d' rfl
    rw [hround]
    rfl

end

lemma infraredCommonDecodePdwm_mark (h : timings.Separable) (b : InfraredDatabits) (bit : Bool) :
    infraredCommonDecodePdwm timings b true (bitMark timings bit) =
      (.ok, if timings.Pwm then accumulateLsb b bit else b) := by
  have hmark := h.marks bit
  have hpwm := h.pwm_iff
  unfold infraredCommonDecodePdwm
  by_cases heq : timings.bit1Mark = timings.bit0Mark
  · have hself : matchTiming (bitMark timings bit) timings.bit1Mark timings.bitTolerance = true := by
      cases bit with
      | true => exact hmark
      | false => exact heq ▸ hmark
    rw [if_neg (fun hp => hpwm.mp hp heq)]
    simp [heq, heq ▸ hself]
  · rw [if_pos (hpwm.mpr heq)]
    rcases h.modulated with ⟨hsame, -⟩ | ⟨-, -, hdiffer⟩
    · exact absurd hsame heq
    · cases bit <;> simp_all [bitMark]

lemma infraredCommonDecodePdwm_space (h : timings.Separable) (b : InfraredDatabits) (bit : Bool) :
    infraredCommonDecodePdwm timings b false (bitSpace timings bit) =
      (.ok, if timings.Pwm then b else accumulateLsb b bit) := by
  have hspace := h.spaces bit
  have hpwm := h.pwm_iff
  unfold infraredCommonDecodePdwm
  by_cases heq : timings.bit1Mark = timings.bit0Mark
  · rw [if_neg (fun hp => hpwm.mp hp heq)]
    rcases h.modulated with ⟨-, hdiffer⟩ | ⟨-, hne, -⟩
    · cases bit <;> simp_all [bitSpace]
    · exact absurd heq hne
  · have hp : timings.bit1Space = timings.bit0Space := hpwm.mpr heq
    rw [if_pos (hpwm.mpr heq)]
    have hself : matchTiming (bitSpace timings bit) timings.bit1Space timings.bitTolerance = true := by
      cases bit with
      | true => exact hspace
      | false => exact hp ▸ hspace
    simp [heq, hself]

/-- The decoder waits for the mark of bit `k`. -/
structure TakesMark (data : Nat → Nat) (k : Nat) (d : InfraredCommonDecoder) : Prop where
  state : d.state = .decode
  timings : d.timings = []
  level : d.level = false
  databitCnt : d.databitCnt = k
  collected : Collected data d.data k

/-- The decoder has the first `n` bits of a message. -/
structure HoldsBits (data : Nat → Nat) (n : Nat) (d : InfraredCommonDecoder) : Prop where
  databitCnt : d.databitCnt = n
  collected : Collected data d.data n

section

variable {data : Nat → Nat} {k : Nat} {d : InfraredCommonDecoder}

lemma Collected.accumulate_if {b : InfraredDatabits} (h : Collected data b.data b.databitCnt)
    (p : Prop) [Decidable p] :
    (if p then accumulateLsb b (bitAt data b.databitCnt) else b).databitCnt =
        (if p then b.databitCnt + 1 else b.databitCnt) ∧
      Collected data (if p then accumulateLsb b (bitAt data b.databitCnt) else b).data
        (if p then b.databitCnt + 1 else b.databitCnt) := by
  split_ifs
  · exact ⟨rfl, h.accumulate⟩
  · exact ⟨rfl, h⟩

lemma TakesMark.mark (h : TakesMark data k d) (hsep : spec.timings.Separable)
    (hdecode : spec.decode = infraredCommonDecodePdwm spec.timings)
    (hle : (if spec.timings.Pwm then k + 1 else k) ≤ spec.longest) :
    ∃ d', infraredCommonDecode spec.toInfraredDecoderSpec d true
        (bitMark spec.timings (bitAt data k)) = .ok (none, d') ∧ d'.state = .decode ∧
      d'.timings = [] ∧ d'.level = true ∧
      HoldsBits data (if spec.timings.Pwm then k + 1 else k) d' := by
  obtain ⟨hstate, hempty, hlevel, rfl, hcollected⟩ := h
  obtain ⟨hcnt, hdata⟩ := hcollected.accumulate_if spec.timings.Pwm
  have hstep := infraredCommonDecodePdwm_mark hsep d.toInfraredDatabits (bitAt data d.databitCnt)
  rw [← hdecode] at hstep
  obtain ⟨d', hd', hstate', hempty', hlevel', hbits⟩ := infraredCommonDecode_bit hsep.splits hstate
    hempty (by rw [hlevel]; decide : d.level ≠ true) nofun hstep (hcnt ▸ hle)
  exact ⟨d', hd', hstate', hempty', hlevel', by rw [hbits]; exact hcnt, by rw [hbits]; exact hdata⟩

lemma TakesMark.bit (h : TakesMark data k d) (hsep : spec.timings.Separable)
    (hdecode : spec.decode = infraredCommonDecodePdwm spec.timings)
    (hle : k + 1 ≤ spec.longest) (hpwm : spec.timings.Pwm → k + 1 ≠ spec.longest)
    (samples : List InfraredSample) :
    ∃ d', TakesMark data (k + 1) d' ∧
      infraredDecodeSamples spec.toInfraredDecoderSpec d
          (bitSamples spec.timings (bitAt data k) ++ samples) =
        infraredDecodeSamples spec.toInfraredDecoderSpec d' samples := by
  obtain ⟨d₁, hmark, hstate, hempty, hlevel, hcnt, hcollected⟩ := h.mark hsep hdecode
    (by split_ifs <;> omega)
  have hstep := infraredCommonDecodePdwm_space hsep d₁.toInfraredDatabits (bitAt data k)
  -- whether or not the mark carried the bit, the space completes it
  have hbit : (if spec.timings.Pwm then d₁.toInfraredDatabits
        else accumulateLsb d₁.toInfraredDatabits (bitAt data k)).databitCnt = k + 1 ∧
      Collected data (if spec.timings.Pwm then d₁.toInfraredDatabits
        else accumulateLsb d₁.toInfraredDatabits (bitAt data k)).data (k + 1) := by
    split_ifs at hcnt hcollected ⊢
    · exact ⟨hcnt, hcollected⟩
    · rw [← hcnt] at hcollected ⊢
      exact ⟨rfl, hcollected.accumulate⟩
  rw [← hdecode] at hstep
  have hspace : spec.longest ≠ d₁.databitCnt := by
    rw [hcnt]
    split_ifs with hp
    · exact (hpwm hp).symm
    · omega
  obtain ⟨d₂, hd₂, hstate₂, hempty₂, hlevel₂, hbits⟩ := infraredCommonDecode_bit hsep.splits hstate
    hempty (by rw [hlevel]; decide : d₁.level ≠ false) (fun _ => ⟨hsep.spaces_le _, hspace⟩) hstep
    (hbit.1 ▸ hle)
  refine ⟨d₂, ⟨hstate₂, hempty₂, hlevel₂, by rw [hbits]; exact hbit.1, by rw [hbits]; exact hbit.2⟩,
    ?_⟩
  rw [bitSamples, List.cons_append, infraredDecodeSamples_none hmark, List.cons_append,
    infraredDecodeSamples_none hd₂, List.nil_append]

/-- The bits from `k` to before `k + m`, after which the frame goes on. -/
lemma TakesMark.bits (hsep : spec.timings.Separable)
    (hdecode : spec.decode = infraredCommonDecodePdwm spec.timings) (m : Nat)
    (h : TakesMark data k d) (hle : k + m ≤ spec.longest)
    (hpwm : spec.timings.Pwm → k + m < spec.longest) (samples : List InfraredSample) :
    ∃ d', TakesMark data (k + m) d' ∧
      infraredDecodeSamples spec.toInfraredDecoderSpec d
          (((List.range' k m).map (bitAt data)).flatMap (bitSamples spec.timings) ++ samples) =
        infraredDecodeSamples spec.toInfraredDecoderSpec d' samples := by
  induction m generalizing k d with
  | zero => exact ⟨d, h, rfl⟩
  | succ m ih =>
    obtain ⟨d₁, hnext, hbit⟩ := h.bit hsep hdecode (by omega) (fun hp => by have := hpwm hp; omega)
      (((List.range' (k + 1) m).map (bitAt data)).flatMap (bitSamples spec.timings) ++ samples)
    obtain ⟨d', hd', hrest⟩ := ih hnext (by omega) (fun hp => by have := hpwm hp; omega)
    refine ⟨d', (by rw [Nat.add_right_comm] at hd'; exact hd'), ?_⟩
    rw [← hrest, ← hbit, List.range'_succ, List.map_cons, List.flatMap_cons, List.append_assoc]

lemma infraredCommonDecode_reset (dspec : InfraredDecoderSpec) (d : InfraredCommonDecoder)
    (duration : Nat) :
    infraredCommonDecode dspec d d.level duration = infraredCommonDecode dspec
      { infraredCommonDecoderReset dspec d with level := !d.level } d.level duration := by
  have hne : ¬(!d.level) = d.level := by cases d.level <;> decide
  unfold infraredCommonDecode
  rw [if_pos rfl, if_neg hne]
  rfl

/-- The decoder is about to decode the first bit, behind a space. -/
structure StartsBits (d : InfraredCommonDecoder) : Prop where
  state : d.state = .decode
  timings : d.timings = []
  level : d.level = false
  databitCnt : d.databitCnt = 0
  switchDetect : d.switchDetect = false

lemma infraredCommonDecode_silence {dspec : InfraredDecoderSpec} {duration : Nat}
    {P : InfraredCommonDecoder → Prop}
    (h : ∀ d : InfraredCommonDecoder, d.state = .waitPreamble → d.timings = [] → d.level = true →
      ∃ d₁, infraredCommonDecode dspec d false duration = .ok (none, d₁) ∧ P d₁)
    (d : InfraredCommonDecoder) :
    ∃ d₁, infraredCommonDecode dspec (infraredCommonDecoderReset dspec d) false duration =
      .ok (none, d₁) ∧ P d₁ := by
  cases hlevel : d.level with
  | true => exact h _ rfl rfl hlevel
  | false =>
    have hreset := infraredCommonDecode_reset dspec (infraredCommonDecoderReset dspec d) duration
    have hsame : (infraredCommonDecoderReset dspec d).level = false := hlevel
    rw [hsame] at hreset
    rw [hreset]
    exact h _ rfl rfl rfl

lemma infraredDecodeSamples_start {dspec : InfraredDecoderSpec}
    (hmark : dspec.timings.preambleMark ≠ 0)
    (hmatch : matchTiming dspec.timings.preambleMark dspec.timings.preambleMark
      dspec.timings.preambleTolerance = true)
    (hmatch' : matchTiming dspec.timings.preambleSpace dspec.timings.preambleSpace
      dspec.timings.preambleTolerance = true)
    (d : InfraredCommonDecoder) :
    ∃ d', StartsBits d' ∧ ∀ samples,
      infraredDecodeSamples dspec (infraredCommonDecoderReset dspec d)
          (⟨false, dspec.timings.silenceTime⟩ :: ⟨true, dspec.timings.preambleMark⟩ ::
            ⟨false, dspec.timings.preambleSpace⟩ :: samples) =
        infraredDecodeSamples dspec d' samples := by
  obtain ⟨d₁, h₁, hstate₁, hempty₁, hlevel₁⟩ := @infraredCommonDecode_silence dspec
    dspec.timings.silenceTime
    (fun d => d.state = .waitPreamble ∧ d.timings = [] ∧ d.level = false) (fun d hstate hempty hlevel => by
      apply infraredCommonDecode_waiting hmark hstate (by rw [hlevel]; decide)
      · rw [hempty]
        exact Nat.succ_pos _
      · rw [hempty]
        rfl) d
  obtain ⟨d₂, h₂, hstate₂, hempty₂, hlevel₂⟩ : ∃ d₂, infraredCommonDecode dspec d₁ true
      dspec.timings.preambleMark = .ok (none, d₂) ∧ d₂.state = .waitPreamble ∧
        d₂.timings = [dspec.timings.preambleMark] ∧ d₂.level = true := by
    apply infraredCommonDecode_waiting hmark hstate₁ (by rw [hlevel₁]; decide)
    · rw [hempty₁]
      exact Nat.succ_pos _
    · rw [hempty₁]
      rfl
  obtain ⟨d₃, h₃, hd₃⟩ := @infraredCommonDecode_preamble dspec d₂ false dspec.timings.preambleSpace
    hmark hstate₂ (by rw [hlevel₂]; decide)
    (by rw [hempty₂]; exact Nat.succ_lt_succ (Nat.succ_pos _)) (by
      rw [hempty₂, List.length_singleton, if_pos (show infraredFrontLevel false (1 + 1) = true by
        decide)]
      simp only [List.singleton_append, infraredFindPreamble, hmatch, hmatch', Bool.and_self,
        if_true])
  obtain ⟨hstate₃, hempty₃, hlevel₃, hcnt, hswitch⟩ := hd₃
  refine ⟨d₃, ⟨hstate₃, hempty₃, hlevel₃, hcnt, hswitch⟩, fun samples => ?_⟩
  rw [infraredDecodeSamples_none h₁, infraredDecodeSamples_none h₂, infraredDecodeSamples_none h₃]

lemma infraredDecodeSamples_preamble (hsep : spec.timings.Separable) (data : Nat → Nat)
    (d : InfraredCommonDecoder) (samples : List InfraredSample) :
    ∃ d', TakesMark data 0 d' ∧
      infraredDecodeSamples spec.toInfraredDecoderSpec
          (infraredCommonDecoderReset spec.toInfraredDecoderSpec d)
          (⟨false, spec.timings.silenceTime⟩ :: ⟨true, spec.timings.preambleMark⟩ ::
            ⟨false, spec.timings.preambleSpace⟩ :: samples) =
        infraredDecodeSamples spec.toInfraredDecoderSpec d' samples := by
  obtain ⟨d', hstarts, hrun⟩ := infraredDecodeSamples_start hsep.preamble hsep.preambleMark
    hsep.preambleSpace d
  exact ⟨d', ⟨hstarts.state, hstarts.timings, hstarts.level, hstarts.databitCnt,
    Collected.zero _ _⟩, hrun samples⟩

lemma infraredDecodeSamples_stopMark (hsep : spec.timings.Separable)
    (hdecode : spec.decode = infraredCommonDecodePdwm spec.timings) (data : Nat → Nat) {n : Nat}
    (hle : n ≤ spec.longest) (hpwm : ¬spec.timings.Pwm) (d : InfraredCommonDecoder)
    (samples : List InfraredSample) :
    ∃ d', infraredDecodeSamples spec.toInfraredDecoderSpec
        (infraredCommonDecoderReset spec.toInfraredDecoderSpec d)
        (pulseFrame spec.timings .stopMark (bitsOf data n) ++ samples) =
          infraredDecodeSamples spec.toInfraredDecoderSpec d' samples ∧
      d'.state = .decode ∧ d'.timings = [] ∧ d'.level = true ∧ HoldsBits data n d' := by
  obtain ⟨d₀, h₀, hpreamble⟩ := infraredDecodeSamples_preamble hsep data d
    (bitsFrame spec.timings .stopMark (bitsOf data n) ++ samples)
  have hrange : bitsOf data n = (List.range' 0 n).map (bitAt data) := by
    rw [bitsOf, List.range_eq_range']
  obtain ⟨d₁, h₁, hbits⟩ := h₀.bits hsep hdecode n (by omega) (fun hp => absurd hp hpwm)
    (⟨true, spec.timings.bit1Mark⟩ :: samples)
  rw [Nat.zero_add] at h₁
  obtain ⟨d₂, h₂, hstate, hempty, hlevel, hholds⟩ :=
    h₁.mark hsep hdecode (by rw [if_neg hpwm]; exact hle)
  have hmark : bitMark spec.timings (bitAt data n) = spec.timings.bit1Mark := by
    have heq := not_not.mp (mt hsep.pwm_iff.mpr hpwm)
    simp only [bitMark, ← heq, ite_self]
  rw [hmark] at h₂
  rw [if_neg hpwm] at hholds
  refine ⟨d₂, ?_, hstate, hempty, hlevel, hholds⟩
  rw [pulseFrame, List.append_assoc, List.cons_append, List.cons_append, List.cons_append,
    List.nil_append, hpreamble, bitsFrame, List.append_assoc, List.singleton_append, hrange, hbits,
    infraredDecodeSamples_none h₂]

/-- The decoder collects the bits of a frame, without a message on the way. -/
theorem infraredDecodeSamples_pulseFrame (hsep : spec.timings.Separable)
    (hdecode : spec.decode = infraredCommonDecodePdwm spec.timings) (data : Nat → Nat) {n : Nat}
    (hn : 0 < n) (hle : n ≤ spec.longest) {ending : FrameEnd}
    (hend : ending = .lastMark ↔ spec.timings.Pwm) (d : InfraredCommonDecoder) :
    ∃ d', infraredDecodeSamples spec.toInfraredDecoderSpec
        (infraredCommonDecoderReset spec.toInfraredDecoderSpec d)
        (pulseFrame spec.timings ending (bitsOf data n)) = .ok ([], d') ∧ HoldsBits data n d' := by
  obtain ⟨m, rfl⟩ : ∃ m, n = m + 1 := ⟨n - 1, (Nat.sub_add_cancel hn).symm⟩
  have hrange (j : Nat) : bitsOf data j = (List.range' 0 j).map (bitAt data) := by
    rw [bitsOf, List.range_eq_range']
  cases ending with
  | stopMark =>
    have hpwm : ¬spec.timings.Pwm := fun hpwm => nomatch hend.mpr hpwm
    obtain ⟨d₁, hrun, -, -, -, hholds⟩ := infraredDecodeSamples_stopMark hsep hdecode data hle hpwm d []
    rw [List.append_nil] at hrun
    exact ⟨d₁, hrun, hholds⟩
  | lastSpace =>
    have hpwm : ¬spec.timings.Pwm := fun hpwm => nomatch hend.mpr hpwm
    obtain ⟨d₀, h₀, hpreamble⟩ := infraredDecodeSamples_preamble hsep data d
      (bitsFrame spec.timings .lastSpace (bitsOf data (m + 1)))
    rw [pulseFrame, List.cons_append, List.cons_append, List.cons_append, List.nil_append, hpreamble]
    obtain ⟨d₁, h₁, hbits⟩ := h₀.bits hsep hdecode (m + 1) (by omega)
      (fun hp => absurd hp hpwm) []
    rw [Nat.zero_add] at h₁
    refine ⟨d₁, ?_, h₁.databitCnt, h₁.collected⟩
    rw [bitsFrame, hrange, ← List.append_nil (List.flatMap _ _), hbits]
    rfl
  | lastMark =>
    have hpwm : spec.timings.Pwm := hend.mp rfl
    obtain ⟨d₀, h₀, hpreamble⟩ := infraredDecodeSamples_preamble hsep data d
      (bitsFrame spec.timings .lastMark (bitsOf data (m + 1)))
    rw [pulseFrame, List.cons_append, List.cons_append, List.cons_append, List.nil_append, hpreamble]
    obtain ⟨d₁, h₁, hbits⟩ := h₀.bits hsep hdecode m (by omega) (fun _ => by omega)
      [⟨true, bitMark spec.timings (bitAt data m)⟩]
    rw [Nat.zero_add] at h₁
    obtain ⟨d₂, h₂, -, -, -, hholds⟩ := h₁.mark hsep hdecode (by rw [if_pos hpwm]; exact hle)
    rw [if_pos hpwm] at hholds
    refine ⟨d₂, ?_, hholds⟩
    rw [bitsFrame, bitsOf_succ, List.flatMap_append, List.flatMap_singleton, bitSamples,
      List.dropLast_append_cons]
    change infraredDecodeSamples _ _ (_ ++ [⟨true, bitMark spec.timings (bitAt data m)⟩]) = _
    rw [hrange, hbits, infraredDecodeSamples_none h₂]
    rfl

end

end FlipperZero
