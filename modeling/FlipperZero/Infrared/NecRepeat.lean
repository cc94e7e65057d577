import FlipperZero.Infrared.RepeatFrames

/-!
# Repeats of NEC

The pause before the first repeat sequence is what a frame leaves of the period, and a frame is
the longer the more of its bits are set. The decoder splits only at a space of more than 4000:
with 42 bits of which more than 39 are set the pause is too short. The plain messages send every
bit of theirs together with its inverse and are far from that.
-/

namespace FlipperZero

open Foundation

/-! ### How many bits are set -/

/-- How many of the low `n` bits are set. -/
def onesBelow (n x : Nat) : Nat := (List.range n).countP x.testBit

lemma onesBelow_complement (n x : Nat) : onesBelow n x + onesBelow n (complement n x) = n := by
  have hbits : onesBelow n (complement n x) = (List.range n).countP fun i => !x.testBit i := by
    apply List.countP_congr
    intro i hi
    rw [testBit_complement (List.mem_range.mp hi)]
  have hsum := List.length_eq_countP_add_countP x.testBit (l := List.range n)
  rw [List.length_range] at hsum
  rw [hbits, onesBelow]
  simp only [Bool.not_eq_true, Bool.decide_eq_false] at hsum
  exact hsum.symm

/-- How many of the first `n` bits of an encoder are set. -/
def dataOnes (data : Nat → Nat) (n : Nat) : Nat := (List.range n).countP (bitAt data)

lemma dataOnes_field {data : Nat → Nat} {n k x : Nat}
    (h : ∀ i < k, bitAt data (n + i) = x.testBit i) :
    dataOnes data (n + k) = dataOnes data n + onesBelow k x := by
  rw [dataOnes, List.range_add, List.countP_append, List.countP_map]
  refine congrArg (dataOnes data n + ·) (List.countP_congr fun i hi => ?_)
  rw [Function.comp_apply, h i (List.mem_range.mp hi)]

/-! ### The bits of a message -/

section

variable {data : Nat → Nat} {address command : Nat}

lemma nec42_command {low k : Nat}
    (h₁ : HoldsWord data 4 0 (low ||| (command &&& mask 6) <<< 26)) (hlow : low < 2 ^ 26)
    (h₂ : ∀ i < k, bitAt data (32 + i) = command.testBit (i + 6)) :
    ∀ i < 6 + k, bitAt data (26 + i) = command.testBit i := by
  intro i hi
  by_cases hfirst : i < 6
  · have hbit := h₁.bitAt (i := 26 + i) (by omega)
    rw [testBit_or_shiftLeft_add hlow, and_mask, Nat.testBit_mod_two_pow, decide_eq_true hfirst,
      Bool.true_and, Nat.mul_zero, Nat.zero_add] at hbit
    exact hbit
  · have hbit := h₂ (i - 6) (by omega)
    rw [Nat.sub_add_cancel (Nat.not_lt.mp hfirst)] at hbit
    rw [← hbit, show 32 + (i - 6) = 26 + i by omega]

lemma dataOnes_nec42
    (h₁ : HoldsWord data 4 0
      (address &&& mask 13 ||| complement 13 address <<< 13 ||| (command &&& mask 6) <<< 26))
    (h₂ : HoldsWord data 4 4 ((command &&& mask 2 <<< 6) >>> 6 ||| complement 8 command <<< 2)) :
    dataOnes data 42 = 13 + 8 := by
  have hmask : address &&& mask 13 < 2 ^ 13 := by
    rw [and_mask]
    exact Nat.mod_lt _ (Nat.two_pow_pos 13)
  have hwide : address &&& mask 13 ||| complement 13 address <<< 13 < 2 ^ 26 := by
    have hinverse := complement_lt 13 address
    rw [or_shiftLeft hmask]
    omega
  have haddress : ∀ i < 13, bitAt data (0 + i) = address.testBit i := by
    intro i hi
    have hbit := h₁.bitAt (i := i) (Nat.lt_trans hi (by decide))
    rw [testBit_or_shiftLeft_of_lt (Nat.lt_trans hi (by decide)), testBit_or_shiftLeft_of_lt hi,
      and_mask, Nat.testBit_mod_two_pow, decide_eq_true hi, Bool.true_and] at hbit
    exact hbit
  have haddressInverse : ∀ i < 13, bitAt data (13 + i) = (complement 13 address).testBit i := by
    intro i hi
    have hbit := h₁.bitAt (i := 13 + i) (by omega)
    rw [testBit_or_shiftLeft_of_lt (by omega), testBit_or_shiftLeft_add hmask] at hbit
    rw [← hbit, Nat.mul_zero, Nat.zero_add]
  have hcommand := nec42_command h₁ hwide (k := 2) fun i hi => by
    have hbit := h₂.bitAt (i := i) (Nat.lt_trans hi (by decide))
    rw [testBit_or_shiftLeft_of_lt hi, and_mask_shiftLeft_shiftRight, Nat.testBit_mod_two_pow,
      decide_eq_true hi, Bool.true_and, Nat.testBit_div_two_pow] at hbit
    exact hbit
  have hcommandInverse : ∀ i < 8, bitAt data (34 + i) = (complement 8 command).testBit i := by
    intro i hi
    have hbit := h₂.bitAt (i := 2 + i) (by omega)
    rw [and_mask_shiftLeft_shiftRight, testBit_or_shiftLeft_add (Nat.mod_lt _ (Nat.two_pow_pos 2))]
      at hbit
    rw [← hbit, show 8 * 4 + (2 + i) = 34 + i by omega]
  calc dataOnes data 42
      = dataOnes data 34 + onesBelow 8 (complement 8 command) := dataOnes_field hcommandInverse
    _ = dataOnes data 26 + onesBelow 8 command + onesBelow 8 (complement 8 command) := by
      rw [dataOnes_field hcommand]
    _ = dataOnes data 26 + 8 := by rw [Nat.add_assoc, onesBelow_complement]
    _ = dataOnes data 13 + onesBelow 13 (complement 13 address) + 8 := by
      rw [dataOnes_field haddressInverse]
    _ = onesBelow 13 address + onesBelow 13 (complement 13 address) + 8 := by
      rw [show dataOnes data 13 = dataOnes data 0 + onesBelow 13 address from
        dataOnes_field haddress, show dataOnes data 0 = 0 from rfl, Nat.zero_add]
    _ = 13 + 8 := by rw [onesBelow_complement]

lemma dataOnes_nec42ext
    (h₁ : HoldsWord data 4 0 (address &&& mask 26 ||| (command &&& mask 6) <<< 26))
    (h₂ : HoldsWord data 4 4 ((command &&& mask 10 <<< 6) >>> 6)) :
    dataOnes data 42 = onesBelow 26 address + onesBelow 16 command := by
  have hmask : address &&& mask 26 < 2 ^ 26 := by
    rw [and_mask]
    exact Nat.mod_lt _ (Nat.two_pow_pos 26)
  have haddress : ∀ i < 26, bitAt data (0 + i) = address.testBit i := by
    intro i hi
    have hbit := h₁.bitAt (i := i) (Nat.lt_trans hi (by decide))
    rw [testBit_or_shiftLeft_of_lt hi, and_mask, Nat.testBit_mod_two_pow, decide_eq_true hi,
      Bool.true_and] at hbit
    exact hbit
  have hcommand := nec42_command h₁ hmask (k := 10) fun i hi => by
    have hbit := h₂.bitAt (i := i) (Nat.lt_trans hi (by decide))
    rw [and_mask_shiftLeft_shiftRight, Nat.testBit_mod_two_pow, decide_eq_true hi, Bool.true_and,
      Nat.testBit_div_two_pow] at hbit
    exact hbit
  calc dataOnes data 42
      = dataOnes data 26 + onesBelow 16 command := dataOnes_field hcommand
    _ = onesBelow 26 address + onesBelow 16 command := by
      rw [show dataOnes data 26 = dataOnes data 0 + onesBelow 26 address from
        dataOnes_field haddress, show dataOnes data 0 = 0 from rfl, Nat.zero_add]

end

/-! ### How long a frame lasts -/

lemma bitSamples_nec (bits : List Bool) :
    (bits.flatMap (bitSamples infraredTimingsNec)).length = 2 * bits.length ∧
      totalTime (bits.flatMap (bitSamples infraredTimingsNec)) =
        1120 * bits.length + 1130 * bits.countP id := by
  induction bits with
  | nil => exact ⟨rfl, rfl⟩
  | cons bit bits ih =>
    obtain ⟨hlength, htime⟩ := ih
    rw [List.flatMap_cons, List.length_append, totalTime_append, hlength, htime, List.length_cons,
      List.countP_cons]
    cases bit with
    | false => exact ⟨by rw [Nat.mul_add, Nat.add_comm]; rfl, by simp [totalTime, bitSamples, bitMark, bitSpace, infraredTimingsNec]; omega⟩
    | true => exact ⟨by rw [Nat.mul_add, Nat.add_comm]; rfl, by simp [totalTime, bitSamples, bitMark, bitSpace, infraredTimingsNec]; omega⟩

/-- What a frame of `n` bits takes of the period. -/
def necFrameTime (data : Nat → Nat) (n : Nat) : Nat := 14060 + 1120 * n + 1130 * dataOnes data n

lemma necFrame_drop (data : Nat → Nat) (n : Nat) :
    ((pulseFrame infraredTimingsNec .stopMark (bitsOf data n)).drop 1).length = 2 * n + 3 ∧
      totalTime ((pulseFrame infraredTimingsNec .stopMark (bitsOf data n)).drop 1) =
        necFrameTime data n := by
  obtain ⟨hlength, htime⟩ := bitSamples_nec (bitsOf data n)
  have hn : (bitsOf data n).length = n := by rw [bitsOf, List.length_map, List.length_range]
  have hones : (bitsOf data n).countP id = dataOnes data n := by
    rw [bitsOf, List.countP_map]
    rfl
  rw [hn] at hlength htime
  rw [hones] at htime
  have hdrop : (pulseFrame infraredTimingsNec .stopMark (bitsOf data n)).drop 1 =
      ⟨true, 9000⟩ :: ⟨false, 4500⟩ ::
        ((bitsOf data n).flatMap (bitSamples infraredTimingsNec) ++ [⟨true, 560⟩]) := rfl
  rw [hdrop]
  constructor
  · rw [List.length_cons, List.length_cons, List.length_append, hlength, List.length_singleton]
  · rw [totalTime_cons, totalTime_cons, totalTime_append, htime, necFrameTime]
    simp only [totalTime, List.map_cons, List.map_nil, List.sum_cons, List.sum_nil]
    omega

/-- The first frame, behind which the encoder goes over to the repeat sequence. -/
lemma StartsFrame.repeats {data : Nat → Nat} {n : Nat} {e : InfraredCommonEncoder}
    (h : StartsFrame data n e) (hn : 0 < n) (hle : n ≤ 42) :
    ∃ e', encodeFrameTo (infraredCommonEncode infraredProtocolNec) frameTimings e =
        some (pulseFrame infraredTimingsNec .stopMark (bitsOf data n), e') ∧
      Repeats n 0 (necFrameTime data n) e' := by
  have hpulse := infraredEntryNec_pulse
  have hfuel : frameTimings = 196 - 2 * n + 2 * n + 4 := by
    have h200 : frameTimings = 200 := rfl
    omega
  have hframe : encodeFrame (infraredCommonEncode infraredProtocolNec) frameTimings e =
      some (pulseFrame infraredTimingsNec .stopMark (bitsOf data n)) := by
    rw [hfuel]
    exact encodeFrame_pulseFrame hpulse.separable hpulse.encodeBits h hn hpulse.ending _
  rw [encodeFrame_eq] at hframe
  obtain ⟨⟨frame, e'⟩, hto, rfl⟩ := Option.map_eq_some_iff.mp hframe
  refine ⟨e', hto, ?_⟩
  -- the silence in front of the frame is not counted
  have hsilence : infraredCommonEncode infraredProtocolNec e = (.ok, ⟨false, 110000⟩,
      { e with state := .preamble, timingsEncoded := 1, timingsSum := 0 }) := by
    simp only [infraredCommonEncode, h.state, h.timingsEncoded]
    rfl
  rw [show frameTimings = 199 + 1 from rfl, encodeFrameTo, hsilence] at hto
  obtain ⟨⟨rest, e₂⟩, hrest, heq⟩ := Option.map_eq_some_iff.mp hto
  obtain ⟨hcons, rfl⟩ := Prod.mk.inj heq
  obtain ⟨hencoded, hsum, hbits, hstate⟩ : e₂.timingsEncoded = 1 + rest.length ∧
      e₂.timingsSum = 0 + totalTime rest ∧ e₂.bitsToEncode = e.bitsToEncode ∧
      e₂.state = .encodeRepeat := InFrame.run rfl rfl (.inl rfl) hrest
  obtain ⟨hlength, htime⟩ := necFrame_drop data n
  rw [← hcons, List.drop_one, List.tail_cons] at hlength htime
  refine ⟨hstate, ?_, ?_, hbits.trans h.bitsToEncode⟩
  · rw [hencoded, hlength]
    omega
  · rw [hsum, htime, Nat.zero_add]

/-! ### A frame and its repeats -/

lemma repeatFrames_alternates (data : Nat → Nat) (n : Nat) (pauses : List Nat) :
    Alternates (pulseFrame infraredTimingsNec .stopMark (bitsOf data n) ++
      pauses.flatMap repeatFrame) := by
  have hmark (mark : Nat) : Alternates (⟨true, mark⟩ :: pauses.flatMap repeatFrame) := by
    induction pauses generalizing mark with
    | nil => exact .singleton _
    | cons pause pauses ih =>
      rw [List.flatMap_cons]
      exact .cons Bool.false_ne_true (.cons Bool.noConfusion (.cons Bool.false_ne_true
        (.cons Bool.noConfusion (ih 560))))
  have hbits := Alternates.bits infraredTimingsNec
    (fun duration => .cons Bool.noConfusion (hmark 560)) (bitsOf data n) 4500
  rw [pulseFrame, bitsFrame, List.append_assoc, List.append_assoc]
  exact .cons Bool.noConfusion (.cons Bool.false_ne_true hbits)

lemma infraredReceive_repeats {data : Nat → Nat} {n : Nat} {m : InfraredMessage}
    (hmem : n ∈ infraredProtocolNec.databitLen) (hle : n ≤ 42)
    (hinterpret : ∀ p : InfraredPayload, p.databitCnt = n → Collected data p.data n →
      (infraredDecoderNecInterpret p).1 = true ∧ (infraredDecoderNecInterpret p).2.message = m)
    {pauses : List Nat} (hpauses : ∀ pause ∈ pauses, 4000 < pause ∧ pause < 150000)
    (d : InfraredCommonDecoder) :
    infraredReceive infraredProtocolNec.toInfraredDecoderSpec d
        (pulseFrame infraredTimingsNec .stopMark (bitsOf data n) ++ pauses.flatMap repeatFrame) =
      .ok (m :: List.replicate pauses.length { m with repeat_ := true }) := by
  have hpulse := infraredEntryNec_pulse
  have hpwm : ¬infraredTimingsNec.Pwm := by decide
  obtain ⟨d₁, hframe, hstate, hempty, hlevel, hholds⟩ : ∃ d₁,
      infraredDecodeSamples infraredProtocolNec.toInfraredDecoderSpec
          (infraredCommonDecoderReset infraredProtocolNec.toInfraredDecoderSpec d)
          (pulseFrame infraredTimingsNec .stopMark (bitsOf data n) ++ pauses.flatMap repeatFrame) =
        infraredDecodeSamples infraredProtocolNec.toInfraredDecoderSpec d₁
          (pauses.flatMap repeatFrame) ∧
      d₁.state = .decode ∧ d₁.timings = [] ∧ d₁.level = true ∧ HoldsBits data n d₁ :=
    infraredDecodeSamples_stopMark hpulse.separable hpulse.decodeBits data hle hpwm d _
  have haccepted := hinterpret d₁.toInfraredPayload hholds.databitCnt hholds.collected
  rw [infraredReceive]
  cases pauses with
  | nil =>
    have hready := infraredCommonDecoderCheckReady_accepted (hholds.databitCnt ▸ hmem) haccepted
    rw [hframe]
    simp only [List.flatMap_nil, infraredDecodeSamples, Except.map, hready]
    rfl
  | cons pause pauses =>
    obtain ⟨⟨hmin, hmax⟩, hrest⟩ := List.forall_mem_cons.mp hpauses
    obtain ⟨d₂, hsplit, hpause⟩ := infraredCommonDecode_split hstate hempty hlevel hholds hmem hmin
      haccepted
    obtain ⟨d₃, hnext, hrepeat⟩ := hpause.rest hmin hmax (pauses.flatMap repeatFrame)
    obtain ⟨d₄, hcnt, hrepeats⟩ := hnext.frames hrest
    have hnone := @infraredCommonDecoderCheckReady_none infraredProtocolNec.toInfraredDecoderSpec d₄
      (hcnt.symm ▸ (by decide : 0 ∉ infraredProtocolNec.databitLen))
    rw [hframe, List.flatMap_cons]
    show ((infraredDecodeSamples _ d₁ (⟨false, pause⟩ :: ⟨true, 9000⟩ :: ⟨false, 2250⟩ ::
      ⟨true, 560⟩ :: pauses.flatMap repeatFrame)).map _) = _
    rw [infraredDecodeSamples_some hsplit, hrepeat, hrepeats]
    simp only [Except.map, hnone, Option.toList_none, List.append_nil, List.length_cons,
      List.replicate_succ]

/-- The frame of a message and `r` repeat sequences after it: they are received as the message and
as many repetitions of it, and the pause between them is what the frame leaves of the period and
splits. -/
def NecRepeats (m received : InfraredMessage) (e : InfraredCommonEncoder)
    (d : InfraredCommonDecoder) (r : Nat) : Prop :=
  ∃ e₀ frame e₁ repeats pause,
    infraredEncoderNecReset e m = some e₀ ∧
    encodeFrameTo (infraredCommonEncode infraredProtocolNec) frameTimings e₀ = some (frame, e₁) ∧
    encodeFrames (infraredCommonEncode infraredProtocolNec) frameTimings r e₁ = some repeats ∧
    (infraredCommonEncode infraredProtocolNec e₁).2.1 = ⟨false, pause⟩ ∧
    totalTime (frame.drop 1) + pause = 110000 ∧ infraredTimingsNec.minSplitTime < pause ∧
    infraredReceive infraredProtocolNec.toInfraredDecoderSpec d (mergeSamples (frame ++ repeats)) =
      .ok (received :: List.replicate r { received with repeat_ := true })

section

variable {m received : InfraredMessage} {e e₀ : InfraredCommonEncoder} {data : Nat → Nat} {n : Nat}

/-- The samples are determined by the message, and what is received by the samples. -/
lemma NecRepeats.unique {a b : InfraredMessage} {d : InfraredCommonDecoder} {r : Nat}
    (ha : NecRepeats m a e d r) (hb : NecRepeats m b e d r) : a = b := by
  obtain ⟨e₀, frame, e₁, repeats, pause, hreset, hframe, hrepeats, -, -, -, hreceive⟩ := ha
  obtain ⟨e₀', frame', e₁', repeats', pause', hreset', hframe', hrepeats', -, -, -, hreceive'⟩ := hb
  cases hreset.symm.trans hreset'
  cases hframe.symm.trans hframe'
  cases hrepeats.symm.trans hrepeats'
  cases hreceive.symm.trans hreceive'
  rfl

lemma Repeats.pause {sum : Nat} (h : Repeats n 0 sum e) :
    (infraredCommonEncode infraredProtocolNec e).2.1 = ⟨false, 110000 - sum⟩ := by
  rw [infraredCommonEncode_repeat (j := 0) (i := 0) h.state h.encoded h.sum h.bitsToEncode (by decide)]
  rfl

lemma StartsFrame.repeatsOf (hreset : infraredEncoderNecReset e m = some e₀)
    (h : StartsFrame data n e₀) (hn : 0 < n) (hmem : n ∈ infraredProtocolNec.databitLen)
    (hle : n ≤ 42)
    (hinterpret : ∀ p : InfraredPayload, p.databitCnt = n → Collected data p.data n →
      (infraredDecoderNecInterpret p).1 = true ∧
        (infraredDecoderNecInterpret p).2.message = received)
    (hgap : 4000 + necFrameTime data n < 110000) (d : InfraredCommonDecoder) (r : Nat) :
    NecRepeats m received e d r := by
  obtain ⟨e₁, hframe, hrepeats⟩ := h.repeats hn hle
  let pauses : List Nat := (List.range' 0 r).map (repeatPause (necFrameTime data n))
  have hpauses : ∀ pause ∈ pauses, 4000 < pause ∧ pause < 150000 := by
    intro pause hpause
    obtain ⟨j, -, rfl⟩ := List.mem_map.mp hpause
    rw [repeatPause]
    split_ifs <;> omega
  have hsamples : encodeFrames (infraredCommonEncode infraredProtocolNec) frameTimings r e₁ =
      some (pauses.flatMap repeatFrame) := by
    rw [hrepeats.frames r, List.flatMap_map]
  have hlength : pauses.length = r := by rw [List.length_map, List.length_range']
  refine ⟨e₀, _, e₁, _, _, hreset, hframe, hsamples, hrepeats.pause, ?_, ?_, ?_⟩
  · rw [(necFrame_drop data n).2]
    omega
  · show 4000 < 110000 - necFrameTime data n
    omega
  · rw [mergeSamples_of_alternates (repeatFrames_alternates data n pauses),
      infraredReceive_repeats hmem hle hinterpret hpauses d, hlength]

/-- How many bits a message has, and how many of them are set. -/
lemma infraredEncoderNecReset_ones (h : infraredEncoderNecReset e m = some e₀) :
    e₀.bitsToEncode = 32 ∧ (m.protocol = .nec ∨ m.protocol = .necext) ∨
      e₀.bitsToEncode = 42 ∧ m.protocol = .nec42 ∧ dataOnes e₀.data 42 = 13 + 8 ∨
      e₀.bitsToEncode = 42 ∧ m.protocol = .nec42ext ∧
        dataOnes e₀.data 42 = onesBelow 26 m.address + onesBelow 16 m.command := by
  rw [infraredEncoderNecReset] at h
  cases hprotocol : m.protocol <;> rw [hprotocol] at h <;> cases h
  · exact .inl ⟨rfl, .inl rfl⟩
  · exact .inl ⟨rfl, .inr rfl⟩
  · exact .inr (.inl ⟨rfl, rfl, dataOnes_nec42 ((HoldsWord.storeWord 4 _ 0 _).storeWord_above 4 _)
      (HoldsWord.storeWord 4 _ 4 _)⟩)
  · exact .inr (.inr ⟨rfl, rfl,
      dataOnes_nec42ext ((HoldsWord.storeWord 4 _ 0 _).storeWord_above 4 _)
        (HoldsWord.storeWord 4 _ 4 _)⟩)

lemma necFrameTime_split_iff (h : infraredEncoderNecReset e m = some e₀) :
    4000 + necFrameTime e₀.data e₀.bitsToEncode < 110000 ↔
      (m.protocol = .nec42ext → onesBelow 26 m.address + onesBelow 16 m.command < 40) := by
  have hones : dataOnes e₀.data 32 ≤ 32 := by
    have hle := List.countP_le_length (p := bitAt e₀.data) (l := List.range 32)
    rw [List.length_range] at hle
    exact hle
  rw [necFrameTime]
  rcases infraredEncoderNecReset_ones h with
    ⟨hbits, hprotocol⟩ | ⟨hbits, hprotocol, h42⟩ | ⟨hbits, hprotocol, h42⟩
  · have hno : m.protocol ≠ .nec42ext := by
      rcases hprotocol with hprotocol | hprotocol
      all_goals
        rw [hprotocol]
        decide
    rw [hbits]
    exact iff_of_true (by omega) fun hext => absurd hext hno
  · rw [hbits, h42, hprotocol]
    exact iff_of_true (by decide) nofun
  · rw [hbits, h42]
    constructor
    · intro hgap _
      omega
    · intro hext
      have hlt := hext hprotocol
      omega

lemma infraredEncoderNec_fits {variant : InfraredProtocolVariant}
    (hvariant : infraredProtocolNecGetVariant m.protocol = some variant) (hfits : m.Fits variant) :
    ReadsBack infraredEntryNec m := by
  cases hprotocol : m.protocol <;> rw [hprotocol] at hvariant <;> cases hvariant
  · exact infraredEncoderNec_readsBack hprotocol hfits
  · exact infraredEncoderNec_readsBack_ext hprotocol hfits
  · exact infraredEncoderNec_readsBack_42 hprotocol hfits
  · exact infraredEncoderNec_readsBack_42ext hprotocol hfits

lemma necRepeats_iff {variant : InfraredProtocolVariant}
    (hvariant : infraredProtocolNecGetVariant m.protocol = some variant) (hfits : m.Fits variant)
    (e : InfraredCommonEncoder) (d : InfraredCommonDecoder) (r : Nat) :
    NecRepeats m m.received e d r ↔
      (m.protocol = .nec42ext → onesBelow 26 m.address + onesBelow 16 m.command < 40) := by
  obtain ⟨e₀, data, n, hreset, hstarts, hmem, hpos, hle, hinterpret⟩ :=
    infraredEncoderNec_fits hvariant hfits e
  rw [← necFrameTime_split_iff hreset, hstarts.bitsToEncode, hstarts.data]
  constructor
  · rintro ⟨e₀', frame, e₁, repeats, pause, hreset', hframe, -, hpause, hsum, hsplit, -⟩
    cases hreset.symm.trans hreset'
    obtain ⟨e₂, hframe', hrepeats⟩ := hstarts.repeats hpos hle
    cases hframe.symm.trans hframe'
    have hshort : 4000 < pause := hsplit
    rw [(necFrame_drop data n).2] at hsum
    omega
  · intro hgap
    exact hstarts.repeatsOf hreset hpos hmem hle hinterpret hgap d r

/-- A held key: the message is received and then repeated, in the form in which its bits are read,
as long as the bits of an extended message of 42 bits are not nearly all set. -/
theorem necRepeats {variant : InfraredProtocolVariant}
    (hvariant : infraredProtocolNecGetVariant m.protocol = some variant) (hfits : m.Fits variant)
    (hsplits : m.protocol = .nec42ext → onesBelow 26 m.address + onesBelow 16 m.command < 40)
    (e : InfraredCommonEncoder) (d : InfraredCommonDecoder) (r : Nat) :
    NecRepeats m m.received e d r :=
  (necRepeats_iff hvariant hfits e d r).mpr hsplits

end

/-- An extended message of 42 bits, 39 of which are set. -/
theorem necRepeats_39 :
    NecRepeats ⟨.nec42ext, 0x3FFFFFF, 0x1FFF, false⟩ ⟨.nec42ext, 0x3FFFFFF, 0x1FFF, false⟩
      infraredCommonEncoderAlloc infraredCommonDecoderAlloc 3 :=
  @necRepeats ⟨.nec42ext, 0x3FFFFFF, 0x1FFF, false⟩ ⟨26, 16⟩ rfl (by constructor <;> decide)
    (fun _ => by decide) infraredCommonEncoderAlloc infraredCommonDecoderAlloc 3

/-- An extended message whose bytes are inverses comes back as a plain one, and behind one with all
of its 42 bits set the pause is 1440, which does not split. -/
theorem not_necRepeats :
    ((⟨.necext, 0xFB04, 0xF708, false⟩ : InfraredMessage).Fits ⟨16, 16⟩ ∧
      ¬NecRepeats ⟨.necext, 0xFB04, 0xF708, false⟩ ⟨.necext, 0xFB04, 0xF708, false⟩
        infraredCommonEncoderAlloc infraredCommonDecoderAlloc 1) ∧
    (⟨.nec42ext, 0x3FFFFFF, 0xFFFF, false⟩ : InfraredMessage).Fits ⟨26, 16⟩ ∧
      ¬NecRepeats ⟨.nec42ext, 0x3FFFFFF, 0xFFFF, false⟩ ⟨.nec42ext, 0x3FFFFFF, 0xFFFF, false⟩
        infraredCommonEncoderAlloc infraredCommonDecoderAlloc 1 := by
  have hplain : (⟨.necext, 0xFB04, 0xF708, false⟩ : InfraredMessage).Fits ⟨16, 16⟩ := by
    constructor <;> decide
  have hdense : (⟨.nec42ext, 0x3FFFFFF, 0xFFFF, false⟩ : InfraredMessage).Fits ⟨26, 16⟩ := by
    constructor <;> decide
  refine ⟨⟨hplain, fun h => ?_⟩, hdense, fun h => ?_⟩
  · have hread := (necRepeats_iff rfl hplain infraredCommonEncoderAlloc infraredCommonDecoderAlloc
      1).mpr nofun
    exact absurd (h.unique hread) (by decide)
  · have hones := (necRepeats_iff rfl hdense infraredCommonEncoderAlloc infraredCommonDecoderAlloc
      1).mp h rfl
    exact absurd hones (by decide)

end FlipperZero
