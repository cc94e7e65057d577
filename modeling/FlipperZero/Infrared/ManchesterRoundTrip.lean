import Mathlib.Data.List.Basic
import FlipperZero.Infrared.ManchesterFrame

/-!
# RC5 and RC6

Both protocols send Manchester code with the high bits of a field first. RC5 has no preamble: its
first bit begins with a space, which arrives together with the silence. RC6 has a toggle bit whose
halves last twice as long. RC5X promises seven bits of command and sends six.
-/

namespace FlipperZero

open Foundation

/-! ### The decoders -/

/-- The halves of all bits of RC5 last equally long. -/
def rc5Times : Nat → Nat := fun _ => 888

/-- The halves of the toggle bit of RC6 last twice as long. -/
def rc6Times : Nat → Nat := fun k => if k = 4 then 888 else 444

lemma infraredProtocolRc5_sends : SendsManchester infraredProtocolRc5 rc5Times := fun _ => rfl

lemma infraredProtocolRc6_sends : SendsManchester infraredProtocolRc6 rc6Times := by
  intro e
  show infraredEncoderRc6EncodeManchester e = _
  rw [infraredEncoderRc6EncodeManchester]
  by_cases htoggle : e.bitsEncoded = 4
  · simp only [htoggle, if_true, rc6Times]
    rfl
  · simp only [htoggle, if_false, rc6Times]
    rfl

lemma infraredTimingsRc5_halfBit : infraredTimingsRc5.HalfBit 888 := by
  constructor <;> decide

lemma infraredTimingsRc6_halfBit : infraredTimingsRc6.HalfBit 444 := by
  constructor <;> decide

lemma infraredProtocolRc5_takes :
    TakesManchester infraredProtocolRc5.toInfraredDecoderSpec rc5Times 14 where
  next h hk :=
    have hspec : DecodesManchester infraredProtocolRc5.toInfraredDecoderSpec true _ :=
      fun _ _ _ _ => rfl
    hspec.between infraredTimingsRc5_halfBit h hk
  last h hk hbit :=
    have hspec : DecodesManchester infraredProtocolRc5.toInfraredDecoderSpec true _ :=
      fun _ _ _ _ => rfl
    hspec.last infraredTimingsRc5_halfBit h hk hbit

lemma infraredProtocolRc6_plain {k : Nat} (hk : k ≠ 3 ∧ k ≠ 4) :
    DecodesManchester infraredProtocolRc6.toInfraredDecoderSpec false k := by
  intro b level timing hcnt
  have h4 : b.databitCnt ≠ 4 := fun h => hk.1 (Nat.succ_injective (hcnt.symm.trans h))
  have h5 : b.databitCnt ≠ 5 := fun h => hk.2 (Nat.succ_injective (hcnt.symm.trans h))
  show infraredDecoderRc6DecodeManchester _ b level timing = _
  rw [infraredDecoderRc6DecodeManchester, if_neg h4, if_neg h5]
  rfl

section

variable {data : Nat → Nat} {level : Bool} {b : InfraredDatabits}

lemma accumulateLsb_toggle (hcnt : b.databitCnt = 4) (hinside : b.switchDetect = true) (bit : Bool) :
    { b with
      databitCnt := b.databitCnt + 1
      data := fun i => if i = 0 then b.data 0 ||| bit.toNat <<< 4 else b.data i } =
      accumulateLsb { b with switchDetect := true } bit := by
  rcases b with ⟨inside, cnt, data⟩
  subst hcnt hinside
  simp only [accumulateLsb, InfraredDatabits.mk.injEq, true_and]
  funext i
  cases bit <;> simp

/-- The first half of the toggle bit: a single timing is only the second half of the bit before
it, which has the level of the toggle bit. -/
lemma infraredDecoderRc6_toggle (h : InBit data 3 level b) (bit : Bool) {timing : Nat}
    (htiming : timing = 444 ∨ timing = 444 + 888) :
    infraredProtocolRc6.decode b bit timing =
      (.ok, accumulateLsb { b with switchDetect := true }
        (if timing = 444 then !bit else bit)) := by
  rw [← accumulateLsb_toggle h.databitCnt h.switchDetect]
  show infraredDecoderRc6DecodeManchester _ b bit timing = _
  rw [infraredDecoderRc6DecodeManchester, if_pos h.databitCnt]
  rcases htiming with rfl | rfl
  · rfl
  · rfl

lemma infraredDecoderRc6_middle (hcnt : b.databitCnt = 5) (bit : Bool) :
    infraredProtocolRc6.decode b bit 888 = (.ok, b) := by
  have hne : ¬b.databitCnt = 4 := by
    rw [hcnt]
    decide
  show infraredDecoderRc6DecodeManchester _ b bit 888 = _
  rw [infraredDecoderRc6DecodeManchester, if_neg hne, if_pos hcnt]
  rfl

lemma infraredDecoderRc6_afterToggle (hcnt : b.databitCnt = 5) (bit : Bool) {timing : Nat}
    (htiming : timing = 444 ∨ timing = 888 + 444) :
    infraredProtocolRc6.decode b bit timing =
      (.ok, accumulateLsb { b with switchDetect := true } bit) := by
  have hne : ¬b.databitCnt = 4 := by
    rw [hcnt]
    decide
  have henter : infraredCommonDecodeManchester infraredTimingsRc6 false 21
      { b with switchDetect := false } bit 444 =
        (.ok, accumulateLsb { b with switchDetect := true } bit) :=
    infraredCommonDecodeManchester_enter (b := { b with switchDetect := false })
      infraredTimingsRc6_halfBit rfl (.inl rfl) (show 21 ≠ b.databitCnt by rw [hcnt]; decide) bit
  show infraredDecoderRc6DecodeManchester _ b bit timing = _
  rw [infraredDecoderRc6DecodeManchester, if_neg hne, if_pos hcnt]
  rcases htiming with rfl | rfl
  · exact henter
  · exact henter

lemma infraredProtocolRc6_toggle (h : InBit data 3 level b) :
    ∃ level' b', Takes infraredProtocolRc6.toInfraredDecoderSpec level b
      (runsBetween (bitAt data 3, 444) (bitAt data 4, 888)) level' b' ∧
      InBit data 4 level' b' := by
  have hother : ∀ bit : Bool, bit ≠ !bit := by decide
  have hlongest : infraredProtocolRc6.longest ≠ b.databitCnt := by
    rw [h.databitCnt]
    decide
  have hle : (accumulateLsb { b with switchDetect := true } (bitAt data 4)).databitCnt ≤
      infraredProtocolRc6.longest := by
    rw [accumulateLsb_databitCnt, h.databitCnt]
    decide
  refine ⟨_, _, ?_, h.accumulate⟩
  rw [runsBetween, h.level]
  by_cases hsame : bitAt data 4 = bitAt data 3
  · have hfirst := infraredDecoderRc6_toggle h (!bitAt data 3) (.inl rfl)
    rw [if_pos rfl, Bool.not_not, ← hsame] at hfirst
    have hmiddle := infraredDecoderRc6_middle (congrArg (· + 1) h.databitCnt)
      (b := accumulateLsb { b with switchDetect := true } (bitAt data 4)) (bitAt data 4)
    have hlongest' : infraredProtocolRc6.longest ≠
        (accumulateLsb { b with switchDetect := true } (bitAt data 4)).databitCnt := by
      rw [accumulateLsb_databitCnt, h.databitCnt]
      decide
    rw [if_pos hsame, ← hsame]
    exact .cons (hother _) (fun _ => ⟨(by decide : 444 ≤ 2700), hlongest⟩) hfirst hle
      (.cons (hother _).symm (fun _ => ⟨(by decide : 888 ≤ 2700), hlongest'⟩) hmiddle hle (.nil _ _))
  · have hswitch : bitAt data 4 = !bitAt data 3 := Bool.eq_not.mpr hsame
    have hfirst := infraredDecoderRc6_toggle h (!bitAt data 3) (.inr rfl)
    rw [if_neg (by decide), ← hswitch] at hfirst
    rw [if_neg hsame, ← hswitch]
    exact .cons (hswitch ▸ hother _) (fun _ => ⟨(by decide : 444 + 888 ≤ 2700), hlongest⟩) hfirst hle (.nil _ _)

lemma infraredProtocolRc6_afterToggle (h : InBit data 4 level b) :
    ∃ level' b', Takes infraredProtocolRc6.toInfraredDecoderSpec level b
      (runsBetween (bitAt data 4, 888) (bitAt data 5, 444)) level' b' ∧
      InBit data 5 level' b' := by
  have hother : ∀ bit : Bool, bit ≠ !bit := by decide
  have hlongest : infraredProtocolRc6.longest ≠ b.databitCnt := by
    rw [h.databitCnt]
    decide
  have hle : b.databitCnt + 1 ≤ infraredProtocolRc6.longest := by
    rw [h.databitCnt]
    decide
  refine ⟨_, _, ?_, h.accumulate⟩
  rw [runsBetween, h.level]
  by_cases hsame : bitAt data 5 = bitAt data 4
  · have hmiddle := infraredDecoderRc6_middle h.databitCnt (!bitAt data 4)
    have hnext := infraredDecoderRc6_afterToggle h.databitCnt (bitAt data 5) (.inl rfl)
    rw [if_pos hsame]
    rw [hsame] at hnext ⊢
    exact .cons (hother _) (fun _ => ⟨(by decide : 888 ≤ 2700), hlongest⟩) hmiddle (Nat.le_of_succ_le hle)
      (.cons (hother _).symm (fun _ => ⟨(by decide : 444 ≤ 2700), hlongest⟩) hnext hle (.nil _ _))
  · have hswitch : bitAt data 5 = !bitAt data 4 := Bool.eq_not.mpr hsame
    have hnext := infraredDecoderRc6_afterToggle h.databitCnt (bitAt data 5) (.inr rfl)
    rw [if_neg hsame, ← hswitch]
    exact .cons (hswitch ▸ hother _) (fun _ => ⟨(by decide : 888 + 444 ≤ 2700), hlongest⟩) hnext hle (.nil _ _)

end

lemma infraredProtocolRc6_takes :
    TakesManchester infraredProtocolRc6.toInfraredDecoderSpec rc6Times 21 where
  next {data k level b} h hk := by
    by_cases h3 : k = 3
    · subst h3
      exact infraredProtocolRc6_toggle h
    · by_cases h4 : k = 4
      · subst h4
        exact infraredProtocolRc6_afterToggle h
      · have htime : rc6Times k = 444 := if_neg h4
        have htime' : rc6Times (k + 1) = 444 := if_neg fun h => h3 (Nat.succ_injective h)
        rw [htime, htime']
        exact (infraredProtocolRc6_plain ⟨h3, h4⟩).between infraredTimingsRc6_halfBit h hk
  last {data k level b} h hk hbit := by
    obtain rfl : k = 20 := Nat.succ_injective hk
    exact (infraredProtocolRc6_plain (by decide)).last infraredTimingsRc6_halfBit h hk hbit

/-! ### Frames -/

lemma encodeFrame_congr {encode : InfraredEncode} {e e' : InfraredCommonEncoder}
    (h : encode e = encode e') (fuel : Nat) :
    encodeFrame encode fuel e = encodeFrame encode fuel e' := by
  cases fuel with
  | zero => rfl
  | succ fuel => simp only [encodeFrame, h]

section

variable {data : Nat → Nat}

lemma infraredProtocolRc5_frame {e : InfraredCommonEncoder} (h : StartsFrame data 14 e) :
    encodeFrame (infraredCommonEncode infraredProtocolRc5) frameTimings e =
      some (⟨false, 27000⟩ :: ⟨bitAt data 0, 888⟩ ::
        halvesAfter (bitAt data 0, 888) (timedBits data rc5Times 1 13)) := by
  obtain ⟨hstate, htimings, hbits, hton, hdata⟩ := h
  let e₁ : InfraredCommonEncoder := { e with state := .preamble, timingsEncoded := 1, timingsSum := 0 }
  have hsilence : infraredCommonEncode infraredProtocolRc5 e = (.ok, ⟨false, 27000⟩, e₁) := by
    simp only [infraredCommonEncode, hstate, htimings]
    rfl
  have hencode : infraredCommonEncode infraredProtocolRc5 e₁ =
      infraredCommonEncode infraredProtocolRc5 { e₁ with state := .encode } := rfl
  have hsends : SendsHalf data (0 + 1 + 13) 0 false { e₁ with state := .encode } :=
    ⟨rfl, rfl, hbits, hton, hdata⟩
  have hframe := hsends.frame infraredProtocolRc5_sends 13 171
  rw [← encodeFrame_congr hencode] at hframe
  exact encodeFrame_ok hsilence hframe

lemma infraredProtocolRc6_frame {e : InfraredCommonEncoder} (h : StartsFrame data 21 e) :
    encodeFrame (infraredCommonEncode infraredProtocolRc6) frameTimings e =
      some (⟨false, 27000⟩ :: ⟨true, 2666⟩ :: ⟨false, 889⟩ :: ⟨bitAt data 0, 444⟩ ::
        halvesAfter (bitAt data 0, 444) (timedBits data rc6Times 1 20)) := by
  have hmark : infraredProtocolRc6.timings.preambleMark ≠ 0 := by decide
  obtain ⟨e', he', hpreamble⟩ := h.preamble (by decide) hmark .stopMark
  have hsends : SendsHalf data (0 + 1 + 20) 0 false e' := by
    refine ⟨he'.state, decide_eq_false ?_, he'.bitsEncoded, he'.bitsToEncode, he'.data⟩
    rw [he'.odd]
    decide
  have hframe := hsends.frame infraredProtocolRc6_sends 20 155
  exact hpreamble 197 _ hframe

lemma infraredProtocolRc5_silence (d : InfraredCommonDecoder) (duration : Nat) :
    ∃ d', StartsBits d' ∧ ∀ samples,
      infraredDecodeSamples infraredProtocolRc5.toInfraredDecoderSpec
          (infraredCommonDecoderReset infraredProtocolRc5.toInfraredDecoderSpec d)
          (⟨false, duration⟩ :: samples) =
        infraredDecodeSamples infraredProtocolRc5.toInfraredDecoderSpec d' samples := by
  obtain ⟨d', hsilence, hstarts⟩ := @infraredCommonDecode_silence
    infraredProtocolRc5.toInfraredDecoderSpec duration StartsBits (fun d hstate hempty hlevel => by
      let next : InfraredCommonDecoder := { d with
        level := false, timings := [], state := .decode, databitCnt := 0, switchDetect := false }
      refine ⟨next, ?_, rfl, rfl, rfl, rfl, rfl⟩
      have hne : ¬d.level = false := by
        rw [hlevel]
        decide
      have hlen : d.timings.length < infraredTimingsSize := by
        rw [hempty]
        exact Nat.succ_pos _
      rw [infraredCommonDecode, if_neg hne]
      let held : InfraredCommonDecoder := { d with level := false, timings := [duration] }
      have hcheck : infraredCheckPreamble infraredProtocolRc5.toInfraredDecoderSpec held =
          (true, { held with timings := [] }) := by
        have hspace : ¬held.frontLevel = true := by
          show ¬infraredFrontLevel false 1 = true
          decide
        rw [infraredCheckPreamble, if_neg (List.cons_ne_nil duration []), if_neg hspace]
        rfl
      refine infraredStoreAndDecode_again (s := (false, next)) hlen ?_ ?_
      · rw [hempty]
        exact infraredCommonDecodeRound_preamble (d := held) hstate hcheck
      · rw [@infraredCommonDecodeRound_of_decode infraredProtocolRc5.toInfraredDecoderSpec false
          next rfl]
        rfl) d
  exact ⟨d', hstarts, fun samples => infraredDecodeSamples_none hsilence⟩

/-- The first timing of a protocol that starts from a space is decoded as if its first bit had
begun. -/
lemma infraredCommonDecodeManchester_fake {timings : InfraredTimings} {longest timing : Nat}
    {b b₁ : InfraredDatabits} {level : Bool} (hcnt : b.databitCnt = 0)
    (h : infraredCommonDecodeManchester timings true longest
      (accumulateLsb { b with switchDetect := true } false) level timing = (.ok, b₁)) :
    infraredCommonDecodeManchester timings true longest b level timing = (.ok, b₁) := by
  rw [infraredCommonDecodeManchester] at h ⊢
  by_cases herror : (!matchTiming timing timings.bit1Mark timings.bitTolerance &&
      !matchTiming timing (2 * timings.bit1Mark) timings.bitTolerance) = true
  · rw [if_pos herror] at h
    cases h
  · rw [if_neg herror] at h ⊢
    simp only [accumulateLsb_databitCnt, hcnt] at h ⊢
    exact h

/-- RC5 takes the first timing behind the silence as one from inside the first bit. -/
lemma Takes.fake {b b' : InfraredDatabits} {samples : List InfraredSample} {level level' : Bool}
    (h : Takes infraredProtocolRc5.toInfraredDecoderSpec level
      (accumulateLsb { b with switchDetect := true } false) samples level' b')
    (hcnt : b.databitCnt = 0) (hne : b'.databitCnt ≠ 1) :
    Takes infraredProtocolRc5.toInfraredDecoderSpec level b samples level' b' := by
  cases h with
  | nil => exact absurd (congrArg (· + 1) hcnt) hne
  | @cons _ _ _ b₁ _ sample samples hlevel hspace hdecode hle h =>
    have hdecode' : infraredProtocolRc5.decode b sample.level sample.duration = (.ok, b₁) :=
      infraredCommonDecodeManchester_fake hcnt hdecode
    refine .cons hlevel (fun hlow => ⟨(hspace hlow).1, ?_⟩) hdecode' hle h
    rw [hcnt]
    decide

lemma infraredProtocolRc5_holds (hfirst : bitAt data 0 = false) (d : InfraredCommonDecoder)
    (duration : Nat) :
    ∃ d', HoldsFrame data 14 d' ∧ ∀ tail,
      infraredDecodeSamples infraredProtocolRc5.toInfraredDecoderSpec
          (infraredCommonDecoderReset infraredProtocolRc5.toInfraredDecoderSpec d)
          (⟨false, duration⟩ ::
            runsAfter (bitAt data 0, 888) (timedBits data rc5Times 1 13) ++ tail) =
        infraredDecodeSamples infraredProtocolRc5.toInfraredDecoderSpec d' tail := by
  obtain ⟨d₁, hstarts, hsilence⟩ := infraredProtocolRc5_silence d duration
  have hbit := @InBit.first d₁.toInfraredDatabits data hstarts.databitCnt
  rw [hfirst] at hbit
  obtain ⟨b', htakes, hcnt, hcollected⟩ := infraredProtocolRc5_takes.frame 13 hbit rfl
  have hne : b'.databitCnt ≠ 1 := by
    rw [hcnt]
    decide
  obtain ⟨d', hrun, hstate, hempty, hlevel, hbits⟩ := (htakes.fake hstarts.databitCnt hne).decodeSamples
    (by decide) hstarts.state hstarts.timings hstarts.level rfl
  refine ⟨d', ⟨hstate, hempty, hlevel, hbits ▸ hcnt, hbits ▸ hcollected⟩, fun tail => ?_⟩
  rw [List.cons_append, hsilence]
  exact hrun tail

lemma infraredProtocolRc6_holds (hfirst : bitAt data 0 = true) (d : InfraredCommonDecoder) :
    ∃ d', HoldsFrame data 21 d' ∧ ∀ tail,
      infraredDecodeSamples infraredProtocolRc6.toInfraredDecoderSpec
          (infraredCommonDecoderReset infraredProtocolRc6.toInfraredDecoderSpec d)
          (⟨false, 27000⟩ :: ⟨true, 2666⟩ :: ⟨false, 889⟩ :: ⟨bitAt data 0, 444⟩ ::
            runsAfter (bitAt data 0, 444) (timedBits data rc6Times 1 20) ++ tail) =
        infraredDecodeSamples infraredProtocolRc6.toInfraredDecoderSpec d' tail := by
  obtain ⟨d₁, hstarts, hpreamble⟩ := @infraredDecodeSamples_start
    infraredProtocolRc6.toInfraredDecoderSpec (by decide) (by decide) (by decide) d
  have hbit := @InBit.first d₁.toInfraredDatabits data hstarts.databitCnt
  obtain ⟨b', htakes, hcnt, hcollected⟩ := infraredProtocolRc6_takes.frame 20 hbit rfl
  have henter : infraredProtocolRc6.decode d₁.toInfraredDatabits (bitAt data 0) 444 =
      (.ok, accumulateLsb { d₁.toInfraredDatabits with switchDetect := true } (bitAt data 0)) := by
    have h4 : ¬d₁.databitCnt = 4 := by
      rw [hstarts.databitCnt]
      decide
    have h5 : ¬d₁.databitCnt = 5 := by
      rw [hstarts.databitCnt]
      decide
    show infraredDecoderRc6DecodeManchester 21 d₁.toInfraredDatabits _ 444 = _
    rw [infraredDecoderRc6DecodeManchester, if_neg h4, if_neg h5]
    exact infraredCommonDecodeManchester_enter infraredTimingsRc6_halfBit hstarts.switchDetect
      (.inl rfl) (by rw [hstarts.databitCnt]; decide) _
  have hall : Takes infraredProtocolRc6.toInfraredDecoderSpec false d₁.toInfraredDatabits
      (⟨bitAt data 0, 444⟩ ::
        runsAfter (bitAt data 0, 444) (timedBits data rc6Times 1 20)) true b' := by
    refine .cons ?_ ?_ henter ?_ htakes
    · rw [hfirst]
      exact Bool.false_ne_true
    · rw [hfirst]
      exact nofun
    · rw [accumulateLsb_databitCnt, hstarts.databitCnt]
      decide
  obtain ⟨d', hrun, hstate, hempty, hlevel, hbits⟩ := hall.decodeSamples
    (by decide) hstarts.state hstarts.timings hstarts.level rfl
  refine ⟨d', ⟨hstate, hempty, hlevel, hbits ▸ hcnt, hbits ▸ hcollected⟩, fun tail => ?_⟩
  rw [← hrun tail]
  exact hpreamble _

end

/-! ### Fields -/

lemma reverseByte_mod (x : Nat) : reverseByte (x % 256) = reverseByte x := by
  rw [reverseByte, reverseByte]
  apply List.foldl_ext
  intro r i hi
  have hbit : (x % 256).testBit i = x.testBit i := by
    rw [show 256 = 2 ^ 8 from rfl, Nat.testBit_mod_two_pow,
      decide_eq_true (List.mem_range.mp hi), Bool.true_and]
  rw [hbit]

lemma reverseByte_reverseByte : ∀ x < 256, reverseByte (reverseByte x) = x ∧ reverseByte x < 256 := by
  decide +kernel

def rc5First (start2 toggle : Bool) (address : Nat) : Nat :=
  1 ||| (if start2 then 2 else 0) ||| (if toggle then 4 else 0) ||| (reverseByte address >>> 3) <<< 3

lemma rc5First_fields : ∀ start2 toggle : Bool, ∀ address < 32,
    rc5First start2 toggle address < 256 ∧ (rc5First start2 toggle address).testBit 0 = true ∧
      (rc5First start2 toggle address).testBit 1 = start2 ∧
      reverseByte (rc5First start2 toggle address) &&& mask 5 = address := by
  decide +kernel

/-- Six bits of a command of RC5, with the bits that have not been received set. -/
lemma rc5Command_field : ∀ command < 128, reverseByte command >>> 2 < 64 ∧
    reverseByte (192 + reverseByte command >>> 2) >>> 2 &&& mask 6 = command % 64 := by
  decide +kernel

/-- Whatever the bytes of the encoder that are not cleared are, they are above the message. -/
lemma loadWord_above {data : Nat → Nat} {k : Nat} (h : ∀ i < k, data i = 0) :
    ∃ rest, loadWord 4 data 0 = rest <<< (8 * k) := by
  have hzero : loadWord 4 data 0 % 2 ^ (8 * k) = 0 :=
    loadWord_mod_eq_zero 4 fun i hi => (Nat.zero_add i).symm ▸ h i hi
  refine ⟨loadWord 4 data 0 / 2 ^ (8 * k), ?_⟩
  rw [Nat.shiftLeft_eq]
  exact (Nat.div_mul_cancel (Nat.dvd_of_mod_eq_zero hzero)).symm

lemma or_rotate (x a b c d : Nat) : x ||| a ||| b ||| c ||| d = a ||| b ||| c ||| d ||| x := by
  ac_rfl

lemma rc5_word {start2 toggle : Bool} {address command rest w : Nat} (haddress : address < 32)
    (hcommand : command < 128)
    (hw : w = rest <<< 16 ||| 0x01 ||| (if start2 then 0x02 else 0) |||
      (if toggle then 0x04 else 0) ||| (reverseByte address >>> 3) <<< 3 |||
      (reverseByte command >>> 2) <<< 8) :
    w % 256 = rc5First start2 toggle address ∧ w / 256 % 256 = reverseByte command >>> 2 := by
  have hfirst : rc5First start2 toggle address < 2 ^ 8 :=
    (rc5First_fields start2 toggle address haddress).1
  have hcommand' := (rc5Command_field command hcommand).1
  have hlow : rc5First start2 toggle address + reverseByte command >>> 2 * 2 ^ 8 < 2 ^ 16 := by
    omega
  have hsum : w = rc5First start2 toggle address ||| (reverseByte command >>> 2) <<< 8 |||
      rest <<< 16 := by
    rw [hw, or_rotate (rest <<< 16), rc5First, Nat.or_assoc _ (rest <<< 16),
      Nat.or_comm (rest <<< 16), ← Nat.or_assoc]
  rw [or_shiftLeft hfirst, or_shiftLeft hlow] at hsum
  omega

lemma rc6_word {toggle : Bool} {address command rest w : Nat} (haddress : address < 256)
    (hcommand : command < 256)
    (hw : w = rest <<< 24 ||| 0x01 ||| (if toggle then 0x10 else 0) ||| reverseByte address <<< 5 |||
      reverseByte command <<< 13) :
    w % 2 = 1 ∧ w / 2 % 8 = 0 ∧ w / 2 ^ 5 % 2 ^ 8 = reverseByte address ∧
      w / 2 ^ 13 % 2 ^ 8 = reverseByte command := by
  have haddress' := (reverseByte_reverseByte address haddress).2
  have hcommand' := (reverseByte_reverseByte command hcommand).2
  generalize hstart : (1 ||| if toggle then 16 else 0) = start at hw
  have hcases : start = 1 ∨ start = 17 := by
    cases toggle
    · exact .inl hstart.symm
    · exact .inr hstart.symm
  rw [or_rotate, hstart] at hw
  rw [or_shiftLeft (k := 5) (by omega), or_shiftLeft (k := 13) (by omega),
    or_shiftLeft (k := 24) (by omega)] at hw
  omega

lemma infraredDecoderRc5Interpret_word {p : InfraredPayload} {start2 toggle : Bool}
    {address command : Nat} (haddress : address < 32) (hcommand : command < 128)
    (h0 : p.data 0 = complement 8 (rc5First start2 toggle address))
    (h1 : p.data 1 = complement 8 (reverseByte command >>> 2) % 2 ^ 6) :
    (infraredDecoderRc5Interpret p).1 = true ∧
      ∃ again, (infraredDecoderRc5Interpret p).2.message =
        ⟨if start2 then .rc5 else .rc5x, address, command % 64, again⟩ := by
  obtain ⟨hfirst, hstart, hstart2, hread⟩ := rc5First_fields start2 toggle address haddress
  obtain ⟨hlow, hreadCommand⟩ := rc5Command_field command hcommand
  have hdata0 : complement 8 (p.data 0) = rc5First start2 toggle address := by
    rw [h0, complement_complement]
    exact Nat.mod_eq_of_lt hfirst
  have hdata1 : complement 8 (p.data 1) = 192 + reverseByte command >>> 2 := by
    rw [h1, complement_eight, complement_eight]
    omega
  rw [infraredDecoderRc5Interpret]
  simp only [Nat.zero_lt_two, Nat.one_lt_two, if_true, hdata0, hdata1, hstart, hstart2, hread,
    hreadCommand, InfraredPayload.acceptToggle]
  exact ⟨trivial, _, rfl⟩

lemma infraredDecoderRc6Interpret_word {data : Nat → Nat} {p : InfraredPayload}
    {address command w : Nat} (haddress : address < 256) (hcommand : command < 256)
    (h : Collected data p.data 21) (hword : HoldsWord data 4 0 w) (hstart : w % 2 = 1)
    (hmode : w / 2 % 8 = 0) (hw : w / 2 ^ 5 % 2 ^ 8 = reverseByte address)
    (hw' : w / 2 ^ 13 % 2 ^ 8 = reverseByte command) :
    (infraredDecoderRc6Interpret p).1 = true ∧
      ∃ again, (infraredDecoderRc6Interpret p).2.message = ⟨.rc6, address, command, again⟩ := by
  have hreverse (x : Nat) : reverseByte (x &&& mask 8) = reverseByte x := by
    rw [and_mask]
    exact reverseByte_mod x
  have hf₀ := h.lowField hword (by decide : 1 ≤ 8 * 4) (by decide)
  have hf₁ := h.field hword (by decide : 1 + 3 ≤ 8 * 4) (by decide)
  have hf₂ := h.field hword (by decide : 5 + 8 ≤ 8 * 4) (by decide)
  have hf₃ := h.field hword (by decide : 13 + 8 ≤ 8 * 4) (by decide)
  have hbit : (loadWord 4 p.data 0).testBit 0 = true := by
    rw [and_mask] at hf₀
    have hodd : loadWord 4 p.data 0 % 2 = 1 := hf₀.trans hstart
    rw [Nat.testBit_zero, hodd]
    rfl
  have hzero : loadWord 4 p.data 0 >>> 1 &&& mask 3 = 0 := hf₁.trans hmode
  have haddress' : reverseByte (loadWord 4 p.data 0 >>> 5) = address := by
    rw [← hreverse, hf₂, hw]
    exact (reverseByte_reverseByte address haddress).1
  have hcommand' : reverseByte (loadWord 4 p.data 0 >>> 13) = command := by
    rw [← hreverse, hf₃, hw']
    exact (reverseByte_reverseByte command hcommand).1
  rw [infraredDecoderRc6Interpret]
  simp only [hbit, hzero, haddress', hcommand', decide_true, Bool.and_self, if_true,
    InfraredPayload.acceptToggle]
  exact ⟨trivial, _, rfl⟩

/-! ### Round trips -/

/-- A frame is received as this message, whether the decoder is asked for it or hears a long
silence. -/
def ReceivesFrame (dspec : InfraredDecoderSpec) (d : InfraredCommonDecoder)
    (frame : List InfraredSample) (message : InfraredMessage) : Prop :=
  infraredReceive dspec d (mergeSamples frame) = .ok [message] ∧
    ∀ silence, dspec.timings.minSplitTime < silence →
      infraredReceive dspec d (mergeSamples (frame ++ [⟨false, silence⟩])) = .ok [message]

lemma ReceivesFrame.of_merge {dspec : InfraredDecoderSpec} {d : InfraredCommonDecoder}
    {frame samples : List InfraredSample} {message : InfraredMessage}
    (hmerge : ∀ tail, (∀ duration, mergeSamplesFrom ⟨true, duration⟩ tail =
      ⟨true, duration⟩ :: tail) → mergeSamples (frame ++ tail) = samples ++ tail)
    (h : infraredReceive dspec d samples = .ok [message] ∧
      ∀ silence, dspec.timings.minSplitTime < silence →
        infraredReceive dspec d (samples ++ [⟨false, silence⟩]) = .ok [message]) :
    ReceivesFrame dspec d frame message := by
  constructor
  · have hframe := hmerge [] fun _ => rfl
    rw [List.append_nil, List.append_nil] at hframe
    rw [hframe]
    exact h.1
  · intro silence hsilence
    rw [hmerge [⟨false, silence⟩] fun _ => rfl]
    exact h.2 silence hsilence

lemma infraredEncoderRc5_received {m : InfraredMessage}
    (hprotocol : m.protocol = .rc5 ∨ m.protocol = .rc5x) (haddress : m.address < 32)
    (hcommand : m.command < 128) (e : InfraredCommonEncoder) (d : InfraredCommonDecoder) :
    ∃ e' frame again, infraredEncoderRc5Reset e m = some e' ∧
      encodeFrame infraredEntryRc5.encode frameTimings e' = some frame ∧
      ReceivesFrame infraredProtocolRc5.toInfraredDecoderSpec d frame
        ⟨m.protocol, m.address, m.command % 64, again⟩ := by
  let e₀ := infraredCommonEncoderReset infraredProtocolRc5 e
  obtain ⟨rest, hrest⟩ := @loadWord_above e₀.data 2 fun i hi => if_pos hi
  let w := loadWord 4 e₀.data 0 ||| 0x01 ||| (if m.protocol = .rc5 then 0x02 else 0) |||
    (if e₀.toggleBit then 0x04 else 0) ||| (reverseByte m.address >>> 3) <<< 3 |||
    (reverseByte m.command >>> 2) <<< 8
  let data : Nat → Nat := fun i =>
    if i < 2 then complement 8 (storeWord 4 e₀.data 0 w i) else storeWord 4 e₀.data 0 w i
  have hw : w = rest <<< 16 ||| 0x01 ||| (if decide (m.protocol = .rc5) then 0x02 else 0) |||
      (if e₀.toggleBit then 0x04 else 0) ||| (reverseByte m.address >>> 3) <<< 3 |||
      (reverseByte m.command >>> 2) <<< 8 := by
    simp only [w, hrest, decide_eq_true_eq]
  obtain ⟨hlow, hhigh⟩ := rc5_word haddress hcommand hw
  have hdata0 : data 0 = complement 8 (rc5First (m.protocol = .rc5) e₀.toggleBit m.address) := by
    rw [← hlow]
    exact congrArg (complement 8) ((storeWord_byte (j := 0) (by decide) e₀.data w).trans
      (congrArg (· % 256) (Nat.div_one w)))
  have hdata1 : data 1 = complement 8 (reverseByte m.command >>> 2) := by
    rw [← hhigh]
    exact congrArg (complement 8) (storeWord_byte (j := 1) (by decide) e₀.data w)
  have hfirst : bitAt data 0 = false := by
    show (data 0).testBit 0 = false
    rw [hdata0, testBit_complement (by decide), (rc5First_fields _ _ _ haddress).2.1]
    rfl
  obtain ⟨d', hholds, hrun⟩ := infraredProtocolRc5_holds hfirst d (27000 + 888)
  obtain ⟨haccepted, again, hmessage⟩ := @infraredDecoderRc5Interpret_word d'.toInfraredPayload
    (m.protocol = .rc5) e₀.toggleBit _ _ haddress hcommand (by
      rw [hholds.bits.collected 0 (by decide), hdata0]
      exact Nat.mod_eq_of_lt (complement_lt 8 _)) (by
      rw [hholds.bits.collected 1 (by decide), hdata1]
      rfl)
  have hsame : (if decide (m.protocol = .rc5) then InfraredProtocol.rc5 else .rc5x) = m.protocol := by
    rcases hprotocol with heq | heq
    · rw [heq]
      rfl
    · rw [heq]
      rfl
  rw [hsame] at hmessage
  refine ⟨_, _, again, rfl, infraredProtocolRc5_frame ⟨rfl, rfl, rfl, rfl, rfl⟩, ?_⟩
  refine .of_merge (fun tail htail => ?_) (hholds.receive (by decide) (by decide) rfl (by decide)
    ⟨haccepted, hmessage⟩ hrun)
  have hmerge := mergeSamplesFrom_halvesAfter htail (bitAt data 0, 888) (timedBits data rc5Times 1 13)
    (27000 + 888)
  rw [hfirst] at hmerge ⊢
  show mergeSamplesFrom ⟨false, 27000⟩ (⟨false, 888⟩ :: (_ ++ tail)) = _
  rw [mergeSamplesFrom, if_pos rfl]
  exact hmerge

lemma infraredEncoderRc6_received {m : InfraredMessage} (haddress : m.address < 256)
    (hcommand : m.command < 256) (e : InfraredCommonEncoder) (d : InfraredCommonDecoder) :
    ∃ e' frame again, infraredEncoderRc6Reset e m = some e' ∧
      encodeFrame infraredEntryRc6.encode frameTimings e' = some frame ∧
      ReceivesFrame infraredProtocolRc6.toInfraredDecoderSpec d frame
        ⟨.rc6, m.address, m.command, again⟩ := by
  let e₀ := infraredCommonEncoderReset infraredProtocolRc6 e
  obtain ⟨rest, hrest⟩ := @loadWord_above e₀.data 3 fun i hi => if_pos hi
  let w := loadWord 4 e₀.data 0 ||| 0x01 ||| (if e₀.toggleBit then 0x10 else 0) |||
    reverseByte m.address <<< 5 ||| reverseByte m.command <<< 13
  let data : Nat → Nat := storeWord 4 e₀.data 0 w
  have hw : w = rest <<< 24 ||| 0x01 ||| (if e₀.toggleBit then 0x10 else 0) |||
      reverseByte m.address <<< 5 ||| reverseByte m.command <<< 13 := by
    simp only [w, hrest]
  obtain ⟨hstart, hmode, hreadAddress, hreadCommand⟩ := rc6_word haddress hcommand hw
  have hword : HoldsWord data 4 0 w := HoldsWord.storeWord 4 e₀.data 0 w
  have hfirst : bitAt data 0 = true := by
    have hbit := hword.bitAt (i := 0) (by decide)
    rw [Nat.testBit_zero, hstart] at hbit
    exact hbit
  obtain ⟨d', hholds, hrun⟩ := infraredProtocolRc6_holds hfirst d
  obtain ⟨haccepted, again, hmessage⟩ := infraredDecoderRc6Interpret_word haddress hcommand
    hholds.bits.collected hword hstart hmode hreadAddress hreadCommand
  refine ⟨_, _, again, rfl, infraredProtocolRc6_frame ⟨rfl, rfl, rfl, rfl, rfl⟩, ?_⟩
  refine .of_merge (fun tail htail => ?_) (hholds.receive (by decide) (by decide) rfl (by decide)
    ⟨haccepted, hmessage⟩ hrun)
  have hmerge := mergeSamplesFrom_halvesAfter htail (bitAt data 0, 444) (timedBits data rc6Times 1 20)
    444
  rw [hfirst] at hmerge ⊢
  have hmark : ¬true = false := by decide
  show mergeSamplesFrom ⟨false, 27000⟩ (⟨true, 2666⟩ :: ⟨false, 889⟩ :: ⟨true, 444⟩ :: (_ ++ tail)) = _
  rw [mergeSamplesFrom, if_neg hmark, mergeSamplesFrom, if_neg Bool.false_ne_true,
    mergeSamplesFrom, if_neg hmark]
  exact congrArg _ (congrArg _ (congrArg _ hmerge))

/-- One frame of a message comes back as exactly one message with its protocol, its address and its
command. -/
def ManchesterRoundTrip (entry : InfraredEncoderDecoder) (m : InfraredMessage)
    (e : InfraredCommonEncoder) (d : InfraredCommonDecoder) : Prop :=
  ∃ e' frame message, entry.reset e m = some e' ∧
    encodeFrame entry.encode frameTimings e' = some frame ∧
    ReceivesFrame entry.spec.toInfraredDecoderSpec d frame message ∧
    message.protocol = m.protocol ∧ message.address = m.address ∧ message.command = m.command

section

variable {entry : InfraredEncoderDecoder} {m : InfraredMessage} {e : InfraredCommonEncoder}
  {d : InfraredCommonDecoder}

lemma ManchesterRoundTrip.iff_of_received {e' : InfraredCommonEncoder} {frame : List InfraredSample}
    {message : InfraredMessage} (hreset : entry.reset e m = some e')
    (hframe : encodeFrame entry.encode frameTimings e' = some frame)
    (h : ReceivesFrame entry.spec.toInfraredDecoderSpec d frame message) :
    ManchesterRoundTrip entry m e d ↔ message.protocol = m.protocol ∧
      message.address = m.address ∧ message.command = m.command := by
  constructor
  · rintro ⟨e₁, frame₁, message₁, hreset₁, hframe₁, ⟨hreceive₁, -⟩, hsame⟩
    cases hreset.symm.trans hreset₁
    cases hframe.symm.trans hframe₁
    cases h.1.symm.trans hreceive₁
    exact hsame
  · exact fun hsame => ⟨e', frame, message, hreset, hframe, h, hsame⟩

lemma manchesterRoundTrip_rc5 (hprotocol : m.protocol = .rc5 ∨ m.protocol = .rc5x)
    (haddress : m.address < 32) (hcommand : m.command < 128) :
    ManchesterRoundTrip infraredEntryRc5 m e d ↔ m.command < 64 := by
  obtain ⟨e', frame, again, hreset, hframe, hreceives⟩ :=
    infraredEncoderRc5_received hprotocol haddress hcommand e d
  rw [ManchesterRoundTrip.iff_of_received hreset hframe hreceives]
  constructor
  · rintro ⟨-, -, hsame⟩
    have hmod : m.command % 64 < 64 := Nat.mod_lt _ (by decide)
    rw [← hsame]
    exact hmod
  · intro hlow
    exact ⟨rfl, rfl, Nat.mod_eq_of_lt hlow⟩

lemma manchesterRoundTrip_rc6 (haddress : m.address < 256) (hcommand : m.command < 256)
    (hprotocol : m.protocol = .rc6) : ManchesterRoundTrip infraredEntryRc6 m e d := by
  obtain ⟨e', frame, again, hreset, hframe, hreceives⟩ :=
    infraredEncoderRc6_received haddress hcommand e d
  exact (ManchesterRoundTrip.iff_of_received hreset hframe hreceives).mpr ⟨hprotocol.symm, rfl, rfl⟩

/-- Every message of RC5 and RC6 that fits its variant comes back, with either toggle bit; of
RC5X, just those whose command does not use the last one of the seven bits. -/
theorem manchesterRoundTrip_iff {variant : InfraredProtocolVariant}
    (hprotocol : m.protocol = .rc5 ∨ m.protocol = .rc5x ∨ m.protocol = .rc6)
    (hentry : infraredFindByProtocol m.protocol = some entry)
    (hvariant : entry.getProtocolVariant m.protocol = some variant) (hfits : m.Fits variant) :
    ManchesterRoundTrip entry m e d ↔ (m.protocol = .rc5x → m.command < 64) := by
  obtain ⟨haddress, hcommand⟩ := hfits
  rcases hprotocol with hrc5 | hrc5x | hrc6
  · rw [hrc5] at hentry hvariant ⊢
    cases hentry
    cases hvariant
    rw [manchesterRoundTrip_rc5 (.inl hrc5) haddress (Nat.lt_trans hcommand (by decide))]
    exact iff_of_true hcommand nofun
  · rw [hrc5x] at hentry hvariant ⊢
    cases hentry
    cases hvariant
    rw [manchesterRoundTrip_rc5 (.inr hrc5x) haddress hcommand]
    exact ⟨fun hlow _ => hlow, fun h => h rfl⟩
  · rw [hrc6] at hentry hvariant ⊢
    cases hentry
    cases hvariant
    exact iff_of_true (manchesterRoundTrip_rc6 haddress hcommand hrc6) nofun

end

/-- The toggle bit set, and a command of RC5X of six bits. -/
theorem manchesterRoundTrip_rc5x :
    ManchesterRoundTrip infraredEntryRc5 ⟨.rc5x, 31, 63, false⟩
        { infraredCommonEncoderAlloc with toggleBit := true } infraredCommonDecoderAlloc ↔
      (InfraredProtocol.rc5x = .rc5x → 63 < 64) :=
  @manchesterRoundTrip_iff infraredEntryRc5 ⟨.rc5x, 31, 63, false⟩
    { infraredCommonEncoderAlloc with toggleBit := true } infraredCommonDecoderAlloc ⟨5, 7⟩
    (.inr (.inl rfl)) rfl rfl (by constructor <;> decide)

/-- The last one of the seven bits of a command of RC5X is not sent. -/
theorem not_manchesterRoundTrip_rc5x :
    (⟨.rc5x, 0, 64, false⟩ : InfraredMessage).Fits ⟨5, 7⟩ ∧
      infraredProtocolRc5GetVariant .rc5x = some ⟨5, 7⟩ ∧
      ¬ManchesterRoundTrip infraredEntryRc5 ⟨.rc5x, 0, 64, false⟩ infraredCommonEncoderAlloc
        infraredCommonDecoderAlloc := by
  refine ⟨by constructor <;> decide, rfl, fun h => ?_⟩
  have hlow := (manchesterRoundTrip_rc5 (.inr rfl) (by decide) (by decide)).mp h
  exact absurd hlow (by decide)

end FlipperZero
