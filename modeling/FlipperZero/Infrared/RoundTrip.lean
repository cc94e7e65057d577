import FlipperZero.Infrared.PulseFrame

/-!
# Round trip of infrared messages

A message of a pulse protocol that is encoded, merged and decoded comes back. What is left
after the frames is the packing of each protocol: its encoder writes fields, inverses and
checksums into a word, and its interpreter reads them from the bits that were collected.
-/

namespace FlipperZero

open Foundation

/-! ### Merging -/

/-- The samples after `sample`, with neighbours of the same level merged. -/
def mergeSamplesFrom (sample : InfraredSample) : List InfraredSample → List InfraredSample
  | []          => [sample]
  | next :: samples =>
    if next.level = sample.level then
      mergeSamplesFrom { sample with duration := sample.duration + next.duration } samples
    else sample :: mergeSamplesFrom next samples

/-- `infrared_test_run_encoder_fill_array`: adjacent timings of equal level are merged. -/
def mergeSamples : List InfraredSample → List InfraredSample
  | []                => []
  | sample :: samples => mergeSamplesFrom sample samples

/-- Neighbours differ in their levels. -/
def Alternates (samples : List InfraredSample) : Prop :=
  samples.IsChain fun a b => b.level ≠ a.level

lemma mergeSamples_of_alternates {samples : List InfraredSample} (h : Alternates samples) :
    mergeSamples samples = samples := by
  cases samples with
  | nil => rfl
  | cons sample samples =>
    rw [mergeSamples]
    induction samples generalizing sample with
    | nil => rfl
    | cons next samples ih =>
      rw [Alternates, List.isChain_cons_cons] at h
      rw [mergeSamplesFrom, if_neg h.1, ih next h.2]

lemma Alternates.cons {sample next : InfraredSample} {samples : List InfraredSample}
    (hlevel : next.level ≠ sample.level) (h : Alternates (next :: samples)) :
    Alternates (sample :: next :: samples) :=
  List.isChain_cons_cons.mpr ⟨hlevel, h⟩

lemma Alternates.singleton (sample : InfraredSample) : Alternates [sample] :=
  List.IsChain.singleton _

lemma Alternates.bits (timings : InfraredTimings) {tail : List InfraredSample}
    (htail : ∀ duration, Alternates (⟨false, duration⟩ :: tail)) (bits : List Bool)
    (duration : Nat) :
    Alternates (⟨false, duration⟩ :: (bits.flatMap (bitSamples timings) ++ tail)) := by
  induction bits generalizing duration with
  | nil => exact htail duration
  | cons bit bits ih =>
    rw [List.flatMap_cons, bitSamples, List.append_assoc]
    exact .cons Bool.noConfusion (.cons Bool.false_ne_true (ih _))

lemma pulseFrame_alternates (timings : InfraredTimings) (ending : FrameEnd) (bits : List Bool) :
    Alternates (pulseFrame timings ending bits) := by
  have hmark (mark duration : Nat) : Alternates [⟨false, duration⟩, ⟨true, mark⟩] :=
    .cons Bool.noConfusion (.singleton _)
  refine .cons Bool.noConfusion (.cons Bool.false_ne_true ?_)
  change Alternates (⟨false, timings.preambleSpace⟩ :: bitsFrame timings ending bits)
  cases ending with
  | stopMark => exact Alternates.bits timings (hmark _) bits _
  | lastSpace =>
    have h := Alternates.bits timings (fun _ => .singleton _) bits timings.preambleSpace
    rw [List.append_nil] at h
    exact h
  | lastMark =>
    rcases List.eq_nil_or_concat bits with rfl | ⟨bits, bit, rfl⟩
    · exact .singleton _
    · rw [bitsFrame, List.concat_eq_append, List.flatMap_append, List.flatMap_singleton, bitSamples,
        List.dropLast_append_cons]
      exact Alternates.bits timings (hmark _) bits _

/-! ### Receiving -/

/-- The messages of a decoder that is reset, fed with samples and asked once more. -/
def infraredReceive (spec : InfraredDecoderSpec) (d : InfraredCommonDecoder)
    (samples : List InfraredSample) : Except InfraredFault (List InfraredMessage) :=
  (infraredDecodeSamples spec (infraredCommonDecoderReset spec d) samples).map fun r =>
    r.1 ++ (infraredCommonDecoderCheckReady spec r.2).1.toList

/-- An entry of a pulse protocol, by the way its frames end. -/
structure PulseEntry (entry : InfraredEncoderDecoder) (ending : FrameEnd) : Prop where
  encode : entry.encode = encodeUntil ending entry.spec
  encodeBits : entry.spec.encode = infraredCommonEncodePdwm entry.spec.timings
  decodeBits : entry.spec.decode = infraredCommonDecodePdwm entry.spec.timings
  separable : entry.spec.timings.Separable
  ending : ending = .lastMark ↔ entry.spec.timings.Pwm
  longest : entry.spec.longest ≤ 98

/-- More timings than a frame has; the size of the array of the tests. -/
def frameTimings : Nat := 200

lemma infraredCommonDecoderCheckReady_accepted {dspec : InfraredDecoderSpec} {d : InfraredCommonDecoder}
    {message : InfraredMessage} (hmem : d.databitCnt ∈ dspec.databitLen)
    (hinterpret : (dspec.interpret d.toInfraredPayload).1 = true ∧
      (dspec.interpret d.toInfraredPayload).2.message = message) :
    infraredCommonDecoderCheckReady dspec d =
      (some message,
        { d with
          toInfraredPayload := { (dspec.interpret d.toInfraredPayload).2 with databitCnt := 0 }
          state := if dspec.decodeRepeat.isSome then .processRepeat else .waitPreamble }) := by
  obtain ⟨haccepted, hmessage⟩ := hinterpret
  rcases @infraredCommonDecoderCheckReady_cases dspec d with
    ⟨-, -, heq⟩ | ⟨-, hrejected, -⟩ | ⟨hno, -⟩
  · rw [heq, hmessage]
  · exact absurd (hrejected.symm.trans haccepted) nofun
  · exact absurd hmem hno

lemma infraredCommonDecoderCheckReady_none {dspec : InfraredDecoderSpec} {d : InfraredCommonDecoder}
    (h : d.databitCnt ∉ dspec.databitLen) : infraredCommonDecoderCheckReady dspec d = (none, d) :=
  if_neg (mt List.contains_iff_mem.mp h)

lemma PulseEntry.roundTrip {entry : InfraredEncoderDecoder} {ending : FrameEnd}
    (h : PulseEntry entry ending) {e : InfraredCommonEncoder} {data : Nat → Nat} {n : Nat}
    (he : StartsFrame data n e) (hn : 0 < n) (hmem : n ∈ entry.spec.databitLen)
    (hle : n ≤ entry.spec.longest) {message : InfraredMessage}
    (hinterpret : ∀ p : InfraredPayload, p.databitCnt = n → Collected data p.data n →
      (entry.spec.interpret p).1 = true ∧ (entry.spec.interpret p).2.message = message)
    (d : InfraredCommonDecoder) :
    ∃ frame, encodeFrame entry.encode frameTimings e = some frame ∧
      infraredReceive entry.spec.toInfraredDecoderSpec d (mergeSamples frame) = .ok [message] := by
  refine ⟨pulseFrame entry.spec.timings ending (bitsOf data n), ?_, ?_⟩
  · have hfuel : frameTimings = 196 - 2 * n + 2 * n + 4 := by
      have h98 := Nat.le_trans hle h.longest
      have h200 : frameTimings = 200 := rfl
      omega
    rw [h.encode, hfuel]
    exact encodeFrame_pulseFrame h.separable h.encodeBits he hn h.ending _
  · obtain ⟨d', hd', hcnt, hcollected⟩ := infraredDecodeSamples_pulseFrame h.separable h.decodeBits
      data hn hle h.ending d
    rw [mergeSamples_of_alternates (pulseFrame_alternates _ _ _), infraredReceive, hd']
    have hready := infraredCommonDecoderCheckReady_accepted (hcnt ▸ hmem)
      (hinterpret d'.toInfraredPayload hcnt hcollected)
    simp only [Except.map, hready]
    rfl

/-! ### Fields -/

/-- The data of an encoder holds the word `w` at an index. -/
def HoldsWord (data : Nat → Nat) (m offset w : Nat) : Prop :=
  ∀ j < m, data (offset + j) = w / 2 ^ (8 * j) % 256

lemma HoldsWord.storeWord (m : Nat) (data : Nat → Nat) (offset w : Nat) :
    HoldsWord (storeWord m data offset w) m offset w :=
  fun _ hj => storeWord_byte hj data w

lemma HoldsWord.storeWord_above {data : Nat → Nat} {m offset w : Nat}
    (h : HoldsWord data m offset w) (m' w' : Nat) :
    HoldsWord (Foundation.storeWord m' data (offset + m) w') m offset w := by
  intro j hj
  rw [storeWord_of_lt (Nat.add_lt_add_left hj offset), h j hj]

lemma HoldsWord.bitAt {data : Nat → Nat} {m offset w i : Nat} (h : HoldsWord data m offset w)
    (hi : i < 8 * m) : bitAt data (8 * offset + i) = w.testBit i := by
  have h8 : i % 8 < 8 := Nat.mod_lt _ (by decide)
  have hbyte : (8 * offset + i) / 8 = offset + i / 8 := Nat.mul_add_div (by decide) offset i
  rw [FlipperZero.bitAt, hbyte, Nat.mul_add_mod, h (i / 8) (Nat.div_lt_of_lt_mul hi),
    show 256 = 2 ^ 8 from rfl, Nat.testBit_mod_two_pow, Nat.testBit_div_two_pow, Nat.mod_add_div]
  simp only [h8, decide_true, Bool.true_and]

lemma Collected.wordByte {data collected : Nat → Nat} {n m w j : Nat}
    (h : Collected data collected n) (hword : HoldsWord data m 0 w) (hj : j < m)
    (hn : 8 * j + 8 ≤ n) : collected j = w / 2 ^ (8 * j) % 256 := by
  have hbyte := hword j hj
  rw [Nat.zero_add] at hbyte
  have h256 : w / 2 ^ (8 * j) % 256 < 256 := Nat.mod_lt _ (by decide)
  rw [h.byte hn (hbyte ▸ h256), hbyte]

lemma Collected.field {data collected : Nat → Nat} {n m offset w a b : Nat}
    (h : Collected data collected n) (hword : HoldsWord data m offset w) (hab : a + b ≤ 8 * m)
    (hn : 8 * offset + (a + b) ≤ n) :
    loadWord m collected offset >>> a &&& mask b = w / 2 ^ a % 2 ^ b := by
  rw [← and_mask, ← Nat.shiftRight_eq_div_pow]
  apply shiftRight_and_mask_congr
  apply Nat.eq_of_testBit_eq
  intro i
  rw [Nat.testBit_mod_two_pow, Nat.testBit_mod_two_pow]
  by_cases hi : i < a + b
  · have hbytes : ∀ j < i / 8, collected (offset + j) < 256 := by
      intro j hj
      rw [h _ (by omega)]
      exact Nat.lt_of_lt_of_le (Nat.mod_lt _ (Nat.two_pow_pos _))
        (Nat.pow_le_pow_right (by decide) (Nat.min_le_left _ _) : _ ≤ 2 ^ 8)
    have hbit : i % 8 < min 8 (n - 8 * (offset + i / 8)) := by omega
    have hsum : i % 8 + 8 * (i / 8) = i := Nat.mod_add_div i 8
    have h8 : i % 8 < 8 := Nat.mod_lt _ (by decide)
    rw [testBit_loadWord (by omega) hbytes, h _ (by omega), Nat.testBit_mod_two_pow,
      hword _ (by omega), show 256 = 2 ^ 8 from rfl, Nat.testBit_mod_two_pow,
      Nat.testBit_div_two_pow, hsum]
    simp only [hi, hbit, h8, decide_true, Bool.true_and]
  · simp only [hi, decide_false, Bool.false_and]

lemma Collected.lowField {data collected : Nat → Nat} {n m offset w b : Nat}
    (h : Collected data collected n) (hword : HoldsWord data m offset w) (hab : b ≤ 8 * m)
    (hn : 8 * offset + b ≤ n) : loadWord m collected offset &&& mask b = w % 2 ^ b := by
  have hfield := h.field (a := 0) (b := b) hword (by rwa [Nat.zero_add]) (by rwa [Nat.zero_add])
  rwa [Nat.shiftRight_zero, Nat.pow_zero, Nat.div_one] at hfield

/-! ### What comes back -/

/-- The message as it is read: an extended message whose upper bytes are the inverses of the
lower ones is one of the plain protocol. -/
def InfraredMessage.received (m : InfraredMessage) : InfraredMessage :=
  match m.protocol with
  | .necext =>
    if m.address / 256 = complement 8 m.address ∧ m.command / 256 = complement 8 m.command then
      ⟨.nec, m.address % 256, m.command % 256, false⟩
    else { m with repeat_ := false }
  | .nec42ext =>
    if m.address / 2 ^ 13 = complement 13 m.address ∧
        m.command / 256 = complement 8 m.command then
      ⟨.nec42, m.address % 2 ^ 13, m.command % 256, false⟩
    else { m with repeat_ := false }
  | _ => { m with repeat_ := false }

def InfraredMessage.Fits (m : InfraredMessage) (variant : InfraredProtocolVariant) : Prop :=
  m.address < 2 ^ variant.addressLength ∧ m.command < 2 ^ variant.commandLength

/-- What an entry has to show: its encoder starts a frame from whose bits its interpreter reads
the message. -/
def ReadsBack (entry : InfraredEncoderDecoder) (m : InfraredMessage) : Prop :=
  ∀ e : InfraredCommonEncoder, ∃ e' data n, entry.reset e m = some e' ∧ StartsFrame data n e' ∧
    n ∈ entry.spec.databitLen ∧ 0 < n ∧ n ≤ entry.spec.longest ∧
    ∀ p : InfraredPayload, p.databitCnt = n → Collected data p.data n →
      (entry.spec.interpret p).1 = true ∧ (entry.spec.interpret p).2.message = m.received

lemma PulseEntry.readsBack {entry : InfraredEncoderDecoder} {ending : FrameEnd}
    (h : PulseEntry entry ending) {m : InfraredMessage} (hreads : ReadsBack entry m)
    (e : InfraredCommonEncoder) (d : InfraredCommonDecoder) :
    ∃ e' frame, entry.reset e m = some e' ∧
      encodeFrame entry.encode frameTimings e' = some frame ∧
      infraredReceive entry.spec.toInfraredDecoderSpec d (mergeSamples frame) =
        .ok [m.received] := by
  obtain ⟨e', data, n, hreset, hstarts, hmem, hpos, hle, hinterpret⟩ := hreads e
  obtain ⟨frame, hframe, hreceive⟩ := h.roundTrip hstarts hpos hmem hle hinterpret d
  exact ⟨e', frame, hreset, hframe, hreceive⟩

/-! ### NEC -/

lemma infraredEntryNec_pulse : PulseEntry infraredEntryNec .stopMark where
  encode := rfl
  encodeBits := rfl
  decodeBits := rfl
  separable := by constructor <;> decide
  ending := by decide
  longest := by decide

lemma or_bytes {a b c d : Nat} (ha : a < 256) (hb : b < 256) (hc : c < 256) :
    a ||| b <<< 8 ||| c <<< 16 ||| d <<< 24 = a + b * 256 + c * 65536 + d * 16777216 := by
  rw [or_shiftLeft (k := 8) ha, or_shiftLeft (k := 16) (by omega), or_shiftLeft (k := 24) (by omega)]
  rfl

lemma Collected.bytes32 {data : Nat → Nat} {p : InfraredPayload} {a b c d : Nat}
    (h : Collected data p.data 32)
    (hword : HoldsWord data 4 0 (a + b * 256 + c * 65536 + d * 16777216))
    (ha : a < 256) (hb : b < 256) (hc : c < 256) (hd : d < 256) :
    p.data 0 = a ∧ p.data 1 = b ∧ p.data 2 = c ∧ p.data 3 = d := by
  refine ⟨?_, ?_, ?_, ?_⟩
  · rw [h.wordByte hword (by decide) (by decide)]
    omega
  · rw [h.wordByte hword (by decide) (by decide)]
    omega
  · rw [h.wordByte hword (by decide) (by decide)]
    omega
  · rw [h.wordByte hword (by decide) (by decide)]
    omega

lemma byte_or_rest (x : Nat) : x % 256 ||| (x / 256) <<< 8 = x := by
  have hlow : x % 256 < 2 ^ 8 := Nat.mod_lt _ (Nat.two_pow_pos 8)
  rw [or_shiftLeft hlow]
  exact Nat.mod_add_div' x 256

lemma complement_eight (x : Nat) : complement 8 x = 255 - x % 256 := rfl

lemma complement_thirteen (x : Nat) : complement 13 x = 8191 - x % 8192 := rfl

lemma infraredEncoderNec_readsBack {m : InfraredMessage} (hprotocol : m.protocol = .nec)
    (hfits : m.Fits ⟨8, 8⟩) : ReadsBack infraredEntryNec m := by
  intro e
  obtain ⟨haddress, hcommand⟩ := hfits
  have ha : m.address &&& mask 8 = m.address := by
    rw [and_mask, Nat.mod_eq_of_lt haddress]
  have hc : m.command &&& mask 8 = m.command := by
    rw [and_mask, Nat.mod_eq_of_lt hcommand]
  refine ⟨_, _, 32, by simp only [infraredEntryNec, infraredEncoderNecReset, hprotocol]; rfl,
    ⟨rfl, rfl, rfl, rfl, rfl⟩, by decide, by decide, by decide, ?_⟩
  intro p hcnt hcollected
  rw [ha, hc, or_bytes haddress (complement_lt 8 _) hcommand] at hcollected
  obtain ⟨h0, h1, h2, h3⟩ := hcollected.bytes32 (HoldsWord.storeWord _ _ _ _) haddress
    (complement_lt 8 _) hcommand (complement_lt 8 _)
  simp only [infraredEntryNec, infraredProtocolNec, infraredDecoderNecInterpret, hcnt, h0, h1, h2,
    h3, complement_complement, Nat.mod_eq_of_lt haddress, Nat.mod_eq_of_lt hcommand, if_true,
    decide_true, Bool.and_self, InfraredPayload.accept, InfraredMessage.received, hprotocol,
    true_and]

lemma infraredEncoderNec_readsBack_ext {m : InfraredMessage} (hprotocol : m.protocol = .necext)
    (hfits : m.Fits ⟨16, 16⟩) : ReadsBack infraredEntryNec m := by
  intro e
  have haddress : m.address < 65536 := hfits.1
  have hcommand : m.command < 65536 := hfits.2
  have hword : m.address &&& mask 16 ||| (m.command &&& mask 16) <<< 16 =
      m.address % 256 + m.address / 256 * 256 + m.command % 256 * 65536 +
        m.command / 256 * 16777216 := by
    rw [and_mask, and_mask, or_shiftLeft (Nat.mod_lt _ (Nat.two_pow_pos _))]
    omega
  refine ⟨_, _, 32, by simp only [infraredEntryNec, infraredEncoderNecReset, hprotocol]; rfl,
    ⟨rfl, rfl, rfl, rfl, rfl⟩, by decide, by decide, by decide, ?_⟩
  intro p hcnt hcollected
  rw [hword] at hcollected
  obtain ⟨h0, h1, h2, h3⟩ := hcollected.bytes32 (HoldsWord.storeWord _ _ _ _)
    (Nat.mod_lt _ (by decide)) (by omega) (Nat.mod_lt _ (by decide)) (by omega)
  have hplain : (m.command % 256 = complement 8 (m.command / 256) ∧
        m.address % 256 = complement 8 (m.address / 256)) ↔
      (m.address / 256 = complement 8 m.address ∧ m.command / 256 = complement 8 m.command) := by
    simp only [complement_eight]
    omega
  simp only [infraredEntryNec, infraredProtocolNec, infraredDecoderNecInterpret, hcnt, h0, h1, h2,
    h3, byte_or_rest, if_true, Bool.and_eq_true, decide_eq_true_eq, InfraredPayload.accept,
    InfraredMessage.received, hprotocol, hplain]
  split_ifs <;> exact ⟨rfl, rfl⟩

/-- What the interpreter reads from 42 bits whose words are `w₁` and `w₂`. -/
lemma infraredDecoderNecInterpret_42 {data : Nat → Nat} {p : InfraredPayload}
    {w₁ w₂ : Nat} (address addressInverse command commandInverse : Nat)
    (h : Collected data p.data 42) (hcnt : p.databitCnt = 42) (h₁ : HoldsWord data 4 0 w₁)
    (h₂ : HoldsWord data 4 4 w₂) (ha : w₁ % 8192 = address)
    (ha' : w₁ / 8192 % 8192 = addressInverse)
    (hc : w₁ / 67108864 % 64 + w₂ % 4 * 64 = command) (hc' : w₂ / 4 % 256 = commandInverse) :
    infraredDecoderNecInterpret p =
      if address = complement 13 addressInverse ∧ command = complement 8 commandInverse then
        p.accept .nec42 address command
      else p.accept .nec42ext (address + addressInverse * 8192) (command + commandInverse * 256) := by
  have h₂' : HoldsWord data 2 4 w₂ := fun j hj => h₂ j (Nat.lt_trans hj (by decide))
  have haddress : address < 2 ^ 13 := by omega
  have hcommand : command < 2 ^ 8 := by omega
  have hf₁ := h.lowField h₁ (by decide : 13 ≤ 8 * 4) (by decide)
  have hf₂ := h.field h₁ (by decide : 13 + 13 ≤ 8 * 4) (by decide)
  have hf₃ := h.field h₁ (by decide : 26 + 6 ≤ 8 * 4) (by decide)
  have hf₄ := h.lowField h₂' (by decide : 2 ≤ 8 * 2) (by decide)
  have hf₅ := h.field h₂' (by decide : 2 + 8 ≤ 8 * 2) (by decide)
  have hor : w₁ / 2 ^ 26 % 2 ^ 6 ||| (w₂ % 2 ^ 2) <<< 6 = command := by
    rw [or_shiftLeft (Nat.mod_lt _ (Nat.two_pow_pos 6))]
    exact hc
  have ha₁ : w₁ % 2 ^ 13 = address := ha
  have ha₂ : w₁ / 2 ^ 13 % 2 ^ 13 = addressInverse := ha'
  have hc₂ : w₂ / 2 ^ 2 % 2 ^ 8 = commandInverse := hc'
  unfold infraredDecoderNecInterpret
  simp only [hcnt, Nat.reduceEqDiff, if_false, if_true, hf₁, hf₂, hf₃, hf₄, hf₅, hor, ha₁, ha₂,
    hc₂, or_shiftLeft haddress, or_shiftLeft hcommand, Bool.and_eq_true, decide_eq_true_eq]
  rfl

lemma nec42_fields {a b : Nat} (ha : a < 8192) (hb : b < 8192) (c : Nat) :
    (a + b * 8192 + c * 67108864) % 8192 = a ∧ (a + b * 8192 + c * 67108864) / 8192 % 8192 = b ∧
      (a + b * 8192 + c * 67108864) / 67108864 = c := by
  omega

lemma nec42_upperFields {a b : Nat} (ha : a < 4) (hb : b < 256) :
    (a + b * 4) % 4 = a ∧ (a + b * 4) / 4 % 256 = b := by
  omega

lemma infraredEncoderNec_readsBack_42 {m : InfraredMessage} (hprotocol : m.protocol = .nec42)
    (hfits : m.Fits ⟨13, 8⟩) : ReadsBack infraredEntryNec m := by
  intro e
  have haddress : m.address < 8192 := hfits.1
  have hcommand : m.command < 256 := hfits.2
  have hw₁ : m.address &&& mask 13 ||| complement 13 m.address <<< 13 |||
        (m.command &&& mask 6) <<< 26 =
      m.address + (8191 - m.address) * 8192 + m.command % 64 * 67108864 := by
    have hlow : m.address &&& mask 13 = m.address := by
      rw [and_mask, Nat.mod_eq_of_lt hfits.1]
    rw [hlow, or_shiftLeft (k := 13) hfits.1, complement_thirteen, Nat.mod_eq_of_lt haddress,
      or_shiftLeft (k := 26) (by omega), and_mask]
    rfl
  have hw₂ : (m.command &&& mask 2 <<< 6) >>> 6 ||| complement 8 m.command <<< 2 =
      m.command / 64 + (255 - m.command) * 4 := by
    rw [and_mask_shiftLeft_shiftRight, or_shiftLeft (Nat.mod_lt _ (Nat.two_pow_pos 2)),
      complement_eight]
    omega
  refine ⟨_, _, 42, by simp only [infraredEntryNec, infraredEncoderNecReset, hprotocol]; rfl,
    ⟨rfl, rfl, rfl, rfl, rfl⟩, by decide, by decide, by decide, ?_⟩
  intro p hcnt hcollected
  rw [hw₁, hw₂] at hcollected
  obtain ⟨hf₁, hf₂, hf₃⟩ := nec42_fields haddress
    (Nat.lt_of_le_of_lt (Nat.sub_le 8191 m.address) (by decide)) (m.command % 64)
  obtain ⟨hf₄, hf₅⟩ := nec42_upperFields (a := m.command / 64) (by omega)
    (Nat.lt_of_le_of_lt (Nat.sub_le 255 m.command) (by decide))
  have hinterpret := infraredDecoderNecInterpret_42 _ _ m.command _ hcollected hcnt
    ((HoldsWord.storeWord 4 _ 0 _).storeWord_above 4 _) (HoldsWord.storeWord 4 _ 4 _) hf₁ hf₂
    (by rw [hf₃, hf₄]; omega) hf₅
  rw [if_pos (by simp only [complement_eight, complement_thirteen]; omega)] at hinterpret
  simp only [infraredEntryNec, infraredProtocolNec, hinterpret, InfraredPayload.accept,
    InfraredMessage.received, hprotocol, true_and]

lemma infraredEncoderNec_readsBack_42ext {m : InfraredMessage}
    (hprotocol : m.protocol = .nec42ext) (hfits : m.Fits ⟨26, 16⟩) :
    ReadsBack infraredEntryNec m := by
  intro e
  have haddress : m.address < 67108864 := hfits.1
  have hcommand : m.command < 65536 := hfits.2
  have hw₁ : m.address &&& mask 26 ||| (m.command &&& mask 6) <<< 26 =
      m.address + m.command % 64 * 67108864 := by
    have hlow : m.address &&& mask 26 = m.address := by
      rw [and_mask, Nat.mod_eq_of_lt hfits.1]
    rw [hlow, or_shiftLeft (k := 26) hfits.1, and_mask]
    rfl
  have hw₂ : (m.command &&& mask 10 <<< 6) >>> 6 = m.command / 64 := by
    rw [and_mask_shiftLeft_shiftRight]
    omega
  refine ⟨_, _, 42, by simp only [infraredEntryNec, infraredEncoderNecReset, hprotocol]; rfl,
    ⟨rfl, rfl, rfl, rfl, rfl⟩, by decide, by decide, by decide, ?_⟩
  intro p hcnt hcollected
  rw [hw₁, hw₂] at hcollected
  have hinterpret := infraredDecoderNecInterpret_42 (m.address % 8192) (m.address / 8192)
    (m.command % 256) (m.command / 256) hcollected hcnt
    ((HoldsWord.storeWord 4 _ 0 _).storeWord_above 4 _) (HoldsWord.storeWord 4 _ 4 _) (by omega)
    (by omega) (by omega) (by omega)
  have ha : m.address % 8192 + m.address / 8192 * 8192 = m.address := Nat.mod_add_div' _ _
  have hc : m.command % 256 + m.command / 256 * 256 = m.command := Nat.mod_add_div' _ _
  have hplain : (m.address % 8192 = complement 13 (m.address / 8192) ∧
        m.command % 256 = complement 8 (m.command / 256)) ↔
      (m.address / 8192 = complement 13 m.address ∧ m.command / 256 = complement 8 m.command) := by
    simp only [complement_eight, complement_thirteen]
    omega
  simp only [ha, hc, hplain] at hinterpret
  simp only [infraredEntryNec, infraredProtocolNec, hinterpret, InfraredMessage.received, hprotocol,
    Nat.reducePow]
  split_ifs <;> exact ⟨rfl, rfl⟩

/-! ### Samsung -/

lemma infraredEntrySamsung32_pulse : PulseEntry infraredEntrySamsung32 .stopMark where
  encode := rfl
  encodeBits := rfl
  decodeBits := rfl
  separable := by constructor <;> decide
  ending := by decide
  longest := by decide

lemma infraredEncoderSamsung32_readsBack {m : InfraredMessage}
    (hprotocol : m.protocol = .samsung32) (hfits : m.Fits ⟨8, 8⟩) :
    ReadsBack infraredEntrySamsung32 m := by
  intro e
  obtain ⟨haddress, hcommand⟩ := hfits
  have ha : m.address &&& mask 8 = m.address := by
    rw [and_mask, Nat.mod_eq_of_lt haddress]
  have hc : m.command &&& mask 8 = m.command := by
    rw [and_mask, Nat.mod_eq_of_lt hcommand]
  have hclear : loadWord 4 (infraredCommonEncoderReset infraredProtocolSamsung32 e).data 0 = 0 := by
    simp [loadWord, infraredCommonEncoderReset, infraredProtocolSamsung32]
  refine ⟨_, _, 32, rfl, ⟨rfl, rfl, rfl, rfl, rfl⟩, by decide, by decide, by decide, ?_⟩
  intro p hcnt hcollected
  rw [ha, hc, hclear, Nat.zero_or, or_bytes haddress haddress hcommand] at hcollected
  obtain ⟨h0, h1, h2, h3⟩ := hcollected.bytes32 (HoldsWord.storeWord _ _ _ _) haddress haddress
    hcommand (complement_lt 8 _)
  simp only [infraredEntrySamsung32, infraredProtocolSamsung32, infraredDecoderSamsung32Interpret,
    h0, h1, h2, h3, complement_complement, Nat.mod_eq_of_lt hcommand, if_true, decide_true,
    Bool.and_self, InfraredPayload.accept, InfraredMessage.received, hprotocol, true_and]

/-! ### SIRC -/

lemma infraredEntrySirc_pulse : PulseEntry infraredEntrySirc .lastMark where
  encode := rfl
  encodeBits := rfl
  decodeBits := rfl
  separable := by constructor <;> decide
  ending := by decide
  longest := by decide

lemma sirc_word {data : Nat → Nat} {p : InfraredPayload} {m : InfraredMessage} {length n : Nat}
    (haddress : m.address < 2 ^ length) (hcommand : m.command < 2 ^ 7) (hn : 7 + length ≤ n)
    (hlength : 7 + length ≤ 32)
    (h : Collected (storeWord 4 data 0
      (m.command &&& mask 7 ||| (m.address &&& mask length) <<< 7)) p.data n) :
    loadWord 4 p.data 0 >>> 7 &&& mask length = m.address ∧
      loadWord 4 p.data 0 &&& mask 7 = m.command := by
  have hword : m.command &&& mask 7 ||| (m.address &&& mask length) <<< 7 =
      m.command + m.address * 2 ^ 7 := by
    rw [and_mask, and_mask, Nat.mod_eq_of_lt haddress, Nat.mod_eq_of_lt hcommand,
      or_shiftLeft hcommand]
  rw [hword] at h
  have hholds := HoldsWord.storeWord 4 data 0 (m.command + m.address * 2 ^ 7)
  constructor
  · rw [h.field hholds hlength (by omega), Nat.add_mul_div_right _ _ (Nat.two_pow_pos 7),
      Nat.div_eq_of_lt hcommand, Nat.zero_add, Nat.mod_eq_of_lt haddress]
  · rw [h.lowField hholds (by decide) (by omega), Nat.add_mul_mod_self_right,
      Nat.mod_eq_of_lt hcommand]

lemma infraredEncoderSirc_readsBack {m : InfraredMessage}
    (h : m.protocol = .sirc ∧ m.Fits ⟨5, 7⟩ ∨ m.protocol = .sirc15 ∧ m.Fits ⟨8, 7⟩ ∨
      m.protocol = .sirc20 ∧ m.Fits ⟨13, 7⟩) : ReadsBack infraredEntrySirc m := by
  intro e
  rcases h with ⟨hprotocol, haddress, hcommand⟩ | ⟨hprotocol, haddress, hcommand⟩ |
    ⟨hprotocol, haddress, hcommand⟩
  · refine ⟨_, _, 12, by simp only [infraredEntrySirc, infraredEncoderSircReset, hprotocol]; rfl,
      ⟨rfl, rfl, rfl, rfl, rfl⟩, by decide, by decide, by decide, ?_⟩
    intro p hcnt hcollected
    obtain ⟨ha, hc⟩ := sirc_word haddress hcommand (by decide) (by decide) hcollected
    simp only [infraredEntrySirc, infraredProtocolSirc, infraredDecoderSircInterpret, hcnt, if_true,
      ha, hc, InfraredPayload.accept, InfraredMessage.received, hprotocol, true_and]
  · refine ⟨_, _, 15, by simp only [infraredEntrySirc, infraredEncoderSircReset, hprotocol]; rfl,
      ⟨rfl, rfl, rfl, rfl, rfl⟩, by decide, by decide, by decide, ?_⟩
    intro p hcnt hcollected
    obtain ⟨ha, hc⟩ := sirc_word haddress hcommand (by decide) (by decide) hcollected
    simp only [infraredEntrySirc, infraredProtocolSirc, infraredDecoderSircInterpret, hcnt,
      Nat.reduceEqDiff, if_false, if_true, ha, hc, InfraredPayload.accept,
      InfraredMessage.received, hprotocol, true_and]
  · refine ⟨_, _, 20, by simp only [infraredEntrySirc, infraredEncoderSircReset, hprotocol]; rfl,
      ⟨rfl, rfl, rfl, rfl, rfl⟩, by decide, by decide, by decide, ?_⟩
    intro p hcnt hcollected
    obtain ⟨ha, hc⟩ := sirc_word haddress hcommand (by decide) (by decide) hcollected
    simp only [infraredEntrySirc, infraredProtocolSirc, infraredDecoderSircInterpret, hcnt,
      Nat.reduceEqDiff, if_false, if_true, ha, hc, InfraredPayload.accept,
      InfraredMessage.received, hprotocol, true_and]

/-! ### RCA -/

lemma infraredEntryRca_pulse : PulseEntry infraredEntryRca .stopMark where
  encode := rfl
  encodeBits := rfl
  decodeBits := rfl
  separable := by constructor <;> decide
  ending := by decide
  longest := by decide

lemma rca_fields {a b c d : Nat} (ha : a < 16) (hb : b < 256) (hc : c < 16) (hd : d < 256) :
    (a + b * 16 + c * 4096 + d * 65536) % 16 = a ∧
      (a + b * 16 + c * 4096 + d * 65536) / 16 % 256 = b ∧
      (a + b * 16 + c * 4096 + d * 65536) / 4096 % 16 = c ∧
      (a + b * 16 + c * 4096 + d * 65536) / 65536 % 256 = d := by
  omega

lemma infraredEncoderRca_readsBack {m : InfraredMessage} (hprotocol : m.protocol = .rca)
    (hfits : m.Fits ⟨4, 8⟩) : ReadsBack infraredEntryRca m := by
  intro e
  have haddress : m.address < 16 := hfits.1
  have hcommand : m.command < 256 := hfits.2
  have hinverse : (255 - m.address) % 16 = 15 - m.address := by omega
  have hword : (m.address &&& mask 8) &&& mask 4 ||| (m.command &&& mask 8) <<< 4 |||
      (complement 8 (m.address &&& mask 8) &&& mask 4) <<< 12 |||
        complement 8 (m.command &&& mask 8) <<< 16 =
      m.address + m.command * 16 + (15 - m.address) * 4096 + (255 - m.command) * 65536 := by
    have ha : m.address % 2 ^ 8 = m.address := Nat.mod_eq_of_lt (Nat.lt_trans haddress (by decide))
    have hc : m.command % 2 ^ 8 = m.command := Nat.mod_eq_of_lt hcommand
    have hc' : m.command % 256 = m.command := hc
    have ha' : m.address % 256 = m.address := ha
    have hinverse' : (255 - m.address) % 2 ^ 4 = 15 - m.address := hinverse
    have ha₄ : m.address % 2 ^ 4 = m.address := Nat.mod_eq_of_lt haddress
    simp only [and_mask, ha, hc, ha₄, complement_eight, ha', hc', hinverse']
    rw [or_shiftLeft (k := 4) haddress, or_shiftLeft (k := 12) (by omega),
      or_shiftLeft (k := 16) (by omega)]
    rfl
  refine ⟨_, _, 24, rfl, ⟨rfl, rfl, rfl, rfl, rfl⟩, by decide, by decide, by decide, ?_⟩
  intro p hcnt hcollected
  rw [hword] at hcollected
  obtain ⟨hf₁, hf₂, hf₃, hf₄⟩ := rca_fields haddress hcommand
    (Nat.lt_of_le_of_lt (Nat.sub_le 15 m.address) (by decide))
    (Nat.lt_of_le_of_lt (Nat.sub_le 255 m.command) (by decide))
  have hholds := HoldsWord.storeWord 4 (infraredCommonEncoderReset infraredProtocolRca e).data 0
    (m.address + m.command * 16 + (15 - m.address) * 4096 + (255 - m.command) * 65536)
  have hg₁ := (hcollected.lowField hholds (by decide : 4 ≤ 8 * 4) (by decide)).trans hf₁
  have hg₂ := (hcollected.field hholds (by decide : 4 + 8 ≤ 8 * 4) (by decide)).trans hf₂
  have hg₃ := (hcollected.field hholds (by decide : 12 + 4 ≤ 8 * 4) (by decide)).trans hf₃
  have hg₄ := (hcollected.field hholds (by decide : 16 + 8 ≤ 8 * 4) (by decide)).trans hf₄
  have hc : m.command = complement 8 (255 - m.command) := by
    rw [complement_eight]
    omega
  have ha : m.address = complement 4 (15 - m.address) := by
    change m.address = 15 - (15 - m.address) % 16
    omega
  simp only [infraredEntryRca, infraredProtocolRca, infraredDecoderRcaInterpret, hg₁, hg₂, hg₃, hg₄,
    ← hc, ← ha, decide_true, Bool.and_self, if_true, InfraredPayload.accept,
    InfraredMessage.received, hprotocol, true_and]

/-! ### Pioneer -/

lemma infraredEntryPioneer_pulse : PulseEntry infraredEntryPioneer .lastSpace where
  encode := rfl
  encodeBits := rfl
  decodeBits := rfl
  separable := by constructor <;> decide
  ending := by decide
  longest := by decide

lemma byte_fields {a b c d : Nat} (ha : a < 256) (hb : b < 256) (hc : c < 256) (hd : d < 256) :
    (a + b * 256 + c * 65536 + d * 16777216) % 256 = a ∧
      (a + b * 256 + c * 65536 + d * 16777216) / 256 % 256 = b ∧
      (a + b * 256 + c * 65536 + d * 16777216) / 65536 % 256 = c ∧
      (a + b * 256 + c * 65536 + d * 16777216) / 16777216 % 256 = d := by
  omega

lemma HoldsWord.of_bytes (data : Nat → Nat) {a b c d : Nat} (ha : a < 256) (hb : b < 256)
    (hc : c < 256) (hd : d < 256) (h0 : data 0 = a) (h1 : data 1 = b) (h2 : data 2 = c)
    (h3 : data 3 = d) : HoldsWord data 4 0 (a + b * 256 + c * 65536 + d * 16777216) := by
  obtain ⟨hf₀, hf₁, hf₂, hf₃⟩ := byte_fields ha hb hc hd
  intro j hj
  match j, hj with
  | 0, _ => exact h0.trans (by rw [Nat.mul_zero, Nat.pow_zero, Nat.div_one]; exact hf₀.symm)
  | 1, _ => exact h1.trans hf₁.symm
  | 2, _ => exact h2.trans hf₂.symm
  | 3, _ => exact h3.trans hf₃.symm

lemma infraredEncoderPioneer_readsBack {m : InfraredMessage} (hprotocol : m.protocol = .pioneer)
    (hfits : m.Fits ⟨8, 8⟩) : ReadsBack infraredEntryPioneer m := by
  intro e
  have haddress : m.address < 256 := hfits.1
  have hcommand : m.command < 256 := hfits.2
  have ha : m.address &&& mask 8 = m.address := by
    rw [and_mask, Nat.mod_eq_of_lt hfits.1]
  have hc : m.command &&& mask 8 = m.command := by
    rw [and_mask, Nat.mod_eq_of_lt hfits.2]
  have ha' := complement_lt 8 m.address
  have hc' := complement_lt 8 m.command
  refine ⟨_, _, 33, by simp only [infraredEntryPioneer, infraredEncoderPioneerReset, hprotocol]; rfl,
    ⟨rfl, rfl, rfl, rfl, rfl⟩, by decide, by decide, by decide, ?_⟩
  intro p hcnt hcollected
  have hholds := HoldsWord.of_bytes
    (fun i => if h : i < [m.address, complement 8 m.address, m.command,
        complement 8 m.command, 0].length
      then [m.address, complement 8 m.address, m.command, complement 8 m.command, 0][i]
      else (infraredCommonEncoderReset infraredProtocolPioneer e).data i)
    haddress ha' hcommand hc' rfl rfl rfl rfl
  rw [ha, hc] at hcollected
  obtain ⟨hf₁, hf₂, hf₃, hf₄⟩ := byte_fields haddress ha' hcommand hc'
  have hg₁ := (hcollected.lowField hholds (by decide : 8 ≤ 8 * 4) (by decide)).trans hf₁
  have hg₂ := (hcollected.field hholds (by decide : 8 + 8 ≤ 8 * 4) (by decide)).trans hf₂
  have hg₃ := (hcollected.field hholds (by decide : 16 + 8 ≤ 8 * 4) (by decide)).trans hf₃
  have hg₄ := (hcollected.field hholds (by decide : 24 + 8 ≤ 8 * 4) (by decide)).trans hf₄
  simp only [infraredEntryPioneer, infraredProtocolPioneer, infraredDecoderPioneerInterpret, hcnt,
    hg₁, hg₂, hg₃, hg₄, decide_true, Bool.true_or, if_true, ne_eq, not_true_eq_false, if_false,
    InfraredPayload.accept, InfraredMessage.received, hprotocol, true_and]

/-! ### Kaseikyo -/

lemma infraredEntryKaseikyo_pulse : PulseEntry infraredEntryKaseikyo .stopMark where
  encode := rfl
  encodeBits := rfl
  decodeBits := rfl
  separable := by constructor <;> decide
  ending := by decide
  longest := by decide

/-- What the interpreter reads from the six bytes of an address and a command, whatever the
parity of the vendor is. -/
lemma infraredDecoderKaseikyoInterpret_bytes {p : InfraredPayload}
    {data0 data1 parity genre1 genre2 command id : Nat} (h0 : p.data 0 = data0)
    (h1 : p.data 1 = data1) (h2 : p.data 2 = parity + genre1 * 16)
    (h3 : p.data 3 = genre2 + command % 16 * 16) (h4 : p.data 4 = command / 16 + id * 64)
    (h5 : p.data 5 = p.data 2 ^^^ p.data 3 ^^^ p.data 4)
    (hparity : parity = ((data0 ^^^ data1) &&& mask 4) ^^^ (data0 ^^^ data1) >>> 4)
    (hdata0 : data0 < 256) (hparity_lt : parity < 16) (hgenre1 : genre1 < 16)
    (hgenre2 : genre2 < 16) (hcommand : command < 1024) (hdata1 : data1 < 256) :
    infraredDecoderKaseikyoInterpret p = p.accept .kaseikyo
      (id * 16777216 + (data1 * 256 + data0) * 256 + genre1 * 16 + genre2) command := by
  have hf₁ : p.data 2 &&& mask 4 = parity := by
    rw [and_mask, h2]
    exact (Nat.add_mul_mod_self_right _ _ _).trans (Nat.mod_eq_of_lt hparity_lt)
  have hf₂ : p.data 2 >>> 4 = genre1 := by
    rw [Nat.shiftRight_eq_div_pow, h2]
    omega
  have hf₃ : p.data 3 &&& mask 4 = genre2 := by
    rw [and_mask, h3]
    exact (Nat.add_mul_mod_self_right _ _ _).trans (Nat.mod_eq_of_lt hgenre2)
  have hf₄ : p.data 3 >>> 4 ||| (p.data 4 &&& mask 6) <<< 4 = command := by
    have hlow : p.data 3 >>> 4 = command % 16 := by
      rw [Nat.shiftRight_eq_div_pow, h3]
      omega
    have hhigh : p.data 4 &&& mask 6 = command / 16 := by
      rw [and_mask, h4]
      omega
    have hlt : command % 16 < 2 ^ 4 := Nat.mod_lt _ (Nat.two_pow_pos 4)
    rw [hlow, hhigh, or_shiftLeft hlt]
    exact Nat.mod_add_div' command 16
  have hf₅ : p.data 4 >>> 6 = id := by
    rw [Nat.shiftRight_eq_div_pow, h4]
    omega
  have haddress : id <<< 24 ||| (data1 <<< 8 ||| data0) <<< 8 ||| genre1 <<< 4 ||| genre2 =
      id * 16777216 + (data1 * 256 + data0) * 256 + genre1 * 16 + genre2 := by
    have hvendor : data1 <<< 8 ||| data0 = data1 * 256 + data0 := by
      rw [Nat.or_comm, or_shiftLeft (k := 8) hdata0, Nat.add_comm]
      rfl
    have hgenres : genre1 <<< 4 ||| genre2 = genre2 + genre1 * 16 := by
      rw [Nat.or_comm, or_shiftLeft (k := 4) hgenre2]
      rfl
    have hlower : (data1 * 256 + data0) <<< 8 ||| (genre2 + genre1 * 16) =
        genre2 + genre1 * 16 + (data1 * 256 + data0) * 256 := by
      rw [Nat.or_comm, or_shiftLeft (k := 8) (by omega)]
      rfl
    rw [hvendor, Nat.or_assoc, Nat.or_assoc, hgenres, hlower, Nat.or_comm,
      or_shiftLeft (k := 24) (by omega)]
    omega
  unfold infraredDecoderKaseikyoInterpret
  simp only [hf₁, hf₂, hf₃, hf₄, hf₅, h0, h1, ← hparity, ← h5, decide_true, Bool.and_self, if_true,
    haddress]

lemma infraredEncoderKaseikyo_readsBack {m : InfraredMessage}
    (hprotocol : m.protocol = .kaseikyo) (hfits : m.Fits ⟨26, 10⟩) :
    ReadsBack infraredEntryKaseikyo m := by
  intro e
  have haddress : m.address < 67108864 := hfits.1
  have hcommand : m.command < 1024 := hfits.2
  refine ⟨_, _, 48, rfl, ⟨rfl, rfl, rfl, rfl, rfl⟩, by decide, by decide, by decide, ?_⟩
  intro p hcnt hcollected
  -- the fields of the address and the command
  have hid : m.address >>> 24 &&& mask 2 = m.address / 16777216 := by
    rw [and_mask, Nat.shiftRight_eq_div_pow]
    omega
  have hvendor : m.address >>> 8 &&& mask 16 = m.address / 256 % 65536 := by
    rw [and_mask, Nat.shiftRight_eq_div_pow]
    rfl
  have hgenre1 : m.address >>> 4 &&& mask 4 = m.address / 16 % 16 := by
    rw [and_mask, Nat.shiftRight_eq_div_pow]
    rfl
  have hgenre2 : (m.address &&& mask 4) &&& mask 4 = m.address % 16 := by
    rw [and_mask, and_mask, Nat.mod_mod]
    rfl
  have hcmd : m.command &&& mask 16 = m.command := by
    rw [and_mask, Nat.mod_eq_of_lt (Nat.lt_trans hcommand (by decide))]
  have hcmd₄ : m.command &&& mask 4 = m.command % 16 := and_mask _ _
  have hdata0 : (m.address / 256 % 65536) &&& mask 8 = m.address / 256 % 256 := by
    rw [and_mask]
    omega
  have hdata1 : (m.address / 256 % 65536) >>> 8 = m.address / 65536 % 256 := by
    rw [Nat.shiftRight_eq_div_pow]
    omega
  obtain ⟨parity, hparity⟩ : ∃ parity, parity =
      ((m.address / 256 % 256 ^^^ m.address / 65536 % 256) &&& mask 4) ^^^
        (m.address / 256 % 256 ^^^ m.address / 65536 % 256) >>> 4 := ⟨_, rfl⟩
  have hparity_lt : parity < 16 := by
    have hxor : m.address / 256 % 256 ^^^ m.address / 65536 % 256 < 2 ^ 8 :=
      Nat.xor_lt_two_pow (by omega) (by omega)
    rw [hparity]
    apply Nat.xor_lt_two_pow (n := 4)
    · rw [and_mask]
      exact Nat.mod_lt _ (Nat.two_pow_pos 4)
    · rw [Nat.shiftRight_eq_div_pow]
      omega
  have hparity₄ : parity &&& mask 4 = parity :=
    (and_mask _ _).trans (Nat.mod_eq_of_lt hparity_lt)
  have hdata2 : parity ||| (m.address / 16 % 16) <<< 4 = parity + m.address / 16 % 16 * 16 :=
    or_shiftLeft (k := 4) hparity_lt _
  have hdata3 : m.address % 16 ||| (m.command % 16) <<< 4 = m.address % 16 + m.command % 16 * 16 :=
    or_shiftLeft (k := 4) (Nat.mod_lt _ (Nat.two_pow_pos 4)) _
  have hdata4 : ((m.address / 16777216) <<< 6 ||| m.command >>> 4) &&& mask 8 =
      m.command / 16 + m.address / 16777216 * 64 := by
    rw [and_mask, Nat.or_comm, Nat.shiftRight_eq_div_pow, or_shiftLeft (k := 6) (by omega)]
    omega
  simp only [hid, hvendor, hgenre1, hgenre2, hcmd, hcmd₄, hdata0, hdata1, ← hparity, hparity₄,
    hdata2, hdata3, hdata4] at hcollected
  have hbyte2 : parity + m.address / 16 % 16 * 16 < 2 ^ 8 := by omega
  have hbyte3 : m.address % 16 + m.command % 16 * 16 < 2 ^ 8 := by omega
  have hbyte4 : m.command / 16 + m.address / 16777216 * 64 < 2 ^ 8 := by omega
  have hbyte5 := Nat.xor_lt_two_pow (Nat.xor_lt_two_pow hbyte2 hbyte3) hbyte4
  have h0 : p.data 0 = m.address / 256 % 256 :=
    hcollected.byte (i := 0) (by decide) (Nat.mod_lt _ (by decide))
  have h1 : p.data 1 = m.address / 65536 % 256 :=
    hcollected.byte (i := 1) (by decide) (Nat.mod_lt _ (by decide))
  have h2 := hcollected.byte (i := 2) (by decide) hbyte2
  have h3 := hcollected.byte (i := 3) (by decide) hbyte3
  have h4 := hcollected.byte (i := 4) (by decide) hbyte4
  have h5 := hcollected.byte (i := 5) (by decide) hbyte5
  have hinterpret := infraredDecoderKaseikyoInterpret_bytes h0 h1 h2 h3 h4
    (by rw [h2, h3, h4]; exact h5) hparity (Nat.mod_lt _ (by decide)) hparity_lt
    (Nat.mod_lt _ (by decide)) (Nat.mod_lt _ (by decide)) hcommand (Nat.mod_lt _ (by decide))
  have hsum : m.address / 16777216 * 16777216 +
      (m.address / 65536 % 256 * 256 + m.address / 256 % 256) * 256 +
        m.address / 16 % 16 * 16 + m.address % 16 = m.address := by
    omega
  rw [hsum] at hinterpret
  simp only [infraredEntryKaseikyo, infraredProtocolKaseikyo, hinterpret, InfraredPayload.accept,
    InfraredMessage.received, hprotocol, true_and]

/-! ### Every pulse protocol -/

/-- The protocols whose bits are pulse distances or widths. -/
def InfraredProtocol.Pulse (protocol : InfraredProtocol) : Prop :=
  protocol ∈ [.nec, .necext, .nec42, .nec42ext, .samsung32, .sirc, .sirc15, .sirc20, .kaseikyo,
    .rca, .pioneer]

def InfraredProtocol.frameEnd : InfraredProtocol → FrameEnd
  | .sirc | .sirc15 | .sirc20 => .lastMark
  | .pioneer                  => .lastSpace
  | _                         => .stopMark

lemma infraredFindByProtocol_readsBack {m : InfraredMessage} {entry : InfraredEncoderDecoder}
    {variant : InfraredProtocolVariant} (hpulse : m.protocol.Pulse)
    (hentry : infraredFindByProtocol m.protocol = some entry)
    (hvariant : entry.getProtocolVariant m.protocol = some variant) (hfits : m.Fits variant) :
    PulseEntry entry m.protocol.frameEnd ∧ ReadsBack entry m := by
  simp only [InfraredProtocol.Pulse, List.mem_cons, List.not_mem_nil, or_false] at hpulse
  rcases hpulse with h | h | h | h | h | h | h | h | h | h | h
  all_goals
    rw [h] at hentry hvariant ⊢
    obtain rfl := Option.some.inj hentry
    obtain rfl := Option.some.inj hvariant
  · exact ⟨infraredEntryNec_pulse, infraredEncoderNec_readsBack h hfits⟩
  · exact ⟨infraredEntryNec_pulse, infraredEncoderNec_readsBack_ext h hfits⟩
  · exact ⟨infraredEntryNec_pulse, infraredEncoderNec_readsBack_42 h hfits⟩
  · exact ⟨infraredEntryNec_pulse, infraredEncoderNec_readsBack_42ext h hfits⟩
  · exact ⟨infraredEntrySamsung32_pulse, infraredEncoderSamsung32_readsBack h hfits⟩
  · exact ⟨infraredEntrySirc_pulse, infraredEncoderSirc_readsBack (.inl ⟨h, hfits⟩)⟩
  · exact ⟨infraredEntrySirc_pulse, infraredEncoderSirc_readsBack (.inr (.inl ⟨h, hfits⟩))⟩
  · exact ⟨infraredEntrySirc_pulse, infraredEncoderSirc_readsBack (.inr (.inr ⟨h, hfits⟩))⟩
  · exact ⟨infraredEntryKaseikyo_pulse, infraredEncoderKaseikyo_readsBack h hfits⟩
  · exact ⟨infraredEntryRca_pulse, infraredEncoderRca_readsBack h hfits⟩
  · exact ⟨infraredEntryPioneer_pulse, infraredEncoderPioneer_readsBack h hfits⟩

/-- A message that fits its variant is encoded into a frame, from which a freshly reset decoder
reads exactly this message, without the repeat flag. -/
theorem infraredMessage_roundTrip {m : InfraredMessage} {entry : InfraredEncoderDecoder}
    {variant : InfraredProtocolVariant} (hpulse : m.protocol.Pulse)
    (hentry : infraredFindByProtocol m.protocol = some entry)
    (hvariant : entry.getProtocolVariant m.protocol = some variant) (hfits : m.Fits variant)
    (e : InfraredCommonEncoder) (d : InfraredCommonDecoder) :
    ∃ e' frame, entry.reset e m = some e' ∧
      encodeFrame entry.encode frameTimings e' = some frame ∧
      infraredReceive entry.spec.toInfraredDecoderSpec d (mergeSamples frame) =
        .ok [m.received] := by
  obtain ⟨hpulseEntry, hreads⟩ := infraredFindByProtocol_readsBack hpulse hentry hvariant hfits
  exact hpulseEntry.readsBack hreads e d

/-- An extended message whose address bytes and command bytes are inverses: it is read as one of
the plain protocol. -/
theorem infraredMessage_roundTrip_necext :
    ∃ e' frame,
      infraredEncoderNecReset infraredCommonEncoderAlloc ⟨.necext, 0xFB04, 0xF708, true⟩ = some e' ∧
      encodeFrame infraredEntryNec.encode frameTimings e' = some frame ∧
      infraredReceive infraredProtocolNec.toInfraredDecoderSpec infraredCommonDecoderAlloc
        (mergeSamples frame) = .ok [⟨.nec, 0x04, 0x08, false⟩] :=
  @infraredMessage_roundTrip ⟨.necext, 0xFB04, 0xF708, true⟩ infraredEntryNec ⟨16, 16⟩
    (by simp [InfraredProtocol.Pulse]) rfl rfl (by constructor <;> decide)
    infraredCommonEncoderAlloc infraredCommonDecoderAlloc

end FlipperZero
