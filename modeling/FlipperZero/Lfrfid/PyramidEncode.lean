import FlipperZero.BitLib.BitFields
import FlipperZero.Lfrfid.Pyramid

/-!
# The frames of Pyramid cards

The encoder puts two Wiegand parity bits around the 24 bits of a card. The second one should cover
the last twelve bits, but the source is moved on by twelve bytes instead of twelve bits, so that it
covers twelve bits of whatever follows on the stack. Otherwise a frame is decoded as it was encoded.
-/

namespace FlipperZero

open Foundation

/-! ### The encoder -/

def protocolPyramidGetParity (bits : Memory) (type : Bool) (length : Nat) : Bool :=
  let x := ((List.range length).map fun i => (bitLibGetBit bits i).toNat).sum
  decide (x % 2 = 1) ^^ type

/-- `protocol_pyramid_add_wiegand_parity`. The source is a pointer to bytes. -/
def protocolPyramidAddWiegandParity (target : Memory) (targetPosition : Nat) (source : Memory)
    (length : Nat) : Memory :=
  let target := bitLibSetBit target targetPosition (protocolPyramidGetParity source false (length / 2))
  let target := bitLibCopyBits target (targetPosition + 1) length source 0
  bitLibSetBit target (targetPosition + length + 1)
    (protocolPyramidGetParity (fun i => source (i + length / 2)) true (length / 2))

/-- The bits before the parity bits are put in. The array of three bytes for the card stands on the
stack, whose bytes are given from its address on. -/
def pyramidPre (data stack : Memory) : Memory :=
  let pre := bitLibSetBit (fun _ => 0) 79 true
  let wiegand : Memory := fun i => if i < 3 then 0 else stack i
  let wiegand := bitLibCopyBits wiegand 0 8 data 8
  let wiegand := bitLibCopyBits wiegand 8 16 data 16
  protocolPyramidAddWiegandParity pre 80 wiegand 24

def protocolPyramidEncode (protocol : ProtocolPyramid) (stack : Memory) : Option ProtocolPyramid := do
  let encodedData : Memory := fun i => if i < 19 then 0 else protocol.encodedData i
  let pre := pyramidPre protocol.data stack
  let (encodedData, _) ← bitLibAddParity pre 8 encodedData 8 102 8 .odd
  let crc := pyramidChecksum encodedData
  let encodedData ← bitLibSetBits encodedData 120 crc 8
  return { protocol with encodedData := encodedData }

/-- The array of a decoder that sees a frame, and the start of the next one behind it. -/
def pyramidRepeated (frame : Memory) : Memory := fun i => frame (i % 16)

def parityOfTwelve (data : Memory) (position : Nat) : Bool :=
  xorBelow (fun k => bitLibGetBit data (position + k)) 12

/-- The frame of a card: its parity bits are those of its own bits, and it is decoded to the same
card. -/
structure PyramidRight (protocol : ProtocolPyramid) (stack : Memory) (frame : ProtocolPyramid) :
    Prop where
  encode : protocolPyramidEncode protocol stack = some frame
  even : bitLibGetBit frame.encodedData 90 = parityOfTwelve protocol.data 8
  odd : bitLibGetBit frame.encodedData 118 = !parityOfTwelve protocol.data 20
  decode : ∃ stripped decoded,
    protocolPyramidCanBeDecoded (pyramidRepeated frame.encodedData) = some (true, stripped) ∧
    protocolPyramidDecode { protocol with encodedData := stripped } = some decoded ∧
    ∀ k < 32, bitLibGetBit decoded.data k = bitLibGetBit protocol.data k

/-! ### The bits of a frame -/

lemma protocolPyramidGetParity_eq (bits : Memory) (type : Bool) (length : Nat) :
    protocolPyramidGetParity bits type length = (xorBelow (bitLibGetBit bits) length ^^ type) := by
  rw [protocolPyramidGetParity, sum_toNat_mod_two]
  cases xorBelow (bitLibGetBit bits) length <;> rfl

lemma bitLibGetBit_zero (q : Nat) : bitLibGetBit (fun _ => 0) q = false := by
  rw [bitLibGetBit_eq]
  simp

/-- The bits before the parity bits are put in: the start bit, the parity of the first half, the
card, and a parity bit of the stack. -/
lemma bitLibGetBit_pyramidPre (data stack : Memory) (q : Nat) :
    bitLibGetBit (pyramidPre data stack) q =
      if q = 105 then !parityOfTwelve stack 96
      else if 81 ≤ q ∧ q < 105 then bitLibGetBit data (8 + (q - 81))
      else if q = 80 then parityOfTwelve data 8
      else decide (q = 79) := by
  have hcard (k : Nat) : bitLibGetBit (bitLibCopyBits (bitLibCopyBits
      (fun i => if i < 3 then 0 else stack i) 0 8 data 8) 8 16 data 16) k =
        if k < 24 then bitLibGetBit data (8 + k) else bitLibGetBit stack k := by
    rw [bitLibGetBit_copyBits, bitLibGetBit_copyBits]
    by_cases hin : k < 24
    · rw [if_pos hin]
      by_cases hfirst : k < 8
      · rw [if_neg (by omega), if_pos (by omega), Nat.sub_zero]
      · have hposition : 16 + (k - 8) = 8 + k := by omega
        rw [if_pos (by omega), hposition]
    · rw [if_neg hin, if_neg (by omega), if_neg (by omega), bitLibGetBit_eq, bitLibGetBit_eq,
        if_neg (by omega)]
  obtain ⟨wiegand, hcard, hpre⟩ : ∃ wiegand : Memory,
      (∀ k, bitLibGetBit wiegand k =
        if k < 24 then bitLibGetBit data (8 + k) else bitLibGetBit stack k) ∧
      pyramidPre data stack =
        protocolPyramidAddWiegandParity (bitLibSetBit (fun _ => 0) 79 true) 80 wiegand 24 :=
    ⟨_, hcard, rfl⟩
  have hfirst : protocolPyramidGetParity wiegand false 12 = parityOfTwelve data 8 := by
    rw [protocolPyramidGetParity_eq, Bool.xor_false]
    exact xorBelow_congr fun k hk => by rw [hcard, if_pos (by omega)]
  have hsecond : protocolPyramidGetParity (fun i => wiegand (i + 12)) true 12 =
      !parityOfTwelve stack 96 := by
    have hmoved (k : Nat) : bitLibGetBit (fun i => wiegand (i + 12)) k = bitLibGetBit wiegand (96 + k) := by
      have hbyte : (96 + k) / 8 = k / 8 + 12 := by omega
      have hbit : (96 + k) % 8 = k % 8 := by omega
      rw [bitLibGetBit_eq, bitLibGetBit_eq, hbyte, hbit]
    rw [protocolPyramidGetParity_eq, Bool.xor_true]
    exact congrArg _ (xorBelow_congr fun k _ => by rw [hmoved, hcard, if_neg (by omega)])
  have hpositions : 80 + 24 + 1 = 105 := rfl
  rw [hpre, protocolPyramidAddWiegandParity, bitLibGetBit_setBit, bitLibGetBit_copyBits,
    bitLibGetBit_setBit, bitLibGetBit_setBit, bitLibGetBit_zero, hpositions, hsecond, hfirst]
  by_cases hlast : q = 105
  · rw [if_pos hlast, if_pos hlast]
  · rw [if_neg hlast, if_neg hlast]
    by_cases hin : 81 ≤ q ∧ q < 105
    · rw [if_pos (by omega), if_pos hin, hcard, if_pos (by omega), Nat.zero_add]
    · rw [if_neg (by omega), if_neg hin]
      split_ifs with h80 h79
      · rfl
      · exact (decide_eq_true h79).symm
      · exact (decide_eq_false h79).symm

/-- The array of a frame. -/
structure PyramidFrame (data stack encoded : Memory) : Prop where
  first : ∀ q < 8, bitLibGetBit encoded q = false
  source : ∀ q < 98, bitLibGetBit encoded (8 + keptIndex 8 q) = bitLibGetBit (pyramidPre data stack) (8 + q)
  one : encoded 1 = 1
  two : encoded 2 = 1
  checksum : encoded 15 = pyramidChecksum encoded

lemma pyramidChecksum_congr {data data' : Memory} (h : ∀ i < 13, data' (2 + i) = data (2 + i)) :
    pyramidChecksum data' = pyramidChecksum data := by
  have hbytes : ((List.range 13).map fun i => bitLibGetBits data' (16 + i * 8) 8) =
      (List.range 13).map fun i => bitLibGetBits data (16 + i * 8) 8 := by
    apply List.map_congr_left
    intro i hi
    have hposition : 16 + i * 8 = 8 * (2 + i) := by omega
    rw [hposition, bitLibGetBits_byte, bitLibGetBits_byte, h i (List.mem_range.mp hi)]
  rw [pyramidChecksum, hbytes, pyramidChecksum]

lemma protocolPyramidEncode_frame (protocol : ProtocolPyramid) (stack : Memory) :
    ∃ encoded, protocolPyramidEncode protocol stack = some { protocol with encodedData := encoded } ∧
      PyramidFrame protocol.data stack encoded := by
  have hlength : bitLibAddParity (pyramidPre protocol.data stack) 8
      (fun i => if i < 19 then 0 else protocol.encodedData i) 8 102 8 .odd =
        bitLibAddParity (pyramidPre protocol.data stack) 8
          (fun i => if i < 19 then 0 else protocol.encodedData i) 8 105 8 .odd := rfl
  have hwords : (105 : BitVec 8).toNat = 15 * 7 := by decide
  obtain ⟨s, hadd, hadded⟩ := bitLibAddParity_cases (pyramidPre protocol.data stack)
    (fun i => if i < 19 then 0 else protocol.encodedData i) 8 8 .odd
    (by decide : (8 : BitVec 8).toNat = 7 + 1) (by decide) hwords
  obtain ⟨encoded, hset, hbits⟩ := bitLibSetBits_cases s.dest 120 (pyramidChecksum s.dest)
    (by decide : 0 < 8) (Nat.le_refl 8)
  have hbefore (q : Nat) (hq : q < 120) : bitLibGetBit encoded q = bitLibGetBit s.dest q := by
    rw [hbits, if_neg (by omega)]
  have hsource (q : Nat) (hq : q < 98) : bitLibGetBit encoded (8 + keptIndex 8 q) =
      bitLibGetBit (pyramidPre protocol.data stack) (8 + q) := by
    have hindex : 8 + keptIndex 8 q < 120 := by
      rw [keptIndex]
      omega
    rw [hbefore _ hindex]
    exact hadded.source_keptIndex (by decide) (by omega)
  have hempty (q : Nat) (hq : q < 14) : bitLibGetBit (pyramidPre protocol.data stack) (8 + q) = false := by
    rw [bitLibGetBit_pyramidPre, if_neg (by omega), if_neg (by omega), if_neg (by omega)]
    exact decide_eq_false (by omega)
  -- the words of the preamble have no bit set, so that their parity bits are
  have hpreamble (i : Nat) (hi : i < 2) : encoded (1 + i) = 1 := by
    apply byte_eq_of_bits
    intro k hk
    by_cases hlast : k = 7
    · have hblock := hadded.block i (by omega)
      have hposition : 8 * (1 + i) + k = 8 + (i * (7 + 1) + 7) := by omega
      have hword : sourceWord (pyramidPre protocol.data stack) 8 7 i = packed 32 (fun _ => false) 7 := by
        apply packed_congr
        intro k hk
        rw [Nat.add_assoc]
        exact hempty _ (by omega)
      rw [hposition, hbefore _ (by omega), hblock, hword, hlast]
      decide +kernel
    · have hindex : keptIndex 8 (7 * i + k) = 8 * i + k := keptIndex_eq (m := 7) (by omega)
      have hposition : 8 * (1 + i) + k = 8 + keptIndex 8 (7 * i + k) := by omega
      have hzero : 7 - k ≠ 0 := by omega
      show _ = (1#8).getLsbD (7 - k)
      rw [hposition, hsource _ (by omega), hempty _ (by omega), BitVec.getLsbD_one]
      simp [hzero]
  refine ⟨encoded, ?_, ?_, hsource, hpreamble 0 (by decide), hpreamble 1 (by decide), ?_⟩
  · rw [protocolPyramidEncode]
    dsimp only
    rw [hlength, hadd]
    dsimp only [Option.bind_eq_bind, Option.bind_some]
    rw [hset]
    rfl
  · intro q hq
    rw [hbefore q (by omega), bitLibAddParity_before hq hadd, bitLibGetBit_eq, if_pos (by omega)]
    simp
  · have hsame : pyramidChecksum encoded = pyramidChecksum s.dest := by
      apply pyramidChecksum_congr
      intro i hi
      apply byte_eq_of_bits
      intro k hk
      have hbyte : (8 * (2 + i) + k) / 8 = 2 + i := by omega
      have hbit : (8 * (2 + i) + k) % 8 = k := by omega
      rw [hbefore _ (by omega), bitLibGetBit_eq, hbyte, hbit]
    rw [hsame]
    apply byte_eq_of_bits
    intro k hk
    have hsub : 8 - 1 - (8 * 15 + k - 120) = 7 - k := by omega
    rw [hbits, if_pos (by omega), hsub]

lemma pyramidStartBit_pre (data stack : Memory) :
    pyramidStartBit (bitLibGetBit (pyramidPre data stack)) = 79 := by
  have hfind : (List.range 105).find? (bitLibGetBit (pyramidPre data stack)) = some 79 := by
    rw [List.find?_range_eq_some]
    refine ⟨?_, by decide, ?_⟩
    · rw [bitLibGetBit_pyramidPre]
      rfl
    · intro j hj
      rw [bitLibGetBit_pyramidPre, if_neg (by omega), if_neg (by omega), if_neg (by omega),
        decide_eq_false (by omega)]
      rfl
  rw [pyramidStartBit, hfind]
  rfl

variable {data stack encoded : Memory}

lemma PyramidFrame.accepted (h : PyramidFrame data stack encoded) :
    ∃ stripped, protocolPyramidCanBeDecoded (pyramidRepeated encoded) = some (true, stripped) ∧
      ∀ q < 106, bitLibGetBit stripped q = bitLibGetBit (pyramidPre data stack) q := by
  obtain ⟨stripped, hcan, hleft⟩ := protocolPyramidCanBeDecoded_eq (pyramidRepeated encoded)
  have hzero : encoded 0 = 0 := byte_eq_of_bits fun k hk => by
    rw [Nat.mul_zero, Nat.zero_add, h.first k hk]
    simp
  have hchecksum : pyramidChecksum (pyramidRepeated encoded) = pyramidChecksum encoded :=
    pyramidChecksum_congr fun i hi => congrArg encoded (Nat.mod_eq_of_lt (by omega))
  have hcandidate : pyramidCandidate (bitLibBits 152 (pyramidRepeated encoded)) = true :=
    (pyramidCandidate_iff _).mpr
      ⟨⟨hzero, h.one⟩, h.two, ⟨hzero, h.one⟩, by rw [hchecksum]; exact h.checksum⟩
  have hstripped : bitLibBits 152 stripped = pyramidStrip (bitLibBits 152 (pyramidRepeated encoded)) :=
    hleft.trans (if_pos hcandidate)
  have hrepeated (q : Nat) (hq : q < 128) :
      bitLibGetBit (pyramidRepeated encoded) q = bitLibGetBit encoded q := by
    rw [bitLibGetBit_eq, bitLibGetBit_eq, pyramidRepeated, Nat.mod_eq_of_lt (by omega)]
  have hbits (q : Nat) (hq : q < 106) :
      bitLibGetBit stripped q = bitLibGetBit (pyramidPre data stack) q := by
    have hmoved : bitLibGetBit stripped q = if 8 ≤ q ∧ q < 113 then
        (bitLibBits 152 (pyramidRepeated encoded)).getMsbD (8 + keptIndex 8 (q - 8))
      else (bitLibBits 152 (pyramidRepeated encoded)).getMsbD q := by
      have hsub : 152 - 1 - (152 - 1 - q) = q := by omega
      rw [bitLibGetBit_eq_getLsbD stripped (by omega : q < 152), hstripped, pyramidStrip,
        getLsbD_packed _ (by omega), decide_eq_true (by omega), Bool.true_and, hsub]
    rw [hmoved]
    by_cases hfirst : q < 8
    · rw [if_neg (by omega), getMsbD_bitLibBits _ (by omega), hrepeated q (by omega), h.first q hfirst,
        bitLibGetBit_pyramidPre, if_neg (by omega), if_neg (by omega), if_neg (by omega),
        decide_eq_false (by omega)]
    · have hindex : 8 + keptIndex 8 (q - 8) < 128 := by
        rw [keptIndex]
        omega
      rw [if_pos (by omega), getMsbD_bitLibBits _ (by omega), hrepeated _ hindex,
        h.source _ (by omega), Nat.add_sub_cancel' (Nat.not_lt.mp hfirst)]
  have hstart : pyramidStartBit (pyramidStrip (bitLibBits 152 (pyramidRepeated encoded))).getMsbD = 79 := by
    rw [← pyramidStartBit_pre data stack, ← hstripped]
    apply pyramidStartBit_congr
    intro j hj
    rw [getMsbD_bitLibBits stripped (by omega), hbits j (by omega)]
  have haccepts : pyramidTest.accepts (bitLibBits 152 (pyramidRepeated encoded)) = true := by
    show (pyramidCandidate _ && _) = true
    rw [hcandidate, hstart]
    rfl
  rw [haccepts] at hcan
  exact ⟨stripped, hcan, hbits⟩

lemma protocolPyramidDecode_pre {protocol : ProtocolPyramid} {stripped : Memory}
    (hbits : ∀ q < 106, bitLibGetBit stripped q = bitLibGetBit (pyramidPre protocol.data stack) q)
    (hformat : protocol.data 0 = 26) :
    ∃ decoded, protocolPyramidDecode { protocol with encodedData := stripped } = some decoded ∧
      ∀ k < 32, bitLibGetBit decoded.data k = bitLibGetBit protocol.data k := by
  obtain ⟨data, hset, hdata⟩ := bitLibSetBits_cases protocol.data 0 26 (by decide : 0 < 8) (Nat.le_refl 8)
  rw [protocolPyramidDecode]
  dsimp only [Option.bind_eq_bind]
  rw [hset]
  refine ⟨_, rfl, fun k hk => ?_⟩
  have hcard (q : Nat) (hlow : 81 ≤ q) (hhigh : q < 105) :
      bitLibGetBit stripped q = bitLibGetBit protocol.data (8 + (q - 81)) := by
    rw [hbits q (by omega), bitLibGetBit_pyramidPre, if_neg (by omega), if_pos ⟨hlow, hhigh⟩]
  dsimp only
  rw [bitLibGetBit_copyBits, bitLibGetBit_copyBits, hdata]
  by_cases hformatBits : k < 8
  · have hsub : 8 - 1 - (k - 0) = 7 - k % 8 := by omega
    have hbyte : k / 8 = 0 := by omega
    rw [if_neg (by omega), if_neg (by omega), if_pos (by omega), bitLibGetBit_eq, hbyte, hformat, hsub]
  · by_cases hfacility : k < 16
    · have hposition : 8 + (73 + 8 + (k - 8) - 81) = k := by omega
      rw [if_neg (by omega), if_pos (by omega), hcard _ (by omega) (by omega), hposition]
    · have hposition : 8 + (81 + 8 + (k - 16) - 81) = k := by omega
      rw [if_pos (by omega), hcard _ (by omega) (by omega), hposition]

lemma PyramidFrame.odd (h : PyramidFrame data stack encoded) :
    bitLibGetBit encoded 118 = !parityOfTwelve stack 96 := by
  have hbit := h.source 97 (by decide)
  rw [bitLibGetBit_pyramidPre] at hbit
  exact hbit

/-- A right frame needs twelve bits on the stack that have the parity of the last twelve bits of the
card. -/
lemma PyramidRight.parity {protocol frame : ProtocolPyramid} (h : PyramidRight protocol stack frame) :
    parityOfTwelve stack 96 = parityOfTwelve protocol.data 20 := by
  obtain ⟨encoded, hencode, hframe⟩ := protocolPyramidEncode_frame protocol stack
  obtain rfl := Option.some.inj (hencode.symm.trans h.encode)
  exact Bool.not_inj (hframe.odd.symm.trans h.odd)

/-- A frame is right exactly when the twelve bits on the stack that the second parity bit is made of
have the parity of the last twelve bits of the card. -/
lemma pyramidRight_iff (protocol : ProtocolPyramid) (stack : Memory) (hformat : protocol.data 0 = 26) :
    (∃ frame, PyramidRight protocol stack frame) ↔
      parityOfTwelve stack 96 = parityOfTwelve protocol.data 20 := by
  constructor
  · rintro ⟨frame, hright⟩
    exact hright.parity
  · intro hstack
    obtain ⟨encoded, hencode, hframe⟩ := protocolPyramidEncode_frame protocol stack
    have heven : bitLibGetBit encoded 90 = parityOfTwelve protocol.data 8 := by
      have hbit := hframe.source 72 (by decide)
      rw [bitLibGetBit_pyramidPre] at hbit
      exact hbit
    obtain ⟨stripped, hcan, hbits⟩ := hframe.accepted
    obtain ⟨decoded, hdecode, hdata⟩ := protocolPyramidDecode_pre hbits hformat
    exact ⟨_, hencode, heven, by rw [hframe.odd, hstack], stripped, decoded, hcan, hdecode, hdata⟩

/-- For no card is the frame right whatever stands on the stack: it is right exactly when the twelve
bits that are read there have the parity that those of the card should have. -/
theorem protocolPyramidEncode_reads_stack (protocol : ProtocolPyramid)
    (hformat : protocol.data 0 = 26) :
    (¬∀ stack, ∃ frame, PyramidRight protocol stack frame) ∧
      ∀ stack, (∃ frame, PyramidRight protocol stack frame) ↔
        parityOfTwelve stack 96 = parityOfTwelve protocol.data 20 := by
  refine ⟨fun hright => ?_, fun stack => pyramidRight_iff protocol stack hformat⟩
  -- two stacks of which the parities differ
  have hclear : parityOfTwelve (fun _ => 0) 96 = false := by decide
  have hset : parityOfTwelve (fun i => if i = 12 then 0x80 else 0) 96 = true := by decide
  have hfirst := (pyramidRight_iff protocol _ hformat).mp (hright fun _ => 0)
  have hsecond := (pyramidRight_iff protocol _ hformat).mp
    (hright fun i => if i = 12 then 0x80 else 0)
  rw [hclear] at hfirst
  rw [hset, ← hfirst] at hsecond
  exact Bool.noConfusion hsecond

def pyramidCard : ProtocolPyramid :=
  { protocolPyramidAlloc with data := fun i => if i = 0 then 26 else if i = 3 then 1 else 0 }

theorem pyramidCard_reads_stack :
    (¬∀ stack, ∃ frame, PyramidRight pyramidCard stack frame) ∧
      ∀ stack, (∃ frame, PyramidRight pyramidCard stack frame) ↔
        parityOfTwelve stack 96 = parityOfTwelve pyramidCard.data 20 :=
  protocolPyramidEncode_reads_stack pyramidCard rfl

/-- On an empty stack it has an even number of bits set. -/
theorem not_pyramidRight_card : ¬∃ frame, PyramidRight pyramidCard (fun _ => 0) frame := by
  rintro ⟨frame, hright⟩
  have hparity := hright.parity
  have hcard : parityOfTwelve pyramidCard.data 20 = true := by decide
  have hstack : parityOfTwelve (fun _ => 0) 96 = false := by decide
  rw [hcard, hstack] at hparity
  exact Bool.noConfusion hparity

end FlipperZero
