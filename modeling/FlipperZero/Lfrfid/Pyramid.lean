import FlipperZero.BitLib.BitWindow
import FlipperZero.Lfrfid.FskDemod

/-!
# Pyramid cards

The frame of a Pyramid card has 128 bits: three bytes of preamble, bytes of seven bits with an odd
parity bit, and a checksum. The decoder waits for a frame and the preamble of the next one. It takes
the parity bits out of the window before it looks at the length of the format.
-/

namespace FlipperZero

open Foundation

/-! ### The decoder -/

/-- `ProtocolPyramid`, without the oscillator. -/
structure ProtocolPyramid where
  fskDemod : FSKDemod
  encodedData : Memory
  data : Memory

def protocolPyramidAlloc : ProtocolPyramid where
  fskDemod := fskDemodAlloc 44 6 100 5
  encodedData := fun _ => 0
  data := fun _ => 0

def protocolPyramidDecoderStart (protocol : ProtocolPyramid) : ProtocolPyramid :=
  { protocol with encodedData := fun i => if i < 19 then 0 else protocol.encodedData i }

/-- The checksum of the bytes behind the first two. -/
def pyramidChecksum (data : Memory) : BitVec 8 :=
  bitLibCrc8 ((List.range 13).map fun i => bitLibGetBits data (16 + i * 8) 8) 0x31 0x00 true true 0x00

/-- The loop that looks for the start bit of the format: its position, or the end. -/
def pyramidStartBit (bit : Nat → Bool) : Nat := ((List.range 105).find? bit).getD 105

/-- `protocol_pyramid_can_be_decoded`, with the array that it leaves. -/
def protocolPyramidCanBeDecoded (data : Memory) : Option (Bool × Memory) :=
  if bitLibGetBits16 data 0 16 ≠ 1 ∨ bitLibGetBits data 16 8 ≠ 1 then some (false, data)
  else if bitLibGetBits16 data 128 16 ≠ 1 ∨ bitLibGetBits data 136 8 ≠ 1 then some (false, data)
  else if bitLibGetBits data 120 8 ≠ pyramidChecksum data then some (false, data)
  else do
    let (data, _) ← bitLibRemoveBitEveryNth data 8 (15 * 8) 8
    let fmtLen := 105 - pyramidStartBit (bitLibGetBit data)
    if fmtLen ≠ 26 then return (false, data)
    return (true, data)

def protocolPyramidDecode (protocol : ProtocolPyramid) : Option ProtocolPyramid := do
  let data ← bitLibSetBits protocol.data 0 26 8
  let data := bitLibCopyBits data 8 8 protocol.encodedData (73 + 8)
  let data := bitLibCopyBits data 16 16 protocol.encodedData (81 + 8)
  return { protocol with data := data }

/-- The loop of `protocol_pyramid_decoder_feed`, which goes on behind a frame. -/
def protocolPyramidPush (value : Bool) : Nat → ProtocolPyramid → Option (Bool × ProtocolPyramid)
  | 0, protocol         => some (false, protocol)
  | count + 1, protocol => do
    let encodedData := bitLibPushBit protocol.encodedData 19 value
    let (decoded, encodedData) ← protocolPyramidCanBeDecoded encodedData
    let protocol := { protocol with encodedData := encodedData }
    let protocol ← (if decoded then protocolPyramidDecode protocol else some protocol)
    let (result, protocol) ← protocolPyramidPush value count protocol
    return (decoded || result, protocol)

def protocolPyramidDecoderFeed (protocol : ProtocolPyramid) (pulse : LevelTime) :
    Option (Bool × ProtocolPyramid) :=
  let r := fskDemodFeed protocol.fskDemod pulse.1 pulse.2
  protocolPyramidPush r.1.1 r.1.2.toNat { protocol with fskDemod := r.2 }

/-! ### The window as a word -/

def pyramidByte (word : BitVec 152) (i : Nat) : BitVec 8 := word.extractLsb' (8 * (19 - 1 - i)) 8

/-- Both preambles and the checksum are right. -/
def pyramidCandidate (word : BitVec 152) : Bool :=
  pyramidByte word 0 = 0 && pyramidByte word 1 = 1 && pyramidByte word 2 = 1 &&
    pyramidByte word 16 = 0 && pyramidByte word 17 = 1 &&
    pyramidByte word 15 =
      bitLibCrc8 ((List.range 13).map fun i => pyramidByte word (2 + i)) 0x31 0x00 true true 0x00

/-- The word without the parity bits, which moves the others together. -/
def pyramidStrip (word : BitVec 152) : BitVec 152 :=
  packed 152 (fun q =>
    if 8 ≤ q ∧ q < 113 then word.getMsbD (8 + keptIndex 8 (q - 8)) else word.getMsbD q) 152

def pyramidTest : WindowTest 152 where
  accepts word := pyramidCandidate word &&
    105 - pyramidStartBit (pyramidStrip word).getMsbD = 26
  strips := pyramidCandidate
  strip := pyramidStrip

lemma pyramidByte_bitLibBits (data : Memory) {i : Nat} (hi : i < 19) :
    pyramidByte (bitLibBits 152 data) i = data i :=
  extractLsb'_bitLibBits data hi

lemma pyramidStartBit_congr {f g : Nat → Bool} (h : ∀ j < 105, f j = g j) :
    pyramidStartBit f = pyramidStartBit g := by
  have hfind (js : List Nat) (hjs : ∀ j ∈ js, f j = g j) : js.find? f = js.find? g := by
    induction js with
    | nil => rfl
    | cons j js ih =>
      rw [List.find?_cons, List.find?_cons, hjs j List.mem_cons_self,
        ih fun k hk => hjs k (List.mem_cons_of_mem j hk)]
  rw [pyramidStartBit, hfind _ fun j hj => h j (List.mem_range.mp hj), pyramidStartBit]

lemma bitLibGetBits16_eq_one (data : Memory) (j : Nat) :
    bitLibGetBits16 data (8 * j) 16 = 1 ↔ data j = 0 ∧ data (j + 1) = 1 := by
  have hsecond : 8 * j + 8 = 8 * (j + 1) := rfl
  have hword (x y : BitVec 8) {i : Nat} (hi : i < 16) :
      (x.setWidth 16 <<< 8 ||| y.setWidth 16).getLsbD i =
        if i < 8 then y.getLsbD i else x.getLsbD (i - 8) := by
    rw [BitVec.getLsbD_or, BitVec.getLsbD_shiftLeft, BitVec.getLsbD_setWidth, BitVec.getLsbD_setWidth]
    split_ifs with hlow
    · simp [hlow, hi]
    · have hsub : i - 8 < 16 := by omega
      rw [BitVec.getLsbD_of_ge y i (Nat.not_lt.mp hlow)]
      simp [hlow, hi, hsub]
  rw [bitLibGetBits16, if_neg (by decide), bitLibGetBits_byte, hsecond, bitLibGetBits_byte]
  constructor
  · intro h
    constructor
    · apply BitVec.eq_of_getLsbD_eq
      intro i hi
      have hbit := hword (data j) (data (j + 1)) (by omega : i + 8 < 16)
      rw [h, if_neg (by omega), Nat.add_sub_cancel] at hbit
      rw [← hbit]
      simp
    · apply BitVec.eq_of_getLsbD_eq
      intro i hi
      have hbit := hword (data j) (data (j + 1)) (by omega : i < 16)
      rw [h, if_pos hi] at hbit
      rw [← hbit]
      simp
  · rintro ⟨hzero, hone⟩
    rw [hzero, hone]
    rfl

lemma pyramidCandidate_iff (data : Memory) :
    pyramidCandidate (bitLibBits 152 data) = true ↔ (data 0 = 0 ∧ data 1 = 1) ∧ data 2 = 1 ∧
      (data 16 = 0 ∧ data 17 = 1) ∧ data 15 = pyramidChecksum data := by
  have hbyte (i : Nat) (hi : i < 19) := pyramidByte_bitLibBits data hi
  have hbytes : ((List.range 13).map fun i => pyramidByte (bitLibBits 152 data) (2 + i)) =
      (List.range 13).map fun i => bitLibGetBits data (16 + i * 8) 8 := by
    apply List.map_congr_left
    intro i hi
    have hlt := List.mem_range.mp hi
    have hposition : 16 + i * 8 = 8 * (2 + i) := by omega
    rw [hbyte _ (by omega), hposition, bitLibGetBits_byte]
  rw [pyramidCandidate, hbytes, ← pyramidChecksum, hbyte 0 (by decide), hbyte 1 (by decide),
    hbyte 2 (by decide), hbyte 15 (by decide), hbyte 16 (by decide), hbyte 17 (by decide)]
  simp only [Bool.and_eq_true, decide_eq_true_eq, and_assoc]

lemma bitLibBits_pyramidStrip (data : Memory) :
    ∃ stripped, bitLibRemoveBitEveryNth data 8 (15 * 8) 8 = some (stripped, 105) ∧
      bitLibBits 152 stripped = pyramidStrip (bitLibBits 152 data) := by
  have hkept : kept (8 : BitVec 8).toNat (15 * 8 : BitVec 8).toNat = 105 := by decide
  obtain ⟨stripped, hremoved, hbits⟩ :=
    bitLibRemoveBitEveryNth_bits data 8 (15 * 8) (n := 8) (by decide)
  rw [hkept] at hremoved hbits
  refine ⟨stripped, hremoved, packed_congr fun q hq => ?_⟩
  rw [hbits]
  split_ifs with hrange
  · have hindex : keptIndex 8 (q - 8) < 120 := by
      rw [keptIndex]
      omega
    rw [getMsbD_bitLibBits data (by omega)]
    rfl
  · rw [getMsbD_bitLibBits data hq]

lemma protocolPyramidCanBeDecoded_eq (data : Memory) :
    ∃ data', protocolPyramidCanBeDecoded data =
        some (pyramidTest.accepts (bitLibBits 152 data), data') ∧
      bitLibBits 152 data' = pyramidTest.left (bitLibBits 152 data) := by
  obtain ⟨stripped, hremoved, hstripped⟩ := bitLibBits_pyramidStrip data
  have hstart : pyramidStartBit (bitLibGetBit stripped) =
      pyramidStartBit (pyramidStrip (bitLibBits 152 data)).getMsbD := by
    apply pyramidStartBit_congr
    intro j hj
    rw [← hstripped, getMsbD_bitLibBits stripped (by omega)]
  have hpreamble : bitLibGetBits16 data 0 16 = 1 ↔ data 0 = 0 ∧ data 1 = 1 :=
    bitLibGetBits16_eq_one data 0
  have hthird : bitLibGetBits data 16 8 = data 2 := bitLibGetBits_byte data 2
  have hnext : bitLibGetBits16 data 128 16 = 1 ↔ data 16 = 0 ∧ data 17 = 1 :=
    bitLibGetBits16_eq_one data 16
  have hnext' : bitLibGetBits data 136 8 = data 17 := bitLibGetBits_byte data 17
  have hsum : bitLibGetBits data 120 8 = data 15 := bitLibGetBits_byte data 15
  rw [protocolPyramidCanBeDecoded, hremoved, hthird, hnext', hsum]
  simp only [ne_eq, hpreamble, hnext]
  by_cases hcandidate : pyramidCandidate (bitLibBits 152 data) = true
  · obtain ⟨h01, h2, hsecond, h15⟩ := (pyramidCandidate_iff data).mp hcandidate
    have hleft : pyramidTest.left (bitLibBits 152 data) = pyramidStrip (bitLibBits 152 data) :=
      if_pos hcandidate
    have haccepts : pyramidTest.accepts (bitLibBits 152 data) =
        decide (105 - pyramidStartBit (pyramidStrip (bitLibBits 152 data)).getMsbD = 26) := by
      show (pyramidCandidate _ && _) = _
      rw [hcandidate, Bool.true_and]
    rw [haccepts, hleft, ← hstart, if_neg (not_or.mpr ⟨not_not.mpr h01, not_not.mpr h2⟩),
      if_neg (not_or.mpr ⟨not_not.mpr hsecond, not_not.mpr hsecond.2⟩), if_neg (not_not.mpr h15)]
    refine ⟨stripped, ?_, hstripped⟩
    rw [Option.bind_eq_bind, Option.bind_some]
    split_ifs with hformat
    · rw [decide_eq_true hformat]
      rfl
    · rw [decide_eq_false hformat]
      rfl
  · have hleft : pyramidTest.left (bitLibBits 152 data) = bitLibBits 152 data := if_neg hcandidate
    have haccepts : pyramidTest.accepts (bitLibBits 152 data) = false := by
      show (pyramidCandidate _ && _) = _
      rw [Bool.eq_false_of_not_eq_true hcandidate, Bool.false_and]
    rw [haccepts, hleft]
    refine ⟨data, ?_, rfl⟩
    rw [pyramidCandidate_iff] at hcandidate
    split_ifs with hfirst hsecond h15
    · rfl
    · rfl
    · have hfirst := not_or.mp hfirst
      have hsecond := not_or.mp hsecond
      exact absurd ⟨not_not.mp hfirst.1, not_not.mp hfirst.2, not_not.mp hsecond.1, h15⟩ hcandidate
    · rfl

lemma protocolPyramidPush_eq (value : Bool) (count : Nat) (protocol : ProtocolPyramid)
    (s : ShiftWindow 152) (h : bitLibBits 152 protocol.encodedData = s.word) :
    ∃ protocol', protocolPyramidPush value count protocol =
        some ((s.pushes pyramidTest false value count).1, protocol') ∧
      bitLibBits 152 protocol'.encodedData = (s.pushes pyramidTest false value count).2.word ∧
      protocol'.fskDemod = protocol.fskDemod := by
  induction count generalizing protocol s with
  | zero => exact ⟨protocol, rfl, h, rfl⟩
  | succ count ih =>
    have hpushed : bitLibBits 152 (bitLibPushBit protocol.encodedData 19 value) =
        shiftIn s.word value := by
      rw [← h]
      exact bitLibBits_pushBit protocol.encodedData 18 value
    obtain ⟨data', hcan, hleft⟩ :=
      protocolPyramidCanBeDecoded_eq (bitLibPushBit protocol.encodedData 19 value)
    rw [hpushed] at hcan hleft
    -- decoding writes the data of the card only
    obtain ⟨decoded, hdecoded, hword, hdemod⟩ : ∃ decoded,
        (if pyramidTest.accepts (shiftIn s.word value) then
            protocolPyramidDecode { protocol with encodedData := data' }
          else some { protocol with encodedData := data' }) = some decoded ∧
          bitLibBits 152 decoded.encodedData = (s.push pyramidTest value).word ∧
          decoded.fskDemod = protocol.fskDemod := by
      split_ifs
      · obtain ⟨data, hset, -⟩ :=
          bitLibSetBits_cases protocol.data 0 26 (by decide : 0 < 8) (Nat.le_refl 8)
        rw [protocolPyramidDecode, hset]
        exact ⟨_, rfl, hleft, rfl⟩
      · exact ⟨_, rfl, hleft, rfl⟩
    obtain ⟨protocol', hrest, hword', hdemod'⟩ := ih _ _ hword
    refine ⟨protocol', ?_, ?_, hdemod'.trans hdemod⟩
    · rw [protocolPyramidPush, hcan]
      show ((if pyramidTest.accepts (shiftIn s.word value) then
            protocolPyramidDecode { protocol with encodedData := data' }
          else some { protocol with encodedData := data' }).bind fun protocol =>
        (protocolPyramidPush value count protocol).bind fun r =>
          some (pyramidTest.accepts (shiftIn s.word value) || r.1, r.2)) = _
      rw [hdecoded, Option.bind_some, hrest, Option.bind_some, ShiftWindow.pushes, Bool.and_false,
        if_neg Bool.false_ne_true]
    · rw [ShiftWindow.pushes, Bool.and_false, if_neg Bool.false_ne_true]
      exact hword'

/-- The decoder and its window are at the same point. -/
structure PyramidShows (protocol : ProtocolPyramid) (s : FskWindow 152) : Prop where
  word : bitLibBits 152 protocol.encodedData = s.window.word
  demod : protocol.fskDemod = s.demod

lemma PyramidShows.feed {protocol : ProtocolPyramid} {s : FskWindow 152}
    (h : PyramidShows protocol s) (pulse : LevelTime) :
    ∃ protocol', protocolPyramidDecoderFeed protocol pulse =
        some ((s.feed pyramidTest false pulse).1, protocol') ∧
      PyramidShows protocol' (s.feed pyramidTest false pulse).2 := by
  have hdemod : fskDemodFeed protocol.fskDemod pulse.1 pulse.2 =
      fskDemodFeed s.demod pulse.1 pulse.2 := by
    rw [h.demod]
  obtain ⟨protocol', hpush, hword, hkept⟩ := protocolPyramidPush_eq
    (fskDemodFeed s.demod pulse.1 pulse.2).1.1 (fskDemodFeed s.demod pulse.1 pulse.2).1.2.toNat
    { protocol with fskDemod := (fskDemodFeed s.demod pulse.1 pulse.2).2 } s.window h.word
  refine ⟨protocol', ?_, hword, hkept⟩
  rw [protocolPyramidDecoderFeed, hdemod]
  exact hpush

lemma pyramidShows_start :
    PyramidShows (protocolPyramidDecoderStart protocolPyramidAlloc)
      ⟨fskDemodAlloc 44 6 100 5, .start 152⟩ where
  word := bitLibBits_zero (m := 19) fun _ hj => if_pos hj
  demod := rfl

lemma pyramidShows_run (pulses : List LevelTime) :
    ∃ protocol, feedAll protocolPyramidDecoderFeed
        (protocolPyramidDecoderStart protocolPyramidAlloc) pulses = some protocol ∧
      PyramidShows protocol
        (FskWindow.run pyramidTest false ⟨fskDemodAlloc 44 6 100 5, .start 152⟩ pulses) :=
  FskWindow.feedAll_run (R := PyramidShows) (fun _ _ pulse h => h.feed pulse) pyramidShows_start
    pulses

end FlipperZero
