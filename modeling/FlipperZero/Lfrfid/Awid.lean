import FlipperZero.BitLib.BitWindow
import FlipperZero.Lfrfid.FskDemod

/-!
# AWID cards

The frame of an AWID card has 96 bits: a first byte of one and 22 groups of three bits with an odd
parity bit. The decoder waits for a frame and the first byte of the next one. Its check of the groups
fails only when all of them are wrong, and it takes the parity bits out of the window before it looks
at the length of the format.
-/

namespace FlipperZero

open Foundation

/-! ### The decoder -/

/-- `ProtocolAwid`, without the encoder. -/
structure ProtocolAwid where
  fskDemod : FSKDemod
  encodedData : Memory
  data : Memory

def protocolAwidAlloc : ProtocolAwid where
  fskDemod := fskDemodAlloc 44 6 100 5
  encodedData := fun _ => 0
  data := fun _ => 0

def protocolAwidDecoderStart (protocol : ProtocolAwid) : ProtocolAwid :=
  { protocol with encodedData := fun i => if i < 13 then 0 else protocol.encodedData i }

def awidFormats : List (BitVec 8) := [26, 50, 37, 34, 36]

/-- `protocol_awid_can_be_decoded`, with the array that it leaves. -/
def protocolAwidCanBeDecoded (data : Memory) : Option (Bool × Memory) :=
  if data 0 ≠ 0b00000001 ∨ data 12 ≠ 0b00000001 then some (false, data)
  else do
    let parityError ← bitLibTestParity data 8 88 .odd 4
    if parityError then return (false, data)
    let (data, _) ← bitLibRemoveBitEveryNth data 8 88 4
    let len := bitLibGetBits data 8 8
    if len ∉ awidFormats then return (false, data)
    return (true, data)

def protocolAwidDecode (encodedData decodedData : Memory) : Memory :=
  bitLibCopyBits decodedData 0 66 encodedData 8

/-- The loop of `protocol_awid_decoder_feed`. -/
def protocolAwidPush (value : Bool) : Nat → ProtocolAwid → Option (Bool × ProtocolAwid)
  | 0, protocol         => some (false, protocol)
  | count + 1, protocol => do
    let encodedData := bitLibPushBit protocol.encodedData 13 value
    let (result, encodedData) ← protocolAwidCanBeDecoded encodedData
    let protocol := { protocol with encodedData := encodedData }
    if result then
      return (true, { protocol with data := protocolAwidDecode encodedData protocol.data })
    else protocolAwidPush value count protocol

def protocolAwidDecoderFeed (protocol : ProtocolAwid) (pulse : LevelTime) :
    Option (Bool × ProtocolAwid) :=
  let r := fskDemodFeed protocol.fskDemod pulse.1 pulse.2
  protocolAwidPush r.1.1 r.1.2.toNat { protocol with fskDemod := r.2 }

/-! ### The window as a word -/

def awidGroupOdd (word : BitVec 104) (i : Nat) : Bool :=
  xorBelow (fun k => word.getMsbD (8 + i * 4 + k)) 4

/-- The first and the last byte. -/
def awidPreambles (word : BitVec 104) : Bool :=
  word.extractLsb' 96 8 = 0b00000001 && word.extractLsb' 0 8 = 0b00000001

/-- The word without the parity bits, which moves the others together. -/
def awidStrip (word : BitVec 104) : BitVec 104 :=
  packed 104 (fun q =>
    if 8 ≤ q ∧ q < 74 then word.getMsbD (8 + keptIndex 4 (q - 8)) else word.getMsbD q) 104

/-- The length of the format, without the parity bits. -/
def awidFormat (word : BitVec 104) : BitVec 8 := (awidStrip word).extractLsb' 88 8

/-- The test of the window: one group of odd parity is enough to go on, and to take the parity bits
out. -/
def awidTest : WindowTest 104 where
  accepts word := awidPreambles word && (List.range 22).any (awidGroupOdd word) &&
    decide (awidFormat word ∈ awidFormats)
  strips word := awidPreambles word && (List.range 22).any (awidGroupOdd word)
  strip := awidStrip

lemma protocolAwidCanBeDecoded_eq (data : Memory) :
    ∃ data', protocolAwidCanBeDecoded data = some (awidTest.accepts (bitLibBits 104 data), data') ∧
      bitLibBits 104 data' = awidTest.left (bitLibBits 104 data) := by
  have hfirst : (bitLibBits 104 data).extractLsb' 96 8 = data 0 :=
    extractLsb'_bitLibBits data (by decide : 0 < 13)
  have hlast : (bitLibBits 104 data).extractLsb' 0 8 = data 12 :=
    extractLsb'_bitLibBits data (by decide : 12 < 13)
  have hodd (i : Nat) (hi : i < 22) : awidGroupOdd (bitLibBits 104 data) i =
      xorBelow (fun k => bitLibGetBit data (8 + i * 4 + k)) 4 := by
    apply xorBelow_congr
    intro k hk
    exact getMsbD_bitLibBits data (by omega)
  have hparity : bitLibTestParity data 8 88 .odd 4 =
      some (!(List.range 22).any (awidGroupOdd (bitLibBits 104 data))) := by
    rw [bitLibTestParity_odd data 8 88 (by decide) (by decide), List.not_any_eq_all_not]
    apply congrArg some
    rw [Bool.eq_iff_iff, List.all_eq_true, List.all_eq_true]
    exact forall₂_congr fun i hi => by rw [hodd i (List.mem_range.mp hi)]; rfl
  obtain ⟨stripped, hremoved, hbits⟩ :=
    bitLibRemoveBitEveryNth_bits data 8 88 (n := 4) (by decide)
  have hstripped : bitLibBits 104 stripped = awidStrip (bitLibBits 104 data) := by
    apply packed_congr
    intro q hq
    have hkept : kept (4 : BitVec 8).toNat (88 : BitVec 8).toNat = 66 := by decide
    rw [hbits, hkept]
    split_ifs with hrange
    · have hindex : keptIndex 4 (q - 8) < 88 := by
        rw [keptIndex]
        omega
      rw [getMsbD_bitLibBits data (by omega)]
      rfl
    · rw [getMsbD_bitLibBits data hq]
  have hformat : bitLibGetBits stripped 8 8 = awidFormat (bitLibBits 104 data) := by
    rw [awidFormat, ← hstripped, bitLibGetBits_byte stripped 1]
    exact (extractLsb'_bitLibBits stripped (by decide : 1 < 13)).symm
  rw [protocolAwidCanBeDecoded, hparity, hremoved]
  simp only [awidTest, WindowTest.left, awidPreambles, hfirst, hlast]
  by_cases hpreambles : data 0 = 1 ∧ data 12 = 1
  · have hnot : ¬(data 0 ≠ 0b00000001 ∨ data 12 ≠ 0b00000001) := by
      rintro (h | h)
      · exact h hpreambles.1
      · exact h hpreambles.2
    rw [if_neg hnot]
    cases hany : (List.range 22).any (awidGroupOdd (bitLibBits 104 data)) with
    | false => exact ⟨data, by simp, by simp⟩
    | true =>
      refine ⟨stripped, ?_, by simp [hpreambles, hstripped]⟩
      by_cases hmem : awidFormat (bitLibBits 104 data) ∈ awidFormats
      · simp [hformat, hmem, hpreambles]
      · simp [hformat, hmem]
  · have hnot : data 0 ≠ 0b00000001 ∨ data 12 ≠ 0b00000001 := not_and_or.mp hpreambles
    have hfalse : (decide (data 0 = 1) && decide (data 12 = 1)) = false := by
      rw [← Bool.decide_and]
      exact decide_eq_false hpreambles
    rw [if_pos hnot]
    refine ⟨data, ?_, ?_⟩
    · simp only [hfalse, Bool.false_and]
    · simp only [hfalse, Bool.false_and, Bool.false_eq_true, if_false]

lemma protocolAwidPush_eq (value : Bool) (count : Nat) (protocol : ProtocolAwid)
    (s : ShiftWindow 104) (h : bitLibBits 104 protocol.encodedData = s.word) :
    ∃ protocol', protocolAwidPush value count protocol =
        some ((s.pushes awidTest true value count).1, protocol') ∧
      bitLibBits 104 protocol'.encodedData = (s.pushes awidTest true value count).2.word ∧
      protocol'.fskDemod = protocol.fskDemod := by
  induction count generalizing protocol s with
  | zero => exact ⟨protocol, rfl, h, rfl⟩
  | succ count ih =>
    have hpushed : bitLibBits 104 (bitLibPushBit protocol.encodedData 13 value) =
        shiftIn s.word value := by
      rw [← h]
      exact bitLibBits_pushBit protocol.encodedData 12 value
    obtain ⟨data', hcan, hleft⟩ :=
      protocolAwidCanBeDecoded_eq (bitLibPushBit protocol.encodedData 13 value)
    rw [hpushed] at hcan hleft
    rw [protocolAwidPush, hcan, ShiftWindow.pushes]
    cases haccepts : awidTest.accepts (shiftIn s.word value) with
    | true => exact ⟨_, rfl, hleft, rfl⟩
    | false =>
      obtain ⟨protocol', hrest, hword, hdemod⟩ := ih
        { protocol with encodedData := data' } (s.push awidTest value) hleft
      exact ⟨protocol', hrest, hword, hdemod⟩

/-- The words that the loop of a feed looks at. -/
def protocolAwidWindows (value : Bool) : Nat → Memory → List (BitVec 104)
  | 0, _        => []
  | count + 1, data =>
    let data := bitLibPushBit data 13 value
    bitLibBits 104 data ::
      match protocolAwidCanBeDecoded data with
      | some (false, data) => protocolAwidWindows value count data
      | _                  => []

/-- The word that the loop of a feed accepts. -/
def protocolAwidAccepted (value : Bool) : Nat → Memory → Option (BitVec 104)
  | 0, _        => none
  | count + 1, data =>
    let data := bitLibPushBit data 13 value
    match protocolAwidCanBeDecoded data with
    | some (true, _)     => some (bitLibBits 104 data)
    | some (false, data) => protocolAwidAccepted value count data
    | none               => none

lemma protocolAwidWindows_eq (value : Bool) (count : Nat) (data : Memory) :
    protocolAwidWindows value count data =
      ShiftWindow.seen awidTest true value count (bitLibBits 104 data) := by
  induction count generalizing data with
  | zero => rfl
  | succ count ih =>
    have hpushed : bitLibBits 104 (bitLibPushBit data 13 value) =
        shiftIn (bitLibBits 104 data) value :=
      bitLibBits_pushBit data 12 value
    obtain ⟨data', hcan, hleft⟩ := protocolAwidCanBeDecoded_eq (bitLibPushBit data 13 value)
    rw [protocolAwidWindows, ShiftWindow.seen, hcan, ← hpushed]
    cases awidTest.accepts (bitLibBits 104 (bitLibPushBit data 13 value)) with
    | true => rfl
    | false =>
      show _ :: protocolAwidWindows value count data' = _
      rw [ih, hleft]
      rfl

/-- The decoder and its window are at the same point. -/
structure AwidShows (protocol : ProtocolAwid) (s : FskWindow 104) : Prop where
  word : bitLibBits 104 protocol.encodedData = s.window.word
  demod : protocol.fskDemod = s.demod

lemma AwidShows.feed {protocol : ProtocolAwid} {s : FskWindow 104} (h : AwidShows protocol s)
    (pulse : LevelTime) :
    ∃ protocol', protocolAwidDecoderFeed protocol pulse =
        some ((s.feed awidTest true pulse).1, protocol') ∧
      AwidShows protocol' (s.feed awidTest true pulse).2 := by
  have hdemod : fskDemodFeed protocol.fskDemod pulse.1 pulse.2 =
      fskDemodFeed s.demod pulse.1 pulse.2 := by
    rw [h.demod]
  obtain ⟨protocol', hpush, hword, hkept⟩ := protocolAwidPush_eq
    (fskDemodFeed s.demod pulse.1 pulse.2).1.1 (fskDemodFeed s.demod pulse.1 pulse.2).1.2.toNat
    { protocol with fskDemod := (fskDemodFeed s.demod pulse.1 pulse.2).2 } s.window h.word
  refine ⟨protocol', ?_, hword, hkept⟩
  rw [protocolAwidDecoderFeed, hdemod]
  exact hpush

lemma awidShows_start :
    AwidShows (protocolAwidDecoderStart protocolAwidAlloc)
      ⟨fskDemodAlloc 44 6 100 5, .start 104⟩ where
  word := bitLibBits_zero (m := 13) fun _ hj => if_pos hj
  demod := rfl

lemma awidShows_run (pulses : List LevelTime) :
    ∃ protocol, feedAll protocolAwidDecoderFeed (protocolAwidDecoderStart protocolAwidAlloc) pulses =
        some protocol ∧
      AwidShows protocol
        (FskWindow.run awidTest true ⟨fskDemodAlloc 44 6 100 5, .start 104⟩ pulses) :=
  FskWindow.feedAll_run (R := AwidShows) (fun _ _ pulse h => h.feed pulse) awidShows_start pulses

/-! ### Frames -/

/-- The word has both preambles, odd parity in all groups and an allowed format. -/
structure AwidFrame (word : BitVec 104) : Prop where
  preambles : awidPreambles word = true
  groups : ∀ i < 22, awidGroupOdd word i = true
  format : awidFormat word ∈ awidFormats

/-- The word has both preambles and an allowed format, and groups of odd and of even parity. -/
structure AwidMixed (word : BitVec 104) : Prop where
  preambles : awidPreambles word = true
  odd : ∃ i < 22, awidGroupOdd word i = true
  even : ∃ i < 22, awidGroupOdd word i = false
  format : awidFormat word ∈ awidFormats

lemma awidTest_accepts_iff (word : BitVec 104) :
    awidTest.accepts word = true ↔ awidPreambles word = true ∧
      (∃ i < 22, awidGroupOdd word i = true) ∧ awidFormat word ∈ awidFormats := by
  simp only [awidTest, Bool.and_eq_true, List.any_eq_true, List.mem_range, decide_eq_true_eq,
    and_assoc]

lemma awidFrame_iff {word : BitVec 104} (h : awidTest.accepts word = true) :
    AwidFrame word ↔ ¬AwidMixed word := by
  obtain ⟨hpreambles, hodd, hformat⟩ := (awidTest_accepts_iff word).mp h
  constructor
  · rintro hframe ⟨-, -, ⟨i, hi, heven⟩, -⟩
    rw [hframe.groups i hi] at heven
    exact Bool.noConfusion heven
  · intro hmixed
    refine ⟨hpreambles, fun i hi => ?_, hformat⟩
    by_contra heven
    exact hmixed ⟨hpreambles, hodd, ⟨i, hi, Bool.eq_false_of_not_eq_true heven⟩, hformat⟩

lemma AwidMixed.accepts {word : BitVec 104} (h : AwidMixed word) : awidTest.accepts word = true :=
  (awidTest_accepts_iff word).mpr ⟨h.preambles, h.odd, h.format⟩

def AwidAcceptsFrame (protocol : ProtocolAwid) (pulse : LevelTime) : Prop :=
  let r := fskDemodFeed protocol.fskDemod pulse.1 pulse.2
  ∀ protocol', protocolAwidDecoderFeed protocol pulse = some (true, protocol') →
    ∃ word, protocolAwidAccepted r.1.1 r.1.2.toNat protocol.encodedData = some word ∧ AwidFrame word

def AwidNoneMixed (protocol : ProtocolAwid) (pulse : LevelTime) : Prop :=
  let r := fskDemodFeed protocol.fskDemod pulse.1 pulse.2
  ∀ word ∈ protocolAwidWindows r.1.1 r.1.2.toNat protocol.encodedData, ¬AwidMixed word

lemma protocolAwidPush_frame_iff (value : Bool) (count : Nat) (protocol : ProtocolAwid) :
    (∀ protocol', protocolAwidPush value count protocol = some (true, protocol') →
      ∃ word, protocolAwidAccepted value count protocol.encodedData = some word ∧ AwidFrame word) ↔
    ∀ word ∈ protocolAwidWindows value count protocol.encodedData, ¬AwidMixed word := by
  induction count generalizing protocol with
  | zero =>
    constructor
    · exact fun _ word hword => absurd hword List.not_mem_nil
    · intro _ protocol' h
      cases h
  | succ count ih =>
    obtain ⟨data', hcan, -⟩ :=
      protocolAwidCanBeDecoded_eq (bitLibPushBit protocol.encodedData 13 value)
    rw [protocolAwidPush, protocolAwidAccepted, protocolAwidWindows]
    generalize hword :
      bitLibBits 104 (bitLibPushBit protocol.encodedData 13 value) = word at hcan ⊢
    cases haccepts : awidTest.accepts word with
    | true =>
      rw [haccepts] at hcan
      rw [hcan]
      constructor
      · intro h w hw
        obtain ⟨_, hsame, hframe⟩ := h _ rfl
        obtain rfl := Option.some.inj hsame
        rw [List.mem_singleton.mp hw]
        exact (awidFrame_iff haccepts).mp hframe
      · intro h _ _
        exact ⟨word, rfl, (awidFrame_iff haccepts).mpr (h word List.mem_cons_self)⟩
    | false =>
      have hmixed : ¬AwidMixed word := by
        intro h
        rw [h.accepts] at haccepts
        exact Bool.noConfusion haccepts
      rw [haccepts] at hcan
      rw [hcan]
      simp only [List.mem_cons, forall_eq_or_imp, hmixed, not_false_eq_true, true_and]
      exact ih { protocol with encodedData := data' }

/-- In a run of pulses a feed returns true at frames only, exactly if no feed of it looks at a mixed
word. -/
theorem awidAcceptsFrame_iff (protocol : ProtocolAwid) (pulses : List LevelTime) :
    FeedAlways protocolAwidDecoderFeed AwidAcceptsFrame protocol pulses ↔
      FeedAlways protocolAwidDecoderFeed AwidNoneMixed protocol pulses :=
  feedAlways_congr (fun protocol pulse => protocolAwidPush_frame_iff _ _
    { protocol with fskDemod := (fskDemodFeed protocol.fskDemod pulse.1 pulse.2).2 }) protocol pulses

/-- A frame of the format of 26 bits with one good group and 21 bad ones, as runs of bits. -/
def awidMixedRuns : List (Bool × Nat) :=
  [(true, 1), (false, 4), (true, 2), (false, 2), (true, 1), (false, 86), (true, 1)]

/-- The decoder accepts a frame with 21 bad groups. -/
theorem not_awidAcceptsFrame :
    ¬FeedAlways protocolAwidDecoderFeed AwidAcceptsFrame
      (protocolAwidDecoderStart protocolAwidAlloc)
      (fskCarrier awidMixedRuns ++ [(true, 32)] ++ [(false, 32)]) := by
  intro h
  obtain ⟨protocol, hrun, hshows⟩ := awidShows_run (fskCarrier awidMixedRuns ++ [(true, 32)])
  have hnone := (protocolAwidPush_frame_iff _ _ _).mp (h.last hrun)
  obtain ⟨count, hrise, hreported⟩ := FskWindow.run_fskCarrier_rise awidTest true (.start 104)
    (by decide : ∀ run ∈ awidMixedRuns, 0 < run.2 ∧ run.2 < 2 ^ 29) (by decide)
    (rfl : awidMixedRuns.getLast? = some (true, 1))
  have hfall : fskDemodFeed (fskTuned true count (fskHalf !true)) false 32 =
      ((true, fskReported true count), fskTuned false 0 64) := fskDemodFeed_other true count
  replace hshows := hrise ▸ hshows
  rw [protocolAwidWindows_eq, hshows.word, hshows.demod] at hnone
  dsimp only at hnone
  rw [hfall, hreported] at hnone
  have hword : (carrierWindow awidTest true (.start 104) (false, 0) awidMixedRuns).1.word =
      41548362568515575476301856768 := by
    decide +kernel
  dsimp only at hnone
  rw [hword] at hnone
  exact hnone _ List.mem_cons_self ⟨by decide +kernel, ⟨2, by decide, by decide +kernel⟩,
    ⟨0, by decide, by decide +kernel⟩, by decide +kernel⟩

end FlipperZero
