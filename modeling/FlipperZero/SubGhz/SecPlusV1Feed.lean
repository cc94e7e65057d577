import FlipperZero.Foundation.Mealy
import FlipperZero.SubGhz.SecPlusV1
import Mathlib.Data.List.Basic
import Mathlib.Data.List.GetD

/-!
# Receiving Security+ 1.0

`subghz_protocol_decoder_secplus_v1_feed` takes pulses and gaps one by one. A packet starts with a
pulse that says which of the two it is and ends with a gap as long as the header. The symbols of
both packets go to one array, and flags say which packets are complete.
-/

namespace FlipperZero

open Foundation

/-! ### The code -/

inductive SecPlusV1DecoderStep where
  | reset
  | searchStartBit
  | saveDuration
  | decoderData
  deriving DecidableEq

/-- `SubGhzProtocolDecoderSecPlus_v1`, without the decoded data that feeding clears and never
reads. -/
structure SubGhzProtocolDecoderSecPlusV1 where
  parserStep : SecPlusV1DecoderStep
  teLast : Nat
  decodeCountBit : Nat
  packetAccepted : BitVec 8
  basePacketIndex : Nat
  dataArray : Nat → Nat

/-- `subghz_protocol_decoder_secplus_v1_alloc`, which gives memory of zeros. -/
def subghzProtocolDecoderSecplusV1Alloc : SubGhzProtocolDecoderSecPlusV1 where
  parserStep := .reset
  teLast := 0
  decodeCountBit := 0
  packetAccepted := 0
  basePacketIndex := 0
  dataArray := fun _ => 0

/-- A gap as long as the header. -/
def secPlusV1Gap (duration : Nat) : Bool := durationDiff duration (500 * 120) < 100 * 120

/-- The packet and the symbol of a start pulse. -/
def secPlusV1Start (duration : Nat) : Option (Nat × Nat) :=
  if durationDiff duration 500 < 100 then some (0, 0)
  else if durationDiff duration 1500 < 100 then some (21, 2)
  else none

/-- The symbol of a gap and the pulse behind it. -/
def secPlusV1Symbol (teLast duration : Nat) : Option Nat :=
  if durationDiff teLast (500 * 3) < 100 * 3 ∧ durationDiff duration 500 < 100 then some 0
  else if durationDiff teLast (500 * 2) < 100 * 2 ∧ durationDiff duration (500 * 2) < 100 * 2 then
    some 1
  else if durationDiff teLast 500 < 100 ∧ durationDiff duration (500 * 3) < 100 * 3 then some 2
  else none

namespace SubGhzProtocolDecoderSecPlusV1

variable (inst : SubGhzProtocolDecoderSecPlusV1)

/-- A symbol behind the others of its packet. -/
def putSymbol (symbol : Nat) : SubGhzProtocolDecoderSecPlusV1 :=
  { inst with
    dataArray :=
      Function.update inst.dataArray (inst.decodeCountBit + inst.basePacketIndex) symbol
    decodeCountBit := inst.decodeCountBit + 1
    parserStep := .saveDuration }

def endPacket : SubGhzProtocolDecoderSecPlusV1 × Option (BitVec 64) :=
  -- the step back to `reset` that a report makes is lost here
  let next (inst : SubGhzProtocolDecoderSecPlusV1) : SubGhzProtocolDecoderSecPlusV1 :=
    { inst with parserStep := .searchStartBit, decodeCountBit := 0 }
  if inst.decodeCountBit = 21 then
    let accepted := if inst.basePacketIndex = 0 then inst.packetAccepted ||| 1 else inst.packetAccepted
    let accepted := if inst.basePacketIndex = 21 then accepted ||| 2 else accepted
    (next { inst with packetAccepted := accepted },
      if accepted = 3 then some (subghzProtocolSecplusV1Decode inst.dataArray) else none)
  else (next inst, none)

end SubGhzProtocolDecoderSecPlusV1

/-- `subghz_protocol_decoder_secplus_v1_feed`, with the key that the callback gets. -/
def subghzProtocolDecoderSecplusV1Feed (inst : SubGhzProtocolDecoderSecPlusV1) (level : Bool)
    (duration : Nat) : SubGhzProtocolDecoderSecPlusV1 × Option (BitVec 64) :=
  match inst.parserStep with
  | .reset =>
    if !level ∧ secPlusV1Gap duration then
      ({ inst with
          parserStep := .searchStartBit
          decodeCountBit := 0
          packetAccepted := 0
          dataArray := fun _ => 0 }, none)
    else (inst, none)
  | .searchStartBit =>
    if level then
      match secPlusV1Start duration with
      | some (base, symbol) => ({ inst with basePacketIndex := base }.putSymbol symbol, none)
      | none                => ({ inst with parserStep := .reset }, none)
    else ({ inst with parserStep := .reset }, none)
  | .saveDuration =>
    if !level then
      if secPlusV1Gap duration then inst.endPacket
      else ({ inst with teLast := duration, parserStep := .decoderData }, none)
    else ({ inst with parserStep := .reset }, none)
  | .decoderData =>
    if level ∧ inst.decodeCountBit ≤ 21 then
      match secPlusV1Symbol inst.teLast duration with
      | some symbol => (inst.putSymbol symbol, none)
      | none        => ({ inst with parserStep := .reset }, none)
    else ({ inst with parserStep := .reset }, none)

/-! ### What is received -/

/-- Samples that are the symbols of a packet, without a break. -/
inductive SecPlusV1Received (base : Nat) : List (Bool × Nat) → List Nat → Prop where
  | start {duration symbol : Nat} (h : secPlusV1Start duration = some (base, symbol)) :
      SecPlusV1Received base [(true, duration)] [symbol]
  | symbol {samples : List (Bool × Nat)} {symbols : List Nat} {low high symbol : Nat}
      (h : SecPlusV1Received base samples symbols) (hlow : secPlusV1Gap low = false)
      (hsymbol : secPlusV1Symbol low high = some symbol) :
      SecPlusV1Received base (samples ++ [(false, low), (true, high)]) (symbols ++ [symbol])

/-- The symbols of a complete packet among the samples. -/
def SecPlusV1Packet (base : Nat) (samples : List (Bool × Nat)) (symbols : List Nat) : Prop :=
  symbols.length = 21 ∧ ∃ packet gap, SecPlusV1Received base packet symbols ∧
    secPlusV1Gap gap = true ∧ packet ++ [(false, gap)] <:+: samples

/-- The array that holds the symbols of both packets. -/
def secPlusV1Array (packet1 packet2 : List Nat) (i : Nat) : Nat :=
  if i < 21 then packet1.getD i 0 else packet2.getD (i - 21) 0

/-- The key is read from two complete packets among the samples. -/
def SecPlusV1FromPackets (samples : List (Bool × Nat)) (key : BitVec 64) : Prop :=
  ∃ packet1 packet2, SecPlusV1Packet 0 samples packet1 ∧ SecPlusV1Packet 21 samples packet2 ∧
    key = subghzProtocolSecplusV1Decode (secPlusV1Array packet1 packet2)

/-- The decoder with the samples since its last report. -/
def secPlusV1Machine :
    Mealy (SubGhzProtocolDecoderSecPlusV1 × List (Bool × Nat)) (Bool × Nat) (Option (BitVec 64)) where
  step s sample :=
    let (inst, report) := subghzProtocolDecoderSecplusV1Feed s.1 sample.1 sample.2
    (report, inst, if report.isSome then [] else s.2 ++ [sample])

/-- A reported key is read from packets that have come since the last report. -/
def SecPlusV1Reports (s : SubGhzProtocolDecoderSecPlusV1 × List (Bool × Nat)) (sample : Bool × Nat) :
    Prop :=
  ∀ key, (secPlusV1Machine.step s sample).1 = some key → SecPlusV1FromPackets (s.2 ++ [sample]) key

/-- The flag of the packet that is received. -/
def SubGhzProtocolDecoderSecPlusV1.flag (inst : SubGhzProtocolDecoderSecPlusV1) : BitVec 8 :=
  if inst.basePacketIndex = 0 then 1 else 2

/-- The sample neither completes a packet while both are still marked as complete from the last
report nor cuts off a packet that is marked as complete from an earlier time. -/
def SecPlusV1Orderly (s : SubGhzProtocolDecoderSecPlusV1 × List (Bool × Nat)) (sample : Bool × Nat) :
    Prop :=
  s.1.parserStep = .saveDuration → sample.1 = false → secPlusV1Gap sample.2 = true →
    if s.1.decodeCountBit = 21 then s.1.packetAccepted ≠ 3
    else s.1.packetAccepted &&& s.1.flag = 0

instance (s : SubGhzProtocolDecoderSecPlusV1 × List (Bool × Nat)) (sample : Bool × Nat) :
    Decidable (SecPlusV1Orderly s sample) :=
  inferInstanceAs (Decidable (s.1.parserStep = .saveDuration → sample.1 = false →
    secPlusV1Gap sample.2 = true →
      if s.1.decodeCountBit = 21 then s.1.packetAccepted ≠ 3
      else s.1.packetAccepted &&& s.1.flag = 0))

/-! ### The symbols in the array -/

/-- A complete packet stands in the array, its start symbol apart. -/
def SecPlusV1Holds (base : Nat) (samples : List (Bool × Nat)) (dataArray : Nat → Nat) : Prop :=
  ∃ symbols, SecPlusV1Packet base samples symbols ∧
    ∀ i, 0 < i → i < 21 → dataArray (base + i) = symbols.getD i 0

/-- The last samples are those of the packet that is received, and its symbols are in the array. -/
structure SecPlusV1Receiving (inst : SubGhzProtocolDecoderSecPlusV1) (samples : List (Bool × Nat)) :
    Prop where
  index : inst.basePacketIndex = 0 ∨ inst.basePacketIndex = 21
  packet : ∃ packet symbols, SecPlusV1Received inst.basePacketIndex packet symbols ∧
    packet <:+ samples ∧ symbols.length = inst.decodeCountBit ∧
    ∀ i < symbols.length, inst.dataArray (inst.basePacketIndex + i) = symbols.getD i 0

/-- A packet that is marked as complete stands in the array, unless both are marked. -/
def SecPlusV1Marked (inst : SubGhzProtocolDecoderSecPlusV1) (samples : List (Bool × Nat))
    (base : Nat) : Prop :=
  inst.packetAccepted ≠ 3 → inst.packetAccepted &&& (if base = 0 then 1 else 2) ≠ 0 →
    SecPlusV1Holds base samples inst.dataArray

def SecPlusV1Flags (accepted : BitVec 8) : Prop :=
  accepted = 0 ∨ accepted = 1 ∨ accepted = 2 ∨ accepted = 3

/-- What is kept while samples are fed. -/
def SecPlusV1Follows (s : SubGhzProtocolDecoderSecPlusV1 × List (Bool × Nat)) : Prop :=
  match s.1.parserStep with
  | .reset => True
  | .searchStartBit =>
    SecPlusV1Flags s.1.packetAccepted ∧ s.1.decodeCountBit = 0 ∧
      SecPlusV1Marked s.1 s.2 0 ∧ SecPlusV1Marked s.1 s.2 21
  | .saveDuration =>
    SecPlusV1Flags s.1.packetAccepted ∧ SecPlusV1Receiving s.1 s.2 ∧
      SecPlusV1Marked s.1 s.2 (21 - s.1.basePacketIndex)
  | .decoderData =>
    SecPlusV1Flags s.1.packetAccepted ∧ secPlusV1Gap s.1.teLast = false ∧
      (∃ before, s.2 = before ++ [(false, s.1.teLast)] ∧ SecPlusV1Receiving s.1 before) ∧
      SecPlusV1Marked s.1 s.2 (21 - s.1.basePacketIndex)

variable {inst : SubGhzProtocolDecoderSecPlusV1} {samples : List (Bool × Nat)} {base : Nat}

lemma SecPlusV1Holds.append {dataArray : Nat → Nat} (h : SecPlusV1Holds base samples dataArray)
    (more : List (Bool × Nat)) : SecPlusV1Holds base (samples ++ more) dataArray := by
  obtain ⟨symbols, ⟨hlength, packet, gap, hreceived, hgap, hwithin⟩, hsymbols⟩ := h
  exact ⟨symbols, ⟨hlength, packet, gap, hreceived, hgap,
    hwithin.trans (List.prefix_append samples more).isInfix⟩, hsymbols⟩

lemma SecPlusV1Marked.append (h : SecPlusV1Marked inst samples base) (more : List (Bool × Nat)) :
    SecPlusV1Marked inst (samples ++ more) base :=
  fun hboth hflag => (h hboth hflag).append more

lemma SecPlusV1Marked.putSymbol (h : SecPlusV1Marked inst samples (21 - inst.basePacketIndex))
    (hindex : inst.basePacketIndex = 0 ∨ inst.basePacketIndex = 21)
    (hcount : inst.decodeCountBit ≤ 21) (symbol : Nat) :
    SecPlusV1Marked (inst.putSymbol symbol) samples (21 - (inst.putSymbol symbol).basePacketIndex) := by
  intro hboth hflag
  obtain ⟨symbols, hpacket, hsymbols⟩ := h hboth hflag
  refine ⟨symbols, hpacket, fun i hpos hi => ?_⟩
  have hne : 21 - inst.basePacketIndex + i ≠ inst.decodeCountBit + inst.basePacketIndex := by omega
  exact (Function.update_of_ne hne _ _).trans (hsymbols i hpos hi)

lemma SecPlusV1Receiving.putSymbol (h : SecPlusV1Receiving inst samples) {low high symbol : Nat}
    (hlow : secPlusV1Gap low = false) (hsymbol : secPlusV1Symbol low high = some symbol) :
    SecPlusV1Receiving (inst.putSymbol symbol) (samples ++ [(false, low)] ++ [(true, high)]) := by
  obtain ⟨packet, symbols, hreceived, hsuffix, hlength, hsymbols⟩ := h.packet
  refine ⟨h.index, packet ++ [(false, low), (true, high)], symbols ++ [symbol],
    hreceived.symbol hlow hsymbol, ?_, ?_, fun i hi => ?_⟩
  · obtain ⟨before, rfl⟩ := hsuffix
    exact ⟨before, by simp⟩
  · rw [List.length_append, hlength]
    rfl
  · rw [List.length_append, List.length_singleton] at hi
    rcases Nat.lt_succ_iff_lt_or_eq.mp hi with hlt | rfl
    · have hne : inst.basePacketIndex + i ≠ inst.decodeCountBit + inst.basePacketIndex := by omega
      rw [List.getD_append _ _ _ _ hlt, ← hsymbols i hlt]
      exact Function.update_of_ne hne _ _
    · have hlast : inst.basePacketIndex + symbols.length =
          inst.decodeCountBit + inst.basePacketIndex := by omega
      rw [List.getD_append_right _ _ _ _ (le_refl _), Nat.sub_self]
      exact (congrArg _ hlast).trans (Function.update_self ..)

lemma SecPlusV1Receiving.start {duration symbol : Nat}
    (hstart : secPlusV1Start duration = some (base, symbol)) (hcount : inst.decodeCountBit = 0) :
    SecPlusV1Receiving ({ inst with basePacketIndex := base }.putSymbol symbol)
      (samples ++ [(true, duration)]) := by
  refine ⟨?_, [(true, duration)], [symbol], .start hstart, ⟨samples, rfl⟩, ?_, fun i hi => ?_⟩
  · rw [secPlusV1Start] at hstart
    split_ifs at hstart with h1 h2
    · exact .inl (congrArg Prod.fst (Option.some.inj hstart)).symm
    · exact .inr (congrArg Prod.fst (Option.some.inj hstart)).symm
  · show 1 = inst.decodeCountBit + 1
    rw [hcount]
  · obtain rfl : i = 0 := Nat.lt_one_iff.mp hi
    have hfirst : base + 0 = inst.decodeCountBit + base := by omega
    exact (congrArg _ hfirst).trans (Function.update_self ..)

lemma SecPlusV1Receiving.holds (h : SecPlusV1Receiving inst samples)
    (hcount : inst.decodeCountBit = 21) {gap : Nat} (hgap : secPlusV1Gap gap = true) :
    SecPlusV1Holds inst.basePacketIndex (samples ++ [(false, gap)]) inst.dataArray := by
  obtain ⟨packet, symbols, hreceived, hsuffix, hlength, hsymbols⟩ := h.packet
  obtain ⟨before, rfl⟩ := hsuffix
  exact ⟨symbols, ⟨hlength.trans hcount, packet, gap, hreceived, hgap,
    ⟨before, [], by simp⟩⟩, fun i _ hi => hsymbols i (by omega)⟩

lemma subghzProtocolSecplusV1Decode_congr {dataArray dataArray' : Nat → Nat}
    (h : ∀ i, 0 < i → i < 42 → i ≠ 21 → dataArray i = dataArray' i) :
    subghzProtocolSecplusV1Decode dataArray = subghzProtocolSecplusV1Decode dataArray' := by
  have hpairs (start : Nat) (hstart : start = 1 ∨ start = 22) (s : SecPlusV1Sums) :
      (List.range' start 10 2).foldl (secPlusV1DecodePair dataArray) s =
        (List.range' start 10 2).foldl (secPlusV1DecodePair dataArray') s := by
    refine List.foldl_ext _ _ _ fun s i hi => ?_
    obtain ⟨k, hk, rfl⟩ := List.mem_range'.mp hi
    rw [secPlusV1DecodePair, secPlusV1DecodePair, h (start + 2 * k) (by omega) (by omega) (by omega),
      h (start + 2 * k + 1) (by omega) (by omega) (by omega)]
  rw [subghzProtocolSecplusV1Decode, subghzProtocolSecplusV1Decode]
  simp only [hpairs 1 (.inl rfl), hpairs 22 (.inr rfl)]

lemma SecPlusV1Holds.fromPackets {dataArray : Nat → Nat} (h : SecPlusV1Holds 0 samples dataArray)
    (h' : SecPlusV1Holds 21 samples dataArray) :
    SecPlusV1FromPackets samples (subghzProtocolSecplusV1Decode dataArray) := by
  obtain ⟨packet1, hpacket1, hsymbols1⟩ := h
  obtain ⟨packet2, hpacket2, hsymbols2⟩ := h'
  refine ⟨packet1, packet2, hpacket1, hpacket2, ?_⟩
  refine subghzProtocolSecplusV1Decode_congr fun i hpos hlt hne => ?_
  rw [secPlusV1Array]
  split_ifs with hi
  · rw [← hsymbols1 i hpos hi, Nat.zero_add]
  · rw [← hsymbols2 (i - 21) (by omega) (by omega), Nat.add_sub_cancel' (Nat.not_lt.mp hi)]

/-! ### Runs -/

lemma SecPlusV1Flags.or_flag (h : SecPlusV1Flags inst.packetAccepted)
    (hindex : inst.basePacketIndex = 0 ∨ inst.basePacketIndex = 21) :
    SecPlusV1Flags (inst.packetAccepted ||| inst.flag) ∧
      (inst.packetAccepted ||| inst.flag = 3 ↔
        inst.packetAccepted &&& (if 21 - inst.basePacketIndex = 0 then 1 else 2) ≠ 0) ∧
      (inst.packetAccepted ||| inst.flag ≠ 3 →
        (inst.packetAccepted ||| inst.flag) &&& (if 21 - inst.basePacketIndex = 0 then 1 else 2) = 0) := by
  unfold SecPlusV1Flags SubGhzProtocolDecoderSecPlusV1.flag at *
  rcases hindex with hindex | hindex <;> rw [hindex] <;>
    rcases h with h | h | h | h <;> rw [h] <;> decide

lemma SubGhzProtocolDecoderSecPlusV1.endPacket_complete (hcount : inst.decodeCountBit = 21)
    (hindex : inst.basePacketIndex = 0 ∨ inst.basePacketIndex = 21) :
    inst.endPacket =
      ({ inst with
          packetAccepted := inst.packetAccepted ||| inst.flag
          parserStep := .searchStartBit
          decodeCountBit := 0 },
        if inst.packetAccepted ||| inst.flag = 3 then
          some (subghzProtocolSecplusV1Decode inst.dataArray)
        else none) := by
  rw [SubGhzProtocolDecoderSecPlusV1.endPacket, if_pos hcount]
  rcases hindex with hindex | hindex <;> simp [SubGhzProtocolDecoderSecPlusV1.flag, hindex]

/-- A packet that ends in an orderly way is kept, or reported with the other one. -/
lemma SecPlusV1Follows.endPacket {gap : Nat} (hgap : secPlusV1Gap gap = true)
    (hflags : SecPlusV1Flags inst.packetAccepted) (hreceiving : SecPlusV1Receiving inst samples)
    (hmarked : SecPlusV1Marked inst samples (21 - inst.basePacketIndex))
    (horderly : if inst.decodeCountBit = 21 then inst.packetAccepted ≠ 3
      else inst.packetAccepted &&& inst.flag = 0) :
    (∀ key, inst.endPacket.2 = some key → SecPlusV1FromPackets (samples ++ [(false, gap)]) key) ∧
      SecPlusV1Follows (inst.endPacket.1,
        if inst.endPacket.2.isSome then [] else samples ++ [(false, gap)]) := by
  have hindex := hreceiving.index
  have hmore := hmarked.append [(false, gap)]
  by_cases hcount : inst.decodeCountBit = 21
  · have hholds := hreceiving.holds hcount hgap
    obtain ⟨hnext, hthree, hother⟩ := hflags.or_flag hindex
    rw [if_pos hcount] at horderly
    rw [SubGhzProtocolDecoderSecPlusV1.endPacket_complete hcount hindex]
    by_cases hboth : inst.packetAccepted ||| inst.flag = 3
    · have hholds' := hmore horderly (hthree.mp hboth)
      rw [if_pos hboth]
      refine ⟨fun key hkey => ?_, hnext, rfl, fun hne => absurd hboth hne,
        fun hne => absurd hboth hne⟩
      obtain rfl := Option.some.inj hkey
      rcases hindex with hindex | hindex
      · rw [hindex] at hholds hholds'
        exact hholds.fromPackets hholds'
      · rw [hindex] at hholds hholds'
        exact hholds'.fromPackets hholds
    · rw [if_neg hboth]
      refine ⟨fun key hkey => absurd hkey (Option.some_ne_none key).symm, hnext, rfl, ?_⟩
      rcases hindex with hindex | hindex
      · rw [hindex] at hholds hother
        exact ⟨fun _ _ => hholds, fun _ hflag => absurd (hother hboth) hflag⟩
      · rw [hindex] at hholds hother
        exact ⟨fun _ hflag => absurd (hother hboth) hflag, fun _ _ => hholds⟩
  · rw [if_neg hcount] at horderly
    rw [SubGhzProtocolDecoderSecPlusV1.endPacket, if_neg hcount]
    refine ⟨fun key hkey => absurd hkey (Option.some_ne_none key).symm, hflags, rfl, ?_⟩
    unfold SubGhzProtocolDecoderSecPlusV1.flag at horderly
    rcases hindex with hindex | hindex
    · rw [hindex] at horderly hmore
      exact ⟨fun _ hflag => absurd horderly hflag, hmore⟩
    · rw [hindex] at horderly hmore
      exact ⟨hmore, fun _ hflag => absurd horderly hflag⟩

lemma SecPlusV1Follows.of_quiet (inst' : SubGhzProtocolDecoderSecPlusV1) {level : Bool}
    {duration : Nat} (hfeed : subghzProtocolDecoderSecplusV1Feed inst level duration = (inst', none))
    (hnext : SecPlusV1Follows (inst', samples ++ [(level, duration)])) :
    SecPlusV1Reports (inst, samples) (level, duration) ∧
      SecPlusV1Follows (secPlusV1Machine.step (inst, samples) (level, duration)).2 := by
  simp only [SecPlusV1Reports, secPlusV1Machine, hfeed]
  exact ⟨fun key hkey => absurd hkey (Option.some_ne_none key).symm, hnext⟩

lemma SecPlusV1Follows.step {s : SubGhzProtocolDecoderSecPlusV1 × List (Bool × Nat)}
    {sample : Bool × Nat} (h : SecPlusV1Follows s) (horderly : SecPlusV1Orderly s sample) :
    SecPlusV1Reports s sample ∧ SecPlusV1Follows (secPlusV1Machine.step s sample).2 := by
  obtain ⟨inst, samples⟩ := s
  obtain ⟨level, duration⟩ := sample
  -- a sample that fits nowhere ends the packet
  have hreset (hfeed : subghzProtocolDecoderSecplusV1Feed inst level duration =
      ({ inst with parserStep := .reset }, none)) :=
    @of_quiet inst samples { inst with parserStep := .reset } level duration hfeed trivial
  cases hstep : inst.parserStep with
  | reset =>
    by_cases hheader : !level ∧ secPlusV1Gap duration
    · refine of_quiet _ (by rw [subghzProtocolDecoderSecplusV1Feed, hstep]; exact if_pos hheader) ?_
      exact ⟨.inl rfl, rfl, fun _ hflag => absurd BitVec.zero_and hflag,
        fun _ hflag => absurd BitVec.zero_and hflag⟩
    · refine of_quiet inst ?_ ?_
      · rw [subghzProtocolDecoderSecplusV1Feed, hstep]
        exact if_neg hheader
      · rw [SecPlusV1Follows, hstep]
        trivial
  | searchStartBit =>
    rw [SecPlusV1Follows, hstep] at h
    obtain ⟨hflags, hcount, hmarked1, hmarked2⟩ := h
    cases level with
    | false => exact hreset (by rw [subghzProtocolDecoderSecplusV1Feed, hstep]; rfl)
    | true =>
      cases hstart : secPlusV1Start duration with
      | none => exact hreset (by rw [subghzProtocolDecoderSecplusV1Feed, hstep]; simp only [hstart]; rfl)
      | some start =>
        obtain ⟨base, symbol⟩ := start
        have hreceiving : SecPlusV1Receiving ({ inst with basePacketIndex := base }.putSymbol symbol)
            (samples ++ [(true, duration)]) := .start hstart hcount
        refine of_quiet ({ inst with basePacketIndex := base }.putSymbol symbol) ?_ ?_
        · rw [subghzProtocolDecoderSecplusV1Feed, hstep]
          simp only [hstart]
          rfl
        · have hmarked : SecPlusV1Marked { inst with basePacketIndex := base } samples (21 - base) := by
            rcases hreceiving.index with (rfl : base = 0) | (rfl : base = 21)
            · exact hmarked2
            · exact hmarked1
          have hcount' : inst.decodeCountBit ≤ 21 := hcount.trans_le (Nat.zero_le 21)
          exact ⟨hflags, hreceiving,
            (hmarked.putSymbol hreceiving.index hcount' symbol).append [(true, duration)]⟩
  | saveDuration =>
    rw [SecPlusV1Follows, hstep] at h
    obtain ⟨hflags, hreceiving, hmarked⟩ := h
    cases level with
    | true => exact hreset (by rw [subghzProtocolDecoderSecplusV1Feed, hstep]; rfl)
    | false =>
      cases hgap : secPlusV1Gap duration with
      | true =>
        have hend := endPacket hgap hflags hreceiving hmarked (horderly hstep rfl hgap)
        have hfeed : subghzProtocolDecoderSecplusV1Feed inst false duration = inst.endPacket := by
          rw [subghzProtocolDecoderSecplusV1Feed, hstep]
          exact if_pos hgap
        simp only [SecPlusV1Reports, secPlusV1Machine, hfeed]
        exact hend
      | false =>
        refine of_quiet { inst with teLast := duration, parserStep := .decoderData } ?_ ?_
        · rw [subghzProtocolDecoderSecplusV1Feed, hstep]
          simp only [hgap]
          rfl
        · exact ⟨hflags, hgap, ⟨samples, rfl, hreceiving.index, hreceiving.packet⟩,
            hmarked.append [(false, duration)]⟩
  | decoderData =>
    rw [SecPlusV1Follows, hstep] at h
    obtain ⟨hflags, hlow, ⟨before, hsamples, hreceiving⟩, hmarked⟩ := h
    by_cases hlevel : level ∧ inst.decodeCountBit ≤ 21
    · cases hsymbol : secPlusV1Symbol inst.teLast duration with
      | none => exact hreset (by
          rw [subghzProtocolDecoderSecplusV1Feed, hstep]
          simp only [hlevel, hsymbol, and_self, if_true])
      | some symbol =>
        refine of_quiet (inst.putSymbol symbol) ?_ ?_
        · rw [subghzProtocolDecoderSecplusV1Feed, hstep]
          simp only [hlevel, hsymbol, and_self, if_true]
        · obtain ⟨rfl, hcount⟩ : level = true ∧ inst.decodeCountBit ≤ 21 := hlevel
          obtain rfl : samples = before ++ [(false, inst.teLast)] := hsamples
          exact ⟨hflags, hreceiving.putSymbol hlow hsymbol,
            (hmarked.putSymbol hreceiving.index hcount symbol).append [(true, duration)]⟩
    · exact hreset (by rw [subghzProtocolDecoderSecplusV1Feed, hstep]; exact if_neg hlevel)

/-- In a run of orderly samples every key is read from packets that have come since the last
report. -/
theorem secPlusV1_reports_received (samples : List (Bool × Nat))
    (h : secPlusV1Machine.Along SecPlusV1Orderly (subghzProtocolDecoderSecplusV1Alloc, []) samples) :
    secPlusV1Machine.Along SecPlusV1Reports (subghzProtocolDecoderSecplusV1Alloc, []) samples :=
  h.mono (I := SecPlusV1Follows) (fun _ _ hfollows horderly => (hfollows.step horderly).2)
    (fun _ _ hfollows horderly => (hfollows.step horderly).1) trivial

/-- A packet whose start pulse is followed by twenty symbols of zero. -/
def secPlusV1Zeros (start : Nat) : List (Bool × Nat) :=
  (true, start) :: (List.replicate 20 [(false, 1500), (true, 500)]).flatten ++ [(false, 60000)]

theorem secPlusV1_reports_received_sample :
    secPlusV1Machine.Along SecPlusV1Reports (subghzProtocolDecoderSecplusV1Alloc, [])
      ((false, 60000) :: secPlusV1Zeros 500 ++ secPlusV1Zeros 1500) :=
  secPlusV1_reports_received _ (by decide +kernel)

lemma SecPlusV1Received.start_mem {symbols : List Nat} (h : SecPlusV1Received base samples symbols) :
    ∃ duration symbol, (true, duration) ∈ samples ∧ secPlusV1Start duration = some (base, symbol) := by
  induction h with
  | start h => exact ⟨_, _, List.mem_singleton.mpr rfl, h⟩
  | symbol _ _ _ ih =>
    obtain ⟨duration, symbol, hmem, hstart⟩ := ih
    exact ⟨duration, symbol, List.mem_append_left _ hmem, hstart⟩

/-- A packet behind a report is reported with the other one from before it. -/
theorem not_secPlusV1_reports_received :
    ¬∀ samples, secPlusV1Machine.Along SecPlusV1Reports (subghzProtocolDecoderSecplusV1Alloc, [])
      samples := by
  intro h
  let before : List (Bool × Nat) := (false, 60000) :: secPlusV1Zeros 500 ++ secPlusV1Zeros 1500 ++
    (secPlusV1Zeros 500).dropLast
  have hlast := (Mealy.along_append.mp (h (before ++ [(false, 60000)]))).2.1
  have hreport : (secPlusV1Machine.step (secPlusV1Machine.final (subghzProtocolDecoderSecplusV1Alloc, [])
      before) (false, 60000)).1.isSome = true := by
    decide +kernel
  have hstarts : ∀ sample ∈ (secPlusV1Machine.final (subghzProtocolDecoderSecplusV1Alloc, [])
      before).2 ++ [(false, 60000)], sample.1 = true →
        (secPlusV1Start sample.2).map Prod.fst ≠ some 21 := by
    decide +kernel
  obtain ⟨key, hkey⟩ := Option.isSome_iff_exists.mp hreport
  obtain ⟨_, _, _, ⟨_, packet, gap, hreceived, _, hwithin⟩, _⟩ := hlast key hkey
  obtain ⟨duration, symbol, hmem, hstart⟩ := hreceived.start_mem
  refine hstarts _ (hwithin.subset (List.mem_append_left _ hmem)) rfl ?_
  rw [hstart]
  rfl

end FlipperZero
