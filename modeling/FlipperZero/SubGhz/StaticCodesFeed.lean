import FlipperZero.SubGhz.StaticCodes
import Mathlib.Data.List.Forall2

/-!
# Receiving static codes

A decoder of static codes comes into step with a signal by itself. From whatever state it is in, it
reports the keys of the signal from the second one on: a key is reported with the gap of the next
one, so the last one is not. A decoder that waits for a header reports the first one too.

Nothing else is reported: behind every report there are the gap, the start pulse and the bits of
its key, right before the gap that ends them. What an encoder sends is such a signal, even when no
duration is received as it was sent.
-/

namespace FlipperZero

open Foundation

/-! ### Signals -/

namespace StaticCode

/-- The decoder, fed with one level after the other. -/
def receiver (c : StaticCode) :
    Mealy SubGhzBlockDecoder (Bool × Nat) (Option (BitVec 64 × BitVec 8)) where
  step decoder level := c.feed decoder level.1 level.2

def reports (c : StaticCode) (decoder : SubGhzBlockDecoder) (levels : List (Bool × Nat)) :
    List (BitVec 64 × BitVec 8) :=
  (c.receiver.outputs decoder levels).filterMap id

def word (bits : List Bool) : BitVec 64 := bits.foldl shiftIn 0

/-- The number of bits of a key. -/
def count (bits : List Bool) : BitVec 8 := BitVec.ofNat 8 bits.length

def report (c : StaticCode) (bits : List Bool) : Option (BitVec 64 × BitVec 8) :=
  if c.accepts (word bits) (count bits) then some (word bits, count bits) else none

/-- The gaps and pulses of bits. -/
inductive Carries (c : StaticCode) : List Bool → List (Bool × Nat) → Prop where
  | nil : Carries c [] []
  | cons {low high : Nat} {bit : Bool} {bits : List Bool} {levels : List (Bool × Nat)}
      (hbit : c.bitOf low high = some bit) (hrest : Carries c bits levels) :
      Carries c (bit :: bits) ((false, low) :: (true, high) :: levels)

/-- The levels of one key after the other. -/
inductive Signal (c : StaticCode) : List (List Bool) → List (Bool × Nat) → Prop where
  | nil : Signal c [] []
  | cons {header start : Nat} {bits : List Bool} {keys : List (List Bool)}
      {body levels : List (Bool × Nat)}
      (hheader : durationDiff header c.header < c.headerDelta)
      (hstart : durationDiff start c.start < c.startDelta)
      (hbody : c.Carries bits body) (hrest : Signal c keys levels) :
      Signal c (bits :: keys) ((false, header) :: (true, start) :: (body ++ levels))

/-- The levels of the bits that have been read so far: the gap before them, other gaps that are
passed over, the start pulse, and the bits, with other pulses that are passed over. -/
inductive Heard (c : StaticCode) : List Bool → List (Bool × Nat) → Prop where
  | start {gap start : Nat} {gaps : List (Bool × Nat)} (hgap : c.endDuration ≤ gap)
      (hgaps : ∀ level ∈ gaps, level.1 = false ∧ c.startWaits = true)
      (hstart : durationDiff start c.start < c.startDelta) :
      Heard c [] ((false, gap) :: gaps ++ [(true, start)])
  | bit {low high : Nat} {bit : Bool} {bits : List Bool} {levels : List (Bool × Nat)}
      (h : Heard c bits levels) (hbit : c.bitOf low high = some bit) :
      Heard c (bits ++ [bit]) (levels ++ [(false, low)] ++ [(true, high)])
  | pulse {high : Nat} {bits : List Bool} {levels : List (Bool × Nat)} (h : Heard c bits levels)
      (hwaits : c.saveWaits = true) : Heard c bits (levels ++ [(true, high)])

/-! ### Durations -/

lemma durationDiff_lt_iff {x y d : Nat} : durationDiff x y < d ↔ x < y + d ∧ y < x + d := by
  rw [durationDiff]
  split_ifs <;> omega

variable {c : StaticCode}

lemma low_lt_end {low high : Nat} {bit : Bool} (h : c.bitOf low high = some bit) :
    low < c.endDuration := by
  have hshort := c.short_le_long
  have hdelta := c.delta_le
  have hend := c.long_le_end
  rw [bitOf] at h
  split_ifs at h with h0 h1
  · have hlow := durationDiff_lt_iff.mp h0.1
    omega
  · have hlow := durationDiff_lt_iff.mp h1.1
    omega

lemma end_le_of_header {header : Nat} (h : durationDiff header c.header < c.headerDelta) :
    c.endDuration ≤ header := by
  have hend := c.end_le_header
  have hheader := durationDiff_lt_iff.mp h
  omega

lemma not_header_of_low {low : Nat} (h : low < c.endDuration) :
    ¬ durationDiff low c.header < c.headerDelta :=
  fun hheader => Nat.not_le.mpr h (end_le_of_header hheader)

/-! ### Reports -/

lemma reports_cons (decoder : SubGhzBlockDecoder) (level : Bool × Nat)
    (levels : List (Bool × Nat)) :
    c.reports decoder (level :: levels) = (c.feed decoder level.1 level.2).1.toList ++
      c.reports (c.feed decoder level.1 level.2).2 levels := by
  simp only [reports, Mealy.outputs_cons, receiver]
  cases (c.feed decoder level.1 level.2).1 <;> rfl

/-- The decoder has read the start pulse and bits. -/
def saved (teLast : Nat) (bits : List Bool) : SubGhzBlockDecoder where
  parserStep := .saveDuration
  teLast := teLast
  decodeData := word bits
  decodeCountBit := count bits

lemma count_concat (bits : List Bool) (bit : Bool) : count (bits ++ [bit]) = count bits + 1 := by
  rw [count, count, List.length_append, List.length_singleton, BitVec.ofNat_add]
  rfl

lemma word_concat (bits : List Bool) (bit : Bool) :
    word (bits ++ [bit]) = shiftIn (word bits) bit := by
  rw [word, word, List.foldl_append, List.foldl_cons, List.foldl_nil]

lemma feed_start {decoder : SubGhzBlockDecoder} {start : Nat}
    (hstep : decoder.parserStep = .foundStartBit)
    (hstart : durationDiff start c.start < c.startDelta) :
    c.feed decoder true start = (none, saved decoder.teLast []) := by
  simp only [feed, hstep]
  rw [if_neg (by simp), if_pos ⟨trivial, hstart⟩]
  rfl

lemma feed_end {header : Nat} (teLast : Nat) (bits : List Bool) (hend : c.endDuration ≤ header) :
    ∃ decoder, c.feed (saved teLast bits) false header = (c.report bits, decoder) ∧
      decoder.parserStep = .foundStartBit := by
  simp only [feed, saved]
  rw [if_pos Bool.not_false, if_pos hend]
  exact ⟨_, rfl, rfl⟩

lemma feed_bit {low high : Nat} {bit : Bool} (teLast : Nat) (bits : List Bool)
    (h : c.bitOf low high = some bit) :
    ∃ decoder, c.feed (saved teLast bits) false low = (none, decoder) ∧
      c.feed decoder true high = (none, saved low (bits ++ [bit])) := by
  refine ⟨{ saved teLast bits with teLast := low, parserStep := .checkDuration }, ?_, ?_⟩
  · simp only [feed, saved]
    rw [if_pos Bool.not_false, if_neg (Nat.not_le.mpr (low_lt_end h))]
  · simp only [feed, h, saved]
    rw [if_pos trivial, word_concat, count_concat]
    rfl

lemma reports_carries {bits : List Bool} {body : List (Bool × Nat)} (h : c.Carries bits body)
    (teLast : Nat) (before : List Bool) (levels : List (Bool × Nat)) :
    ∃ t, c.reports (saved teLast before) (body ++ levels) =
      c.reports (saved t (before ++ bits)) levels := by
  induction h generalizing teLast before with
  | nil => exact ⟨teLast, by rw [List.nil_append, List.append_nil]⟩
  | @cons low high bit bits body hbit _ ih =>
    obtain ⟨decoder, hlow, hhigh⟩ := feed_bit teLast before hbit
    obtain ⟨t, ht⟩ := ih low (before ++ [bit])
    refine ⟨t, ?_⟩
    rw [List.cons_append, List.cons_append, reports_cons, hlow, reports_cons, hhigh, ht,
      List.append_assoc, List.singleton_append]
    rfl

lemma reports_idle {bits : List Bool} {body : List (Bool × Nat)} (h : c.Carries bits body)
    {decoder : SubGhzBlockDecoder} (hstep : decoder.parserStep = .reset)
    (levels : List (Bool × Nat)) :
    c.reports decoder (body ++ levels) = c.reports decoder levels := by
  have hhigh (duration : Nat) : c.feed decoder true duration = (none, decoder) := by
    simp only [feed, hstep]
    rw [if_neg (by simp)]
  induction h with
  | nil => rfl
  | @cons low high bit bits body hbit _ ih =>
    have hlow : c.feed decoder false low = (none, decoder) := by
      simp only [feed, hstep]
      rw [if_neg fun hand => not_header_of_low (low_lt_end hbit) hand.2]
    rw [List.cons_append, List.cons_append, reports_cons, hlow, reports_cons, hhigh, ih]
    rfl

lemma reports_key {decoder : SubGhzBlockDecoder} {start : Nat} {bits : List Bool}
    {body : List (Bool × Nat)} (hstep : decoder.parserStep = .foundStartBit)
    (hstart : durationDiff start c.start < c.startDelta) (hbody : c.Carries bits body)
    (levels : List (Bool × Nat)) :
    ∃ t, c.reports decoder ((true, start) :: (body ++ levels)) =
      c.reports (saved t bits) levels := by
  obtain ⟨t, ht⟩ := reports_carries hbody decoder.teLast [] levels
  refine ⟨t, ?_⟩
  rw [reports_cons, feed_start hstep hstart, ht]
  rfl

lemma filterMap_cons_report (bits : List Bool) (keys : List (List Bool)) :
    (bits :: keys).filterMap c.report = (c.report bits).toList ++ keys.filterMap c.report := by
  rw [List.filterMap_cons]
  cases c.report bits <;> rfl

lemma reports_saved {keys : List (List Bool)} {levels : List (Bool × Nat)}
    (h : c.Signal keys levels) (teLast : Nat) (bits : List Bool) :
    c.reports (saved teLast bits) levels = (bits :: keys).dropLast.filterMap c.report := by
  induction h generalizing teLast bits with
  | nil => rfl
  | @cons header start key keys body levels hheader hstart hbody _ ih =>
    obtain ⟨decoder, hend, hstep⟩ := feed_end teLast bits (end_le_of_header hheader)
    obtain ⟨t, ht⟩ := reports_key hstep hstart hbody levels
    rw [reports_cons, hend, ht, ih, List.dropLast_cons_cons, filterMap_cons_report]

lemma reports_found (decoder : SubGhzBlockDecoder) {start : Nat} {bits : List Bool}
    {keys : List (List Bool)} {body levels : List (Bool × Nat)}
    (hstep : decoder.parserStep = .foundStartBit)
    (hstart : durationDiff start c.start < c.startDelta) (hbody : c.Carries bits body)
    (h : c.Signal keys levels) :
    c.reports decoder ((true, start) :: (body ++ levels)) =
      (bits :: keys).dropLast.filterMap c.report := by
  obtain ⟨t, ht⟩ := reports_key hstep hstart hbody levels
  rw [ht, reports_saved h]

lemma reports_reset {decoder : SubGhzBlockDecoder} {keys : List (List Bool)}
    {levels : List (Bool × Nat)} (h : c.Signal keys levels)
    (hstep : decoder.parserStep = .reset) :
    c.reports decoder levels = keys.dropLast.filterMap c.report := by
  cases h with
  | nil => rfl
  | cons hheader hstart hbody hrest =>
    rw [reports_cons, ← reports_found { decoder with parserStep := .foundStartBit } rfl hstart hbody
      hrest]
    simp only [feed, hstep]
    rw [if_pos ⟨Bool.not_false, hheader⟩]
    rfl

lemma feed_header (decoder : SubGhzBlockDecoder) {header : Nat}
    (hheader : durationDiff header c.header < c.headerDelta) :
    (c.feed decoder false header).2.parserStep = .foundStartBit ∨
      (c.feed decoder false header).2.parserStep = .reset := by
  have hend := end_le_of_header hheader
  cases hstep : decoder.parserStep <;> simp only [feed, hstep]
  · rw [if_pos ⟨Bool.not_false, hheader⟩]
    exact .inl rfl
  · by_cases hwaits : c.startWaits = true
    · rw [if_pos ⟨Bool.not_false, hwaits⟩]
      exact .inl hstep
    · rw [if_neg fun hand => hwaits hand.2, if_neg fun hand => Bool.false_ne_true hand.1]
      exact .inr rfl
  · rw [if_pos Bool.not_false, if_pos hend]
    exact .inl rfl
  · exact .inr rfl

lemma reports_signal {bits : List Bool} {keys : List (List Bool)} {levels : List (Bool × Nat)}
    (h : c.Signal (bits :: keys) levels) (decoder : SubGhzBlockDecoder) :
    ∃ stale, stale.length ≤ 2 ∧
      c.reports decoder levels = stale ++ keys.dropLast.filterMap c.report := by
  cases h with
  | @cons header start _ _ body levels hheader hstart hbody hrest =>
    rw [reports_cons]
    have hnext := feed_header decoder hheader
    have hfirst : (c.feed decoder false header).1.toList.length ≤ 1 := by
      cases (c.feed decoder false header).1 <;> simp
    rcases hnext with hnext | hnext
    · refine ⟨(c.feed decoder false header).1.toList ++
        (keys.head?.bind fun _ => c.report bits).toList, ?_, ?_⟩
      · have hsecond : (keys.head?.bind fun _ => c.report bits).toList.length ≤ 1 := by
          cases keys.head?.bind fun _ => c.report bits <;> simp
        rw [List.length_append]
        omega
      · rw [reports_found _ hnext hstart hbody hrest, List.append_assoc]
        congr 1
        cases keys with
        | nil => rfl
        | cons key keys =>
          rw [List.dropLast_cons_cons, List.head?_cons, Option.bind_some, filterMap_cons_report]
    · refine ⟨_, Nat.le_succ_of_le hfirst, ?_⟩
      congr 1
      generalize (c.feed decoder false header).2 = decoder at hnext
      have hpulse : c.feed decoder true start = (none, decoder) := by
        simp only [feed, hnext]
        rw [if_neg (by simp)]
      rw [reports_cons, hpulse, reports_idle hbody hnext, reports_reset hrest hnext]
      rfl

/-- A decoder comes into step with a signal: whatever state it is in, it reports the keys from the
second one on, up to the last one, in order and once each, behind at most two other reports; and it
reports exactly the keys up to the last one if it waits for a header. -/
theorem reports_keys (protocol : StaticProtocol) (decoder : SubGhzBlockDecoder)
    {keys : List (List Bool)} {levels : List (Bool × Nat)}
    (h : protocol.code.Signal keys levels) :
    (∃ stale, stale.length ≤ 2 ∧ protocol.code.reports decoder levels =
      stale ++ keys.tail.dropLast.filterMap protocol.code.report) ∧
    (decoder.parserStep = .reset →
      protocol.code.reports decoder levels = keys.dropLast.filterMap protocol.code.report) := by
  refine ⟨?_, reports_reset h⟩
  cases keys with
  | nil =>
    cases h
    exact ⟨[], Nat.zero_le 2, rfl⟩
  | cons bits keys => exact reports_signal h decoder

/-- A decoder in the middle of a bit misses the first of three keys, and the third is not reported
yet. -/
theorem reports_keys_three :
    ∃ stale, stale.length ≤ 2 ∧ subghzProtocolCame.reports ⟨.checkDuration, 320, 1, 1⟩
      (List.replicate 3 ((false, 15000) :: (true, 300) ::
        (List.replicate 12 [(false, 650), (true, 330)]).flatten)).flatten =
          stale ++ [(0xFFF, 12)] := by
  have hbody : subghzProtocolCame.Carries (List.replicate 12 true)
      (List.replicate 12 [(false, 650), (true, 330)]).flatten := by
    iterate 12 refine .cons (by decide) ?_
    exact .nil
  have hsignal : subghzProtocolCame.Signal (List.replicate 3 (List.replicate 12 true))
      (List.replicate 3 ((false, 15000) :: (true, 300) ::
        (List.replicate 12 [(false, 650), (true, 330)]).flatten)).flatten := by
    iterate 3 refine .cons (by decide) (by decide) hbody ?_
    exact .nil
  exact (reports_keys .came ⟨.checkDuration, 320, 1, 1⟩ hsignal).1

/-! ### What has been heard -/

def Tracks (c : StaticCode) (decoder : SubGhzBlockDecoder) (before : List (Bool × Nat)) : Prop :=
  match decoder.parserStep with
  | .reset         => True
  | .foundStartBit => ∃ gap gaps, ((false, gap) :: gaps) <:+ before ∧ c.endDuration ≤ gap ∧
      ∀ level ∈ gaps, level.1 = false ∧ c.startWaits = true
  | .saveDuration  => ∃ bits levels, c.Heard bits levels ∧ levels <:+ before ∧
      decoder.decodeData = word bits ∧ decoder.decodeCountBit = count bits
  | .checkDuration => ∃ bits levels, c.Heard bits levels ∧
      levels ++ [(false, decoder.teLast)] <:+ before ∧
      decoder.decodeData = word bits ∧ decoder.decodeCountBit = count bits

lemma suffix_concat {levels before : List (Bool × Nat)} (h : levels <:+ before)
    (level : Bool × Nat) : levels ++ [level] <:+ before ++ [level] := by
  obtain ⟨rest, rfl⟩ := h
  exact ⟨rest, (List.append_assoc _ _ _).symm⟩

lemma found_of_gap {gap : Nat} (h : c.endDuration ≤ gap) (before : List (Bool × Nat)) :
    ∃ gap' gaps, ((false, gap') :: gaps) <:+ before ++ [(false, gap)] ∧ c.endDuration ≤ gap' ∧
      ∀ level ∈ gaps, level.1 = false ∧ c.startWaits = true :=
  ⟨gap, [], List.suffix_append _ _, h, fun _ hmem => absurd hmem List.not_mem_nil⟩

lemma tracks_feed {decoder : SubGhzBlockDecoder} {before : List (Bool × Nat)}
    (h : c.Tracks decoder before) (level : Bool) (duration : Nat) :
    c.Tracks (c.feed decoder level duration).2 (before ++ [(level, duration)]) := by
  rw [Tracks] at h
  cases hstep : decoder.parserStep <;> rw [hstep] at h <;> simp only [feed, hstep]
  · split_ifs with hheader
    · obtain rfl : level = false := by simpa using hheader.1
      exact found_of_gap (end_le_of_header hheader.2) before
    · simp only [Tracks, hstep]
  · obtain ⟨gap, gaps, hsuffix, hgap, hgaps⟩ := h
    split_ifs with hwaits hstart
    · obtain rfl : level = false := by simpa using hwaits.1
      simp only [Tracks, hstep]
      refine ⟨gap, gaps ++ [(false, duration)], suffix_concat hsuffix _, hgap, ?_⟩
      intro other hmem
      rcases List.mem_append.mp hmem with hmem | hmem
      · exact hgaps other hmem
      · rw [List.mem_singleton.mp hmem]
        exact ⟨rfl, hwaits.2⟩
    · rw [hstart.1]
      exact ⟨[], _, .start hgap hgaps hstart.2, suffix_concat hsuffix _, rfl, rfl⟩
    · trivial
  · obtain ⟨bits, levels, hheard, hsuffix, hdata, hcount⟩ := h
    cases level with
    | false =>
      rw [if_pos Bool.not_false]
      by_cases hend : c.endDuration ≤ duration
      · rw [if_pos hend]
        exact found_of_gap hend before
      · rw [if_neg hend]
        exact ⟨bits, levels, hheard, suffix_concat hsuffix _, hdata, hcount⟩
    | true =>
      rw [if_neg (by simp)]
      by_cases hwaits : c.saveWaits = true
      · rw [if_pos hwaits]
        simp only [Tracks, hstep]
        exact ⟨bits, _, .pulse hheard hwaits, suffix_concat hsuffix _, hdata, hcount⟩
      · rw [if_neg hwaits]
        trivial
  · obtain ⟨bits, levels, hheard, hsuffix, hdata, hcount⟩ := h
    split_ifs with hhigh
    · cases hbit : c.bitOf decoder.teLast duration with
      | none => trivial
      | some bit =>
        rw [hhigh]
        refine ⟨bits ++ [bit], _, hheard.bit hbit, suffix_concat hsuffix _, ?_, ?_⟩
        · rw [word_concat, ← hdata]
          rfl
        · rw [count_concat, ← hcount]
          rfl
    · trivial

lemma heard_of_feed {decoder : SubGhzBlockDecoder} {before : List (Bool × Nat)}
    (h : c.Tracks decoder before) {level : Bool} {duration : Nat} {out : BitVec 64 × BitVec 8}
    (hout : (c.feed decoder level duration).1 = some out) :
    ∃ bits levels, c.Heard bits levels ∧ levels <:+ before ∧ level = false ∧
      c.endDuration ≤ duration ∧ c.report bits = some out := by
  rw [Tracks] at h
  cases hstep : decoder.parserStep <;> rw [hstep] at h <;> simp only [feed, hstep] at hout
  · split_ifs at hout
  · split_ifs at hout
  · obtain ⟨bits, levels, hheard, hsuffix, hdata, hcount⟩ := h
    cases level with
    | false =>
      rw [if_pos Bool.not_false] at hout
      by_cases hend : c.endDuration ≤ duration
      · rw [if_pos hend] at hout
        refine ⟨bits, levels, hheard, hsuffix, rfl, hend, ?_⟩
        rw [report, ← hdata, ← hcount]
        exact hout
      · rw [if_neg hend] at hout
        cases hout
    | true =>
      rw [if_neg (by simp)] at hout
      split_ifs at hout
  · split_ifs at hout with hhigh
    cases hbit : c.bitOf decoder.teLast duration <;> rw [hbit] at hout <;> cases hout

lemma tracks_final {decoder : SubGhzBlockDecoder} {before : List (Bool × Nat)}
    (h : c.Tracks decoder before) (levels : List (Bool × Nat)) :
    c.Tracks (c.receiver.final decoder levels) (before ++ levels) := by
  induction levels generalizing decoder before with
  | nil => rwa [List.append_nil]
  | cons level levels ih =>
    rw [Mealy.final_cons, List.append_cons]
    exact ih (tracks_feed h level.1 level.2)

/-- Nothing is reported that was not on the air: whatever a decoder that waited for a header has
been fed with, a report comes with a gap that ends bits, right behind the gap before them, the start
pulse and the levels of all of them, and it is a report of these bits. -/
theorem heard_of_report (protocol : StaticProtocol) (decoder : SubGhzBlockDecoder)
    (hstep : decoder.parserStep = .reset) (before : List (Bool × Nat)) (level : Bool)
    (duration : Nat) {out : BitVec 64 × BitVec 8}
    (hout : (protocol.code.feed (protocol.code.receiver.final decoder before) level duration).1 =
      some out) :
    ∃ bits levels, protocol.code.Heard bits levels ∧ levels <:+ before ∧ level = false ∧
      protocol.code.endDuration ≤ duration ∧ protocol.code.report bits = some out := by
  have htracks : protocol.code.Tracks decoder [] := by simp only [Tracks, hstep]
  exact heard_of_feed (tracks_final htracks before) hout

/-- A key of twelve ones is reported. -/
theorem heard_of_report_ones : ∃ bits levels, subghzProtocolCame.Heard bits levels ∧
    levels <:+ (false, 15000) :: (true, 300) ::
      (List.replicate 12 [(false, 650), (true, 330)]).flatten ∧
    subghzProtocolCame.report bits = some (0xFFF, 12) := by
  have hout : (subghzProtocolCame.feed (subghzProtocolCame.receiver.final ⟨.reset, 0, 0, 0⟩
      ((false, 15000) :: (true, 300) :: (List.replicate 12 [(false, 650), (true, 330)]).flatten))
      false 1300).1 = some (0xFFF, 12) := by decide
  obtain ⟨bits, levels, hheard, hsuffix, -, -, hreport⟩ := heard_of_report .came _ rfl _ _ _ hout
  exact ⟨bits, levels, hheard, hsuffix, hreport⟩

end StaticCode

end FlipperZero
