import FlipperZero.Foundation.System
import FlipperZero.Infrared.Protocols

/-!
# Bounds of the infrared decoder

Whatever samples arrive, the decoder of every protocol ends its loop, passes its checks and
stays within the array of timings, with one exception: Pioneer accepts two lengths, and when a
long space ends the shorter one with a wrong checksum the decoder neither consumes the space
nor starts again. Every further sample then only fills the array.

The argument is generic in the protocol. `InfraredDecoderSpec.Sound` collects what it needs to
know about one, and is shown for each entry of the table.
-/

namespace FlipperZero

open Foundation

/-! ### Levels -/

lemma infraredFrontLevel_succ (level : Bool) (cnt : Nat) :
    infraredFrontLevel level (cnt + 1) = !infraredFrontLevel level cnt := by
  unfold infraredFrontLevel
  cases level <;> grind

/-- A sample of the other level does not change the level of the oldest one. -/
lemma infraredFrontLevel_append {level level' : Bool} (h : level' ≠ level) (cnt : Nat) :
    infraredFrontLevel level' (cnt + 1) = infraredFrontLevel level cnt := by
  obtain rfl : level' = !level := by
    cases level <;> cases level' <;> simp_all
  unfold infraredFrontLevel
  cases level <;> grind

/-! ### What is asked of a protocol -/

namespace InfraredDecoderSpec

variable (spec : InfraredDecoderSpec)

/-- Decoding a mark never exceeds the longest length. -/
def MarksKeepLength : Prop :=
  ∀ b t, b.databitCnt ≤ spec.longest → (spec.decode b true t).2.databitCnt ≤ spec.longest

/-- There is room for what a mark may add. -/
def Room (b : InfraredDatabits) : Prop := b.databitCnt < spec.longest ∨ spec.MarksKeepLength

/-- What the bounds need to know about a protocol. -/
structure Sound : Prop where
  splits : spec.timings.minSplitTime ≠ 0
  lengths : ∀ n ∈ spec.databitLen, 0 < n
  decode_le : ∀ b level t, b.databitCnt < spec.longest →
    (spec.decode b level t).2.databitCnt ≤ spec.longest
  decode_space : ∀ b t, b.databitCnt < spec.longest → spec.Room (spec.decode b false t).2
  interpret_databitCnt : ∀ p, (spec.interpret p).2.databitCnt = p.databitCnt
  interpret_reject : ∀ p, p.databitCnt ∈ spec.shorter → (spec.interpret p).1 = false →
    (spec.interpret p).2 = p
  decodeRepeat_le : ∀ f, spec.decodeRepeat = some f → ∀ ts, ts.length ≤ infraredTimingsSize →
    (f ts).2.length ≤ ts.length ∧ ((f ts).1 ≠ .error → (f ts).2.length < infraredTimingsSize)
  decodeRepeat_preamble : spec.decodeRepeat.isSome → spec.timings.preambleMark ≠ 0

variable {spec}

lemma Sound.longest_pos (h : spec.Sound) : 0 < spec.longest :=
  h.lengths _ List.mem_cons_self

lemma Room.mark_le {b : InfraredDatabits} (hroom : spec.Room b) (h : spec.Sound)
    (hb : b.databitCnt ≤ spec.longest) (t : Nat) :
    (spec.decode b true t).2.databitCnt ≤ spec.longest := by
  rcases hroom with hlt | hmarks
  · exact h.decode_le b true t hlt
  · exact hmarks b t hb

end InfraredDecoderSpec

section

variable {spec : InfraredDecoderSpec}

/-! ### Decoding bits -/

/-- The bits fit, and there is room for a mark when a mark comes next. -/
def DatabitsFit (spec : InfraredDecoderSpec) (b : InfraredDatabits) (front : Bool) : Prop :=
  b.databitCnt ≤ spec.longest ∧ (front = true → spec.Room b)

lemma DatabitsFit.of_databitCnt {b b' : InfraredDatabits} {front : Bool}
    (hb : DatabitsFit spec b front) (h : b'.databitCnt = b.databitCnt) :
    DatabitsFit spec b' front := by
  unfold DatabitsFit InfraredDecoderSpec.Room at hb ⊢
  rw [h]
  exact hb

/-- A space longer than the split time at the front, after one of the listed lengths. -/
def EndsWithSplit (spec : InfraredDecoderSpec) (level : Bool) (b : InfraredDatabits)
    (timings : List Nat) : Prop :=
  infraredFrontLevel level timings.length = false ∧ b.databitCnt ∈ spec.databitLen ∧
    ∃ t rest, timings = t :: rest ∧ spec.timings.minSplitTime < t

/-- What the loop over the timings leaves. -/
def DecodedTimings (spec : InfraredDecoderSpec) (level : Bool) (b : InfraredDatabits)
    (timings : List Nat) : InfraredStatus × InfraredDatabits × List Nat → Prop
  | (status, b', rest) =>
    b'.databitCnt ≤ spec.longest ∧ rest.length ≤ timings.length ∧
      match status with
      | .ready => EndsWithSplit spec level b' rest ∧ (rest.length < timings.length ∨ b' = b)
      | .error => rest ≠ []
      | _ => rest = [] ∧ DatabitsFit spec b' (infraredFrontLevel level 0)

lemma DecodedTimings.cons {level : Bool} {b₀ b : InfraredDatabits} {t : Nat} {timings : List Nat}
    {r : InfraredStatus × InfraredDatabits × List Nat}
    (h : DecodedTimings spec level b timings r) : DecodedTimings spec level b₀ (t :: timings) r := by
  obtain ⟨status, b', rest⟩ := r
  obtain ⟨hle, hlen, hstatus⟩ := h
  refine ⟨hle, Nat.le_succ_of_le hlen, ?_⟩
  cases status with
  | ready => exact ⟨hstatus.1, .inl (Nat.lt_succ_of_le hlen)⟩
  | error => exact hstatus
  | ok => exact hstatus
  | done => exact hstatus

lemma DatabitsFit.decode {b : InfraredDatabits} {front : Bool} (h : spec.Sound)
    (hb : DatabitsFit spec b front) (hspace : front = false → b.databitCnt ≠ spec.longest)
    (t : Nat) : DatabitsFit spec (spec.decode b front t).2 (!front) := by
  obtain ⟨hle, hroom⟩ := hb
  cases front with
  | true => exact ⟨(hroom rfl).mark_le h hle t, fun hfront => by cases hfront⟩
  | false =>
    have hlt := Nat.lt_of_le_of_ne hle (hspace rfl)
    exact ⟨h.decode_le b false t hlt, fun _ => h.decode_space b t hlt⟩

lemma infraredCommonDecodeTimings_spec (h : spec.Sound) (level : Bool) (timings : List Nat)
    (b : InfraredDatabits)
    (hb : DatabitsFit spec b (infraredFrontLevel level timings.length)) :
    ∃ r, infraredCommonDecodeTimings spec level b timings = .ok r ∧
      DecodedTimings spec level b timings r := by
  induction timings generalizing b with
  | nil => exact ⟨_, rfl, hb.1, Nat.le_refl _, rfl, hb⟩
  | cons t rest ih =>
    unfold infraredCommonDecodeTimings
    simp only [ne_eq, h.splits, not_false_eq_true, decide_true, Bool.true_and, Bool.and_eq_true,
      Bool.not_eq_true', decide_eq_true_eq, List.contains_iff_mem]
    generalize hfront : infraredFrontLevel level (t :: rest).length = front at hb
    split_ifs with hready hshort hcheck herror hend
    · exact ⟨_, rfl, hb.1, Nat.le_refl _, ⟨hfront.trans hready.1.1, hready.2, t, rest, rfl,
        hready.1.2⟩, .inr rfl⟩
    · exact ⟨_, rfl, hb.1, Nat.le_refl _, List.cons_ne_nil _ _⟩
    all_goals
      have hspace : front = false → b.databitCnt ≠ spec.longest := by
        intro hfalse heq
        rcases Nat.lt_or_ge spec.timings.minSplitTime t with hlt | hge
        · exact hready ⟨⟨hfalse, hlt⟩, heq ▸ List.mem_cons_self⟩
        · exact hshort ⟨⟨hfalse, hge⟩, heq.symm⟩
      have hfit := hb.decode h hspace t
    · exact absurd hfit.1 (Nat.not_le.mpr hcheck)
    · exact ⟨_, rfl, hfit.1, Nat.le_refl _, List.cons_ne_nil _ _⟩
    · exact absurd hend.2 (by simp)
    · have hnext : infraredFrontLevel level rest.length = !front := by
        rw [← hfront, List.length_cons, infraredFrontLevel_succ, Bool.not_not]
      obtain ⟨r, hr, hdecoded⟩ := ih _ (hnext ▸ hfit)
      exact ⟨r, hr, hdecoded.cons⟩

/-! ### The states of the decoder -/

/-- The decoder holds a space that ends a shorter length which the interpreter has rejected. It
is not consumed, and the decoder does not begin from the start. -/
structure HoldsRejectedSplit (spec : InfraredDecoderSpec) (d : InfraredCommonDecoder) : Prop where
  decoding : d.state = .decode
  front : d.frontLevel = false
  space : ∃ t rest, d.timings = t :: rest ∧ spec.timings.minSplitTime < t
  shorter : d.databitCnt ∈ spec.shorter
  notLongest : spec.longest ≠ d.databitCnt
  rejected : (spec.interpret d.toInfraredPayload).1 = false

/-- What holds between two calls. -/
structure InfraredCommonDecoder.Bounded (spec : InfraredDecoderSpec) (d : InfraredCommonDecoder) :
    Prop where
  databitCnt_le : d.databitCnt ≤ spec.longest
  timings_le : d.timings.length ≤ infraredTimingsSize
  waiting : d.state = .waitPreamble → d.timings.length ≤ 4
  decoding : d.state = .decode →
    d.timings = [] ∧ DatabitsFit spec d.toInfraredDatabits d.frontLevel ∨ HoldsRejectedSplit spec d
  repeating : d.state = .processRepeat → d.timings.length < infraredTimingsSize ∧
    spec.decodeRepeat.isSome

/-- What holds between two rounds of the loop over the states. -/
structure InfraredCommonDecoder.RoundBounded (spec : InfraredDecoderSpec)
    (d : InfraredCommonDecoder) : Prop where
  databitCnt_le : d.databitCnt ≤ spec.longest
  timings_le : d.timings.length ≤ infraredTimingsSize
  waiting : d.state = .waitPreamble → spec.timings.preambleMark = 0 → d.timings.length ≤ 5
  decoding : d.state = .decode →
    DatabitsFit spec d.toInfraredDatabits d.frontLevel ∧
        (d.timings.length ≤ 1 ∨ d.databitCnt = 0 ∧ d.timings.length ≤ 5) ∨
      HoldsRejectedSplit spec d
  repeating : d.state = .processRepeat → spec.decodeRepeat.isSome

/-- The measure of the loop: a round consumes a timing or moves on to an earlier state. Without
a preamble, waiting for it consumes a space but not a mark. -/
def infraredRoundMeasure (spec : InfraredDecoderSpec) (d : InfraredCommonDecoder) : Nat :=
  3 * d.timings.length +
    match d.state with
    | .waitPreamble => if spec.timings.preambleMark = 0 ∧ d.frontLevel = true then 3 else 0
    | .decode => 2
    | .processRepeat => 1

lemma infraredRoundMeasure_decode {d : InfraredCommonDecoder} (h : d.state = .decode) :
    infraredRoundMeasure spec d = 3 * d.timings.length + 2 := by
  simp only [infraredRoundMeasure, h]

lemma infraredRoundMeasure_processRepeat {d : InfraredCommonDecoder} (h : d.state = .processRepeat) :
    infraredRoundMeasure spec d = 3 * d.timings.length + 1 := by
  simp only [infraredRoundMeasure, h]

lemma infraredRoundMeasure_waitPreamble {d : InfraredCommonDecoder} (h : d.state = .waitPreamble) :
    infraredRoundMeasure spec d = 3 * d.timings.length +
      if spec.timings.preambleMark = 0 ∧ d.frontLevel = true then 3 else 0 := by
  simp only [infraredRoundMeasure, h]

lemma infraredRoundMeasure_lt {d : InfraredCommonDecoder} (h : d.RoundBounded spec) :
    infraredRoundMeasure spec d < infraredDecodeRounds := by
  have hlen : d.timings.length ≤ 6 := h.timings_le
  unfold infraredRoundMeasure infraredDecodeRounds
  cases d.state <;> grind

/-! ### Waiting for the preamble -/

lemma infraredFindPreamble_length (timings : InfraredTimings) (l : List Nat) :
    ((infraredFindPreamble timings l).1 = true → (infraredFindPreamble timings l).2.length + 2 ≤
      l.length) ∧
    ((infraredFindPreamble timings l).1 = false → (infraredFindPreamble timings l).2.length ≤ 1) := by
  induction l using infraredFindPreamble.induct timings with
  | case1 mark space rest hmatch =>
    simp only [infraredFindPreamble, hmatch, if_true]
    exact ⟨fun _ => Nat.le_refl _, fun h => by cases h⟩
  | case2 mark space rest hmatch ih =>
    simp only [infraredFindPreamble, hmatch, if_false, Bool.false_eq_true]
    exact ⟨fun h => Nat.le_trans (ih.1 h) (Nat.le_add_right _ 2), ih.2⟩
  | case3 rest hrest =>
    match rest, hrest with
    | [], _ => simp [infraredFindPreamble]
    | [t], _ => simp [infraredFindPreamble]
    | a :: b :: rest, hrest => exact absurd rfl (hrest a b rest)

/-- A call that ends within the bounds. -/
def EndsBounded (spec : InfraredDecoderSpec) (r : InfraredDecodeResult) : Prop :=
  ∃ message d, r = .ok (message, d) ∧ d.Bounded spec

/-- What a round is asked for. -/
abbrev RoundMeets (spec : InfraredDecoderSpec) (d : InfraredCommonDecoder)
    (r : Round (Bool × InfraredCommonDecoder) InfraredDecodeResult) : Prop :=
  r.Meets (fun p => p.2.RoundBounded spec) (fun p => infraredRoundMeasure spec p.2)
    (EndsBounded spec) (infraredRoundMeasure spec d)

lemma RoundMeets.startDecode (h : spec.Sound) {found : Bool} {d d' : InfraredCommonDecoder}
    (hstate : d'.state = .decode) (hcnt : d'.databitCnt = 0) (hlen : d'.timings.length ≤ 5)
    (hmeasure : 3 * d'.timings.length + 2 < infraredRoundMeasure spec d) :
    RoundMeets spec d (.again (found, d')) := by
  have hzero : d'.databitCnt < spec.longest := hcnt ▸ h.longest_pos
  constructor
  · constructor
    · exact Nat.le_of_lt hzero
    · exact Nat.le_succ_of_le hlen
    · exact fun hs => absurd (hstate.symm.trans hs) nofun
    · exact fun _ => .inl ⟨⟨Nat.le_of_lt hzero, fun _ => .inl hzero⟩, .inr ⟨hcnt, hlen⟩⟩
    · exact fun hs => absurd (hstate.symm.trans hs) nofun
  · exact (infraredRoundMeasure_decode hstate).trans_lt hmeasure

lemma EndsBounded.waitPreamble {message : Option InfraredMessage} {d : InfraredCommonDecoder}
    (hstate : d.state = .waitPreamble) (hle : d.databitCnt ≤ spec.longest)
    (hlen : d.timings.length ≤ 4) : EndsBounded spec (.ok (message, d)) := by
  refine ⟨_, _, rfl, hle, Nat.le_trans hlen (by decide), fun _ => hlen, ?_, ?_⟩
  · exact fun hs => absurd (hstate.symm.trans hs) nofun
  · exact fun hs => absurd (hstate.symm.trans hs) nofun

lemma EndsBounded.processRepeat {message : Option InfraredMessage} {d : InfraredCommonDecoder}
    (hstate : d.state = .processRepeat) (hle : d.databitCnt ≤ spec.longest)
    (hlen : d.timings.length < infraredTimingsSize) (hrepeat : spec.decodeRepeat.isSome) :
    EndsBounded spec (.ok (message, d)) := by
  refine ⟨_, _, rfl, hle, Nat.le_of_lt hlen, ?_, ?_, fun _ => ⟨hlen, hrepeat⟩⟩
  · exact fun hs => absurd (hstate.symm.trans hs) nofun
  · exact fun hs => absurd (hstate.symm.trans hs) nofun

lemma RoundMeets.waitPreamble {found : Bool} {d d' : InfraredCommonDecoder}
    (hstate : d'.state = .waitPreamble) (hle : d'.databitCnt ≤ spec.longest)
    (hlen : d'.timings.length ≤ infraredTimingsSize)
    (hmark : spec.timings.preambleMark = 0 → d'.timings.length ≤ 5)
    (hmeasure : infraredRoundMeasure spec d' < infraredRoundMeasure spec d) :
    RoundMeets spec d (.again (found, d')) := by
  refine ⟨⟨hle, hlen, fun _ => hmark, ?_, ?_⟩, hmeasure⟩
  · exact fun hs => absurd (hstate.symm.trans hs) nofun
  · exact fun hs => absurd (hstate.symm.trans hs) nofun

lemma infraredCommonDecodeRound_waitPreamble (h : spec.Sound) {found : Bool}
    {d : InfraredCommonDecoder} (hd : d.RoundBounded spec) (hstate : d.state = .waitPreamble) :
    RoundMeets spec d (infraredCommonDecodeRound spec (found, d)) := by
  have hmeasure := @infraredRoundMeasure_waitPreamble spec _ hstate
  have hlen : d.timings.length ≤ 6 := hd.timings_le
  unfold infraredCommonDecodeRound infraredCheckPreamble
  simp only [hstate]
  by_cases hempty : d.timings = []
  · rw [if_pos hempty]
    exact EndsBounded.waitPreamble hstate hd.databitCnt_le (by simp [hempty])
  · rw [if_neg hempty]
    have hpos : 0 < d.timings.length := List.length_pos_iff.mpr hempty
    generalize haligned : (if d.frontLevel = true then d.timings else List.drop 1 d.timings) = l
    have hl : l.length = if d.frontLevel = true then d.timings.length
        else d.timings.length - 1 := by
      rw [← haligned, apply_ite List.length, List.length_drop]
    by_cases hmark : spec.timings.preambleMark = 0
    · simp only [if_pos hmark]
      have hlen5 := hd.waiting hstate hmark
      apply RoundMeets.startDecode h rfl rfl <;> simp only [hl, hmeasure, hmark, true_and]
      · split_ifs <;> grind
      · split_ifs <;> grind
    · simp only [if_neg hmark]
      rw [if_neg (fun hm => hmark hm.1)] at hmeasure
      have hle : l.length ≤ d.timings.length := by
        rw [hl]
        split_ifs
        · exact Nat.le_refl _
        · exact Nat.sub_le _ _
      have hfind := infraredFindPreamble_length spec.timings l
      rcases hresult : infraredFindPreamble spec.timings l with ⟨result, rest⟩
      rw [hresult] at hfind
      cases result with
      | true =>
        have hrest : rest.length + 2 ≤ l.length := hfind.1 rfl
        apply RoundMeets.startDecode h rfl rfl
        · grind
        · grind
      | false =>
        have hrest : rest.length ≤ 1 := hfind.2 rfl
        apply EndsBounded.waitPreamble
        · exact rfl
        · exact hd.databitCnt_le
        · exact Nat.le_trans hrest (by decide)

/-! ### Looking for a repetition -/

lemma infraredCommonDecoderResetState_timings (d : InfraredCommonDecoder) :
    (infraredCommonDecoderResetState spec d).timings =
      if spec.timings.preambleMark = 0 then d.timings.drop 1 else d.timings := rfl

/-- After an error the decoder begins from the start, without the first timing when there is no
preamble to look for. -/
lemma RoundMeets.resetState {found : Bool} {d d' : InfraredCommonDecoder}
    (hne : spec.timings.preambleMark = 0 → d'.timings ≠ [])
    (hlen : d'.timings.length ≤ infraredTimingsSize)
    (hmeasure : 3 * d'.timings.length < infraredRoundMeasure spec d) :
    RoundMeets spec d (.again (found, infraredCommonDecoderResetState spec d')) := by
  have htimings := @infraredCommonDecoderResetState_timings spec d'
  by_cases hmark : spec.timings.preambleMark = 0
  · rw [if_pos hmark] at htimings
    have hpos := List.length_pos_iff.mpr (hne hmark)
    have hdrop : (infraredCommonDecoderResetState spec d').timings.length + 1 =
        d'.timings.length := by
      rw [htimings, List.length_drop, Nat.sub_add_cancel hpos]
    have hlen6 : d'.timings.length ≤ 6 := hlen
    apply RoundMeets.waitPreamble rfl (Nat.zero_le _)
    · exact Nat.le_trans (Nat.le_of_succ_le (Nat.le_of_eq hdrop)) hlen
    · intro _
      exact Nat.le_of_succ_le_succ (Nat.le_trans (Nat.le_of_eq hdrop) hlen6)
    · rw [infraredRoundMeasure_waitPreamble rfl]
      split_ifs <;> grind
  · rw [if_neg hmark] at htimings
    apply RoundMeets.waitPreamble rfl (Nat.zero_le _)
    · rw [htimings]
      exact hlen
    · exact fun hzero => absurd hzero hmark
    · rw [infraredRoundMeasure_waitPreamble rfl, htimings]
      simpa only [hmark, false_and, if_false, Nat.add_zero] using hmeasure

lemma infraredCommonDecodeRound_processRepeat (h : spec.Sound) {found : Bool}
    {d : InfraredCommonDecoder} (hd : d.RoundBounded spec) (hstate : d.state = .processRepeat) :
    RoundMeets spec d (infraredCommonDecodeRound spec (found, d)) := by
  have hrepeat := hd.repeating hstate
  obtain ⟨f, hf⟩ := Option.isSome_iff_exists.mp hrepeat
  have hmark := h.decodeRepeat_preamble hrepeat
  have hkeep := h.decodeRepeat_le f hf d.timings hd.timings_le
  unfold infraredCommonDecodeRound
  simp only [hstate, hf]
  rcases hresult : f d.timings with ⟨status, timings⟩
  rw [hresult] at hkeep
  obtain ⟨hle, hshort⟩ := hkeep
  cases status with
  | error =>
    apply RoundMeets.resetState
    · exact fun hzero => absurd hzero hmark
    · exact Nat.le_trans hle hd.timings_le
    · rw [infraredRoundMeasure_processRepeat hstate]
      exact Nat.lt_succ_of_le (Nat.mul_le_mul_left 3 hle)
  | ready => exact EndsBounded.processRepeat rfl hd.databitCnt_le (hshort nofun) hrepeat
  | ok => exact EndsBounded.processRepeat rfl hd.databitCnt_le (hshort nofun) hrepeat
  | done => exact EndsBounded.processRepeat rfl hd.databitCnt_le (hshort nofun) hrepeat

/-! ### Decoding -/

/-- `check_ready` by cases: the interpreter accepts, and no bits and the next state are left; or
it rejects, and only the payload may change; or the bits have none of the lengths. -/
lemma infraredCommonDecoderCheckReady_cases (d : InfraredCommonDecoder) :
    (d.databitCnt ∈ spec.databitLen ∧ (spec.interpret d.toInfraredPayload).1 = true ∧
        infraredCommonDecoderCheckReady spec d =
          (some (spec.interpret d.toInfraredPayload).2.message,
            { d with
              toInfraredPayload :=
                { (spec.interpret d.toInfraredPayload).2 with databitCnt := 0 }
              state := if spec.decodeRepeat.isSome then .processRepeat else .waitPreamble })) ∨
      (d.databitCnt ∈ spec.databitLen ∧ (spec.interpret d.toInfraredPayload).1 = false ∧
        infraredCommonDecoderCheckReady spec d =
          (none, { d with toInfraredPayload := (spec.interpret d.toInfraredPayload).2 })) ∨
      (d.databitCnt ∉ spec.databitLen ∧ infraredCommonDecoderCheckReady spec d = (none, d)) := by
  unfold infraredCommonDecoderCheckReady
  simp only [List.contains_iff_mem]
  by_cases hmem : d.databitCnt ∈ spec.databitLen
  · rw [if_pos hmem]
    by_cases haccept : (spec.interpret d.toInfraredPayload).1 = true
    · exact .inl ⟨hmem, haccept, if_pos haccept⟩
    · exact .inr (.inl ⟨hmem, Bool.eq_false_of_not_eq_true haccept, if_neg haccept⟩)
  · exact .inr (.inr ⟨hmem, if_neg hmem⟩)

/-- The interpreter has accepted: the loop goes on from an earlier state. -/
lemma RoundMeets.accepted {found : Bool} {d d₁ d' : InfraredCommonDecoder} (hd : d.state = .decode)
    (hcnt : d'.databitCnt = 0) (htimings : d'.timings = d₁.timings)
    (hstate : d'.state = if spec.decodeRepeat.isSome then .processRepeat else .waitPreamble)
    (hfront : d'.frontLevel = false) (hlen : d₁.timings.length ≤ 4)
    (hle : d₁.timings.length ≤ d.timings.length) : RoundMeets spec d (.again (found, d')) := by
  have hmeasure := @infraredRoundMeasure_decode spec _ hd
  rw [← htimings] at hlen hle
  split_ifs at hstate with hrepeat
  · refine ⟨⟨hcnt ▸ Nat.zero_le _, Nat.le_trans hlen (by decide), ?_, ?_, fun _ => hrepeat⟩, ?_⟩
    · exact fun hs => absurd (hstate.symm.trans hs) nofun
    · exact fun hs => absurd (hstate.symm.trans hs) nofun
    · change infraredRoundMeasure spec d' < _
      rw [hmeasure, infraredRoundMeasure_processRepeat hstate]
      exact Nat.add_lt_add_of_le_of_lt (Nat.mul_le_mul_left 3 hle) Nat.one_lt_two
  · apply RoundMeets.waitPreamble hstate (hcnt ▸ Nat.zero_le _)
    · exact Nat.le_trans hlen (by decide)
    · exact fun _ => Nat.le_succ_of_le hlen
    · rw [hmeasure, infraredRoundMeasure_waitPreamble hstate, hfront]
      simp only [Bool.false_eq_true, and_false, if_false]
      exact Nat.add_lt_add_of_le_of_lt (Nat.mul_le_mul_left 3 hle) Nat.two_pos

lemma EndsBounded.rejected {message : Option InfraredMessage} {d : InfraredCommonDecoder}
    (hd : HoldsRejectedSplit spec d) (hle : d.databitCnt ≤ spec.longest)
    (hlen : d.timings.length ≤ infraredTimingsSize) : EndsBounded spec (.ok (message, d)) := by
  refine ⟨_, _, rfl, hle, hlen, ?_, fun _ => .inr hd, ?_⟩
  · exact fun hs => absurd (hd.decoding.symm.trans hs) nofun
  · exact fun hs => absurd (hd.decoding.symm.trans hs) nofun

/-- What a round makes of the end of a listed length. -/
def infraredReadyRound (spec : InfraredDecoderSpec) (d : InfraredCommonDecoder) :
    Round (Bool × InfraredCommonDecoder) InfraredDecodeResult :=
  match infraredCommonDecoderCheckReady spec d with
  | (some _, d) => .again (true, d)
  | (none, d) =>
    if spec.longest = d.databitCnt then .leave (.ok (none, { d with state := .waitPreamble }))
    else .leave (.ok (none, d))

lemma infraredReadyRound_meets (h : spec.Sound) {d d₁ : InfraredCommonDecoder}
    (hd : d.state = .decode) (hd₁ : d₁.state = .decode)
    (hends : EndsWithSplit spec d₁.level d₁.toInfraredDatabits d₁.timings)
    (hle : d₁.databitCnt ≤ spec.longest) (hlen : d₁.timings.length ≤ 4)
    (hshorter : d₁.timings.length ≤ d.timings.length) :
    RoundMeets spec d (infraredReadyRound spec d₁) := by
  obtain ⟨hfront, hmem, hspace⟩ := hends
  unfold infraredReadyRound
  rcases @infraredCommonDecoderCheckReady_cases spec d₁ with
    ⟨-, -, heq⟩ | ⟨-, hrejected, heq⟩ | ⟨hno, -⟩
  · rw [heq]
    exact .accepted hd rfl rfl rfl hfront hlen hshorter
  · have hcnt := h.interpret_databitCnt d₁.toInfraredPayload
    rw [heq]
    dsimp only
    split_ifs with hlongest
    · exact EndsBounded.waitPreamble rfl (Nat.le_of_eq hlongest.symm) hlen
    · have hshort : d₁.databitCnt ∈ spec.shorter := by
        rcases List.mem_cons.mp hmem with heq | hmem
        · exact absurd (hcnt.trans heq).symm hlongest
        · exact hmem
      rw [h.interpret_reject _ hshort hrejected] at hlongest ⊢
      exact EndsBounded.rejected ⟨hd₁, hfront, hspace, hshort, hlongest, hrejected⟩ hle
        (Nat.le_trans hlen (by decide))
  · exact absurd hmem hno

lemma HoldsRejectedSplit.decodeTimings (h : spec.Sound) {d : InfraredCommonDecoder}
    (hd : HoldsRejectedSplit spec d) :
    infraredCommonDecodeTimings spec d.level d.toInfraredDatabits d.timings =
      .ok (.ready, d.toInfraredDatabits, d.timings) := by
  obtain ⟨t, rest, htimings, hlt⟩ := hd.space
  have hfront : infraredFrontLevel d.level (t :: rest).length = false := htimings ▸ hd.front
  have hmem : d.databitCnt ∈ spec.databitLen := List.mem_cons_of_mem _ hd.shorter
  rw [htimings]
  unfold infraredCommonDecodeTimings
  exact if_pos (by simp only [hfront]; simp [h.splits, hlt, hmem])

lemma HoldsRejectedSplit.readyRound (h : spec.Sound) {d : InfraredCommonDecoder}
    (hd : HoldsRejectedSplit spec d) : infraredReadyRound spec d = .leave (.ok (none, d)) := by
  unfold infraredReadyRound
  rcases @infraredCommonDecoderCheckReady_cases spec d with
    ⟨-, haccepted, -⟩ | ⟨-, -, heq⟩ | ⟨-, heq⟩
  · exact absurd (hd.rejected.symm.trans haccepted) nofun
  · rw [heq, h.interpret_reject _ hd.shorter hd.rejected]
    exact if_neg hd.notLongest
  · rw [heq]
    exact if_neg hd.notLongest

lemma infraredCommonDecodeRound_of_decode {found : Bool} {d : InfraredCommonDecoder}
    (hstate : d.state = .decode) :
    infraredCommonDecodeRound spec (found, d) =
      match infraredCommonDecodeBits spec d with
      | .error fault => .leave (.error fault)
      | .ok (.ready, d) => infraredReadyRound spec d
      | .ok (.error, d) => .again (found, infraredCommonDecoderResetState spec d)
      | .ok (_, d) => .leave (.ok (if found then some d.message else none, d)) := by
  simp only [infraredCommonDecodeRound, hstate]
  rfl

lemma infraredCommonDecodeRound_decode (h : spec.Sound) {found : Bool}
    {d : InfraredCommonDecoder} (hd : d.RoundBounded spec) (hstate : d.state = .decode) :
    RoundMeets spec d (infraredCommonDecodeRound spec (found, d)) := by
  rw [infraredCommonDecodeRound_of_decode hstate, infraredCommonDecodeBits]
  rcases hd.decoding hstate with ⟨hfit, hlen⟩ | hrejected
  · obtain ⟨⟨status, b, rest⟩, hr, hle, hrest, hstatus⟩ :=
      infraredCommonDecodeTimings_spec h d.level d.timings d.toInfraredDatabits hfit
    rw [hr]
    cases status with
    | ready =>
      obtain ⟨hends, hless⟩ := hstatus
      -- without bits, a length is only reached after a timing
      have hlen4 : rest.length ≤ 4 := by
        rcases hlen with h1 | ⟨hzero, h5⟩
        · exact Nat.le_trans hrest (Nat.le_trans h1 (by decide))
        · rcases hless with hlt | rfl
          · exact Nat.le_of_lt_succ (Nat.lt_of_lt_of_le hlt h5)
          · exact absurd (hzero ▸ h.lengths _ hends.2.1) (Nat.lt_irrefl 0)
      exact @infraredReadyRound_meets spec h _
        { d with toInfraredDatabits := b, timings := rest } hstate hstate hends hle hlen4
        hrest
    | error =>
      apply RoundMeets.resetState
      · exact fun _ => hstatus
      · exact Nat.le_trans hrest hd.timings_le
      · rw [infraredRoundMeasure_decode hstate]
        exact Nat.lt_add_right 1 (Nat.lt_succ_of_le (Nat.mul_le_mul_left 3 hrest))
    | ok | done =>
      obtain ⟨rfl, hfit⟩ := hstatus
      refine ⟨_, _, rfl, hle, Nat.zero_le _, ?_, fun _ => .inl ⟨rfl, hfit⟩, ?_⟩
      · exact fun hs => absurd (hstate.symm.trans hs) nofun
      · exact fun hs => absurd (hstate.symm.trans hs) nofun
  · rw [hrejected.decodeTimings h]
    change RoundMeets spec d (infraredReadyRound spec d)
    rw [hrejected.readyRound h]
    exact EndsBounded.rejected hrejected hd.databitCnt_le hd.timings_le

/-! ### Calls -/

lemma infraredCommonDecodeRound_loop (h : spec.Sound) {d : InfraredCommonDecoder}
    (hd : d.RoundBounded spec) :
    ∃ r, loop (infraredCommonDecodeRound spec) infraredDecodeRounds (false, d) = some r ∧
      EndsBounded spec r := by
  apply loop_total (I := fun p => p.2.RoundBounded spec)
    (m := fun p => infraredRoundMeasure spec p.2)
  · rintro ⟨found, d⟩ hd
    cases hstate : d.state with
    | waitPreamble => exact infraredCommonDecodeRound_waitPreamble h hd hstate
    | decode => exact infraredCommonDecodeRound_decode h hd hstate
    | processRepeat => exact infraredCommonDecodeRound_processRepeat h hd hstate
  · exact hd
  · exact infraredRoundMeasure_lt hd

/-- The sample that would be written behind the array: the decoder holds a rejected space and
five more samples, and the level alternates once more. -/
def OverrunsRejectedSplit (spec : InfraredDecoderSpec) (d : InfraredCommonDecoder) (level : Bool) :
    Prop :=
  HoldsRejectedSplit spec d ∧ d.timings.length = infraredTimingsSize ∧ level ≠ d.level

lemma InfraredCommonDecoder.Bounded.append {d : InfraredCommonDecoder} (hd : d.Bounded spec)
    {level : Bool} (hlevel : level ≠ d.level) (hlt : d.timings.length < infraredTimingsSize)
    (duration : Nat) :
    InfraredCommonDecoder.RoundBounded spec
      { d with level := level, timings := d.timings ++ [duration] } := by
  have hfront : InfraredCommonDecoder.frontLevel
      { d with level := level, timings := d.timings ++ [duration] } = d.frontLevel := by
    simp only [InfraredCommonDecoder.frontLevel, List.length_append, List.length_singleton]
    exact infraredFrontLevel_append hlevel _
  have hlen : (d.timings ++ [duration]).length = d.timings.length + 1 := by simp
  constructor
  · exact hd.databitCnt_le
  · rw [hlen]
    exact hlt
  · intro hs _
    rw [hlen]
    exact Nat.succ_le_succ (hd.waiting hs)
  · intro hs
    rcases hd.decoding hs with ⟨hempty, hfit⟩ | hrejected
    · refine .inl ⟨hfront ▸ hfit, .inl ?_⟩
      rw [hlen, hempty]
      exact Nat.le_refl 1
    · obtain ⟨t, rest, htimings, hsplit⟩ := hrejected.space
      refine .inr ⟨hs, hfront.trans hrejected.front, ⟨t, rest ++ [duration], ?_, hsplit⟩,
        hrejected.shorter, hrejected.notLongest, hrejected.rejected⟩
      change d.timings ++ [duration] = t :: (rest ++ [duration])
      rw [htimings, List.cons_append]
  · exact fun hs => (hd.repeating hs).2

lemma infraredCommonDecoderReset_append (level : Bool) (duration : Nat)
    (d : InfraredCommonDecoder) :
    InfraredCommonDecoder.RoundBounded spec
      { infraredCommonDecoderReset spec d with
        level := level
        timings := (infraredCommonDecoderReset spec d).timings ++ [duration] } := by
  refine ⟨Nat.zero_le _, ?_, fun _ _ => ?_, nofun, nofun⟩
  · exact Nat.succ_le_succ (Nat.zero_le 5)
  · exact Nat.succ_le_succ (Nat.zero_le 4)

lemma infraredCommonDecoderReset_bounded (d : InfraredCommonDecoder) :
    (infraredCommonDecoderReset spec d).Bounded spec :=
  ⟨Nat.zero_le _, Nat.zero_le _, fun _ => Nat.zero_le _, nofun, nofun⟩

lemma infraredStoreAndDecode_bounded (h : spec.Sound) {d : InfraredCommonDecoder} {level : Bool}
    {duration : Nat} (hlt : d.timings.length < infraredTimingsSize)
    (hd : InfraredCommonDecoder.RoundBounded spec
      { d with level := level, timings := d.timings ++ [duration] }) :
    EndsBounded spec (infraredStoreAndDecode spec d level duration) := by
  obtain ⟨r, hr, hends⟩ := infraredCommonDecodeRound_loop h hd
  have hcheck : ¬4 * infraredTimingsSize < (d.timings ++ [duration]).length :=
    Nat.not_lt.mpr (Nat.le_trans hd.timings_le (by decide))
  unfold infraredStoreAndDecode
  rw [if_neg (Nat.not_le.mpr hlt)]
  simp only [if_neg hcheck, hr, Option.getD_some]
  exact hends

/-- A call of `infrared_common_decode` ends within the bounds, unless its sample overruns a
rejected space; then it is written behind the array. -/
lemma infraredCommonDecode_bounded (h : spec.Sound) {d : InfraredCommonDecoder}
    (hd : d.Bounded spec) (level : Bool) (duration : Nat) :
    (OverrunsRejectedSplit spec d level →
      infraredCommonDecode spec d level duration = .error .timingsOverflow) ∧
    (¬OverrunsRejectedSplit spec d level →
      EndsBounded spec (infraredCommonDecode spec d level duration)) := by
  unfold infraredCommonDecode
  by_cases hlevel : d.level = level
  · rw [if_pos hlevel]
    constructor
    · exact fun hover => absurd hlevel.symm hover.2.2
    · intro _
      exact infraredStoreAndDecode_bounded h (Nat.succ_pos _)
        (infraredCommonDecoderReset_append level duration d)
  · rw [if_neg hlevel]
    have hlevel' : level ≠ d.level := fun heq => hlevel heq.symm
    rcases Nat.lt_or_ge d.timings.length infraredTimingsSize with hlt | hge
    · constructor
      · exact fun hover => absurd hover.2.1 (Nat.ne_of_lt hlt)
      · intro _
        exact infraredStoreAndDecode_bounded h hlt (hd.append hlevel' hlt duration)
    · constructor
      · exact fun _ => if_pos hge
      · intro hover
        have hfull := Nat.le_antisymm hd.timings_le hge
        refine absurd ⟨?_, hfull, hlevel'⟩ hover
        cases hstate : d.state with
        | waitPreamble => exact absurd (hd.waiting hstate) (by rw [hfull]; decide)
        | decode =>
          rcases hd.decoding hstate with ⟨hempty, -⟩ | hrejected
          · exact absurd hfull (by rw [hempty]; decide)
          · exact hrejected
        | processRepeat => exact absurd hfull (Nat.ne_of_lt (hd.repeating hstate).1)

lemma InfraredCommonDecoder.Bounded.accepted {d : InfraredCommonDecoder} (hd : d.Bounded spec)
    (haccepted : (spec.interpret d.toInfraredPayload).1 = true) :
    d.timings.length ≤ 4 ∨ d.timings.length < infraredTimingsSize ∧ spec.decodeRepeat.isSome := by
  cases hstate : d.state with
  | waitPreamble => exact .inl (hd.waiting hstate)
  | decode =>
    rcases hd.decoding hstate with ⟨hempty, -⟩ | hrejected
    · exact .inl (hempty ▸ Nat.zero_le 4)
    · exact absurd (hrejected.rejected.symm.trans haccepted) nofun
  | processRepeat => exact .inr (hd.repeating hstate)

lemma infraredCommonDecoderCheckReady_bounded (h : spec.Sound) {d : InfraredCommonDecoder}
    (hd : d.Bounded spec) : (infraredCommonDecoderCheckReady spec d).2.Bounded spec := by
  rcases @infraredCommonDecoderCheckReady_cases spec d with
    ⟨-, haccepted, heq⟩ | ⟨-, hrejected, heq⟩ | ⟨-, heq⟩
  · rw [heq]
    have hlen := hd.accepted haccepted
    by_cases hrepeat : spec.decodeRepeat.isSome = true
    · simp only [if_pos hrepeat]
      refine ⟨Nat.zero_le _, hd.timings_le, nofun, nofun, fun _ => ⟨?_, hrepeat⟩⟩
      rcases hlen with h4 | ⟨hlt, -⟩
      · exact Nat.lt_of_le_of_lt h4 (by decide)
      · exact hlt
    · simp only [if_neg hrepeat]
      refine ⟨Nat.zero_le _, hd.timings_le, fun _ => ?_, nofun, nofun⟩
      rcases hlen with h4 | ⟨-, hsome⟩
      · exact h4
      · exact absurd hsome hrepeat
  · rw [heq]
    have hcnt := h.interpret_databitCnt d.toInfraredPayload
    refine ⟨Nat.le_trans (Nat.le_of_eq hcnt) hd.databitCnt_le, hd.timings_le, hd.waiting, ?_,
      hd.repeating⟩
    intro hs
    rcases hd.decoding hs with ⟨hempty, hfit⟩ | hholds
    · exact .inl ⟨hempty, hfit.of_databitCnt hcnt⟩
    · rw [h.interpret_reject _ hholds.shorter hrejected]
      exact .inr hholds
  · exact heq ▸ hd

/-! ### Runs -/

/-- What is called on a decoder. -/
inductive InfraredDecoderCall where
  | decode (level : Bool) (duration : Nat)
  | checkReady

def infraredDecoderCall (spec : InfraredDecoderSpec) (d : InfraredCommonDecoder) :
    InfraredDecoderCall → InfraredDecodeResult
  | .decode level duration => infraredCommonDecode spec d level duration
  | .checkReady => .ok (infraredCommonDecoderCheckReady spec d)

/-- The decoder as a system; a call that fails has no state after it. -/
def infraredDecoderSystem (spec : InfraredDecoderSpec) :
    System InfraredCommonDecoder InfraredDecoderCall where
  step d call := (infraredDecoderCall spec d call).toOption.map Prod.snd

/-- The call is a sample that overruns a rejected space. -/
def InfraredDecoderCall.Overruns (spec : InfraredDecoderSpec) (d : InfraredCommonDecoder) :
    InfraredDecoderCall → Prop
  | .decode level _ => OverrunsRejectedSplit spec d level
  | .checkReady => False

lemma infraredDecoderCall_bounded (h : spec.Sound) {d : InfraredCommonDecoder}
    (hd : d.Bounded spec) (call : InfraredDecoderCall) :
    (call.Overruns spec d → infraredDecoderCall spec d call = .error .timingsOverflow) ∧
    (¬call.Overruns spec d → EndsBounded spec (infraredDecoderCall spec d call)) := by
  cases call with
  | decode level duration => exact infraredCommonDecode_bounded h hd level duration
  | checkReady =>
    exact ⟨nofun, fun _ => ⟨_, _, rfl, infraredCommonDecoderCheckReady_bounded h hd⟩⟩

lemma infraredDecoderSystem_bounded (h : spec.Sound) {d₀ d : InfraredCommonDecoder}
    {P : InfraredCommonDecoder → InfraredDecoderCall → Prop}
    (hrun : (infraredDecoderSystem spec).Reaches P (infraredCommonDecoderReset spec d₀) d) :
    d.Bounded spec := by
  refine hrun.invariant (infraredCommonDecoderReset_bounded d₀) ?_
  intro d d' call hd _ hstep
  obtain ⟨hfails, hends⟩ := infraredDecoderCall_bounded h hd call
  by_cases hover : call.Overruns spec d
  · simp only [infraredDecoderSystem, hfails hover] at hstep
    cases hstep
  · obtain ⟨message, d'', hcall, hd''⟩ := hends hover
    simp only [infraredDecoderSystem, hcall] at hstep
    obtain rfl : d'' = d' := Option.some.inj hstep
    exact hd''

end

/-! ### The protocols -/

/-- A timing that carries no information adds no bit, any other at most one. -/
lemma infraredCommonDecodePdwm_databitCnt (timings : InfraredTimings) (b : InfraredDatabits)
    (level : Bool) (t : Nat) :
    (infraredCommonDecodePdwm timings b level t).2.databitCnt ≤ b.databitCnt + 1 ∧
      ((level ^^ (timings.bit1Mark == timings.bit0Mark)) = false →
        (infraredCommonDecodePdwm timings b level t).2.databitCnt = b.databitCnt) := by
  unfold infraredCommonDecodePdwm
  cases hanalyze : level ^^ (timings.bit1Mark == timings.bit0Mark) with
  | true =>
    refine ⟨?_, nofun⟩
    simp only [if_true]
    cases level <;> split_ifs <;> first | exact Nat.le_refl _ | exact Nat.le_succ _
  | false =>
    simp only [Bool.false_eq_true, if_false]
    split_ifs <;> exact ⟨Nat.le_succ _, fun _ => rfl⟩

lemma infraredCommonDecodeManchester_databitCnt (timings : InfraredTimings) (fromSpace : Bool)
    {longest : Nat} (hpos : 0 < longest) {b : InfraredDatabits} (hb : b.databitCnt ≤ longest)
    (level : Bool) (t : Nat) :
    (infraredCommonDecodeManchester timings fromSpace longest b level t).2.databitCnt ≤
      longest := by
  unfold infraredCommonDecodeManchester
  generalize hstart : (if (fromSpace && decide (b.databitCnt = 0)) = true
    then accumulateLsb { b with switchDetect := true } false else b) = b'
  have hb' : b'.databitCnt ≤ longest := by
    rw [← hstart]
    split_ifs with hfake
    · have hzero : b.databitCnt = 0 := by simpa using (Bool.and_eq_true_iff.mp hfake).2
      rw [accumulateLsb_databitCnt, hzero]
      exact hpos
    · exact hb
  dsimp only
  split_ifs with _ _ _ hlongest
  · exact hb
  · exact hb'
  · exact hb'
  · exact Nat.lt_of_le_of_ne hb' fun heq => hlongest heq.symm
  · exact hb'

lemma infraredDecoderRc6DecodeManchester_databitCnt {longest : Nat} (hlongest : 5 ≤ longest)
    {b : InfraredDatabits} (hb : b.databitCnt ≤ longest) (level : Bool) (t : Nat) :
    (infraredDecoderRc6DecodeManchester longest b level t).2.databitCnt ≤ longest := by
  have hpos : 0 < longest := Nat.lt_of_lt_of_le (by decide) hlongest
  have hmanchester := fun b hb t =>
    infraredCommonDecodeManchester_databitCnt (b := b) infraredTimingsRc6 false hpos hb level t
  unfold infraredDecoderRc6DecodeManchester
  by_cases h4 : b.databitCnt = 4
  · simp only [if_pos h4]
    cases matchTiming t infraredTimingsRc6.bit1Mark infraredTimingsRc6.bitTolerance ^^
        matchTiming t (3 * infraredTimingsRc6.bit1Mark) infraredTimingsRc6.bitTolerance with
    | true =>
      change b.databitCnt + 1 ≤ longest
      rw [h4]
      exact hlongest
    | false => exact hb
  · simp only [if_neg h4]
    split_ifs with h5 hodd htriple hdouble
    · exact hmanchester { b with switchDetect := false } hb _
    · exact hmanchester { b with switchDetect := false } hb _
    · exact hb
    · exact hb
    · exact hmanchester b hb t

lemma decodeRepeatSequence_le {timings : InfraredTimings} {pauseMin pauseMax mark space : Nat}
    {bits samples : List Nat} (hbits : 3 + bits.length ≤ infraredTimingsSize) :
    (decodeRepeatSequence timings pauseMin pauseMax mark space bits samples).2.length ≤
        samples.length ∧
      ((decodeRepeatSequence timings pauseMin pauseMax mark space bits samples).1 ≠ .error →
        (decodeRepeatSequence timings pauseMin pauseMax mark space bits samples).2.length <
          infraredTimingsSize) := by
  unfold decodeRepeatSequence
  split_ifs with hshort hmatch
  · exact ⟨Nat.le_refl _, fun _ => Nat.lt_of_lt_of_le hshort hbits⟩
  · exact ⟨Nat.zero_le _, fun _ => Nat.succ_pos _⟩
  · exact ⟨Nat.le_refl _, fun h => absurd rfl h⟩

namespace InfraredDecoderSpec

variable {spec : InfraredDecoderSpec}

/-- A protocol whose bits are in pulses: marks that carry no information keep the length, and
otherwise spaces do. -/
lemma Sound.of_pdwm (hdecode : spec.decode = infraredCommonDecodePdwm spec.timings)
    (splits : spec.timings.minSplitTime ≠ 0) (lengths : ∀ n ∈ spec.databitLen, 0 < n)
    (hinterpret : ∀ p, (spec.interpret p).2.toInfraredDatabits = p.toInfraredDatabits ∧
      ((spec.interpret p).1 = false → (spec.interpret p).2 = p))
    (decodeRepeat_le : ∀ f, spec.decodeRepeat = some f → ∀ ts, ts.length ≤ infraredTimingsSize →
      (f ts).2.length ≤ ts.length ∧ ((f ts).1 ≠ .error → (f ts).2.length < infraredTimingsSize))
    (decodeRepeat_preamble : spec.decodeRepeat.isSome → spec.timings.preambleMark ≠ 0) :
    spec.Sound where
  splits := splits
  lengths := lengths
  decode_le b level t hlt := by
    rw [hdecode]
    exact Nat.le_trans (infraredCommonDecodePdwm_databitCnt spec.timings b level t).1 hlt
  decode_space b t hlt := by
    cases hwidth : spec.timings.bit1Mark == spec.timings.bit0Mark with
    | true =>
      refine .inr fun b t hle => ?_
      rw [hdecode, (infraredCommonDecodePdwm_databitCnt spec.timings b true t).2]
      · exact hle
      · rw [hwidth]
        rfl
    | false =>
      refine .inl ?_
      rw [hdecode, (infraredCommonDecodePdwm_databitCnt spec.timings b false t).2]
      · exact hlt
      · rw [hwidth]
        rfl
  interpret_databitCnt p := congrArg InfraredDatabits.databitCnt (hinterpret p).1
  interpret_reject p _ := (hinterpret p).2
  decodeRepeat_le := decodeRepeat_le
  decodeRepeat_preamble := decodeRepeat_preamble

/-- A protocol whose bits are in pulses, without a repeat sequence. -/
lemma Sound.of_pdwm_noRepeat (hdecode : spec.decode = infraredCommonDecodePdwm spec.timings)
    (splits : spec.timings.minSplitTime ≠ 0) (lengths : ∀ n ∈ spec.databitLen, 0 < n)
    (hinterpret : ∀ p, (spec.interpret p).2.toInfraredDatabits = p.toInfraredDatabits ∧
      ((spec.interpret p).1 = false → (spec.interpret p).2 = p))
    (hrepeat : spec.decodeRepeat = none) : spec.Sound := by
  apply Sound.of_pdwm hdecode splits lengths hinterpret
  · intro f hf
    rw [hrepeat] at hf
    cases hf
  · intro hsome
    rw [hrepeat] at hsome
    cases hsome

lemma Sound.of_manchester
    (hdecode : ∀ b level t, b.databitCnt ≤ spec.longest →
      (spec.decode b level t).2.databitCnt ≤ spec.longest)
    (splits : spec.timings.minSplitTime ≠ 0) (longest : 0 < spec.longest)
    (shorter : spec.shorter = [])
    (interpret_databitCnt : ∀ p, (spec.interpret p).2.databitCnt = p.databitCnt)
    (hrepeat : spec.decodeRepeat = none) : spec.Sound where
  splits := splits
  lengths n hn := by
    rw [databitLen, shorter, List.mem_singleton] at hn
    exact hn ▸ longest
  decode_le b level t hlt := hdecode b level t (Nat.le_of_lt hlt)
  decode_space _ _ _ := .inr fun b t => hdecode b true t
  interpret_databitCnt := interpret_databitCnt
  interpret_reject p hp := by
    rw [shorter] at hp
    cases hp
  decodeRepeat_le f hf := by
    rw [hrepeat] at hf
    cases hf
  decodeRepeat_preamble hsome := by
    rw [hrepeat] at hsome
    cases hsome

end InfraredDecoderSpec

lemma infraredProtocolNec_sound : infraredProtocolNec.Sound := by
  apply InfraredDecoderSpec.Sound.of_pdwm rfl (by decide) (by decide)
  · intro p
    simp only [infraredProtocolNec, infraredDecoderNecInterpret]
    split_ifs <;> exact ⟨rfl, by first | exact fun _ => rfl | exact nofun⟩
  · rintro f hf ts -
    obtain rfl := Option.some.inj hf
    exact decodeRepeatSequence_le (by decide)
  · exact fun _ => by decide

lemma infraredProtocolSamsung32_sound : infraredProtocolSamsung32.Sound := by
  apply InfraredDecoderSpec.Sound.of_pdwm rfl (by decide) (by decide)
  · intro p
    simp only [infraredProtocolSamsung32, infraredDecoderSamsung32Interpret]
    split_ifs <;> exact ⟨rfl, by first | exact fun _ => rfl | exact nofun⟩
  · rintro f hf ts -
    obtain rfl := Option.some.inj hf
    exact decodeRepeatSequence_le (by decide)
  · exact fun _ => by decide

lemma infraredProtocolRc5_sound : infraredProtocolRc5.Sound := by
  apply InfraredDecoderSpec.Sound.of_manchester _ (by decide) (by decide) rfl _ rfl
  · intro b level t hb
    exact infraredCommonDecodeManchester_databitCnt _ _ (by decide) hb _ _
  · intro p
    simp only [infraredProtocolRc5, infraredDecoderRc5Interpret]
    split_ifs <;> rfl

lemma infraredProtocolRc6_sound : infraredProtocolRc6.Sound := by
  apply InfraredDecoderSpec.Sound.of_manchester _ (by decide) (by decide) rfl _ rfl
  · intro b level t hb
    exact infraredDecoderRc6DecodeManchester_databitCnt (by decide) hb _ _
  · intro p
    simp only [infraredProtocolRc6, infraredDecoderRc6Interpret]
    split_ifs <;> rfl

lemma infraredProtocolSirc_sound : infraredProtocolSirc.Sound := by
  apply InfraredDecoderSpec.Sound.of_pdwm_noRepeat rfl (by decide) (by decide) _ rfl
  intro p
  simp only [infraredProtocolSirc, infraredDecoderSircInterpret]
  split_ifs <;> exact ⟨rfl, by first | exact fun _ => rfl | exact nofun⟩

lemma infraredProtocolPioneer_sound : infraredProtocolPioneer.Sound := by
  apply InfraredDecoderSpec.Sound.of_pdwm_noRepeat rfl (by decide) (by decide) _ rfl
  intro p
  simp only [infraredProtocolPioneer, infraredDecoderPioneerInterpret]
  split_ifs <;> exact ⟨rfl, by first | exact fun _ => rfl | exact nofun⟩

lemma infraredProtocolKaseikyo_sound : infraredProtocolKaseikyo.Sound := by
  apply InfraredDecoderSpec.Sound.of_pdwm_noRepeat rfl (by decide) (by decide) _ rfl
  intro p
  simp only [infraredProtocolKaseikyo, infraredDecoderKaseikyoInterpret]
  split_ifs <;> exact ⟨rfl, by first | exact fun _ => rfl | exact nofun⟩

lemma infraredProtocolRca_sound : infraredProtocolRca.Sound := by
  apply InfraredDecoderSpec.Sound.of_pdwm_noRepeat rfl (by decide) (by decide) _ rfl
  intro p
  simp only [infraredProtocolRca, infraredDecoderRcaInterpret]
  split_ifs <;> exact ⟨rfl, by first | exact fun _ => rfl | exact nofun⟩

lemma infraredEncoderDecoder_sound {entry : InfraredEncoderDecoder}
    (h : entry ∈ infraredEncoderDecoder) : entry.spec.Sound := by
  simp only [infraredEncoderDecoder, List.mem_cons, List.not_mem_nil, or_false] at h
  rcases h with rfl | rfl | rfl | rfl | rfl | rfl | rfl | rfl
  · exact infraredProtocolNec_sound
  · exact infraredProtocolSamsung32_sound
  · exact infraredProtocolRc5_sound
  · exact infraredProtocolRc6_sound
  · exact infraredProtocolSirc_sound
  · exact infraredProtocolPioneer_sound
  · exact infraredProtocolKaseikyo_sound
  · exact infraredProtocolRca_sound

/-! ### The bounds -/

/-- In every state that calls on a reset decoder of any protocol reach, the samples fit into the
array and the bits into the longest length; and the next call ends without a fault, the loop
included, exactly when it is not a sample that overruns a rejected space. -/
theorem infraredDecoder_bounds {entry : InfraredEncoderDecoder}
    (hentry : entry ∈ infraredEncoderDecoder) {d₀ d : InfraredCommonDecoder}
    (hrun : (infraredDecoderSystem entry.spec.toInfraredDecoderSpec).Reaches (fun _ _ => True)
      (infraredCommonDecoderReset entry.spec.toInfraredDecoderSpec d₀) d) :
    d.timings.length ≤ infraredTimingsSize ∧ d.databitCnt ≤ entry.spec.longest ∧
      ∀ call : InfraredDecoderCall,
        (∃ r, infraredDecoderCall entry.spec.toInfraredDecoderSpec d call = .ok r) ↔
          ¬call.Overruns entry.spec.toInfraredDecoderSpec d := by
  have hsound := infraredEncoderDecoder_sound hentry
  have hd := infraredDecoderSystem_bounded hsound hrun
  refine ⟨hd.timings_le, hd.databitCnt_le, fun call => ?_⟩
  obtain ⟨hfails, hends⟩ := infraredDecoderCall_bounded hsound hd call
  constructor
  · rintro ⟨r, hr⟩ hover
    cases (hfails hover).symm.trans hr
  · intro hover
    obtain ⟨message, d', hcall, -⟩ := hends hover
    exact ⟨(message, d'), hcall⟩

/-- Samples of alternating level, from a mark on. -/
def alternatingSamples (durations : List Nat) : List InfraredDecoderCall :=
  durations.zipIdx.map fun (duration, i) => .decode (i % 2 = 0) duration

/-- Thirty-two zero bits of Pioneer, which have no valid checksum, a long space and five more
samples. -/
def pioneerRejectedSplit : List InfraredDecoderCall :=
  alternatingSamples ([8500, 4225] ++ (List.replicate 32 [500, 500]).flatten ++
    [500, 27000, 500, 500, 500, 500, 500])

/-- The decoder of Pioneer runs these samples from a reset decoder; the array is full then, and
the next space goes behind it. -/
lemma pioneerRejectedSplit_replay :
    ((infraredDecoderSystem infraredProtocolPioneer.toInfraredDecoderSpec).replay
      (fun _ _ => True) (infraredCommonDecoderReset infraredProtocolPioneer.toInfraredDecoderSpec
        { infraredCommonDecoderAlloc with level := false }) pioneerRejectedSplit).map
      (fun d => (d.timings.length, (infraredDecoderCall
        infraredProtocolPioneer.toInfraredDecoderSpec d (.decode false 500)).isOk)) =
    some (6, false) := by
  decide +kernel

/-- Thirty-two zero bits, a long space and six more samples are more than the array holds. -/
theorem infraredDecoder_overrun :
    ¬∀ entry ∈ infraredEncoderDecoder, ∀ d₀ d : InfraredCommonDecoder,
      (infraredDecoderSystem entry.spec.toInfraredDecoderSpec).Reaches (fun _ _ => True)
        (infraredCommonDecoderReset entry.spec.toInfraredDecoderSpec d₀) d →
      ∀ call, ∃ r, infraredDecoderCall entry.spec.toInfraredDecoderSpec d call = .ok r := by
  intro h
  obtain ⟨d, hreplay, hview⟩ := Option.map_eq_some_iff.mp pioneerRejectedSplit_replay
  have hentry : infraredEntryPioneer ∈ infraredEncoderDecoder := by
    simp [infraredEncoderDecoder]
  obtain ⟨r, hr⟩ := h _ hentry _ d (.of_replay .refl hreplay) (.decode false 500)
  have hfails : (infraredDecoderCall infraredEntryPioneer.spec.toInfraredDecoderSpec d
      (.decode false 500)).isOk = false := congrArg Prod.snd hview
  rw [hr] at hfails
  cases hfails

/-- The bounds after the samples of `pioneerRejectedSplit`. -/
theorem infraredDecoder_bounds_pioneer :
    ∃ d : InfraredCommonDecoder, d.timings.length ≤ infraredTimingsSize ∧ d.databitCnt ≤ 33 ∧
      ∀ call : InfraredDecoderCall,
        (∃ r, infraredDecoderCall infraredProtocolPioneer.toInfraredDecoderSpec d call = .ok r) ↔
          ¬call.Overruns infraredProtocolPioneer.toInfraredDecoderSpec d := by
  obtain ⟨d, hreplay, -⟩ := Option.map_eq_some_iff.mp pioneerRejectedSplit_replay
  have hentry : infraredEntryPioneer ∈ infraredEncoderDecoder := by
    simp [infraredEncoderDecoder]
  exact ⟨d, infraredDecoder_bounds hentry (.of_replay .refl hreplay)⟩

end FlipperZero
