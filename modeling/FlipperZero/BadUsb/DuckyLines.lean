import FlipperZero.BadUsb.DuckyCommands

/-!
# What a line of a BadUSB script does to the count of repeats

Only a `REPEAT` with a number sets the count; every other line leaves it or ends the script with an
error. A line always comes to its end, but for an `ALTCHAR` with 256 digits or more: the index of
`ducky_altchar` has eight bits and goes round.
-/

namespace FlipperZero

/-! ### The line as the commands see it -/

def duckyWord (line : List UInt8) : List UInt8 := (line.takeWhile (· ≠ 0)).takeWhile (· ≠ 32)

/-- What follows the first word. -/
def duckyParameter (line : List UInt8) : List UInt8 := duckyArgument (line.takeWhile (· ≠ 0))

/-- The count that a line sets, when it is a `REPEAT` with a number. -/
def duckyRepeatCount (line : List UInt8) : Option (BitVec 32) :=
  if duckyWord line = ascii "REPEAT".toList then
    (duckyGetNumber (duckyParameter line)).filter (· ≠ 0)
  else none

def IsDigit (charcode : List UInt8) (i : Nat) : Prop :=
  48 ≤ charcode.getD i 0 ∧ charcode.getD i 0 ≤ 57

/-- An `ALTCHAR` whose digits go on until the index comes back to them. -/
def DuckyAltcharEndless (line : List UInt8) : Prop :=
  duckyWord line = ascii "ALTCHAR".toList ∧ ∀ i < 256, IsDigit (duckyParameter line) i

instance (charcode : List UInt8) (i : Nat) : Decidable (IsDigit charcode i) :=
  inferInstanceAs (Decidable (_ ∧ _))

instance (line : List UInt8) : Decidable (DuckyAltcharEndless line) :=
  inferInstanceAs (Decidable (_ ∧ _))

/-! ### The count of repeats -/

/-- A command that leaves the count of repeats as it is. -/
def DuckyCmdCallback.Keeps (callback : DuckyCmdCallback) : Prop :=
  ∀ ⦃keys line s r s'⦄, callback keys line s = some (r, s') → s'.repeatCnt = s.repeatCnt

section Keeps

variable {keys : DuckyKeys} {s s' : DuckyState}

@[simp] lemma duckyNumlockOn_repeatCnt : (duckyNumlockOn keys s).repeatCnt = s.repeatCnt := by
  unfold duckyNumlockOn
  split <;> rfl

@[simp] lemma duckyStringChars_repeatCnt (param : List UInt8) :
    (duckyStringChars keys param s).repeatCnt = s.repeatCnt := by
  induction param generalizing s with
  | nil => rfl
  | cons chr param ih =>
    simp only [duckyStringChars]
    split
    · exact ih
    · rw [ih]
      split <;> rfl

lemma duckyAltcharDigits_repeatCnt {charcode : List UInt8} {rounds : Nat} {i : BitVec 8}
    {state state' : Bool} (h : duckyAltcharDigits charcode rounds i state s = some (state', s')) :
    s'.repeatCnt = s.repeatCnt := by
  induction rounds generalizing i state s with
  | zero => exact absurd h nofun
  | succ rounds ih =>
    simp only [duckyAltcharDigits] at h
    split at h
    · cases h
      rfl
    · split at h
      · cases h
        rfl
      · have hcnt := ih h
        exact hcnt

lemma duckyAltchar_repeatCnt {charcode : List UInt8} {state : Bool}
    (h : duckyAltchar charcode s = some (state, s')) : s'.repeatCnt = s.repeatCnt := by
  obtain ⟨⟨state₁, s₁⟩, hdigits, hs'⟩ := Option.map_eq_some_iff.mp h
  cases hs'
  have hcnt := duckyAltcharDigits_repeatCnt hdigits
  exact hcnt

lemma duckyAltstring_repeatCnt {param : List UInt8} {state state' : Bool}
    (h : duckyAltstring param state s = some (state', s')) : s'.repeatCnt = s.repeatCnt := by
  induction param generalizing state s with
  | nil =>
    cases h
    rfl
  | cons chr param ih =>
    simp only [duckyAltstring] at h
    split at h
    · exact ih h
    · split at h
      · exact absurd h nofun
      · rename_i s₁ hchar
        cases h
        exact duckyAltchar_repeatCnt hchar
      · rename_i s₁ hchar
        exact (ih h).trans (duckyAltchar_repeatCnt hchar)

lemma duckyFncNull_keeps : DuckyCmdCallback.Keeps duckyFncNull := by
  rintro keys line s r s' ⟨⟩
  rfl

lemma duckyFncWaitforbutton_keeps : DuckyCmdCallback.Keeps duckyFncWaitforbutton := by
  rintro keys line s r s' ⟨⟩
  rfl

lemma duckyFncSysrq_keeps : DuckyCmdCallback.Keeps duckyFncSysrq := by
  rintro keys line s r s' ⟨⟩
  rfl

lemma duckyFncDelay_keeps : DuckyCmdCallback.Keeps duckyFncDelay := by
  intro keys line s r s' h
  simp only [duckyFncDelay, DuckyState.error] at h
  grind

lemma duckyFncDefdelay_keeps : DuckyCmdCallback.Keeps duckyFncDefdelay := by
  intro keys line s r s' h
  simp only [duckyFncDefdelay, DuckyState.error] at h
  grind

lemma duckyFncStrdelay_keeps : DuckyCmdCallback.Keeps duckyFncStrdelay := by
  intro keys line s r s' h
  simp only [duckyFncStrdelay, DuckyState.error] at h
  grind

lemma duckyFncDefstrdelay_keeps : DuckyCmdCallback.Keeps duckyFncDefstrdelay := by
  intro keys line s r s' h
  simp only [duckyFncDefstrdelay, DuckyState.error] at h
  grind

lemma duckyFncString_keeps (newLine : Bool) : DuckyCmdCallback.Keeps (duckyFncString newLine) := by
  intro keys line s r s' h
  simp only [duckyFncString] at h
  split at h
  · cases h
    exact duckyStringChars_repeatCnt _
  · cases h
    rfl

lemma duckyFncAltchar_keeps : DuckyCmdCallback.Keeps duckyFncAltchar := by
  intro keys line s r s' h
  simp only [duckyFncAltchar, DuckyState.error] at h
  split at h
  · exact absurd h nofun
  · rename_i state s₁ hchar
    have hcnt := (duckyAltchar_repeatCnt hchar).trans duckyNumlockOn_repeatCnt
    split at h <;> (cases h; exact hcnt)

lemma duckyFncAltstring_keeps : DuckyCmdCallback.Keeps duckyFncAltstring := by
  intro keys line s r s' h
  simp only [duckyFncAltstring, DuckyState.error] at h
  split at h
  · exact absurd h nofun
  · rename_i state s₁ hstring
    have hcnt := (duckyAltstring_repeatCnt hstring).trans duckyNumlockOn_repeatCnt
    split at h <;> (cases h; exact hcnt)

lemma duckyFncHold_keeps : DuckyCmdCallback.Keeps duckyFncHold := by
  intro keys line s r s' h
  simp only [duckyFncHold, DuckyState.error, DuckyState.send] at h
  grind

lemma duckyFncRelease_keeps : DuckyCmdCallback.Keeps duckyFncRelease := by
  intro keys line s r s' h
  simp only [duckyFncRelease, DuckyState.error, DuckyState.send] at h
  grind

lemma duckyFncMedia_keeps : DuckyCmdCallback.Keeps duckyFncMedia := by
  intro keys line s r s' h
  simp only [duckyFncMedia, DuckyState.error, DuckyState.send] at h
  grind

lemma duckyFncGlobe_keeps : DuckyCmdCallback.Keeps duckyFncGlobe := by
  intro keys line s r s' h
  simp only [duckyFncGlobe, DuckyState.error, DuckyState.send] at h
  grind

end Keeps

lemma duckyCommands_keeps :
    ∀ command ∈ duckyCommands, command.1 = ascii "REPEAT".toList ∨ command.2.Keeps := by
  simp only [duckyCommands, List.forall_mem_cons, List.not_mem_nil, false_implies, implies_true,
    and_true]
  exact ⟨.inr duckyFncNull_keeps, .inr duckyFncNull_keeps, .inr duckyFncDelay_keeps,
    .inr (duckyFncString_keeps _), .inr (duckyFncString_keeps _), .inr duckyFncDefdelay_keeps,
    .inr duckyFncDefdelay_keeps, .inr duckyFncStrdelay_keeps, .inr duckyFncStrdelay_keeps,
    .inr duckyFncDefstrdelay_keeps, .inr duckyFncDefstrdelay_keeps, .inl trivial,
    .inr duckyFncSysrq_keeps, .inr duckyFncAltchar_keeps, .inr duckyFncAltstring_keeps,
    .inr duckyFncAltstring_keeps, .inr duckyFncHold_keeps, .inr duckyFncRelease_keeps,
    .inr duckyFncWaitforbutton_keeps, .inr duckyFncMedia_keeps, .inr duckyFncGlobe_keeps⟩

/-! ### What a line does -/

section Lines

variable {keys : DuckyKeys} {line : List UInt8} {s s' : DuckyState}

lemma mem_duckyCommands {callback : DuckyCmdCallback}
    (h : duckyFindCmd (line.takeWhile (· ≠ 0)) = some callback) :
    (duckyWord line, callback) ∈ duckyCommands := by
  obtain ⟨before, after, hcommands, -⟩ := List.lookup_eq_some_iff.mp h
  rw [hcommands]
  exact List.mem_append_right _ List.mem_cons_self

/-- A line that is not empty leaves the count that its command leaves, and returns its result. -/
lemma duckyParseLine_command {r : Int} (hne : line ≠ [])
    (h : duckyParseLine keys line s = some (r, s')) :
    ∃ r₁ s₁, duckyExecuteCmd keys (line.takeWhile (· ≠ 0)) s = some (r₁, s₁) ∧
      s'.repeatCnt = s₁.repeatCnt ∧ (r₁ ≠ scriptStateCmdUnknown → r = r₁) := by
  simp only [duckyParseLine, if_neg hne] at h
  cases hexecute : duckyExecuteCmd keys (line.takeWhile (· ≠ 0)) s with
  | none =>
    rw [hexecute] at h
    exact absurd h nofun
  | some out =>
    rw [hexecute] at h
    refine ⟨out.1, out.2, rfl, ?_⟩
    dsimp only [DuckyState.error] at h
    split at h
    · cases h
      exact ⟨rfl, fun _ => rfl⟩
    · rename_i hunknown
      refine ⟨?_, fun hknown => absurd hknown hunknown⟩
      split at h <;> (cases h; rfl)

lemma duckyParseLine_isSome
    (h : line ≠ [] → (duckyExecuteCmd keys (line.takeWhile (· ≠ 0)) s).isSome) :
    (duckyParseLine keys line s).isSome := by
  simp only [duckyParseLine]
  split
  · rfl
  · rename_i hne
    obtain ⟨out, hexecute⟩ := Option.isSome_iff_exists.mp (h hne)
    rw [hexecute]
    dsimp only [DuckyState.error]
    split
    · rfl
    · split <;> rfl

lemma duckyFindCmd_repeat (hword : duckyWord line = ascii "REPEAT".toList) :
    duckyFindCmd (line.takeWhile (· ≠ 0)) = some duckyFncRepeat := by
  unfold duckyFindCmd
  rw [show (line.takeWhile (· ≠ 0)).takeWhile (· ≠ 32) = ascii "REPEAT".toList from hword]
  rfl

lemma duckyParseLine_repeat {n : BitVec 32} (h : duckyRepeatCount line = some n) :
    duckyParseLine keys line s = some (0, { s with repeatCnt := n }) := by
  unfold duckyRepeatCount at h
  split at h
  · rename_i hword
    obtain ⟨hnumber, hn⟩ := Option.filter_eq_some_iff.mp h
    have hn : n ≠ 0 := of_decide_eq_true hn
    have hne : line ≠ [] := by
      rintro rfl
      exact absurd hword (by decide)
    have hexecute : duckyExecuteCmd keys (line.takeWhile (· ≠ 0)) s =
        some (0, { s with repeatCnt := n }) := by
      simp only [duckyExecuteCmd, duckyFindCmd_repeat hword, duckyFncRepeat]
      rw [show duckyGetNumber (duckyArgument (line.takeWhile (· ≠ 0))) = some n from hnumber]
      exact if_neg hn
    simp only [duckyParseLine, if_neg hne, hexecute]
    rfl
  · exact absurd h nofun

lemma duckyFncRepeat_error {r : Int} {line : List UInt8}
    (hnumber : (duckyGetNumber (duckyArgument line)).filter (· ≠ 0) = none)
    (h : duckyFncRepeat keys line s = some (r, s')) :
    r = scriptStateError ∧ (s.repeatCnt = 0 → s'.repeatCnt = 0) := by
  simp only [duckyFncRepeat, DuckyState.error] at h
  split at h
  · rename_i value hvalue
    rw [hvalue] at hnumber
    by_cases hzero : value = 0
    · rw [if_pos hzero] at h
      cases h
      exact ⟨rfl, fun _ => hzero⟩
    · rw [Option.filter_some_pos (by simpa using hzero)] at hnumber
      exact absurd hnumber nofun
  · cases h
    exact ⟨rfl, id⟩

lemma duckyParseLine_keeps {r : Int} (hrepeat : duckyRepeatCount line = none)
    (h : duckyParseLine keys line s = some (r, s')) :
    s'.repeatCnt = s.repeatCnt ∨
      r = scriptStateError ∧ (s.repeatCnt = 0 → s'.repeatCnt = 0) := by
  by_cases hne : line = []
  · rw [duckyParseLine, if_pos hne] at h
    cases h
    exact .inl rfl
  obtain ⟨r₁, s₁, hexecute, hcnt, hr⟩ := duckyParseLine_command hne h
  rw [hcnt]
  unfold duckyExecuteCmd at hexecute
  split at hexecute
  · rename_i callback hfind
    rcases duckyCommands_keeps _ (mem_duckyCommands hfind) with hword | hkeeps
    · have hcallback : callback = duckyFncRepeat :=
        Option.some.inj (hfind.symm.trans (duckyFindCmd_repeat hword))
      rw [hcallback] at hexecute
      obtain ⟨hr₁, hzero⟩ :=
        duckyFncRepeat_error (by rwa [duckyRepeatCount, if_pos hword] at hrepeat) hexecute
      exact .inr ⟨(hr (by rw [hr₁]; decide)).trans hr₁, hzero⟩
    · exact .inl (hkeeps hexecute)
  · cases hexecute
    exact .inl rfl

lemma duckyParseLine_zero {r : Int} (hrepeat : duckyRepeatCount line = none)
    (hcnt : s.repeatCnt = 0) (h : duckyParseLine keys line s = some (r, s')) :
    s'.repeatCnt = 0 := by
  rcases duckyParseLine_keeps hrepeat h with hkeeps | ⟨-, hzero⟩
  · exact hkeeps.trans hcnt
  · exact hzero hcnt

/-! ### Lines that come to their end -/

lemma duckyAltcharDigits_none {charcode : List UInt8} {rounds : Nat} {i : BitVec 8} {state : Bool}
    (h : duckyAltcharDigits charcode rounds i state s = none) :
    ∀ j < rounds, IsDigit charcode (i + BitVec.ofNat 8 j).toNat := by
  induction rounds generalizing i state s with
  | zero => exact fun j hj => absurd hj (Nat.not_lt_zero j)
  | succ rounds ih =>
    simp only [duckyAltcharDigits] at h
    split at h
    · exact absurd h nofun
    · split at h
      · exact absurd h nofun
      · rename_i hdigit
        intro j hj
        cases j with
        | zero =>
          simp only [not_or, UInt8.not_lt] at hdigit
          simpa [IsDigit] using hdigit
        | succ j =>
          have hnext := ih h j (Nat.lt_of_succ_lt_succ hj)
          rwa [BitVec.add_assoc, show 1 + BitVec.ofNat 8 j = BitVec.ofNat 8 (j + 1) by
            rw [Nat.add_comm, BitVec.ofNat_add]
            rfl] at hnext

lemma duckyAltchar_none {charcode : List UInt8} (h : duckyAltchar charcode s = none) :
    ∀ i < 256, IsDigit charcode i := by
  have hdigits := duckyAltcharDigits_none (Option.map_eq_none_iff.mp h)
  intro i hi
  simpa [Nat.mod_eq_of_lt hi] using hdigits i hi

lemma duckyAltstring_isSome (param : List UInt8) (state : Bool) (s : DuckyState) :
    (duckyAltstring param state s).isSome := by
  induction param generalizing state s with
  | nil => rfl
  | cons chr param ih =>
    simp only [duckyAltstring]
    split
    · exact ih state s
    · split
      · rename_i hnone
        have hdigit := duckyAltchar_none hnone 3 (by decide)
        have hlength : (decimalText chr.toNat).length ≤ 3 :=
          length_decimalText_le (by decide) (Nat.lt_of_lt_of_le chr.toNat_lt (by decide))
        rw [IsDigit, List.getD_eq_default _ _ hlength] at hdigit
        exact absurd hdigit.1 (by decide)
      · rfl
      · exact ih true _

/-- A command that always comes to its end. -/
def DuckyCmdCallback.Total (callback : DuckyCmdCallback) : Prop :=
  ∀ keys line s, (callback keys line s).isSome

lemma duckyFncAltstring_total : DuckyCmdCallback.Total duckyFncAltstring := by
  intro keys line s
  obtain ⟨out, hstring⟩ := Option.isSome_iff_exists.mp
    (duckyAltstring_isSome (duckyArgument line) false (duckyNumlockOn keys s))
  simp only [duckyFncAltstring, hstring, DuckyState.error]
  split <;> rfl

lemma duckyCommands_total :
    ∀ command ∈ duckyCommands, command.1 = ascii "ALTCHAR".toList ∨ command.2.Total := by
  have hdelay : DuckyCmdCallback.Total duckyFncDelay := fun _ _ _ => by
    simp only [duckyFncDelay, DuckyState.error]
    grind
  have hdefdelay : DuckyCmdCallback.Total duckyFncDefdelay := fun _ _ _ => by
    simp only [duckyFncDefdelay, DuckyState.error]
    grind
  have hstrdelay : DuckyCmdCallback.Total duckyFncStrdelay := fun _ _ _ => by
    simp only [duckyFncStrdelay, DuckyState.error]
    grind
  have hdefstrdelay : DuckyCmdCallback.Total duckyFncDefstrdelay := fun _ _ _ => by
    simp only [duckyFncDefstrdelay, DuckyState.error]
    grind
  have hstring newLine : DuckyCmdCallback.Total (duckyFncString newLine) := fun _ _ _ => by
    simp only [duckyFncString]
    grind
  have hrepeat : DuckyCmdCallback.Total duckyFncRepeat := fun _ _ _ => by
    simp only [duckyFncRepeat, DuckyState.error]
    grind
  have hhold : DuckyCmdCallback.Total duckyFncHold := fun _ _ _ => by
    simp only [duckyFncHold, DuckyState.error]
    grind
  have hrelease : DuckyCmdCallback.Total duckyFncRelease := fun _ _ _ => by
    simp only [duckyFncRelease, DuckyState.error]
    grind
  have hmedia : DuckyCmdCallback.Total duckyFncMedia := fun _ _ _ => by
    simp only [duckyFncMedia, DuckyState.error]
    grind
  have hglobe : DuckyCmdCallback.Total duckyFncGlobe := fun _ _ _ => by
    simp only [duckyFncGlobe, DuckyState.error]
    grind
  have hnull : DuckyCmdCallback.Total duckyFncNull := fun _ _ _ => rfl
  have hsysrq : DuckyCmdCallback.Total duckyFncSysrq := fun _ _ _ => rfl
  have hwait : DuckyCmdCallback.Total duckyFncWaitforbutton := fun _ _ _ => rfl
  simp only [duckyCommands, List.forall_mem_cons, List.not_mem_nil, false_implies, implies_true,
    and_true]
  exact ⟨.inr hnull, .inr hnull, .inr hdelay, .inr (hstring _), .inr (hstring _), .inr hdefdelay,
    .inr hdefdelay, .inr hstrdelay, .inr hstrdelay, .inr hdefstrdelay, .inr hdefstrdelay,
    .inr hrepeat, .inr hsysrq, .inl trivial, .inr duckyFncAltstring_total,
    .inr duckyFncAltstring_total, .inr hhold, .inr hrelease, .inr hwait, .inr hmedia, .inr hglobe⟩

lemma duckyFncAltchar_isSome {charcode : List UInt8}
    (h : ∃ i < 256, ¬ IsDigit (duckyArgument charcode) i) :
    (duckyFncAltchar keys charcode s).isSome := by
  obtain ⟨i, hi, hdigit⟩ := h
  cases hchar : duckyAltchar (duckyArgument charcode) (duckyNumlockOn keys s) with
  | none     => exact absurd (duckyAltchar_none hchar i hi) hdigit
  | some out =>
    simp only [duckyFncAltchar, hchar, DuckyState.error]
    split <;> rfl

variable (keys s) in
/-- A line comes to its end unless it is an endless `ALTCHAR`. -/
theorem duckyParseLine_total (h : ¬ DuckyAltcharEndless line) :
    (duckyParseLine keys line s).isSome := by
  refine duckyParseLine_isSome fun _ => ?_
  unfold duckyExecuteCmd
  split
  · rename_i callback hfind
    rcases duckyCommands_total _ (mem_duckyCommands hfind) with hword | htotal
    · have hcallback : callback = duckyFncAltchar := by
        unfold duckyFindCmd at hfind
        rw [show (line.takeWhile (· ≠ 0)).takeWhile (· ≠ 32) = ascii "ALTCHAR".toList from hword]
          at hfind
        exact (Option.some.inj hfind).symm
      rw [hcallback]
      apply duckyFncAltchar_isSome
      by_contra hdigits
      push Not at hdigits
      exact h ⟨hword, hdigits⟩
    · exact htotal _ _ _
  · rfl

/-- The loop over digits that go on until the index comes back to them. -/
lemma duckyAltcharDigits_endless {charcode : List UInt8} (h : ∀ i < 256, IsDigit charcode i)
    (rounds : Nat) (i : BitVec 8) (state : Bool) (s : DuckyState) :
    duckyAltcharDigits charcode rounds i state s = none := by
  induction rounds generalizing i state s with
  | zero => rfl
  | succ rounds ih =>
    obtain ⟨hlow, hhigh⟩ := h i.toNat i.isLt
    have hend : duckyIsLineEnd (charcode.getD i.toNat 0) = false := by
      simp only [duckyIsLineEnd]
      grind
    have hdigit : ¬ (charcode.getD i.toNat 0 < 48 ∨ 57 < charcode.getD i.toNat 0) := by
      rw [not_or, UInt8.not_lt, UInt8.not_lt]
      exact ⟨hlow, hhigh⟩
    simp only [duckyAltcharDigits, hend, Bool.false_eq_true, if_false]
    rw [if_neg hdigit]
    exact ih _ _ _

variable (keys s) in
/-- An endless `ALTCHAR` does not come back. -/
theorem duckyParseLine_endless (h : DuckyAltcharEndless line) :
    duckyParseLine keys line s = none := by
  obtain ⟨hword, hdigits⟩ := h
  have hline : line ≠ [] := by
    rintro rfl
    exact absurd hword (by decide)
  have hfind : duckyFindCmd (line.takeWhile (· ≠ 0)) = some duckyFncAltchar := by
    unfold duckyFindCmd
    rw [show (line.takeWhile (· ≠ 0)).takeWhile (· ≠ 32) = ascii "ALTCHAR".toList from hword]
    rfl
  have hchar (s : DuckyState) : duckyAltchar (duckyParameter line) s = none := by
    rw [duckyAltchar, duckyAltcharDigits_endless hdigits]
    rfl
  have hcallback : duckyFncAltchar keys (line.takeWhile (· ≠ 0)) s = none := by
    simp only [duckyFncAltchar]
    rw [show duckyArgument (line.takeWhile (· ≠ 0)) = duckyParameter line from rfl, hchar]
  simp only [duckyParseLine, duckyExecuteCmd, hfind]
  rw [if_neg hline, hcallback]

end Lines

end FlipperZero
