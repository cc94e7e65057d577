import FlipperZero.BadUsb.DuckyLines
import FlipperZero.BadUsb.DuckyScript

/-!
# Runs of a BadUSB script

Between two lines that are read, the line before is executed again while a count is left. A run comes
to its end because reading shortens what is left of the file and a repeated line lowers the count,
unless the line that is repeated is itself a `REPEAT`.
-/

namespace FlipperZero

open Foundation

variable {file : List UInt8} {keys : DuckyKeys}

/-! ### Reading a line -/

section Reading

variable {r : DuckyReader}

lemma duckyScanBuffer_bounds (fileBuf : Nat → UInt8) (n i : Nat) (line : List UInt8) :
    ((duckyScanBuffer fileBuf n i line).1 = true → i < (duckyScanBuffer fileBuf n i line).2.2) ∧
      (duckyScanBuffer fileBuf n i line).2.2 ≤ i + n := by
  induction n generalizing i line with
  | zero => exact ⟨nofun, Nat.le_refl _⟩
  | succ n ih =>
    simp only [duckyScanBuffer]
    split
    · exact ⟨fun _ => Nat.lt_succ_self i, by simp only; omega⟩
    · obtain ⟨hlt, hle⟩ := ih (i + 1) (line ++ [fileBuf i])
      exact ⟨fun hfound => Nat.lt_of_succ_lt (hlt hfound), by omega⟩

lemma DuckyReader.fill_left (h : r.bufLen = 0) : (r.fill file).left file = r.left file := by
  simp only [DuckyReader.fill, DuckyReader.left]
  have hlength : ((file.drop r.pos).take fileBufferLen).length =
      min fileBufferLen (file.length - r.pos) := by
    rw [List.length_take, List.length_drop]
  split
  · rename_i hend
    obtain ⟨hle, -, hfileEnd⟩ := hend
    simp only [hfileEnd, h]
    rw [hlength] at hle ⊢
    simp
    omega
  · simp only [h]
    rw [hlength]
    omega

variable (file r) in
lemma duckyReadRound_buffer :
    (if r.bufLen = 0 then r.fill file else r).left file = r.left file := by
  split
  · exact DuckyReader.fill_left ‹_›
  · rfl

/-- A round that goes on or finds a line leaves less to scan. -/
lemma duckyReadRound_meets (s : DuckyReader × List UInt8) (hs : s.1.left file ≤ r.left file) :
    (duckyReadRound file s).Meets (fun s' => s'.1.left file ≤ r.left file)
      (fun s' => s'.1.left file) (fun out => out.1 = true → out.2.1.left file < r.left file)
      (s.1.left file) := by
  have hbuffer := duckyReadRound_buffer file s.1
  simp only [duckyReadRound]
  generalize (if s.1.bufLen = 0 then s.1.fill file else s.1) = q at hbuffer ⊢
  obtain ⟨hlt, hle⟩ := duckyScanBuffer_bounds q.fileBuf q.bufLen q.bufStart s.2
  by_cases hempty : q.bufLen = 0
  · rw [if_pos hempty]
    exact nofun
  rw [if_neg hempty]
  by_cases hfound : (duckyScanBuffer q.fileBuf q.bufLen q.bufStart s.2).1 = true
  · rw [if_pos hfound]
    intro _
    have := hlt hfound
    simp only [DuckyReader.left] at hbuffer hs ⊢
    omega
  rw [if_neg hfound]
  by_cases hend : q.fileEnd = true
  · rw [if_pos hend]
    exact nofun
  · rw [if_neg hend]
    simp only [Round.Meets, DuckyReader.left] at hbuffer hs ⊢
    omega

variable (file r) in
/-- The loop is left; with a line, it has consumed some of the file. -/
theorem duckyReadLine_total :
    ∃ out, duckyReadLine file r = some out ∧ (out.1 = true → out.2.1.left file < r.left file) :=
  loop_total (I := fun s => s.1.left file ≤ r.left file) (m := fun s => s.1.left file)
    duckyReadRound_meets (Nat.le_refl _) (Nat.lt_succ_self _)

end Reading

/-! ### Calls -/

/-- The text of a line has been printed, with a delay between its characters. -/
def duckyStringPrinted (keys : DuckyKeys) (s : DuckyState) : DuckyState :=
  { duckyStringChars keys s.stringPrint s with stringdelay := 0 }

/-- What happens before the next call: a text that waits is printed. -/
def duckyBeforeNext (keys : DuckyKeys) (r : Int) (s : BadUsbScript) : BadUsbScript :=
  if r = scriptStateStringStart then { s with cmd := duckyStringPrinted keys s.cmd } else s

section BeforeNext

variable (keys) (r : Int) (s : BadUsbScript)

@[simp] lemma duckyBeforeNext_repeatCnt :
    (duckyBeforeNext keys r s).cmd.repeatCnt = s.cmd.repeatCnt := by
  unfold duckyBeforeNext
  split_ifs
  · exact duckyStringChars_repeatCnt _
  · rfl

@[simp] lemma duckyBeforeNext_linePrev : (duckyBeforeNext keys r s).linePrev = s.linePrev := by
  unfold duckyBeforeNext
  split_ifs <;> rfl

@[simp] lemma duckyBeforeNext_reader : (duckyBeforeNext keys r s).reader = s.reader := by
  unfold duckyBeforeNext
  split_ifs <;> rfl

end BeforeNext

/-- The state before the next call, behind `k` calls none of which has come to the end of the script
or to an error. -/
def duckyCalls (file : List UInt8) (keys : DuckyKeys) : Nat → BadUsbScript → Option BadUsbScript
  | 0, s     => some s
  | k + 1, s =>
    match duckyScriptExecuteNext file keys s with
    | none         => none
    | some (r, s') =>
      if r = scriptStateError ∨ r = scriptStateEnd then none
      else duckyCalls file keys k (duckyBeforeNext keys r s')

/-- The line that the next call executes, and whether it is executed again. -/
def duckyExecutes (file : List UInt8) (s : BadUsbScript) : Option (List UInt8 × Bool) :=
  if s.cmd.repeatCnt ≠ 0 then some (s.linePrev, true)
  else
    match duckyReadLine file s.reader with
    | some (true, _, line) => some (line, false)
    | _                    => none

/-- The script comes to its end or to an error after finitely many calls. -/
def DuckyScriptEnds (file : List UInt8) (keys : DuckyKeys) (s : BadUsbScript) : Prop :=
  ∃ k s' r s'', duckyCalls file keys k s = some s' ∧
    duckyScriptExecuteNext file keys s' = some (r, s'') ∧ (r = scriptStateError ∨ r = scriptStateEnd)

/-- A `REPEAT n` that is read has the `n` calls behind it execute the line before it, and not the one
after these. -/
def DuckyScriptRepeats (file : List UInt8) (keys : DuckyKeys) (s : BadUsbScript) : Prop :=
  ∀ i s₁ next n, duckyCalls file keys i s = some s₁ →
    duckyExecutes file s₁ = some (next, false) → duckyRepeatCount next = some n →
    ∀ k s₂, duckyCalls file keys (k + 1) s₁ = some s₂ →
      (k < n.toNat → duckyExecutes file s₂ = some (s₁.line, true)) ∧
        (k = n.toNat → s₂.cmd.repeatCnt = 0)

/-- The next line comes to its end, and is no `REPEAT` that follows another one. -/
def DuckyLineFine (file : List UInt8) (s : BadUsbScript) : Prop :=
  ∀ call ∈ duckyExecutes file s, ¬ DuckyAltcharEndless call.1 ∧
    (call.2 = false → duckyRepeatCount call.1 ≠ none → duckyRepeatCount s.line = none)

instance (file : List UInt8) (s : BadUsbScript) : Decidable (DuckyLineFine file s) :=
  inferInstanceAs (Decidable (∀ call ∈ duckyExecutes file s, _))

section Calls

variable {s s' : BadUsbScript} {r : Int}

lemma duckyCalls_succ {k : Nat} :
    duckyCalls file keys (k + 1) s = some s' ↔
      ∃ r s₁, duckyScriptExecuteNext file keys s = some (r, s₁) ∧
        ¬ (r = scriptStateError ∨ r = scriptStateEnd) ∧
          duckyCalls file keys k (duckyBeforeNext keys r s₁) = some s' := by
  simp only [duckyCalls]
  constructor
  · intro h
    split at h
    · exact absurd h nofun
    · split at h
      · exact absurd h nofun
      · rename_i hnext hgoes
        exact ⟨_, _, hnext, hgoes, h⟩
  · rintro ⟨r, s₁, hnext, hgoes, h⟩
    rw [hnext]
    exact (if_neg hgoes).trans h

lemma duckyCalls_add {j k : Nat} {s₁ : BadUsbScript} (h : duckyCalls file keys j s = some s₁)
    (h' : duckyCalls file keys k s₁ = some s') : duckyCalls file keys (j + k) s = some s' := by
  induction j generalizing s with
  | zero =>
    cases h
    rwa [Nat.zero_add]
  | succ j ih =>
    obtain ⟨r, s₂, hnext, hgoes, hcalls⟩ := duckyCalls_succ.mp h
    rw [Nat.succ_add]
    exact duckyCalls_succ.mpr ⟨r, s₂, hnext, hgoes, ih hcalls⟩

lemma duckyCallResult_error {defdelay : BitVec 32} {delayVal : Int}
    (h : duckyCallResult defdelay delayVal ≠ scriptStateError) : delayVal ≠ scriptStateError := by
  rintro rfl
  exact h rfl

lemma duckyRepeatCount_ne_zero {line : List UInt8} {n : BitVec 32}
    (h : duckyRepeatCount line = some n) : n ≠ 0 := by
  unfold duckyRepeatCount at h
  split at h
  · exact of_decide_eq_true (Option.filter_eq_some_iff.mp h).2
  · exact absurd h nofun

lemma duckyParseLine_repeatCnt {line : List UInt8} {cmd cmd' : DuckyState} {delayVal : Int}
    (h : duckyParseLine keys line cmd = some (delayVal, cmd')) (hcnt : cmd.repeatCnt = 0) :
    cmd'.repeatCnt = (duckyRepeatCount line).getD 0 := by
  cases hrepeat : duckyRepeatCount line with
  | none   =>
    exact duckyParseLine_zero hrepeat hcnt h
  | some n =>
    rw [duckyParseLine_repeat hrepeat] at h
    cases h
    rfl

/-! ### One call -/

lemma duckyScriptExecuteNext_again (hcnt : s.cmd.repeatCnt ≠ 0)
    (hprev : duckyRepeatCount s.linePrev = none)
    (h : duckyScriptExecuteNext file keys s = some (r, s')) (herror : r ≠ scriptStateError) :
    s'.cmd.repeatCnt = s.cmd.repeatCnt - 1 ∧ s'.linePrev = s.linePrev ∧ s'.line = s.line ∧
      s'.reader = s.reader := by
  rw [duckyScriptExecuteNext, if_pos hcnt] at h
  dsimp only at h
  split at h
  · exact absurd h nofun
  · rename_i delayVal cmd hparse
    cases h
    refine ⟨?_, rfl, rfl, rfl⟩
    rcases duckyParseLine_keeps hprev hparse with hkeeps | ⟨hr, -⟩
    · exact hkeeps
    · exact absurd hr (duckyCallResult_error herror)

lemma duckyScriptExecuteNext_read (hcnt : s.cmd.repeatCnt = 0)
    (h : duckyScriptExecuteNext file keys s = some (r, s'))
    (hgoes : ¬ (r = scriptStateError ∨ r = scriptStateEnd)) :
    ∃ line, duckyExecutes file s = some (line, false) ∧
      s'.cmd.repeatCnt = (duckyRepeatCount line).getD 0 ∧ s'.linePrev = s.line ∧ s'.line = line ∧
      s'.reader.left file < s.reader.left file := by
  have hcnt' : ¬ s.cmd.repeatCnt ≠ 0 := not_not_intro hcnt
  obtain ⟨⟨found, reader, line⟩, hread, hleft⟩ := duckyReadLine_total file s.reader
  rw [duckyScriptExecuteNext, if_neg hcnt', hread] at h
  cases found with
  | false =>
    cases h
    exact absurd (.inr rfl) hgoes
  | true  =>
    dsimp only at h
    split at h
    · exact absurd h nofun
    · rename_i delayVal cmd hparse
      cases h
      refine ⟨line, ?_, ?_, rfl, rfl, hleft rfl⟩
      · rw [duckyExecutes, if_neg hcnt', hread]
      · exact duckyParseLine_repeatCnt hparse hcnt

variable (keys) in
lemma duckyScriptExecuteNext_total (hfine : DuckyLineFine file s) :
    ∃ r s', duckyScriptExecuteNext file keys s = some (r, s') := by
  by_cases hcnt : s.cmd.repeatCnt ≠ 0
  · have hline := (hfine (s.linePrev, true) (by rw [duckyExecutes, if_pos hcnt]; rfl)).1
    obtain ⟨out, hparse⟩ := Option.isSome_iff_exists.mp (duckyParseLine_total keys
      { s.cmd with repeatCnt := s.cmd.repeatCnt - 1 } hline)
    rw [duckyScriptExecuteNext, if_pos hcnt]
    dsimp only
    rw [hparse]
    exact ⟨_, _, rfl⟩
  · obtain ⟨⟨found, reader, line⟩, hread, -⟩ := duckyReadLine_total file s.reader
    rw [duckyScriptExecuteNext, if_neg hcnt, hread]
    cases found with
    | false => exact ⟨_, _, rfl⟩
    | true  =>
      have hline := (hfine (line, false) (by rw [duckyExecutes, if_neg hcnt, hread]; rfl)).1
      obtain ⟨out, hparse⟩ := Option.isSome_iff_exists.mp
        (duckyParseLine_total keys s.cmd hline)
      dsimp only
      rw [hparse]
      exact ⟨_, _, rfl⟩

/-! ### Runs -/

/-- The line that is to be executed again is no `REPEAT`. -/
def DuckyPrevFine (s : BadUsbScript) : Prop :=
  s.cmd.repeatCnt ≠ 0 → duckyRepeatCount s.linePrev = none

def duckyMeasure (file : List UInt8) (s : BadUsbScript) : Nat :=
  s.reader.left file * 2 ^ 32 + s.cmd.repeatCnt.toNat

lemma duckyScriptExecuteNext_decreases (hprev : DuckyPrevFine s) (hfine : DuckyLineFine file s)
    (h : duckyScriptExecuteNext file keys s = some (r, s'))
    (hgoes : ¬ (r = scriptStateError ∨ r = scriptStateEnd)) :
    DuckyPrevFine (duckyBeforeNext keys r s') ∧
      duckyMeasure file (duckyBeforeNext keys r s') < duckyMeasure file s := by
  simp only [DuckyPrevFine, duckyMeasure, duckyBeforeNext_repeatCnt, duckyBeforeNext_linePrev,
    duckyBeforeNext_reader]
  by_cases hcnt : s.cmd.repeatCnt = 0
  · obtain ⟨line, hexecutes, hcnt', hlinePrev, -, hleft⟩ :=
      duckyScriptExecuteNext_read hcnt h hgoes
    refine ⟨fun hne => ?_, ?_⟩
    · rw [hlinePrev]
      refine (hfine _ hexecutes).2 rfl fun hnone => hne ?_
      rw [hcnt', hnone]
      rfl
    · have := s'.cmd.repeatCnt.isLt
      omega
  · obtain ⟨hcnt', hlinePrev, -, hreader⟩ :=
      duckyScriptExecuteNext_again hcnt (hprev hcnt) h fun herror => hgoes (.inl herror)
    refine ⟨fun _ => hlinePrev ▸ hprev hcnt, ?_⟩
    rw [hcnt', hreader]
    bv_omega

lemma duckyScriptEnds_of_fine (hprev : DuckyPrevFine s)
    (hfine : ∀ k s', duckyCalls file keys k s = some s' → DuckyLineFine file s') :
    DuckyScriptEnds file keys s := by
  induction hm : duckyMeasure file s using Nat.strong_induction_on generalizing s with
  | _ m ih =>
    obtain ⟨r, s', hnext⟩ := duckyScriptExecuteNext_total keys (hfine 0 s rfl)
    by_cases hgoes : r = scriptStateError ∨ r = scriptStateEnd
    · exact ⟨0, s, r, s', rfl, hnext, hgoes⟩
    · obtain ⟨hprev', hlt⟩ := duckyScriptExecuteNext_decreases hprev (hfine 0 s rfl) hnext hgoes
      obtain ⟨k, s₁, r₁, s₂, hcalls, hlast, hend⟩ := ih _ (hm ▸ hlt) hprev'
        (fun k s₁ hcalls => hfine (k + 1) s₁ (duckyCalls_succ.mpr ⟨r, s', hnext, hgoes, hcalls⟩)) rfl
      exact ⟨k + 1, s₁, r₁, s₂, duckyCalls_succ.mpr ⟨r, s', hnext, hgoes, hcalls⟩, hlast, hend⟩

lemma duckyCalls_repeat {k : Nat} (hprev : duckyRepeatCount s.linePrev = none)
    (hk : k ≤ s.cmd.repeatCnt.toNat) (h : duckyCalls file keys k s = some s') :
    s'.cmd.repeatCnt.toNat = s.cmd.repeatCnt.toNat - k ∧ s'.linePrev = s.linePrev := by
  induction k generalizing s with
  | zero =>
    cases h
    exact ⟨rfl, rfl⟩
  | succ k ih =>
    obtain ⟨r, s₁, hnext, hgoes, hcalls⟩ := duckyCalls_succ.mp h
    have hcnt : s.cmd.repeatCnt ≠ 0 := by bv_omega
    obtain ⟨hcnt₁, hlinePrev, -, -⟩ :=
      duckyScriptExecuteNext_again hcnt hprev hnext fun herror => hgoes (.inl herror)
    have hlower : s₁.cmd.repeatCnt.toNat = s.cmd.repeatCnt.toNat - 1 := by
      rw [hcnt₁]
      bv_omega
    obtain ⟨hcnt', hlinePrev'⟩ := ih (by rwa [duckyBeforeNext_linePrev, hlinePrev])
      (by rw [duckyBeforeNext_repeatCnt]; omega) hcalls
    rw [duckyBeforeNext_repeatCnt] at hcnt'
    rw [duckyBeforeNext_linePrev] at hlinePrev'
    exact ⟨by omega, hlinePrev'.trans hlinePrev⟩

/-- A line that is read for the first time is read with no repeat left. -/
lemma repeatCnt_of_executes {line : List UInt8} (h : duckyExecutes file s = some (line, false)) :
    s.cmd.repeatCnt = 0 := by
  by_contra hcnt
  rw [duckyExecutes, if_pos hcnt] at h
  exact absurd h nofun

lemma duckyScriptRepeats_of_fine
    (hfine : ∀ k s', duckyCalls file keys k s = some s' → DuckyLineFine file s') :
    DuckyScriptRepeats file keys s := by
  intro i s₁ next n hcalls hexecutes hcount k s₂ hcalls₂
  have hcnt := repeatCnt_of_executes hexecutes
  obtain ⟨r, t, hnext, hgoes, hcallsk⟩ := duckyCalls_succ.mp hcalls₂
  obtain ⟨line, hexecutes', hcnt', hlinePrev, -, -⟩ := duckyScriptExecuteNext_read hcnt hnext hgoes
  cases Option.some.inj (hexecutes.symm.trans hexecutes')
  rw [hcount] at hcnt'
  change t.cmd.repeatCnt = n at hcnt'
  rw [← duckyBeforeNext_repeatCnt keys r t] at hcnt'
  rw [← duckyBeforeNext_linePrev keys r t] at hlinePrev
  have hprev : duckyRepeatCount (duckyBeforeNext keys r t).linePrev = none := by
    rw [hlinePrev]
    exact (hfine i s₁ hcalls _ hexecutes).2 rfl (by rw [hcount]; nofun)
  subst hcnt'
  constructor
  · intro hlt
    obtain ⟨hcnt₂, hlinePrev₂⟩ := duckyCalls_repeat hprev hlt.le hcallsk
    rw [duckyExecutes, if_pos (by bv_omega), hlinePrev₂, hlinePrev]
  · intro heq
    obtain ⟨hcnt₂, -⟩ := duckyCalls_repeat hprev heq.le hcallsk
    bv_omega

end Calls

/-- A script that has not been run yet. -/
def idleScript : BadUsbScript where
  reader := { pos := 0, fileBuf := fun _ => 0, bufStart := 0, bufLen := 0, fileEnd := false }
  line := []
  linePrev := []
  lineCur := 0
  errorLine := 0
  cmd :=
    { defdelay := 0, stringdelay := 0, defstringdelay := 0, repeatCnt := 0, keyHoldNb := 0
      stringPrint := [], sent := [] }

def noKeys : DuckyKeys where
  keycodeByName := fun _ => 0
  mediaKeycodeByName := fun _ => 0
  layout := fun _ => 0
  numLock := fun _ => true

lemma duckyCalls_prefix {s t : BadUsbScript} {j k : Nat}
    (h : duckyCalls file keys (j + k) s = some t) :
    ∃ s₁, duckyCalls file keys j s = some s₁ ∧ duckyCalls file keys k s₁ = some t := by
  induction j generalizing s with
  | zero => exact ⟨s, rfl, by rwa [Nat.zero_add] at h⟩
  | succ j ih =>
    rw [Nat.succ_add] at h
    obtain ⟨r, s₁, hnext, hgoes, hcalls⟩ := duckyCalls_succ.mp h
    obtain ⟨s₂, hcalls₁, hcalls₂⟩ := ih hcalls
    exact ⟨s₂, duckyCalls_succ.mpr ⟨r, s₁, hnext, hgoes, hcalls₁⟩, hcalls₂⟩

/-- A `REPEAT` whose lines are fine. -/
def repeatedScript : List UInt8 := ascii "REM\nREPEAT 2\n".toList

lemma repeatedScript_fine (k : Nat) (s' : BadUsbScript)
    (h : duckyCalls repeatedScript noKeys k (duckyScriptStart idleScript) = some s') :
    DuckyLineFine repeatedScript s' := by
  have hfine : ∀ k < 5, ∀ s' ∈ duckyCalls repeatedScript noKeys k (duckyScriptStart idleScript),
      DuckyLineFine repeatedScript s' := by
    decide +kernel
  have hend : duckyCalls repeatedScript noKeys 5 (duckyScriptStart idleScript) = none :=
    Option.isNone_iff_eq_none.mp (by decide +kernel)
  by_cases hk : k < 5
  · exact hfine k hk s' h
  · rw [show k = 5 + (k - 5) by omega] at h
    obtain ⟨s₁, hcalls, -⟩ := duckyCalls_prefix h
    exact absurd (hend.symm.trans hcalls) nofun

/-- A line that sets the count is executed again for ever. -/
def DuckyStuck (s : BadUsbScript) : Prop :=
  s.cmd.repeatCnt ≠ 0 ∧ s.cmd.defdelay = 0 ∧ ∃ n, duckyRepeatCount s.linePrev = some n

lemma DuckyStuck.calls (file : List UInt8) (keys : DuckyKeys) {s : BadUsbScript}
    (h : DuckyStuck s) (k : Nat) :
    ∃ s', duckyCalls file keys k s = some s' := by
  induction k generalizing s with
  | zero => exact ⟨s, rfl⟩
  | succ k ih =>
    obtain ⟨hcnt, hdelay, n, hcount⟩ := h
    have hnext : duckyScriptExecuteNext file keys s =
        some (0, { s with cmd := { s.cmd with repeatCnt := n } }) := by
      rw [duckyScriptExecuteNext, if_pos hcnt]
      dsimp only
      rw [duckyParseLine_repeat hcount]
      simp only [hdelay]
      rfl
    obtain ⟨s', hcalls⟩ := ih (s := { s with cmd := { s.cmd with repeatCnt := n } })
      ⟨duckyRepeatCount_ne_zero hcount, hdelay, n, hcount⟩
    exact ⟨s', duckyCalls_succ.mpr ⟨0, _, hnext, by decide, hcalls⟩⟩

/-- Two `REPEAT` lines, one behind the other. -/
def endlessScript : List UInt8 := ascii "REM\nREPEAT 2\nREPEAT 3\n".toList

end FlipperZero
