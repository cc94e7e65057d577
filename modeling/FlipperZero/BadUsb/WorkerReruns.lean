import FlipperZero.BadUsb.ScriptWorker

/-!
# Runs of a BadUSB script after other runs

What an earlier run leaves behind does not matter to a later one as long as it is read only after
it has been written. Workers that differ in such parts only are alike, and answer the same events
in the same way. The text of an earlier run is never read, unless a delay makes a call return the
code that starts a text.
-/

namespace FlipperZero

open Foundation

/-! ### The text that waits -/

def DuckyState.withText (s : DuckyState) (text : List UInt8) : DuckyState :=
  { s with stringPrint := text }

/-- The result of a line with another text. -/
def duckyWithText (text : List UInt8) (r : Int × DuckyState) : Int × DuckyState :=
  (r.1, r.2.withText text)

/-- A command that neither reads nor writes the text. -/
def DuckyCmdCallback.IgnoresText (callback : DuckyCmdCallback) : Prop :=
  ∀ keys line s text, callback keys line (s.withText text) =
    (callback keys line s).map (duckyWithText text)

def DuckyTextLine (line : List UInt8) : Prop :=
  duckyWord line = ascii "STRING".toList ∨ duckyWord line = ascii "STRINGLN".toList

instance (line : List UInt8) : Decidable (DuckyTextLine line) :=
  inferInstanceAs (Decidable (_ ∨ _))

section Text

variable (keys : DuckyKeys) (line : List UInt8) (s : DuckyState) (text : List UInt8)

lemma duckyNumlockOn_withText :
    duckyNumlockOn keys (s.withText text) = (duckyNumlockOn keys s).withText text := by
  unfold duckyNumlockOn
  by_cases hlight : keys.numLock s.sent = true
  · rw [if_pos hlight]
    exact if_pos hlight
  · rw [if_neg hlight]
    exact if_neg hlight

lemma duckyAltcharDigits_withText (rounds : Nat) (i : BitVec 8) (state : Bool) :
    duckyAltcharDigits line rounds i state (s.withText text) =
      (duckyAltcharDigits line rounds i state s).map fun r => (r.1, r.2.withText text) := by
  induction rounds generalizing i state s with
  | zero => rfl
  | succ rounds ih =>
    simp only [duckyAltcharDigits]
    split
    · rfl
    · split
      · rfl
      · exact ih (s.tap _) _ _

lemma duckyAltchar_withText :
    duckyAltchar line (s.withText text) =
      (duckyAltchar line s).map fun r => (r.1, r.2.withText text) := by
  have hdigits := duckyAltcharDigits_withText line (s.send [.kbPress .leftAlt]) text 256 0 false
  rw [duckyAltchar, duckyAltchar, Option.map_map]
  refine (congrArg _ hdigits).trans ?_
  rw [Option.map_map]
  rfl

lemma duckyAltstring_withText (state : Bool) :
    duckyAltstring line state (s.withText text) =
      (duckyAltstring line state s).map fun r => (r.1, r.2.withText text) := by
  induction line generalizing state s with
  | nil => rfl
  | cons chr line ih =>
    simp only [duckyAltstring]
    split
    · exact ih _ _
    · rw [duckyAltchar_withText]
      cases duckyAltchar (decimalText chr.toNat) s with
      | none => rfl
      | some r =>
        obtain ⟨state', s'⟩ := r
        cases state' with
        | false => rfl
        | true  => exact ih _ _

lemma duckyFncAltchar_ignoresText : DuckyCmdCallback.IgnoresText duckyFncAltchar := by
  intro keys line s text
  simp only [duckyFncAltchar, duckyNumlockOn_withText, duckyAltchar_withText]
  cases duckyAltchar (duckyArgument line) (duckyNumlockOn keys s) with
  | none   => rfl
  | some r =>
    obtain ⟨state, s'⟩ := r
    cases state <;> rfl

lemma duckyFncAltstring_ignoresText : DuckyCmdCallback.IgnoresText duckyFncAltstring := by
  intro keys line s text
  simp only [duckyFncAltstring, duckyNumlockOn_withText, duckyAltstring_withText]
  cases duckyAltstring (duckyArgument line) false (duckyNumlockOn keys s) with
  | none   => rfl
  | some r =>
    obtain ⟨state, s'⟩ := r
    cases state <;> rfl

lemma duckyCommands_ignoreText :
    ∀ command ∈ duckyCommands, (command.1 = ascii "STRING".toList ∨
      command.1 = ascii "STRINGLN".toList) ∨ command.2.IgnoresText := by
  have hdelay : DuckyCmdCallback.IgnoresText duckyFncDelay := fun _ line _ _ => by
    simp only [duckyFncDelay]
    split
    · split <;> rfl
    · rfl
  have hdefdelay : DuckyCmdCallback.IgnoresText duckyFncDefdelay := fun _ line _ _ => by
    simp only [duckyFncDefdelay]
    split <;> rfl
  have hstrdelay : DuckyCmdCallback.IgnoresText duckyFncStrdelay := fun _ line _ _ => by
    simp only [duckyFncStrdelay]
    split <;> rfl
  have hdefstrdelay : DuckyCmdCallback.IgnoresText duckyFncDefstrdelay := fun _ line _ _ => by
    simp only [duckyFncDefstrdelay]
    split <;> rfl
  have hrepeat : DuckyCmdCallback.IgnoresText duckyFncRepeat := fun _ line _ _ => by
    simp only [duckyFncRepeat]
    split
    · split <;> rfl
    · rfl
  have hhold : DuckyCmdCallback.IgnoresText duckyFncHold := fun _ line s _ => by
    unfold duckyFncHold
    dsimp only
    split
    · rfl
    · by_cases hheld : hidKbMaxKeys - 1 < (s.keyHoldNb + 1).toNat
      · rw [if_pos hheld]
        exact if_pos hheld
      · rw [if_neg hheld]
        exact if_neg hheld
  have hrelease : DuckyCmdCallback.IgnoresText duckyFncRelease := fun _ line s _ => by
    unfold duckyFncRelease
    dsimp only
    split
    · rfl
    · by_cases hheld : s.keyHoldNb = 0
      · rw [if_pos hheld]
        exact if_pos hheld
      · rw [if_neg hheld]
        exact if_neg hheld
  have hmedia : DuckyCmdCallback.IgnoresText duckyFncMedia := fun _ line _ _ => by
    simp only [duckyFncMedia]
    split <;> rfl
  have hglobe : DuckyCmdCallback.IgnoresText duckyFncGlobe := fun _ line _ _ => by
    simp only [duckyFncGlobe]
    split <;> rfl
  have hnull : DuckyCmdCallback.IgnoresText duckyFncNull := fun _ _ _ _ => rfl
  have hsysrq : DuckyCmdCallback.IgnoresText duckyFncSysrq := fun _ _ _ _ => rfl
  have hwait : DuckyCmdCallback.IgnoresText duckyFncWaitforbutton := fun _ _ _ _ => rfl
  simp only [duckyCommands, List.forall_mem_cons, List.not_mem_nil, false_implies, implies_true,
    and_true]
  exact ⟨.inr hnull, .inr hnull, .inr hdelay, .inl (.inl trivial), .inl (.inr trivial),
    .inr hdefdelay, .inr hdefdelay, .inr hstrdelay, .inr hstrdelay, .inr hdefstrdelay,
    .inr hdefstrdelay, .inr hrepeat, .inr hsysrq, .inr duckyFncAltchar_ignoresText,
    .inr duckyFncAltstring_ignoresText, .inr duckyFncAltstring_ignoresText, .inr hhold,
    .inr hrelease, .inr hwait, .inr hmedia, .inr hglobe⟩

lemma duckyParseLine_withText (h : ¬ DuckyTextLine line) :
    duckyParseLine keys line (s.withText text) =
      (duckyParseLine keys line s).map (duckyWithText text) := by
  have hexecute : duckyExecuteCmd keys (line.takeWhile (· ≠ 0)) (s.withText text) =
      (duckyExecuteCmd keys (line.takeWhile (· ≠ 0)) s).map (duckyWithText text) := by
    unfold duckyExecuteCmd
    cases hfind : duckyFindCmd (line.takeWhile (· ≠ 0)) with
    | none          => rfl
    | some callback =>
      rcases duckyCommands_ignoreText _ (mem_duckyCommands hfind) with hword | hignores
      · exact absurd hword h
      · exact hignores _ _ _ _
  simp only [duckyParseLine]
  split
  · rfl
  · rw [hexecute]
    cases duckyExecuteCmd keys (line.takeWhile (· ≠ 0)) s with
    | none   => rfl
    | some r =>
      simp only [Option.map_some, duckyWithText]
      split
      · rfl
      · split <;> rfl

lemma duckyParseLine_textLine (h : DuckyTextLine line) :
    duckyParseLine keys line (s.withText text) = duckyParseLine keys line s := by
  have hline : line ≠ [] := by
    rintro rfl
    exact absurd h (by decide)
  obtain ⟨newLine, hfind⟩ : ∃ newLine,
      duckyFindCmd (line.takeWhile (· ≠ 0)) = some (duckyFncString newLine) := by
    unfold duckyFindCmd
    rcases h with hword | hword
    · rw [show (line.takeWhile (· ≠ 0)).takeWhile (· ≠ 32) = ascii "STRING".toList from hword]
      exact ⟨false, rfl⟩
    · rw [show (line.takeWhile (· ≠ 0)).takeWhile (· ≠ 32) = ascii "STRINGLN".toList from hword]
      exact ⟨true, rfl⟩
  simp only [duckyParseLine, duckyExecuteCmd, if_neg hline, hfind]
  rfl

end Text

/-! ### Scripts that are alike -/

def DuckyFirstFine (file : List UInt8) : Prop :=
  ∀ next ∈ duckyNextLine (file ++ [10]) [], duckyRepeatCount (furiStringTrim next.1) = none

instance (file : List UInt8) : Decidable (DuckyFirstFine file) :=
  inferInstanceAs (Decidable (∀ next ∈ duckyNextLine (file ++ [10]) [], _))

/-- Two scripts have the same to do: they differ in the bytes behind the buffer, in the text, in the
line before the first one when it is not repeated, and in the line before when none is repeated. -/
structure DuckyAlike (file : List UInt8) (s t : BadUsbScript) : Prop where
  valid : s.reader.Valid file
  valid' : t.reader.Valid file
  unread : s.reader.unread file = t.reader.unread file
  line : s.line = t.line ∨ DuckyFirstFine file ∧ s.reader.unread file = file ++ [10]
  linePrev : s.cmd.repeatCnt ≠ 0 → s.linePrev = t.linePrev
  lineCur : s.lineCur = t.lineCur
  cmd : t.cmd = s.cmd.withText t.cmd.stringPrint

def DuckyResultAlike (line : List UInt8) (a b : Int × DuckyState) : Prop :=
  a.1 = b.1 ∧ b.2 = a.2.withText b.2.stringPrint ∧
    (DuckyTextLine line → a.2.stringPrint = b.2.stringPrint)

def DuckyCallAlike (file : List UInt8) (call : Option (List UInt8 × Bool))
    (a b : Int × BadUsbScript) : Prop :=
  a.1 = b.1 ∧ DuckyAlike file a.2 b.2 ∧
    ∀ c ∈ call, DuckyTextLine c.1 → a.2.cmd.stringPrint = b.2.cmd.stringPrint

section Alike

variable {file : List UInt8} {keys : DuckyKeys} {s t : BadUsbScript}

variable (keys) in
lemma duckyParseLine_alike (line : List UInt8) {cmd cmd' : DuckyState}
    (h : cmd' = cmd.withText cmd'.stringPrint) :
    Option.Rel (DuckyResultAlike line) (duckyParseLine keys line cmd)
      (duckyParseLine keys line cmd') := by
  rw [h]
  by_cases htext : DuckyTextLine line
  · rw [duckyParseLine_textLine keys line cmd _ htext]
    cases duckyParseLine keys line cmd with
    | none   => exact .none
    | some r => exact .some ⟨rfl, rfl, fun _ => rfl⟩
  · rw [duckyParseLine_withText keys line cmd _ htext]
    cases duckyParseLine keys line cmd with
    | none   => exact .none
    | some r => exact .some ⟨rfl, rfl, fun hline => absurd hline htext⟩

lemma DuckyAlike.readLine (h : DuckyAlike file s t) :
    ∃ found r r' line, duckyReadLine file s.reader = some (found, r, line) ∧
      duckyReadLine file t.reader = some (found, r', line) ∧ r.Valid file ∧ r'.Valid file ∧
        r.unread file = r'.unread file ∧ (found = true →
          ∃ next ∈ duckyNextLine (s.reader.unread file) [], line = furiStringTrim next.1) := by
  obtain ⟨⟨found, r, line⟩, hread, hvalid, hreads⟩ := duckyReadLine_reads h.valid
  obtain ⟨⟨found', r', line'⟩, hread', hvalid', hreads'⟩ := duckyReadLine_reads h.valid'
  rw [← h.unread] at hreads'
  cases hnext : duckyNextLine (s.reader.unread file) [] with
  | none      =>
    rw [hnext] at hreads hreads'
    obtain ⟨rfl, rfl, hrest⟩ := hreads
    obtain ⟨rfl, rfl, hrest'⟩ := hreads'
    exact ⟨_, r, r', _, hread, hread', hvalid, hvalid', hrest.trans hrest'.symm, nofun⟩
  | some next =>
    obtain ⟨next, rest⟩ := next
    rw [hnext] at hreads hreads'
    obtain ⟨rfl, rfl, hrest⟩ := hreads
    obtain ⟨rfl, rfl, hrest'⟩ := hreads'
    exact ⟨_, r, r', _, hread, hread', hvalid, hvalid', hrest.trans hrest'.symm,
      fun _ => ⟨_, rfl, rfl⟩⟩

lemma DuckyAlike.again (h : DuckyAlike file s t) (hcnt : s.cmd.repeatCnt ≠ 0) :
    Option.Rel (DuckyCallAlike file (duckyExecutes file s)) (duckyScriptExecuteNext file keys s)
      (duckyScriptExecuteNext file keys t) := by
  have hcnt' : t.cmd.repeatCnt ≠ 0 := by rwa [h.cmd]
  have hprev := h.linePrev hcnt
  have hcmd : { t.cmd with repeatCnt := t.cmd.repeatCnt - 1 } =
      DuckyState.withText { s.cmd with repeatCnt := s.cmd.repeatCnt - 1 } t.cmd.stringPrint := by
    rw [h.cmd]
    rfl
  have hparse := duckyParseLine_alike keys s.linePrev hcmd
  rw [duckyScriptExecuteNext, duckyScriptExecuteNext, duckyExecutes, if_pos hcnt, if_pos hcnt',
    if_pos hcnt, ← hprev]
  dsimp only
  generalize duckyParseLine keys s.linePrev { s.cmd with repeatCnt := s.cmd.repeatCnt - 1 } = a
    at hparse ⊢
  generalize duckyParseLine keys s.linePrev { t.cmd with repeatCnt := t.cmd.repeatCnt - 1 } = b
    at hparse ⊢
  cases hparse with
  | none                => exact .none
  | @some a b hab =>
    obtain ⟨delayVal, cmd⟩ := a
    obtain ⟨delayVal', cmd'⟩ := b
    obtain ⟨rfl, hcmd', htext⟩ := hab
    refine .some ⟨?_, ?_, ?_⟩
    · dsimp only at hcmd' ⊢
      rw [hcmd']
      rfl
    · exact { h with linePrev := fun _ => rfl, cmd := hcmd' }
    · rintro c ⟨⟩ hline
      exact htext hline

lemma DuckyAlike.read (h : DuckyAlike file s t) (hcnt : s.cmd.repeatCnt = 0) :
    Option.Rel (DuckyCallAlike file (duckyExecutes file s)) (duckyScriptExecuteNext file keys s)
      (duckyScriptExecuteNext file keys t) := by
  have hcnt' : t.cmd.repeatCnt = 0 := by rwa [h.cmd]
  obtain ⟨found, r, r', line, hread, hread', hvalid, hvalid', hunread, hline⟩ := h.readLine
  rw [duckyScriptExecuteNext, duckyScriptExecuteNext, duckyExecutes, if_neg (not_not.mpr hcnt),
    if_neg (not_not.mpr hcnt'), if_neg (not_not.mpr hcnt), hread, hread']
  cases found with
  | false =>
    exact .some ⟨rfl,
      { h with
        valid := hvalid, valid' := hvalid', unread := hunread, line := .inl rfl
        linePrev := fun hne => absurd hcnt hne }, fun _ hc => by cases hc⟩
  | true  =>
    have hparse := duckyParseLine_alike keys line h.cmd
    dsimp only
    generalize hs : duckyParseLine keys line s.cmd = a at hparse ⊢
    generalize duckyParseLine keys line t.cmd = b at hparse ⊢
    cases hparse with
    | none                => exact .none
    | @some a b hab =>
      obtain ⟨delayVal, cmd⟩ := a
      obtain ⟨delayVal', cmd'⟩ := b
      obtain ⟨rfl, hcmd, htext⟩ := hab
      have hprev : cmd.repeatCnt ≠ 0 → s.line = t.line := by
        intro hne
        rcases h.line with heq | ⟨hfine, hstart⟩
        · exact heq
        · obtain ⟨next, hnext, rfl⟩ := hline rfl
          rw [hstart] at hnext
          exact absurd (duckyParseLine_zero (hfine next hnext) hcnt hs) hne
      refine .some ⟨?_, ?_, ?_⟩
      · dsimp only at hcmd ⊢
        rw [hcmd]
        rfl
      · exact
          { valid := hvalid, valid' := hvalid', unread := hunread, line := .inl rfl
            linePrev := hprev, lineCur := congrArg (· + 1) h.lineCur, cmd := hcmd }
      · rintro c ⟨⟩ hline
        exact htext hline

variable (keys) in
/-- Scripts that are alike stay so in a call, which returns the same. -/
theorem DuckyAlike.executeNext (h : DuckyAlike file s t) :
    Option.Rel (DuckyCallAlike file (duckyExecutes file s)) (duckyScriptExecuteNext file keys s)
      (duckyScriptExecuteNext file keys t) := by
  by_cases hcnt : s.cmd.repeatCnt = 0
  · exact h.read hcnt
  · exact h.again hcnt

/-- What is done to the commands of both scripts, without reading the text. -/
lemma DuckyAlike.withCmd (h : DuckyAlike file s t) (f : DuckyState → DuckyState)
    (hcnt : (f s.cmd).repeatCnt = s.cmd.repeatCnt)
    (hf : ∀ text,
      f (s.cmd.withText text) = (f s.cmd).withText (f (s.cmd.withText text)).stringPrint) :
    DuckyAlike file { s with cmd := f s.cmd } { t with cmd := f t.cmd } :=
  { h with
    linePrev := fun hne => h.linePrev (hcnt ▸ hne)
    cmd := by
      dsimp only
      rw [h.cmd]
      exact hf _ }

lemma duckyScriptStartConnected_alike (hline : s.line = t.line ∨ DuckyFirstFine file)
    (hkeyHoldNb : s.cmd.keyHoldNb = t.cmd.keyHoldNb) (hsent : s.cmd.sent = t.cmd.sent) :
    DuckyAlike file (duckyScriptStartConnected s) (duckyScriptStartConnected t) where
  valid := nofun
  valid' := nofun
  unread := rfl
  line := hline.imp_right fun hfine => ⟨hfine, rfl⟩
  linePrev hne := absurd rfl hne
  lineCur := rfl
  cmd := by
    simp only [duckyScriptStartConnected, DuckyState.withText, hkeyHoldNb, hsent]

/-- The start of an idle worker forgets the keys that are held, too. -/
lemma duckyScriptStart_eq (s : BadUsbScript) :
    duckyScriptStart s =
      duckyScriptStartConnected { s with cmd := { s.cmd with keyHoldNb := 0 } } := rfl

lemma DuckyAlike.startConnected (h : DuckyAlike file s t) :
    DuckyAlike file (duckyScriptStartConnected s) (duckyScriptStartConnected t) :=
  duckyScriptStartConnected_alike (h.line.imp_right And.left) (by rw [h.cmd]; rfl)
    (by rw [h.cmd]; rfl)

lemma DuckyAlike.start (h : DuckyAlike file s t) :
    DuckyAlike file (duckyScriptStart s) (duckyScriptStart t) := by
  rw [duckyScriptStart_eq, duckyScriptStart_eq]
  exact duckyScriptStartConnected_alike (h.line.imp_right And.left) rfl (by rw [h.cmd]; rfl)

end Alike

/-! ### Workers that are alike -/

/-- The worker prints a text, or will do so when it is resumed. -/
def BadUsbWorker.Printing (w : BadUsbWorker) : Prop :=
  w.workerState = some .stringDelay ∨ w.workerState = some .paused ∧ w.pauseState = .stringDelay

/-- Two workers do the same: what they differ in is not read before it is written. -/
structure BadUsbAlike (file : List UInt8) (w v : BadUsbWorker) : Prop where
  workerState : w.workerState = v.workerState
  state : w.state = v.state
  delayVal : w.delayVal = v.delayVal
  script : DuckyAlike file w.script v.script
  pauseState : w.workerState = some .paused → w.pauseState = v.pauseState
  text : w.Printing → w.script.cmd.stringPrint = v.script.cmd.stringPrint ∧
    w.stringPrintPos = v.stringPrintPos

/-- The next line is executed in this pass. -/
def BadUsbWorker.Executes (w : BadUsbWorker) (e : BadUsbEvents) : Prop :=
  w.workerState = some .running ∧ e.flags = none ∧
    ¬ 0 < Int.bmod (w.delayVal - w.delayCur) (2 ^ 32)

/-- What a line yields is read as the code of a text: a delay, alone or with the default one. -/
def DuckyReadAsText (r : Int × DuckyState) : Prop :=
  r.1 = scriptStateStringStart ∨
    0 ≤ r.1 ∧ (BitVec.ofInt 32 r.1 + r.2.defdelay).toInt = scriptStateStringStart

/-- The commands see the next line with its count of repeats, which a repeated line has lowered. -/
def duckyCmdBefore (cmd : DuckyState) (again : Bool) : DuckyState :=
  if again then { cmd with repeatCnt := cmd.repeatCnt - 1 } else cmd

/-- No delay of the next line is read as the code of a text. -/
def DuckyTextOwn (file : List UInt8) (keys : DuckyKeys) (s : BadUsbScript) : Prop :=
  ∀ call ∈ duckyExecutes file s, ¬ DuckyTextLine call.1 →
    ∀ r ∈ duckyParseLine keys call.1 (duckyCmdBefore s.cmd call.2), ¬ DuckyReadAsText r

def BadUsbTextOwn (file : List UInt8) (keys : DuckyKeys) (w : BadUsbWorker) (e : BadUsbEvents) :
    Prop :=
  w.Executes e → DuckyTextOwn file { keys with numLock := e.numLock } w.drain.script

instance (r : Int × DuckyState) : Decidable (DuckyReadAsText r) :=
  inferInstanceAs (Decidable (_ ∨ _))

instance (file : List UInt8) (keys : DuckyKeys) (s : BadUsbScript) :
    Decidable (DuckyTextOwn file keys s) :=
  inferInstanceAs (Decidable (∀ call ∈ duckyExecutes file s, _))

lemma duckyReadAsText_of_result {delayVal : Int} {cmd : DuckyState}
    (h : duckyCallResult cmd.defdelay delayVal = scriptStateStringStart) :
    DuckyReadAsText (delayVal, cmd) := by
  unfold duckyCallResult at h
  split_ifs at h with hnext htext hwait hneg
  · exact absurd h (by decide)
  · exact .inl htext
  · exact absurd (hwait.symm.trans h) (by decide)
  · exact absurd h (by decide)
  · exact .inr ⟨Int.not_lt.mp hneg, h⟩

lemma DuckyTextOwn.textLine {file : List UInt8} {keys : DuckyKeys} {s : BadUsbScript}
    (h : DuckyTextOwn file keys s) :
    ∀ r ∈ duckyScriptExecuteNext file keys s, r.1 = scriptStateStringStart →
      ∃ call ∈ duckyExecutes file s, DuckyTextLine call.1 := by
  intro r hr hresult
  by_contra hnone
  push Not at hnone
  unfold DuckyTextOwn duckyExecutes at h
  unfold duckyExecutes at hnone
  unfold duckyScriptExecuteNext at hr
  by_cases hcnt : s.cmd.repeatCnt ≠ 0
  · simp only [if_pos hcnt] at h hnone hr
    cases hparse : duckyParseLine keys s.linePrev (duckyCmdBefore s.cmd true) with
    | none =>
      rw [duckyCmdBefore, if_pos rfl] at hparse
      rw [hparse] at hr
      cases hr
    | some out =>
      have hown := h _ rfl (hnone _ rfl) out hparse
      rw [duckyCmdBefore, if_pos rfl] at hparse
      rw [hparse] at hr
      cases hr
      exact hown (duckyReadAsText_of_result hresult)
  · simp only [if_neg hcnt] at h hnone hr
    rcases hread : duckyReadLine file s.reader with _ | ⟨_ | _, reader, line⟩
    · rw [hread] at hr
      cases hr
    · rw [hread] at hr
      cases hr
      exact absurd (show scriptStateEnd = scriptStateStringStart from hresult) (by decide)
    · rw [hread] at h hnone hr
      cases hparse : duckyParseLine keys line s.cmd with
      | none =>
        simp only [hparse] at hr
        cases hr
      | some out =>
        have hown := h _ rfl (hnone _ rfl) out hparse
        simp only [hparse] at hr
        cases hr
        exact hown (duckyReadAsText_of_result hresult)

instance (w : BadUsbWorker) (e : BadUsbEvents) : Decidable (w.Executes e) :=
  inferInstanceAs (Decidable (_ ∧ e.flags = none ∧ _))

instance (file : List UInt8) (keys : DuckyKeys) (w : BadUsbWorker) (e : BadUsbEvents) :
    Decidable (BadUsbTextOwn file keys w e) :=
  inferInstanceAs (Decidable (w.Executes e → _))

section Workers

variable {file : List UInt8} {keys : DuckyKeys} {w v w' v' : BadUsbWorker}

lemma BadUsbAlike.plain (hworkerState : w.workerState = v.workerState) (hstate : w.state = v.state)
    (hdelayVal : w.delayVal = v.delayVal) (hscript : DuckyAlike file w.script v.script)
    (hpaused : w.workerState ≠ some .paused) (hprints : w.workerState ≠ some .stringDelay) :
    BadUsbAlike file w v where
  workerState := hworkerState
  state := hstate
  delayVal := hdelayVal
  script := hscript
  pauseState h := absurd h hpaused
  text h := absurd h (not_or.mpr ⟨hprints, fun h => hpaused h.1⟩)

lemma BadUsbAlike.drain (h : BadUsbAlike file w v) : BadUsbAlike file w.drain v.drain :=
  { h with script := h.script.withCmd (fun cmd => { cmd with sent := [] }) rfl fun _ => rfl }

lemma BadUsbAlike.leave (h : BadUsbAlike file w v) : BadUsbAlike file w.leave v.leave :=
  .plain rfl h.state h.delayVal h.script nofun nofun

lemma BadUsbAlike.releaseAll (h : BadUsbAlike file w v) :
    BadUsbAlike file w.releaseAll v.releaseAll :=
  { h with script := h.script.withCmd (·.send [.releaseAll]) rfl fun _ => rfl }

lemma BadUsbAlike.goTo (h : BadUsbAlike file w v) (state : BadUsbWorkerState)
    (hpaused : state ≠ .paused) (hprints : state ≠ .stringDelay) :
    BadUsbAlike file (w.goTo state) (v.goTo state) :=
  .plain rfl rfl h.delayVal h.script (fun heq => hpaused (Option.some.inj heq))
    fun heq => hprints (Option.some.inj heq)

lemma BadUsbAlike.stop (h : BadUsbAlike file w v) (flags : BadUsbFlags)
    (hother : BadUsbAlike file w' v') :
    BadUsbAlike file (badUsbStop w flags w') (badUsbStop v flags v') := by
  unfold badUsbStop
  split
  · exact h.leave
  · split
    · exact (h.goTo .idle (by decide) (by decide)).releaseAll
    · split
      · exact (h.goTo .notConnected (by decide) (by decide)).releaseAll
      · exact hother

lemma BadUsbAlike.notConnected (h : BadUsbAlike file w v) (flags : BadUsbFlags) :
    BadUsbAlike file (badUsbNotConnected w flags) (badUsbNotConnected v flags) := by
  unfold badUsbNotConnected
  split
  · exact h.leave
  · split
    · exact h.goTo .idle (by decide) (by decide)
    · split
      · exact h.goTo .willRun (by decide) (by decide)
      · exact h.goTo .notConnected (by decide) (by decide)

lemma BadUsbAlike.idle (h : BadUsbAlike file w v) (flags : BadUsbFlags) :
    BadUsbAlike file (badUsbIdle w flags) (badUsbIdle v flags) := by
  unfold badUsbIdle
  split
  · exact h.leave
  · split
    · exact .plain rfl rfl rfl h.script.start nofun nofun
    · split
      · exact h.goTo .notConnected (by decide) (by decide)
      · exact h.goTo .idle (by decide) (by decide)

lemma BadUsbAlike.willRun (h : BadUsbAlike file w v) (flags : BadUsbFlags)
    (extra : Option BadUsbFlags) :
    BadUsbAlike file (badUsbWillRun w flags extra) (badUsbWillRun v flags extra) := by
  unfold badUsbWillRun
  split
  · exact h.leave
  · split
    · cases extra with
      | none       => exact .plain rfl rfl rfl h.script.startConnected nofun nofun
      | some flags =>
        dsimp only
        split
        · exact .plain rfl rfl rfl h.script.startConnected nofun nofun
        · exact .plain rfl rfl rfl h.script.startConnected nofun nofun
    · split
      · exact h.goTo .notConnected (by decide) (by decide)
      · exact h.goTo .willRun (by decide) (by decide)

lemma BadUsbAlike.waitForBtn (h : BadUsbAlike file w v) (flags : BadUsbFlags) :
    BadUsbAlike file (badUsbWaitForBtn w flags) (badUsbWaitForBtn v flags) := by
  unfold badUsbWaitForBtn
  split
  · exact h.leave
  · split
    · exact .plain rfl rfl rfl h.script nofun nofun
    · split
      · exact (h.goTo .notConnected (by decide) (by decide)).releaseAll
      · exact h.goTo .waitForBtn (by decide) (by decide)

lemma BadUsbAlike.execute (h : BadUsbAlike file w v) (hrunning : w.workerState = some .running)
    (hown : ∀ r ∈ duckyScriptExecuteNext file keys w.script, r.1 = scriptStateStringStart →
      ∃ call ∈ duckyExecutes file w.script, DuckyTextLine call.1) :
    BadUsbAlike file (badUsbExecute file keys w) (badUsbExecute file keys v) := by
  have hcalls := h.script.executeNext keys
  unfold badUsbExecute
  generalize duckyScriptExecuteNext file keys w.script = a at hown hcalls ⊢
  generalize duckyScriptExecuteNext file keys v.script = b at hcalls ⊢
  cases hcalls with
  | none                => exact h.leave
  | @some a b hab =>
    obtain ⟨result, s⟩ := a
    obtain ⟨result', t⟩ := b
    obtain ⟨rfl, hscript, htext⟩ := hab
    dsimp only at hscript htext ⊢
    have hgoes (workerState state : BadUsbWorkerState) (hpaused : workerState ≠ .paused)
        (hprints : workerState ≠ .stringDelay) : BadUsbAlike file
          { w with script := s, delayVal := 0, workerState := some workerState, state }
          { v with script := t, delayVal := 0, workerState := some workerState, state } :=
      .plain rfl rfl rfl hscript (fun heq => hpaused (Option.some.inj heq))
        fun heq => hprints (Option.some.inj heq)
    split
    · exact (hgoes .scriptError .scriptError (by decide) (by decide)).releaseAll
    · split
      · exact (hgoes .idle .done (by decide) (by decide)).releaseAll
      · split
        · rename_i hstart
          obtain ⟨call, hcall, hline⟩ := hown _ rfl hstart
          have hdefdelay : s.cmd.defdelay = t.cmd.defdelay := by
            rw [hscript.cmd]
            rfl
          exact
            { workerState := rfl
              state := rfl
              delayVal := congrArg BitVec.toInt hdefdelay
              script := hscript
              pauseState := nofun
              text := fun _ => ⟨htext call hcall hline, rfl⟩ }
        · have hplain (state : BadUsbWorkerState) : BadUsbAlike file
              { w with script := s, delayVal := result, state }
              { v with script := t, delayVal := result, state } :=
            .plain h.workerState rfl rfl hscript (by rw [hrunning]; nofun) (by rw [hrunning]; nofun)
          split
          · exact (hplain .running).goTo .waitForBtn (by decide) (by decide)
          · split
            · exact hplain .delay
            · exact hplain .running

lemma BadUsbAlike.running (h : BadUsbAlike file w v) (hrunning : w.workerState = some .running)
    (flags : Option BadUsbFlags)
    (hown : flags = none → ¬ 0 < Int.bmod (w.delayVal - w.delayCur) (2 ^ 32) →
      ∀ r ∈ duckyScriptExecuteNext file keys w.script, r.1 = scriptStateStringStart →
        ∃ call ∈ duckyExecutes file w.script, DuckyTextLine call.1) :
    BadUsbAlike file (badUsbRunning file keys w flags) (badUsbRunning file keys v flags) := by
  have hdelayCur : w.delayCur = v.delayCur := by
    rw [BadUsbWorker.delayCur, BadUsbWorker.delayCur, h.delayVal]
  have hwaited (pauseState pauseState' : BadUsbWorkerState) : BadUsbAlike file
      { w with delayVal := Int.bmod (w.delayVal - w.delayCur) (2 ^ 32), pauseState }
      { v with
        delayVal := Int.bmod (v.delayVal - v.delayCur) (2 ^ 32), pauseState := pauseState' } :=
    .plain h.workerState h.state (by dsimp only; rw [h.delayVal, hdelayCur]) h.script
      (by dsimp only; rw [hrunning]; nofun) (by dsimp only; rw [hrunning]; nofun)
  unfold badUsbRunning
  cases flags with
  | some flags =>
    refine (hwaited _ _).stop flags ?_
    split
    · have hpaused := hwaited .running .running
      exact
        { hpaused with
          workerState := rfl
          state := rfl
          pauseState := fun _ => rfl
          text := fun hprints =>
            absurd hprints (not_or.mpr ⟨nofun, fun hpause => absurd hpause.2 nofun⟩) }
    · exact (hwaited _ _).goTo .running (by decide) (by decide)
  | none       =>
    have hsame := (hwaited w.pauseState v.pauseState).delayVal
    dsimp only at hsame ⊢
    rw [← hsame]
    split
    · have hwait := hwaited w.pauseState v.pauseState
      rw [← hsame] at hwait
      exact hwait
    · rename_i hzero
      have hwait := (hwaited w.pauseState v.pauseState).execute hrunning
        (hown rfl hzero)
      rw [← hsame] at hwait
      exact hwait

lemma BadUsbAlike.paused (h : BadUsbAlike file w v) (hpaused : w.workerState = some .paused)
    (flags : BadUsbFlags) : BadUsbAlike file (badUsbPaused w flags) (badUsbPaused v flags) := by
  refine h.stop flags ?_
  rw [← h.pauseState hpaused, ← h.delayVal]
  split
  · split
    · split
      · exact .plain rfl rfl rfl h.script nofun nofun
      · exact .plain rfl rfl rfl h.script nofun nofun
    · split
      · rename_i hprints
        exact
          { workerState := rfl
            state := rfl
            delayVal := rfl
            script := h.script
            pauseState := nofun
            text := fun _ => h.text (.inr ⟨hpaused, hprints⟩) }
      · exact h
  · exact h

variable (keys) in
lemma BadUsbAlike.stringNext (h : BadUsbAlike file w v)
    (hprints : w.workerState = some .stringDelay) :
    (duckyStringNext keys w).1 = (duckyStringNext keys v).1 ∧
      BadUsbAlike file (duckyStringNext keys w).2 (duckyStringNext keys v).2 := by
  obtain ⟨htext, hpos⟩ := h.text (.inl hprints)
  have hkeeps (chr : UInt8) (cmd : DuckyState) :
      (duckyPrintChar keys chr cmd).stringPrint = cmd.stringPrint := by
    unfold duckyPrintChar
    split
    · dsimp only
      split <;> rfl
    · rfl
  unfold duckyStringNext
  dsimp only
  rw [← htext, ← hpos]
  split
  · exact ⟨rfl, h⟩
  · generalize w.script.cmd.stringPrint.getD w.stringPrintPos 0 = chr
    refine ⟨rfl, { h with script := ?_, text := fun _ => ⟨?_, rfl⟩ }⟩
    · refine h.script.withCmd (duckyPrintChar keys chr) ?_ fun text => ?_
      all_goals
        unfold duckyPrintChar
        split
        · dsimp only
          split <;> rfl
        · rfl
    · exact (hkeeps chr _).trans (htext.trans (hkeeps chr _).symm)

lemma BadUsbAlike.stringDelay (h : BadUsbAlike file w v)
    (hprints : w.workerState = some .stringDelay) (flags : Option BadUsbFlags) :
    BadUsbAlike file (badUsbStringDelay keys w flags) (badUsbStringDelay keys v flags) := by
  unfold badUsbStringDelay
  cases flags with
  | some flags =>
    refine h.stop flags ?_
    split
    · exact { h with
        workerState := rfl
        state := rfl
        pauseState := fun _ => rfl
        text := fun _ => h.text (.inl hprints) }
    · exact { h with
        workerState := rfl
        state := rfl
        pauseState := nofun
        text := fun _ => h.text (.inl hprints) }
  | none       =>
    obtain ⟨hend, hnext⟩ := h.stringNext keys hprints
    dsimp only
    rw [← hend]
    split
    · exact .plain rfl hnext.state hnext.delayVal
        (hnext.script.withCmd (fun cmd => { cmd with stringdelay := 0 }) rfl fun _ => rfl)
        nofun nofun
    · exact hnext

/-- Workers that are alike stay so. -/
theorem BadUsbAlike.pass (h : BadUsbAlike file w v) (e : BadUsbEvents)
    (hown : w.Executes e →
      ∀ r ∈ duckyScriptExecuteNext file { keys with numLock := e.numLock } w.script,
        r.1 = scriptStateStringStart →
          ∃ call ∈ duckyExecutes file w.script, DuckyTextLine call.1) :
    BadUsbAlike file (badUsbPass file keys w e) (badUsbPass file keys v e) := by
  unfold badUsbPass
  dsimp only
  rw [← h.workerState]
  rcases hstate : w.workerState with _ | state
  · exact h
  · rcases hflags : e.flags with _ | flags
    · cases state with
      | running     =>
        exact h.running hstate none fun _ hzero => hown ⟨hstate, hflags, hzero⟩
      | stringDelay => exact h.stringDelay hstate none
      | _           => exact h
    · have herror : BadUsbAlike file (if flags.evtEnd then w.leave else w)
          (if flags.evtEnd then v.leave else v) := by
        split
        · exact h.leave
        · exact h
      cases state with
      | notConnected => exact h.notConnected flags
      | idle         => exact h.idle flags
      | willRun      => exact h.willRun flags e.extra
      | running      => exact h.running hstate (some flags) nofun
      | waitForBtn   => exact h.waitForBtn flags
      | paused       => exact h.paused hstate flags
      | stringDelay  => exact h.stringDelay hstate (some flags)
      | scriptError  => exact herror
      | fileError    => exact herror
      | _            => exact h

/-- Workers that are alike show the same in a pass. -/
theorem BadUsbAlike.step (h : BadUsbAlike file w v) (e : BadUsbEvents)
    (hown : BadUsbTextOwn file keys w e) :
    ((badUsbWorker file keys).step w e).1 = ((badUsbWorker file keys).step v e).1 ∧
      BadUsbAlike file ((badUsbWorker file keys).step w e).2
        ((badUsbWorker file keys).step v e).2 := by
  have hpass := h.drain.pass e fun hexecutes => (hown hexecutes).textLine
  have hwait : w.wait = v.wait := by
    have hdelayCur : w.delayCur = v.delayCur := by
      rw [BadUsbWorker.delayCur, BadUsbWorker.delayCur, h.delayVal]
    have hstringDelay : w.stringDelay = v.stringDelay := by
      rw [BadUsbWorker.stringDelay, BadUsbWorker.stringDelay, h.script.cmd]
      rfl
    rw [BadUsbWorker.wait, BadUsbWorker.wait, h.workerState, hdelayCur, hstringDelay]
  have hsent := congrArg DuckyState.sent hpass.script.cmd
  refine ⟨?_, hpass⟩
  simp only [badUsbWorker, hwait, hpass.state, hpass.script.lineCur, BadUsbOutput.mk.injEq,
    true_and, and_true]
  exact hsent.symm

end Workers

/-! ### Runs after other runs -/

/-- The script starts in this pass, in a worker that is idle or on a connection. -/
def BadUsbStarts (w : BadUsbWorker) (e : BadUsbEvents) : Prop :=
  ∃ flags ∈ e.flags, flags.evtEnd = false ∧
    (w.workerState = some .idle ∧ flags.startStop = true ∨
      w.workerState = some .willRun ∧ flags.connect = true ∧ e.extra.isNone)

instance (w : BadUsbWorker) (e : BadUsbEvents) : Decidable (BadUsbStarts w e) :=
  inferInstanceAs (Decidable (∃ flags ∈ e.flags, _))

/-- The number of keys that are held after the start. Only an idle worker resets it. -/
def BadUsbWorker.heldAtStart (w : BadUsbWorker) : BitVec 8 :=
  if w.workerState = some .idle then 0 else w.script.cmd.keyHoldNb

/-- What two workers have left of earlier runs makes no difference to a new one: as many keys are
held, and the line that was read last is the same, or the script does not repeat it. -/
def BadUsbLeftSame (file : List UInt8) (w v : BadUsbWorker) : Prop :=
  w.heldAtStart = v.heldAtStart ∧ (w.script.line = v.script.line ∨ DuckyFirstFine file)

instance (file : List UInt8) (w v : BadUsbWorker) : Decidable (BadUsbLeftSame file w v) :=
  inferInstanceAs (Decidable (_ ∧ (_ ∨ _)))

section Reruns

variable {file : List UInt8} {keys : DuckyKeys} {w v : BadUsbWorker}

lemma BadUsbStarts.step {e : BadUsbEvents} (h : BadUsbStarts w e) :
    ((badUsbWorker file keys).step w e).2 =
      { w with
        delayVal := 0
        script := duckyScriptStartConnected
          { w.script with cmd := { w.script.cmd with keyHoldNb := w.heldAtStart, sent := [] } }
        workerState := some .running
        state := .running } := by
  obtain ⟨flags, hflags, hend, ⟨hidle, hstart⟩ | ⟨hwill, hconnect, hextra⟩⟩ := h
  · have hpass : badUsbPass file keys w.drain e = badUsbIdle w.drain flags := by
      simp only [badUsbPass, BadUsbWorker.drain, hidle, Option.mem_def.mp hflags]
    refine hpass.trans ?_
    rw [badUsbIdle, hend, hstart, BadUsbWorker.heldAtStart, if_pos hidle]
    rfl
  · have hpass : badUsbPass file keys w.drain e = badUsbWillRun w.drain flags none := by
      simp only [badUsbPass, BadUsbWorker.drain, hwill, Option.mem_def.mp hflags,
        Option.isNone_iff_eq_none.mp hextra]
    have hnotIdle : ¬ w.workerState = some .idle := by
      rw [hwill]
      decide
    refine hpass.trans ?_
    rw [badUsbWillRun, hend, hconnect, BadUsbWorker.heldAtStart, if_neg hnotIdle]
    rfl

lemma BadUsbLeftSame.alike {e e' : BadUsbEvents} (h : BadUsbLeftSame file w v)
    (hw : BadUsbStarts w e) (hv : BadUsbStarts v e') :
    BadUsbAlike file ((badUsbWorker file keys).step w e).2
      ((badUsbWorker file keys).step v e').2 := by
  rw [hw.step, hv.step]
  exact .plain rfl rfl rfl (duckyScriptStartConnected_alike h.2 h.1 rfl) nofun nofun

/-- A new run shows the same whatever has been run before, when what is left makes no difference and
no text is printed but those of the lines. -/
theorem badUsbWorker_rerun {c₁ c₂ : Bool} {before₁ before₂ later : List BadUsbEvents}
    {e₁ e₂ : BadUsbEvents}
    (hstart₁ : BadUsbStarts ((badUsbWorker file keys).final (badUsbInit (some file) c₁) before₁) e₁)
    (hstart₂ : BadUsbStarts ((badUsbWorker file keys).final (badUsbInit (some file) c₂) before₂) e₂)
    (hleft : BadUsbLeftSame file
      ((badUsbWorker file keys).final (badUsbInit (some file) c₁) before₁)
      ((badUsbWorker file keys).final (badUsbInit (some file) c₂) before₂))
    (hown : (badUsbWorker file keys).Along (BadUsbTextOwn file keys)
      ((badUsbWorker file keys).final (badUsbInit (some file) c₁) (before₁ ++ [e₁])) later) :
    (badUsbWorker file keys).outputs
        ((badUsbWorker file keys).final (badUsbInit (some file) c₁) (before₁ ++ [e₁])) later =
      (badUsbWorker file keys).outputs
        ((badUsbWorker file keys).final (badUsbInit (some file) c₂) (before₂ ++ [e₂])) later := by
  rw [Mealy.final_append] at hown
  rw [Mealy.final_append, Mealy.final_append]
  exact (hown.simulation (R := BadUsbAlike file) (fun _ _ e halike => halike.step e)
    (hleft.alike hstart₁ hstart₂)).1

end Reruns

/-- The button that starts and stops a script. -/
def startStopEvent : BadUsbEvents where
  flags := some { startStop := true }

/-- Nothing happens until the time is up. -/
def noEvent : BadUsbEvents where
  flags := none

def remScript : List UInt8 := ascii "REM\n".toList

/-- A new run of a script after a complete one. -/
theorem badUsbWorker_rerun_rem :
    (badUsbWorker remScript noKeys).outputs
        ((badUsbWorker remScript noKeys).final (badUsbInit (some remScript) true)
          ([] ++ [startStopEvent])) [noEvent, noEvent] =
      (badUsbWorker remScript noKeys).outputs
        ((badUsbWorker remScript noKeys).final (badUsbInit (some remScript) true)
          ([startStopEvent, noEvent, noEvent] ++ [startStopEvent])) [noEvent, noEvent] :=
  badUsbWorker_rerun (by decide +kernel) (by decide +kernel) (by decide +kernel) (by decide +kernel)

/-- A script whose first line repeats the line before it. -/
def repeatFirstScript : List UInt8 := ascii "REPEAT 1\nREM\n".toList

/-- A new run repeats what is left of the line that an earlier run has read last. -/
theorem repeatFirstScript_not_rerun :
    ∃ before, before = [startStopEvent, noEvent, noEvent, noEvent, noEvent] ∧
      BadUsbStarts (badUsbInit (some repeatFirstScript) true) startStopEvent ∧
      BadUsbStarts ((badUsbWorker repeatFirstScript noKeys).final
        (badUsbInit (some repeatFirstScript) true) before) startStopEvent ∧
      (badUsbWorker repeatFirstScript noKeys).outputs
          ((badUsbWorker repeatFirstScript noKeys).final
            (badUsbInit (some repeatFirstScript) true) [startStopEvent]) [noEvent, noEvent] ≠
        (badUsbWorker repeatFirstScript noKeys).outputs
          ((badUsbWorker repeatFirstScript noKeys).final
            (badUsbInit (some repeatFirstScript) true) (before ++ [startStopEvent]))
          [noEvent, noEvent] :=
  ⟨_, rfl, by decide +kernel, by decide +kernel, by decide +kernel⟩

/-- A script that releases a key once too often. -/
def releaseScript : List UInt8 := ascii "HOLD A\nRELEASE A\nRELEASE A\n".toList

-- A run that is stopped with the key held leaves it counted for a run that starts on a connection.
example :
    let worker := badUsbWorker releaseScript { noKeys with keycodeByName := fun _ => 4 }
    let loaded := badUsbInit (some releaseScript) true
    worker.outputs (worker.final loaded [startStopEvent]) [noEvent, noEvent, noEvent] ≠
      worker.outputs
        (worker.final loaded [startStopEvent, noEvent, startStopEvent,
          { flags := some { disconnect := true } }, startStopEvent,
          { flags := some { connect := true } }])
        [noEvent, noEvent, noEvent] := by
  decide +kernel

end FlipperZero
