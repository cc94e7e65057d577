import FlipperZero.BadUsb.ScriptLines

/-!
# Counting the lines of a BadUSB script

`ducky_script_preload` counts the lines of a script when it is loaded. A run without a `REPEAT` then
hands just these lines to `ducky_parse_line`, unless it breaks off: in an `ALTCHAR` that does not
come to its end, or at a line whose delay makes the call return the code of another state.
-/

namespace FlipperZero

open Foundation

/-! ### Preload -/

/-- The counters of `ducky_script_preload`, with the first line. -/
structure DuckyPreload where
  lineNb : Nat
  lineLen : Nat
  line : List UInt8

/-- What `ducky_script_preload` does with a character. -/
def duckyPreloadChar (p : DuckyPreload) (chr : UInt8) : DuckyPreload :=
  if chr = 10 ∧ 0 < p.lineLen then { p with lineNb := p.lineNb + 1, lineLen := 0 }
  else
    { p with
      line := if p.lineNb = 0 then p.line ++ [chr] else p.line
      lineLen := p.lineLen + 1 }

/-- One round of its loop, from a position in the file. -/
def duckyPreloadRound (file : List UInt8) (s : Nat × DuckyPreload) :
    Round (Nat × DuckyPreload) DuckyPreload :=
  let bytes := (file.drop s.1).take fileBufferLen
  let pos := s.1 + bytes.length
  let p := bytes.foldl duckyPreloadChar s.2
  if file.length ≤ pos ∧ 0 < p.lineLen then .leave { p with lineNb := p.lineNb + 1 }
  else if bytes ≠ [] then .again (pos, p) else .leave p

/-- `ducky_script_preload`, from the count of lines so far: the count of lines, and the text for
`ducky_set_usb_id` when the first line is an `ID`. -/
def duckyScriptPreload (file : List UInt8) (lineNb : Nat) : Option (Nat × Option (List UInt8)) :=
  (loop (duckyPreloadRound file) (file.length + 1) (0, { lineNb, lineLen := 0, line := [] })).map
    fun p =>
      (p.lineNb,
        if (ascii "ID".toList).isPrefixOf p.line then some (p.line.drop 3) else none)

section Preload

variable {file bytes : List UInt8}

/-- The lines that the counters stand for when the text ends. -/
def DuckyPreload.total (p : DuckyPreload) : Nat := p.lineNb + if 0 < p.lineLen then 1 else 0

lemma total_foldl_duckyPreloadChar (p : DuckyPreload) (line : List UInt8)
    (hlen : line.length = p.lineLen) :
    (bytes.foldl duckyPreloadChar p).total =
      p.lineNb + (duckyLines (bytes ++ [10]) line).length := by
  induction bytes generalizing p line with
  | nil =>
    rw [List.nil_append, duckyLines, List.foldl_nil, DuckyPreload.total, ← hlen]
    cases line with
    | nil => rfl
    | cons chr line => simp [duckyLines]
  | cons chr bytes ih =>
    rw [List.foldl_cons, List.cons_append, duckyLines, duckyPreloadChar]
    by_cases hends : chr = 10 ∧ line ≠ []
    · have hpos : chr = 10 ∧ 0 < p.lineLen := ⟨hends.1, hlen ▸ List.length_pos_of_ne_nil hends.2⟩
      rw [if_pos hends, if_pos hpos, ih _ [] rfl, List.length_cons,
        Nat.add_assoc, Nat.add_comm 1]
    · have hzero : ¬ (chr = 10 ∧ 0 < p.lineLen) := by
        rintro ⟨rfl, hpos⟩
        exact hends ⟨rfl, List.length_pos_iff.mp (hlen ▸ hpos)⟩
      rw [if_neg hends, if_neg hzero]
      exact ih _ _ (by simp [hlen])

/-- Between two rounds of the loop the counters are those of what has been read. -/
def DuckyPreloaded (file : List UInt8) (start : DuckyPreload) (s : Nat × DuckyPreload) : Prop :=
  s.1 ≤ file.length ∧ s.2 = (file.take s.1).foldl duckyPreloadChar start

lemma duckyPreloadRound_meets (start : DuckyPreload) {s : Nat × DuckyPreload}
    (hs : DuckyPreloaded file start s) :
    (duckyPreloadRound file s).Meets (DuckyPreloaded file start) (fun s => file.length - s.1)
      (fun p => p.lineNb = (file.foldl duckyPreloadChar start).total) (file.length - s.1) := by
  obtain ⟨pos, p⟩ := s
  obtain ⟨hle, hp⟩ := hs
  dsimp only at hle hp
  have hlength : ((file.drop pos).take fileBufferLen).length =
      min fileBufferLen (file.length - pos) := by
    rw [List.length_take, List.length_drop]
  have hfold : ((file.drop pos).take fileBufferLen).foldl duckyPreloadChar
      ((file.take pos).foldl duckyPreloadChar start) =
        (file.take (pos + ((file.drop pos).take fileBufferLen).length)).foldl duckyPreloadChar
          start := by
    rw [List.take_add, List.foldl_append,
      ← List.prefix_iff_eq_take.mp (List.take_prefix fileBufferLen (file.drop pos))]
  simp only [duckyPreloadRound]
  rw [hp, hfold]
  generalize (file.drop pos).take fileBufferLen = bytes at hlength ⊢
  split
  · rename_i hend
    rw [List.take_of_length_le hend.1] at hend ⊢
    simp [Round.Meets, DuckyPreload.total, hend.2]
  · rename_i hmore
    split
    · rename_i hbytes
      have := List.length_pos_of_ne_nil hbytes
      refine ⟨⟨?_, rfl⟩, ?_⟩ <;> simp only <;> omega
    · rename_i hbytes
      obtain rfl := not_not.mp hbytes
      have hend : file.length ≤ pos := by
        rw [List.length_nil, fileBufferLen] at hlength
        omega
      rw [List.length_nil, Nat.add_zero, List.take_of_length_le hend] at hmore ⊢
      have hzero : ¬ 0 < ((file.foldl duckyPreloadChar start).lineLen) := fun hpos =>
        hmore ⟨hend, hpos⟩
      rw [Round.Meets, DuckyPreload.total, if_neg hzero]
      rfl

/-- Preloading counts the lines, wherever the reads end. -/
theorem duckyScriptPreload_lineNb (file : List UInt8) (lineNb : Nat) :
    ∃ id, duckyScriptPreload file lineNb =
      some (lineNb + (duckyLines (file ++ [10]) []).length, id) := by
  let start : DuckyPreload := { lineNb, lineLen := 0, line := [] }
  obtain ⟨p, hloop, hp⟩ := loop_total (n := file.length + 1) (s := (0, start))
    (fun _ => duckyPreloadRound_meets start) ⟨Nat.zero_le _, rfl⟩
    (Nat.lt_succ_of_le (Nat.sub_le _ _))
  rw [total_foldl_duckyPreloadChar start [] rfl] at hp
  rw [duckyScriptPreload, hloop]
  exact ⟨_, congrArg some (congrArg (·, _) hp)⟩

end Preload

/-! ### The lines of a file -/

def duckyFileLines (file : List UInt8) : List (List UInt8) :=
  ((file.splitOn 10).map furiStringTrim).filter (· ≠ [])

lemma furiStringTrim_lineEnd (line : List UInt8) :
    furiStringTrim (10 :: line) = furiStringTrim line := by
  rw [furiStringTrim, List.dropWhile_cons_of_pos (by decide), furiStringTrim]

lemma duckyLines_trim (bytes line : List UInt8) :
    ((duckyLines (bytes ++ [10]) line).map furiStringTrim).filter (· ≠ []) =
      (((bytes.splitOn 10).modifyHead (line ++ ·)).map furiStringTrim).filter (· ≠ []) := by
  induction bytes generalizing line with
  | nil =>
    cases line with
    | nil            => rfl
    | cons chr line => simp [duckyLines]
  | cons chr bytes ih =>
    rw [List.cons_append, duckyLines, List.splitOn_cons_eq_if_modifyHead]
    by_cases hends : chr = 10
    · rw [if_pos (beq_iff_eq.mpr hends), List.modifyHead_cons, List.append_nil, List.map_cons,
        List.filter_cons]
      cases line with
      | nil            =>
        rw [if_neg (fun h => h.2 rfl), List.nil_append, ih, hends]
        cases hsplit : bytes.splitOn 10 with
        | nil           => rfl
        | cons seg segs =>
          rw [List.modifyHead_cons, List.map_cons, List.singleton_append, furiStringTrim_lineEnd]
          rfl
      | cons first line =>
        have hid : (bytes.splitOn 10).modifyHead ([] ++ ·) = bytes.splitOn 10 := by
          cases bytes.splitOn 10 <;> rfl
        rw [if_pos ⟨hends, List.cons_ne_nil _ _⟩, List.map_cons, List.filter_cons, ih, hid]
    · rw [if_neg (fun h => hends h.1), if_neg (by simpa using hends), ih,
        List.modifyHead_modifyHead]
      simp [Function.comp_def]

lemma duckyLines_fileLines (file : List UInt8) :
    ((duckyLines (file ++ [10]) []).map furiStringTrim).filter (· ≠ []) = duckyFileLines file := by
  have hid : (file.splitOn 10).modifyHead ([] ++ ·) = file.splitOn 10 := by
    cases file.splitOn 10 <;> rfl
  rw [duckyLines_trim, hid, duckyFileLines]

/-! ### Runs -/

/-- A run that nobody stops: the states in which the calls are made, and what the last one returns.
It is nothing when the last call does not come back. -/
inductive DuckyRun (file : List UInt8) (keys : DuckyKeys) :
    BadUsbScript → List BadUsbScript → Option (Int × BadUsbScript) → Prop
  | stops {s : BadUsbScript}
      (h : ∀ r ∈ duckyScriptExecuteNext file keys s,
        r.1 = scriptStateError ∨ r.1 = scriptStateEnd) :
      DuckyRun file keys s [s] (duckyScriptExecuteNext file keys s)
  | goes {s s' : BadUsbScript} {r : Int} {states : List BadUsbScript}
      {out : Option (Int × BadUsbScript)}
      (h : duckyScriptExecuteNext file keys s = some (r, s'))
      (hgoes : ¬ (r = scriptStateError ∨ r = scriptStateEnd))
      (hrun : DuckyRun file keys (duckyBeforeNext keys r s') states out) :
      DuckyRun file keys s (s :: states) out

/-- The lines that the calls of a run hand to `ducky_parse_line`. -/
def duckyHanded (file : List UInt8) (states : List BadUsbScript) : List (List UInt8) :=
  states.filterMap fun s => (duckyExecutes file s).map Prod.fst

def DuckyLineValid (file : List UInt8) (keys : DuckyKeys) (s : BadUsbScript) : Prop :=
  ∀ call ∈ duckyExecutes file s, ∀ r ∈ duckyParseLine keys call.1 s.cmd, ¬ duckyIsLineError r.1

instance (file : List UInt8) (keys : DuckyKeys) (s : BadUsbScript) :
    Decidable (DuckyLineValid file keys s) :=
  inferInstanceAs (Decidable (∀ call ∈ duckyExecutes file s, _))

/-- The run goes on behind the next line: the line comes to its end, and its delay together with the
default one is neither the code of an error nor, but for the last line, of the end of a script. -/
def DuckyLineGoes (file : List UInt8) (keys : DuckyKeys) (lineNb : Nat) (s : BadUsbScript) : Prop :=
  ∀ call ∈ duckyExecutes file s, ¬ DuckyAltcharEndless call.1 ∧
    ∀ r ∈ duckyParseLine keys call.1 s.cmd, 0 ≤ r.1 →
      (BitVec.ofInt 32 r.1 + r.2.defdelay).toInt ≠ scriptStateError ∧
        ((BitVec.ofInt 32 r.1 + r.2.defdelay).toInt = scriptStateEnd → s.lineCur + 1 = lineNb)

instance (file : List UInt8) (keys : DuckyKeys) (lineNb : Nat) (s : BadUsbScript) :
    Decidable (DuckyLineGoes file keys lineNb s) :=
  inferInstanceAs (Decidable (∀ call ∈ duckyExecutes file s, _))

section Runs

variable {file : List UInt8} {keys : DuckyKeys} {s : BadUsbScript} {line : List UInt8}
  {lines : List (List UInt8)}

/-- The lines that are left to a run in which no line is repeated. -/
structure DuckyReadsOn (file : List UInt8) (s : BadUsbScript) (lines : List (List UInt8)) :
    Prop where
  valid : s.reader.Valid file
  lines : duckyLines (s.reader.unread file) [] = lines
  repeatCnt : s.cmd.repeatCnt = 0

lemma DuckyReadsOn.start (file : List UInt8) (s : BadUsbScript) :
    DuckyReadsOn file (duckyScriptStart s) (duckyLines (file ++ [10]) []) where
  valid := nofun
  lines := rfl
  repeatCnt := rfl

variable (keys) in
lemma DuckyReadsOn.ends (h : DuckyReadsOn file s []) :
    duckyExecutes file s = none ∧
      ∃ s', duckyScriptExecuteNext file keys s = some (scriptStateEnd, s') ∧
        s'.lineCur = s.lineCur := by
  obtain ⟨⟨found, reader, line⟩, hread, -, hreads⟩ := duckyReadLine_reads h.valid
  cases hnext : duckyNextLine (s.reader.unread file) [] with
  | some next =>
    obtain ⟨next, rest⟩ := next
    exact absurd (h.lines.symm.trans (duckyLines_of_some hnext)) nofun
  | none      =>
    rw [hnext] at hreads
    obtain ⟨rfl, -, -⟩ := hreads
    rw [duckyExecutes, duckyScriptExecuteNext, if_neg (not_not.mpr h.repeatCnt),
      if_neg (not_not.mpr h.repeatCnt), hread]
    exact ⟨rfl, _, rfl, rfl⟩

variable (keys) in
lemma DuckyReadsOn.hands (h : DuckyReadsOn file s (line :: lines)) :
    duckyExecutes file s = some (furiStringTrim line, false) ∧
      ∃ reader, reader.Valid file ∧ duckyLines (reader.unread file) [] = lines ∧
        duckyScriptExecuteNext file keys s =
          (duckyParseLine keys (furiStringTrim line) s.cmd).map fun r =>
            (duckyCallResult r.2.defdelay r.1,
              { s with
                reader, line := furiStringTrim line, linePrev := s.line, lineCur := s.lineCur + 1
                cmd := r.2
                errorLine := if duckyIsLineError r.1 then s.lineCur + 1 else s.errorLine }) := by
  obtain ⟨⟨found, reader, text⟩, hread, hvalid, hreads⟩ := duckyReadLine_reads h.valid
  cases hnext : duckyNextLine (s.reader.unread file) [] with
  | none      => exact absurd ((duckyLines_of_none hnext).symm.trans h.lines) nofun
  | some next =>
    obtain ⟨next, rest⟩ := next
    rw [hnext] at hreads
    obtain ⟨rfl, htext, hrest⟩ := hreads
    dsimp only at htext hrest hvalid
    obtain ⟨rfl, rfl⟩ := List.cons.inj (h.lines.symm.trans (duckyLines_of_some hnext))
    rw [duckyExecutes, duckyScriptExecuteNext, if_neg (not_not.mpr h.repeatCnt),
      if_neg (not_not.mpr h.repeatCnt), hread, htext]
    refine ⟨rfl, reader, hvalid, by rw [hrest], ?_⟩
    dsimp only
    cases duckyParseLine keys (furiStringTrim line) s.cmd <;> rfl

lemma duckyCallResult_of_nonneg (defdelay : BitVec 32) {delayVal : Int} (h : 0 ≤ delayVal) :
    duckyCallResult defdelay delayVal = (BitVec.ofInt 32 delayVal + defdelay).toInt := by
  simp only [duckyCallResult, scriptStateNextLine, scriptStateStringStart, scriptStateWaitForBtn]
  grind

lemma duckyCallResult_stops {defdelay : BitVec 32} {delayVal : Int}
    (hvalid : ¬ duckyIsLineError delayVal)
    (h : duckyCallResult defdelay delayVal = scriptStateError ∨
      duckyCallResult defdelay delayVal = scriptStateEnd) :
    0 ≤ delayVal ∧
      duckyCallResult defdelay delayVal = (BitVec.ofInt 32 delayVal + defdelay).toInt := by
  simp only [duckyIsLineError, duckyCallResult, scriptStateError, scriptStateEnd,
    scriptStateNextLine, scriptStateStringStart, scriptStateWaitForBtn] at hvalid h ⊢
  grind

lemma DuckyReadsOn.exists_cons {r : Int} {s' : BadUsbScript} (h : DuckyReadsOn file s lines)
    (hnext : duckyScriptExecuteNext file keys s = some (r, s'))
    (hgoes : ¬ (r = scriptStateError ∨ r = scriptStateEnd)) :
    ∃ line rest, lines = line :: rest := by
  cases lines with
  | nil            =>
    obtain ⟨-, t, hend, -⟩ := h.ends keys
    cases Option.some.inj (hnext.symm.trans hend)
    exact absurd (.inr rfl) hgoes
  | cons line rest => exact ⟨line, rest, rfl⟩

lemma DuckyReadsOn.step {r : Int} {s' : BadUsbScript} (h : DuckyReadsOn file s (line :: lines))
    (hrepeat : duckyRepeatCount (furiStringTrim line) = none)
    (hnext : duckyScriptExecuteNext file keys s = some (r, s')) :
    DuckyReadsOn file (duckyBeforeNext keys r s') lines ∧
      (duckyBeforeNext keys r s').lineCur = s.lineCur + 1 := by
  obtain ⟨-, reader, hvalid, hlines, hcall⟩ := h.hands keys
  obtain ⟨⟨delayVal, cmd⟩, hparse, hout⟩ := Option.map_eq_some_iff.mp (hcall.symm.trans hnext)
  obtain ⟨rfl, rfl⟩ := Prod.mk.inj hout
  have hcnt := duckyParseLine_repeatCnt hparse h.repeatCnt
  rw [hrepeat] at hcnt
  unfold duckyBeforeNext
  split
  · exact ⟨⟨hvalid, hlines, (duckyStringChars_repeatCnt _).trans hcnt⟩, rfl⟩
  · exact ⟨⟨hvalid, hlines, hcnt⟩, rfl⟩

lemma DuckyRun.hands {states : List BadUsbScript} {out : Option (Int × BadUsbScript)} {lineNb : Nat}
    (hrun : DuckyRun file keys s states out) (h : DuckyReadsOn file s lines)
    (hrepeat : ∀ line ∈ lines, duckyRepeatCount (furiStringTrim line) = none)
    (hlineNb : s.lineCur + lines.length = lineNb)
    (hvalid : ∀ t ∈ states, DuckyLineValid file keys t)
    (hgoes : ∀ t ∈ states, DuckyLineGoes file keys lineNb t) :
    duckyHanded file states = lines.map furiStringTrim ∧
      ∃ t, out = some (scriptStateEnd, t) ∧ t.lineCur = lineNb := by
  induction hrun generalizing lines with
  | @stops s hstops =>
    cases lines with
    | nil             =>
      obtain ⟨hexecutes, t, hnext, hcur⟩ := h.ends keys
      rw [duckyHanded, List.filterMap_cons, hexecutes]
      exact ⟨rfl, t, hnext, hcur.trans hlineNb⟩
    | cons line lines =>
      obtain ⟨hexecutes, reader, -, -, hnext⟩ := h.hands keys
      obtain ⟨hends, hdelay⟩ := hgoes s List.mem_cons_self _ hexecutes
      obtain ⟨⟨delayVal, cmd⟩, hparse⟩ :=
        Option.isSome_iff_exists.mp (duckyParseLine_total keys s.cmd hends)
      rw [hparse] at hnext
      obtain ⟨hpos, hsum⟩ := duckyCallResult_stops
        (hvalid s List.mem_cons_self _ hexecutes _ hparse) (hstops _ hnext)
      obtain ⟨herror, hlast⟩ := hdelay _ hparse hpos
      have hend : duckyCallResult cmd.defdelay delayVal = scriptStateEnd :=
        (hstops _ hnext).resolve_left fun hcode => herror (hsum.symm.trans hcode)
      have hone := hlast (hsum.symm.trans hend)
      obtain rfl : lines = [] := by
        rw [← hlineNb, List.length_cons] at hone
        exact List.length_eq_zero_iff.mp (by omega)
      rw [duckyHanded, List.filterMap_cons, hexecutes]
      refine ⟨rfl, _, hnext.trans (congrArg some (Prod.ext hend rfl)), hone⟩
  | @goes s s' r states out hnext hstep hrun ih =>
    obtain ⟨line, lines, rfl⟩ := h.exists_cons hnext hstep
    obtain ⟨hafter, hcur⟩ := h.step (hrepeat line List.mem_cons_self) hnext
    obtain ⟨hhanded, hout⟩ := ih hafter
      (fun line hline => hrepeat line (List.mem_cons_of_mem _ hline))
      (by rw [hcur, ← hlineNb, List.length_cons]; omega)
      (fun t ht => hvalid t (List.mem_cons_of_mem _ ht))
      (fun t ht => hgoes t (List.mem_cons_of_mem _ ht))
    rw [duckyHanded, List.filterMap_cons, (h.hands keys).1]
    exact ⟨congrArg (furiStringTrim line :: ·) hhanded, hout⟩

lemma duckyLineGoes_of_parse {lineNb : Nat} {delayVal : Int} {cmd : DuckyState}
    (hexecutes : duckyExecutes file s = some (line, false))
    (hparse : duckyParseLine keys line s.cmd = some (delayVal, cmd))
    (herror : duckyCallResult cmd.defdelay delayVal ≠ scriptStateError)
    (hend : duckyCallResult cmd.defdelay delayVal = scriptStateEnd → s.lineCur + 1 = lineNb) :
    DuckyLineGoes file keys lineNb s := by
  intro call hcall
  cases Option.some.inj (hexecutes.symm.trans hcall)
  refine ⟨fun hendless => ?_, fun r hr hpos => ?_⟩
  · exact absurd (hparse.symm.trans (duckyParseLine_endless keys s.cmd hendless)) nofun
  · cases Option.some.inj (hparse.symm.trans hr)
    rw [← duckyCallResult_of_nonneg cmd.defdelay hpos]
    exact ⟨herror, hend⟩

lemma DuckyRun.goes_of_end {states : List BadUsbScript} {out : Option (Int × BadUsbScript)}
    {lineNb : Nat} {t : BadUsbScript} (hrun : DuckyRun file keys s states out)
    (h : DuckyReadsOn file s lines)
    (hrepeat : ∀ line ∈ lines, duckyRepeatCount (furiStringTrim line) = none)
    (hlineNb : s.lineCur + lines.length = lineNb) (hout : out = some (scriptStateEnd, t))
    (hcur : t.lineCur = lineNb) :
    ∀ t ∈ states, DuckyLineGoes file keys lineNb t := by
  induction hrun generalizing lines with
  | @stops s hstops =>
    rw [List.forall_mem_singleton]
    cases lines with
    | nil             =>
      intro call hcall
      exact absurd (hcall.symm.trans (h.ends keys).1) nofun
    | cons line lines =>
      obtain ⟨hexecutes, reader, -, -, hnext⟩ := h.hands keys
      obtain ⟨⟨delayVal, cmd⟩, hparse, hcall⟩ :=
        Option.map_eq_some_iff.mp (hnext.symm.trans hout)
      obtain ⟨hend, rfl⟩ := Prod.mk.inj hcall
      dsimp only at hend
      refine duckyLineGoes_of_parse hexecutes hparse ?_ fun _ => hcur
      rw [hend]
      decide
  | @goes s s' r states out hnext hstep hrun ih =>
    obtain ⟨line, lines, rfl⟩ := h.exists_cons hnext hstep
    obtain ⟨hafter, hcur'⟩ := h.step (hrepeat line List.mem_cons_self) hnext
    obtain ⟨hexecutes, reader, -, -, hcall⟩ := h.hands keys
    obtain ⟨⟨delayVal, cmd⟩, hparse, hr⟩ := Option.map_eq_some_iff.mp (hcall.symm.trans hnext)
    obtain ⟨rfl, -⟩ := Prod.mk.inj hr
    refine List.forall_mem_cons.mpr ⟨duckyLineGoes_of_parse hexecutes hparse
      (fun herror => hstep (.inl herror)) (fun hend => absurd (.inr hend) hstep), ?_⟩
    exact ih hafter (fun line hline => hrepeat line (List.mem_cons_of_mem _ hline))
      (by rw [hcur', ← hlineNb, List.length_cons]; omega) hout

lemma DuckyReadsOn.run (h : DuckyReadsOn file s lines)
    (hrepeat : ∀ line ∈ lines, duckyRepeatCount (furiStringTrim line) = none) :
    ∃ states out, DuckyRun file keys s states out := by
  induction lines generalizing s with
  | nil =>
    obtain ⟨-, t, hend, -⟩ := h.ends keys
    exact ⟨_, _, .stops fun r hr => .inr (by rw [hend] at hr; cases hr; rfl)⟩
  | cons line lines ih =>
    by_cases hstops : ∀ r ∈ duckyScriptExecuteNext file keys s,
        r.1 = scriptStateError ∨ r.1 = scriptStateEnd
    · exact ⟨_, _, .stops hstops⟩
    · push Not at hstops
      obtain ⟨⟨r, s'⟩, hnext, hgoes⟩ := hstops
      have hgoes' : ¬ (r = scriptStateError ∨ r = scriptStateEnd) := not_or.mpr hgoes
      obtain ⟨hafter, -⟩ := h.step (hrepeat line List.mem_cons_self) hnext
      obtain ⟨states, out, hrun⟩ :=
        ih hafter fun line hline => hrepeat line (List.mem_cons_of_mem _ hline)
      exact ⟨_, _, .goes hnext hgoes' hrun⟩

end Runs

section Scripts

variable {file : List UInt8} {keys : DuckyKeys} {s : BadUsbScript}

lemma duckyRepeatCount_of_fileLines
    (h : ∀ line ∈ duckyFileLines file, duckyWord line ≠ ascii "REPEAT".toList) :
    ∀ line ∈ duckyLines (file ++ [10]) [], duckyRepeatCount (furiStringTrim line) = none := by
  intro line hline
  by_cases hblank : furiStringTrim line = []
  · rw [hblank]
    decide
  · refine if_neg (h _ ?_)
    rw [← duckyLines_fileLines, List.mem_filter]
    exact ⟨List.mem_map_of_mem hline, decide_eq_true hblank⟩

/-- A script without a `REPEAT` has a run. -/
theorem duckyRun_exists (keys : DuckyKeys) (s : BadUsbScript)
    (hrepeat : ∀ line ∈ duckyFileLines file, duckyWord line ≠ ascii "REPEAT".toList) :
    ∃ states out, DuckyRun file keys (duckyScriptStart s) states out :=
  (DuckyReadsOn.start file s).run (duckyRepeatCount_of_fileLines hrepeat)

/-- A script of two lines, of which the first one crosses two reads of 16 bytes and the second one
another. -/
def longScript : List UInt8 := ascii "REM a remark of more than two reads\nREM and one of one\n".toList

lemma longScript_first :
    (duckyScriptExecuteNext longScript noKeys (duckyScriptStart idleScript)).isSome := by
  decide +kernel

/-- What its first call returns, and the state of its second call. -/
def longScriptFirst : Int × BadUsbScript :=
  (duckyScriptExecuteNext longScript noKeys (duckyScriptStart idleScript)).get longScript_first
def longScriptBetween : BadUsbScript :=
  duckyBeforeNext noKeys longScriptFirst.1 longScriptFirst.2

lemma longScript_second :
    (duckyScriptExecuteNext longScript noKeys longScriptBetween).isSome := by
  decide +kernel

/-- What its second call returns. -/
def longScriptSecond : Int × BadUsbScript :=
  (duckyScriptExecuteNext longScript noKeys longScriptBetween).get longScript_second

/-- The states of the three calls. -/
def longScriptStates : List BadUsbScript :=
  [duckyScriptStart idleScript, longScriptBetween,
    duckyBeforeNext noKeys longScriptSecond.1 longScriptSecond.2]

/-- A default delay that makes its line return the code of the end. -/
def endingScript : List UInt8 := ascii "DEFAULT_DELAY 4294967294\nREM\n".toList

end Scripts

end FlipperZero
