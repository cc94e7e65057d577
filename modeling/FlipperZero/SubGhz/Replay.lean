import FlipperZero.SubGhz.RawLines

/-!
# Replaying a recording

The worker finds the lines of numbers behind the header, reads each as the numbers that were
recorded, and never sends more than the buffer holds. So whatever the order of its steps and those
of the transmitter, the transmitter gets the samples in order and then a reset. All of it needs the
seeks of the readers, which reach up to 2 GiB.
-/

namespace FlipperZero

open Foundation FlipperFormatStream KeysDict

/-! ### The worker and the transmitter -/

namespace SubGhzFileEncoderWorker

variable {target : List LevelDuration} {block : List Int32} {blocks : List (List Int32)}
  {w w' : SubGhzFileEncoderWorker}

/-- The worker has these lines ahead, and what has been got, waits in the buffer, is about to be
sent and stands in the lines makes up the target, with a reset. -/
structure Replaying (target : List LevelDuration) (blocks : List (List Int32))
    (w : SubGhzFileEncoderWorker) : Prop where
  order : w.received ++ (w.stream ++ w.sends).map levelDuration ++
    (if w.reading = true then blocks.flatten.map (fun n => levelDuration n.toInt) ++ [.reset]
      else []) = target
  ahead : w.reading = true → Ahead w.flipperFormat (blocks.map fun block => (rawLine block).bytes)
  block : ∀ block ∈ blocks, (block ≠ [] ∧ block.length ≤ 512) ∧ Sendable block
  room : w.stream.length + w.sends.length ≤ 2048

def stepsLeft (blocks : List (List Int32)) (w : SubGhzFileEncoderWorker) : Nat :=
  w.stream.length + 2 * w.sends.length +
    if w.reading = true then 2 * blocks.flatten.length + blocks.length + 3 else 0

lemma Replaying.send (h : Replaying target blocks w) {duration : Int} {sends : List Int}
    (hsends : w.sends = duration :: sends) :
    ∃ w', w.workerStep = some w' ∧ Replaying target blocks w' ∧
      stepsLeft blocks w' < stepsLeft blocks w := by
  obtain ⟨horder, hahead, hblock, hroom⟩ := h
  rw [hsends] at horder hroom
  rw [List.length_cons] at hroom
  have hfits : w.stream.length < 2048 := by omega
  rw [workerStep, hsends]
  refine ⟨_, rfl, ⟨?_, hahead, hblock, ?_⟩, ?_⟩
  · rw [← horder]
    simp [hfits]
  · simp only [if_pos hfits, List.length_append, List.length_singleton]
    omega
  · simp only [stepsLeft, if_pos hfits, hsends, List.length_append, List.length_cons,
      List.length_nil]
    omega

lemma Replaying.endOfFile {f : File} (h : Replaying target [] w) (hreading : w.reading = true)
    (hsends : w.sends = []) (hroom : 512 ≤ 2048 - w.stream.length) :
    Replaying target [] { w with flipperFormat := f }.endOfFile ∧
      stepsLeft [] { w with flipperFormat := f }.endOfFile < stepsLeft [] w := by
  refine ⟨⟨?_, nofun, fun block hblock => absurd hblock List.not_mem_nil, ?_⟩, ?_⟩
  · rw [← h.order, hreading, hsends]
    simp [SubGhzFileEncoderWorker.endOfFile, levelDuration]
  · simp only [SubGhzFileEncoderWorker.endOfFile, List.length_singleton]
    omega
  · simp [SubGhzFileEncoderWorker.endOfFile, stepsLeft, hreading, hsends]

lemma Replaying.readLine (h : Replaying target (block :: blocks) w) (hreading : w.reading = true)
    (hsends : w.sends = []) (hroom : 512 ≤ 2048 - w.stream.length) :
    Replaying target blocks w.readRound ∧
      stepsLeft blocks w.readRound < stepsLeft (block :: blocks) w := by
  obtain ⟨horder, hahead, hblock, -⟩ := h
  obtain ⟨⟨hne, hlen⟩, hsendable⟩ := hblock block List.mem_cons_self
  obtain ⟨hread, hnext⟩ := (hahead hreading).readLine_cons
  have hparse := subghzDataParse_rawLine hne hsendable
  have hline : lineText (rawLine block).bytes ≠ [] := by
    rw [lineText_rawLine, rawLine_bytes]
    exact List.cons_ne_nil _ _
  have hround : w.readRound = { w with
      flipperFormat := w.flipperFormat.seek
        (w.flipperFormat.pos + (rawLine block).bytes.length)
      sends := block.map Int32.toInt } := by
    rw [readRound, hread]
    simp only [if_neg hline, hparse]
  rw [hround]
  refine ⟨⟨?_, fun _ => hnext, fun b hb => hblock b (List.mem_cons_of_mem block hb), ?_⟩, ?_⟩
  · rw [← horder, hreading, hsends]
    simp
  · simp only [List.length_map]
    omega
  · simp only [stepsLeft, hreading, hsends, List.length_map, List.flatten_cons, List.length_append,
      List.length_cons, List.length_nil, if_true]
    omega

lemma Replaying.step (h : Replaying target blocks w) {event : SubGhzReplayEvent}
    (hstep : subghzReplay.step w event = some w') :
    ∃ blocks', Replaying target blocks' w' ∧ stepsLeft blocks' w' < stepsLeft blocks w := by
  cases event with
  | worker =>
    change w.workerStep = some w' at hstep
    cases hsends : w.sends with
    | cons duration sends =>
      obtain ⟨w₁, hstep₁, hw₁⟩ := h.send hsends
      obtain rfl := Option.some.inj (hstep₁.symm.trans hstep)
      exact ⟨blocks, hw₁⟩
    | nil =>
      rw [workerStep, hsends] at hstep
      simp only at hstep
      split_ifs at hstep with hread
      obtain rfl := Option.some.inj hstep
      cases blocks with
      | nil =>
        obtain ⟨hline, -⟩ := (h.ahead hread.1).readLine_nil
        refine ⟨[], ?_⟩
        rw [readRound, hline]
        exact h.endOfFile hread.1 hsends hread.2
      | cons block blocks => exact ⟨blocks, h.readLine hread.1 hsends hread.2⟩
  | transmitter =>
    change w.transmitterStep = some w' at hstep
    rw [transmitterStep] at hstep
    split at hstep
    · cases hstep
    · rename_i duration stream hstream
      obtain rfl := Option.some.inj hstep
      obtain ⟨horder, hahead, hblock, hroom⟩ := h
      rw [hstream] at horder hroom
      refine ⟨blocks, ⟨?_, hahead, hblock, ?_⟩, ?_⟩
      · rw [← horder]
        simp
      · rw [List.length_cons] at hroom
        simp only
        omega
      · simp only [stepsLeft, hstream, List.length_cons]
        omega

lemma Replaying.run (h : Replaying target blocks w) {events : List SubGhzReplayEvent}
    (hrun : subghzReplay.replay (fun _ _ => True) w events = some w') :
    ∃ blocks', Replaying target blocks' w' ∧
      stepsLeft blocks' w' + events.length ≤ stepsLeft blocks w := by
  induction events generalizing w blocks with
  | nil =>
    obtain rfl : w = w' := Option.some.inj hrun
    exact ⟨blocks, h, Nat.le_refl _⟩
  | cons event events ih =>
    rw [System.replay, if_pos trivial] at hrun
    obtain ⟨w₁, hstep, hrest⟩ := Option.bind_eq_some_iff.mp hrun
    obtain ⟨blocks₁, h₁, hless⟩ := h.step hstep
    obtain ⟨blocks', h', hleft⟩ := ih h₁ hrest
    refine ⟨blocks', h', ?_⟩
    rw [List.length_cons]
    omega

lemma Replaying.prefix (h : Replaying target blocks w) : w.received <+: target := by
  rw [← h.order, List.append_assoc]
  exact List.prefix_append _ _

lemma Replaying.stuck (h : Replaying target blocks w)
    (hstuck : ∀ event, subghzReplay.step w event = none) : w.received = target := by
  have hworker : w.workerStep = none := hstuck .worker
  have htransmitter : w.transmitterStep = none := hstuck .transmitter
  have hstream : w.stream = [] := by
    rw [transmitterStep] at htransmitter
    split at htransmitter
    · assumption
    · cases htransmitter
  rw [workerStep] at hworker
  split at hworker
  · cases hworker
  · rename_i hsends
    split_ifs at hworker with hread
    have hreading : ¬w.reading = true := fun hreading => hread ⟨hreading, by rw [hstream]; decide⟩
    rw [← h.order, hstream, hsends, if_neg hreading]
    simp

/-! ### The start of the lines -/

lemma header_split (preset : SubGhzRadioPreset) :
    ∃ before, subghzProtocolRawHeader preset =
        before ++ [⟨subghzProtocolKey, .str (ascii ['R', 'A', 'W'])⟩] ∧
      ∀ data ∈ before, ValidKey data.key ∧ data.value.OneLine ∧ data.key ≠ subghzProtocolKey := by
  have hname : OneLine (subghzBlockGenericGetPresetName preset.name) := by
    rw [subghzBlockGenericGetPresetName]
    split_ifs <;> decide
  have hkey {key : List UInt8} (hvalid : ValidKey key ∧ key ≠ subghzProtocolKey)
      {value : FlipperStreamValue} (hvalue : value.OneLine) :
      ValidKey key ∧ value.OneLine ∧ key ≠ subghzProtocolKey := ⟨hvalid.1, hvalue, hvalid.2⟩
  have htext (text : List Char) (h : OneLine (ascii text)) :
      FlipperStreamValue.OneLine (.str (ascii text)) := h
  refine ⟨_, rfl, fun data hdata => ?_⟩
  simp only [List.mem_append, List.mem_cons, List.not_mem_nil, or_false] at hdata
  rcases hdata with (rfl | rfl | rfl | rfl) | hdata
  · exact hkey (by decide) (htext _ (by decide))
  · exact hkey (by dsimp only; decide) trivial
  · exact hkey (by dsimp only; decide) trivial
  · exact hkey (by dsimp only; decide) hname
  · split_ifs at hdata
    · simp only [List.mem_cons, List.not_mem_nil, or_false] at hdata
      rcases hdata with rfl | rfl
      · exact hkey (by decide) (htext _ (by decide))
      · exact hkey (by dsimp only; decide) trivial
    · exact absurd hdata List.not_mem_nil

lemma length_le_textOf (lines : List Line) : lines.length ≤ (textOf lines).length := by
  induction lines with
  | nil => exact Nat.le_refl 0
  | cons l lines ih =>
    have hpos : 0 < l.bytes.length := by
      cases l with
      | entry key value => simp [Line.bytes]
      | comment text => simp [Line.bytes]
    rw [textOf_cons, List.length_append, List.length_cons]
    omega

lemma entryLine_valid {data : FlipperStreamWriteData} (hkey : ValidKey data.key)
    (hvalue : data.value.OneLine) : (entryLine data).Valid :=
  ⟨hkey, oneLine_valueWrites hvalue.printed⟩

lemma validKey_rawData : ValidKey (ascii ['R', 'A', 'W', '_', 'D', 'a', 't', 'a']) := by decide

lemma rawLine_valid (block : List Int32) : (rawLine block).Valid :=
  entryLine_valid validKey_rawData trivial

def protocolLine : Line := .entry subghzProtocolKey (ascii ['R', 'A', 'W'])

lemma recordingLines_split (preset : SubGhzRadioPreset) (blocks : List (List Int32)) :
    ∃ before, recordingLines preset blocks = before ++ protocolLine :: blocks.map rawLine ∧
      (∀ l ∈ before, l.Valid) ∧ lookup subghzProtocolKey before = none := by
  obtain ⟨before, hheader, hbefore⟩ := header_split preset
  refine ⟨before.map entryLine, ?_, ?_, ?_⟩
  · rw [recordingLines, hheader, List.map_append, List.append_assoc]
    rfl
  · intro l hl
    obtain ⟨data, hdata, rfl⟩ := List.mem_map.mp hl
    exact entryLine_valid (hbefore data hdata).1 (hbefore data hdata).2.1
  · refine List.findSome?_eq_none_iff.mpr fun l hl => ?_
    obtain ⟨data, hdata, rfl⟩ := List.mem_map.mp hl
    exact if_neg (hbefore data hdata).2.2

lemma start_recording (preset : SubGhzRadioPreset) (blocks : List (List Int32))
    (hlen : (textOf (recordingLines preset blocks)).length < 2147483648) :
    ∃ f, start (textOf (recordingLines preset blocks)) = some ⟨f, [], [], true, []⟩ ∧
      Ahead f (blocks.map fun block => (rawLine block).bytes) := by
  obtain ⟨before, hlines, hbefore, hlookup⟩ := recordingLines_split preset blocks
  have hvalid : ∀ l ∈ recordingLines preset blocks, l.Valid := by
    intro l hl
    rw [hlines, List.mem_append, List.mem_cons] at hl
    rcases hl with hl | rfl | hl
    · exact hbefore l hl
    · exact ⟨by decide, by decide⟩
    · obtain ⟨block, -, rfl⟩ := List.mem_map.mp hl
      exact rawLine_valid block
  have hrounds := Nat.add_le_add_right (length_le_textOf (recordingLines preset blocks)) 2
  -- the text up to the name of the protocol, and behind it
  set content := textOf (recordingLines preset blocks) with hcontent
  set name := ascii ['R', 'A', 'W'] with hname
  obtain ⟨text, htext⟩ : ∃ text, text = textOf before ++ (subghzProtocolKey ++ [delimiter, space]) :=
    ⟨_, rfl⟩
  set f : File := ⟨content, 0, Nat.zero_le _⟩
  have hseekable : Seekable f := hlen
  have hdrop : f.content.drop f.pos = text ++ (name ++ eoln :: textOf (blocks.map rawLine)) := by
    change content = _
    rw [hcontent, hlines, textOf_append, textOf_cons, protocolLine, Line.bytes, htext]
    simp [hname]
  have hseek : seekToKey (content.length + 2) subghzProtocolKey false f =
      some (true, f.seek (f.pos + text.length)) := by
    rw [seekToKey_lines hvalid subghzProtocolKey hseekable skipped_nil rfl hrounds, hlines,
      protocolLine, findKey_append hlookup, htext]
    simp
  obtain ⟨hpos, hrest⟩ := drop_seek hdrop
  set g := f.seek (f.pos + text.length)
  have hgdrop : g.content.drop g.pos = name ++ eoln :: textOf (blocks.map rawLine) := by
    rw [hpos, hrest]
  have hread := readLine_string (f := g) hseekable (by decide) (by decide) (by decide) hgdrop
  have hbehind : g.content.drop g.pos = (name ++ [eoln]) ++ textOf (blocks.map rawLine) := by
    rw [hgdrop, List.append_assoc]
    rfl
  obtain ⟨hpos', hrest'⟩ := drop_seek hbehind
  have hend := pos_add_le hbehind
  have hname' : (name ++ [eoln]).length = name.length + 1 := List.length_append
  have hmiddle : (g.seek (g.pos + name.length)).pos = g.pos + name.length :=
    Nat.min_eq_left (by omega)
  have hstep : fileStreamSeek (g.seek (g.pos + name.length)) 1 .fromCurrent =
      (true, g.seek (g.pos + (name ++ [eoln]).length)) :=
    Seekable.seek (f := g.seek _) hseekable (by rw [hmiddle]; omega) hend
  refine ⟨g.seek (g.pos + (name ++ [eoln]).length), ?_, hseekable, ?_⟩
  · rw [start, readStringLine, hseek]
    simp only [Option.map_some, if_true, hread, hstep]
  · have hcomplete : ∀ l ∈ blocks.map fun block => (rawLine block).bytes, CompleteLine 10 l := by
      intro l hl
      obtain ⟨block, -, rfl⟩ := List.mem_map.mp hl
      exact completeLine_rawLine block
    have hsplit := splitBehind_flatten_append hcomplete []
    rw [List.append_nil, splitBehind_nil, List.append_nil] at hsplit
    rw [hpos', hrest', ← hsplit, textOf, List.flatMap_map]
    rfl

end SubGhzFileEncoderWorker

/-! ### The replay of a recording -/

/-- What the transmitter shall get: the kept samples and a reset. -/
def replayTarget (samples : List SubGhzSample) : List LevelDuration :=
  (keptSamples false samples).map sampleLevel ++ [.reset]

/-- The replay of a file gives these levels: whatever the order of the steps, what has been got is
a start of them, the steps come to an end, and then all has been got. -/
def Replays (content : List UInt8) (target : List LevelDuration) : Prop :=
  ∃ w₀ bound, SubGhzFileEncoderWorker.start content = some w₀ ∧
    ∀ events w, subghzReplay.replay (fun _ _ => True) w₀ events = some w →
      events.length ≤ bound ∧ w.received <+: target ∧
        ((∀ event, subghzReplay.step w event = none) → w.received = target)

/-- The samples of a recording below 2 GiB are replayed, and then there is a reset. -/
theorem subghzReplay_recording (preset : SubGhzRadioPreset) (samples : List SubGhzSample)
    (hlen : ∀ content ∈ subghzRecording preset samples, content.length < 2147483648) :
    ∃ content, subghzRecording preset samples = some content ∧
      Replays content (replayTarget samples) := by
  obtain ⟨blocks, hrecording, hcut⟩ := subghzRecording_eq preset samples
  obtain ⟨f, hstart, hahead⟩ :=
    SubGhzFileEncoderWorker.start_recording preset blocks (hlen _ hrecording)
  have hinit : SubGhzFileEncoderWorker.Replaying (replayTarget samples) blocks
      ⟨f, [], [], true, []⟩ := by
    refine ⟨?_, fun _ => hahead, fun block hblock => ?_, Nat.zero_le _⟩
    · simp [levels_of_cut hcut, replayTarget]
    · exact ⟨hcut.block block hblock, sendable_of_cut hcut hblock⟩
  refine ⟨_, hrecording, _, SubGhzFileEncoderWorker.stepsLeft blocks ⟨f, [], [], true, []⟩, hstart,
    fun events w hrun => ?_⟩
  obtain ⟨blocks', hreplaying, hleft⟩ := hinit.run hrun
  exact ⟨by omega, hreplaying.prefix, hreplaying.stuck⟩

/-- A recording in which a sample is too short and another has the level of the one before. -/
theorem subghzReplay_recording_five :
    let preset : SubGhzRadioPreset := ⟨ascii ['A', 'M', '6', '5', '0'], 433920000, []⟩
    let samples := [(true, 350), (false, 20), (false, 1050), (false, 400), (true, 700)]
    ∃ content, subghzRecording preset samples = some content ∧
      Replays content [.make true 350, .make false 1050, .make true 700, .reset] := by
  intro preset samples
  have hlen : ∀ content ∈ subghzRecording preset samples, content.length < 2147483648 := by
    decide +kernel
  exact subghzReplay_recording preset samples hlen

/-! ### Above 2 GiB -/

/-- What a number takes of a line. -/
def numberWidth (n : Int32) : Nat := (integerText n.toInt).length + 1

lemma length_rawLine {block : List Int32} (hne : block ≠ []) :
    (rawLine block).bytes.length = 10 + (block.map numberWidth).sum := by
  have hmap : block.map (fun n => integerText n.toInt) ≠ [] := by simpa using hne
  have hnumbers : (numbersText block).length + 1 = (block.map numberWidth).sum := by
    rw [numbersText, length_valueWrites hmap, List.map_map]
    rfl
  have hkey : rawDataKey.length = 10 := rfl
  rw [rawLine_bytes, List.length_append, List.length_append, List.length_singleton, hkey, ← hnumbers,
    Nat.add_assoc]

lemma length_textOf_rawLines {blocks : List (List Int32)} (hne : ∀ block ∈ blocks, block ≠ []) :
    (textOf (blocks.map rawLine)).length =
      10 * blocks.length + (blocks.flatten.map numberWidth).sum := by
  induction blocks with
  | nil => rfl
  | cons block blocks ih =>
    have hrest := ih fun b hb => hne b (List.mem_cons_of_mem block hb)
    rw [List.map_cons, textOf_cons, List.length_append, length_rawLine (hne block List.mem_cons_self),
      hrest, List.flatten_cons, List.map_append, List.sum_append, List.length_cons]
    omega

/-- Samples of both levels in turn, each as short as a kept one can be. -/
def inTurnSamples (n : Nat) : List SubGhzSample :=
  (List.replicate n [(true, 51), (false, 51)]).flatten

lemma inTurnSamples_succ (n : Nat) :
    inTurnSamples (n + 1) = [(true, 51), (false, 51)] ++ inTurnSamples n := by
  rw [inTurnSamples, List.replicate_succ, List.flatten_cons]
  rfl

lemma length_inTurnSamples (n : Nat) : (inTurnSamples n).length = 2 * n := by
  induction n with
  | zero => rfl
  | succ n ih =>
    rw [inTurnSamples_succ, List.length_append, ih, Nat.mul_succ, Nat.add_comm]
    rfl

lemma keptSamples_inTurnSamples (n : Nat) :
    keptSamples false (inTurnSamples n) = inTurnSamples n := by
  induction n with
  | zero => rfl
  | succ n ih =>
    rw [inTurnSamples_succ, List.cons_append, List.cons_append, List.nil_append, keptSamples,
      if_pos (by decide), keptSamples, if_pos (by decide), ih]

lemma numberWidth_inTurnSamples (n : Nat) :
    (((inTurnSamples n).map sampleNumber).map numberWidth).sum = 7 * n := by
  have hpair : ([(true, 51), (false, 51)].map sampleNumber).map numberWidth = [3, 4] := by
    decide +kernel
  induction n with
  | zero => rfl
  | succ n ih =>
    rw [inTurnSamples_succ, List.map_append, List.map_append, List.sum_append, ih, hpair]
    simp only [List.sum_cons, List.sum_nil]
    omega

def filetypeText : List UInt8 :=
  ascii ['F', 'i', 'l', 'e', 't', 'y', 'p', 'e', ':', ' ', 'F', 'l', 'i', 'p', 'p', 'e', 'r', ' ',
    'S', 'u', 'b', 'G', 'h', 'z', ' ', 'R', 'A', 'W', ' ', 'F', 'i', 'l']

/-- The header that the preset `AM650` gives. -/
def largePreset : SubGhzRadioPreset := ⟨ascii ['A', 'M', '6', '5', '0'], 433920000, []⟩

/-- The recording has its first line, more than 2 GiB and less than 4 GiB. -/
lemma recording_large {n : Nat} (hlow : 310000000 ≤ n) (hhigh : n ≤ 600000000) :
    ∃ content, subghzRecording largePreset (inTurnSamples n) = some content ∧
      2147483700 ≤ content.length ∧ content.length < 4294967296 ∧
      content.take 32 = filetypeText := by
  obtain ⟨blocks, hrecording, hcut⟩ := subghzRecording_eq largePreset (inTurnSamples n)
  rw [keptSamples_inTurnSamples] at hcut
  have hcount := hcut.count
  rw [List.length_map, length_inTurnSamples] at hcount
  have hheader : (textOf ((subghzProtocolRawHeader largePreset).map entryLine)).length = 119 := by
    decide +kernel
  have hlen : (textOf (recordingLines largePreset blocks)).length =
      119 + (10 * blocks.length + 7 * n) := by
    rw [recordingLines, textOf_append, List.length_append, hheader,
      length_textOf_rawLines fun block hblock => (hcut.block block hblock).1, hcut.flatten,
      numberWidth_inTurnSamples]
  refine ⟨_, hrecording, by omega, by omega, ?_⟩
  rw [recordingLines, textOf_append, List.take_append_of_le_length (by omega)]
  decide +kernel

/-- The search for the first key of a file above 2 GiB goes back from the end of its buffer, which
takes it to the end of the file. -/
lemma readValidKey_large {content : List UInt8} (hlow : 2147483700 ≤ content.length)
    (hhigh : content.length < 4294967296) (htake : content.take 32 = filetypeText) :
    readValidKey ⟨content, 0, Nat.zero_le _⟩ =
      (none, ⟨content, content.length, Nat.le_refl _⟩) := by
  set f : File := ⟨content, 0, Nat.zero_le _⟩
  have hread : (f.read 32).1 = filetypeText := htake
  have hpos : (f.read 32).2.pos = 32 := by
    rw [File.read_pos_eq, hread]
    rfl
  obtain ⟨key, hscan⟩ : ∃ key, scanFrom KeyScan.step 0 KeyScan.init filetypeText = .leave (key, 8) :=
    ⟨_, rfl⟩
  have hback : fileStreamSeek (f.read 32).2 ((8 : Nat) - (filetypeText.length : Nat) + (0 : Nat))
      .fromCurrent = (false, (f.read 32).2.seek content.length) := by
    have hlength : filetypeText.length = 32 := rfl
    refine fileStreamSeek_far (t := 8) hhigh ?_ (by decide) ?_
    · rw [hpos, hlength]
      rfl
    · change 8 + 2147483648 < content.length
      omega
  have hend : (f.read 32).2.seek content.length = ⟨content, content.length, Nat.le_refl _⟩ :=
    File.ext rfl (Nat.min_self _)
  have hne : ¬(f.read 32).1 = [] := by
    rw [hread]
    decide
  rw [readValidKey, scanStream, dif_neg hne]
  simp only [hread, hscan, hback, hend, Bool.false_eq_true, if_false]

lemma start_large {content : List UInt8} (hlow : 2147483700 ≤ content.length)
    (hhigh : content.length < 4294967296) (htake : content.take 32 = filetypeText) :
    SubGhzFileEncoderWorker.start content =
      some ⟨⟨content, content.length, Nat.le_refl _⟩, [], [], false, []⟩ := by
  have hnotEof : (⟨content, 0, Nat.zero_le _⟩ : File).eof = false := by
    simp [File.eof]
    omega
  have heof : (⟨content, content.length, Nat.le_refl _⟩ : File).eof = true := by simp [File.eof]
  have hround : seekToKeyRound subghzProtocolKey false ⟨content, 0, Nat.zero_le _⟩ =
      .again ⟨content, content.length, Nat.le_refl _⟩ := by
    rw [seekToKeyRound, hnotEof, readValidKey_large hlow hhigh htake]
    rfl
  have hseek : seekToKey (content.length + 2) subghzProtocolKey false
      ⟨content, 0, Nat.zero_le _⟩ = some (false, ⟨content, content.length, Nat.le_refl _⟩) := by
    rw [seekToKey, loop_again hround]
    exact seekToKey_end heof subghzProtocolKey false content.length
  rw [SubGhzFileEncoderWorker.start, readStringLine, hseek]
  rfl

lemma not_replays_of_start {content : List UInt8} {f : File} {target : List LevelDuration}
    (hstart : SubGhzFileEncoderWorker.start content = some ⟨f, [], [], false, []⟩)
    (hne : target ≠ []) : ¬Replays content target := by
  rintro ⟨w₀, bound, hstart', hruns⟩
  obtain rfl := Option.some.inj (hstart.symm.trans hstart')
  obtain ⟨-, -, hall⟩ := hruns [] _ rfl
  refine hne (hall fun event => ?_).symm
  cases event with
  | worker => rfl
  | transmitter => rfl

lemma subghzReplay_large {n : Nat} (hlow : 310000000 ≤ n) (hhigh : n ≤ 600000000) :
    ∃ content, subghzRecording largePreset (inTurnSamples n) = some content ∧
      content.length < 4294967296 ∧ ¬Replays content (replayTarget (inTurnSamples n)) := by
  obtain ⟨content, hrecording, hlow, hhigh, htake⟩ := recording_large hlow hhigh
  refine ⟨content, hrecording, hhigh, not_replays_of_start (start_large hlow hhigh htake) ?_⟩
  rw [replayTarget]
  exact List.concat_ne_nil _ _

/-- Of a recording of more than 2 GiB, which a card can hold, nothing is replayed. -/
theorem subghzReplay_recording_large :
    ∃ content, subghzRecording largePreset (inTurnSamples 310000000) = some content ∧
      content.length < 4294967296 ∧
      ¬Replays content (replayTarget (inTurnSamples 310000000)) :=
  subghzReplay_large (Nat.le_refl _) (by decide)

end FlipperZero
