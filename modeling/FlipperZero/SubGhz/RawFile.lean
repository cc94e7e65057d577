import FlipperZero.FlipperFormat.ReadBack
import FlipperZero.SubGhz.Raw

/-!
# The file of a recording

The recorder keeps the samples longer than 50 microseconds and shorter than a second whose level is
not the one of the sample kept before. Its file is the header and the kept samples in order, cut
into lines of 512 numbers and a last one.
-/

namespace FlipperZero

open Foundation FlipperFormatStream

/-! ### Kept samples -/

def keptSamples : Bool → List SubGhzSample → List SubGhzSample
  | _, []                                  => []
  | lastLevel, (level, duration) :: samples =>
    if (50 < duration ∧ duration < 1000000) ∧ lastLevel ≠ level then
      (level, duration) :: keptSamples level samples
    else keptSamples lastLevel samples

/-- The number that stands for a sample. -/
def sampleNumber (sample : SubGhzSample) : Int32 :=
  (if sample.1 then sample.2 else -sample.2).toInt32

lemma keptSamples_bounds {lastLevel : Bool} {samples : List SubGhzSample} {sample : SubGhzSample}
    (h : sample ∈ keptSamples lastLevel samples) : 50 < sample.2 ∧ sample.2 < 1000000 := by
  induction samples generalizing lastLevel with
  | nil => exact absurd h List.not_mem_nil
  | cons first samples ih =>
    obtain ⟨level, duration⟩ := first
    rw [keptSamples] at h
    split_ifs at h with hkept
    · rcases List.mem_cons.mp h with rfl | h
      · exact hkept.1
      · exact ih h
    · exact ih h

/-! ### Lines -/

def entryLine (data : FlipperStreamWriteData) : Line := (Item.entry data).line

def rawLine (block : List Int32) : Line := entryLine (subghzProtocolRawData block)

def recordingLines (preset : SubGhzRadioPreset) (blocks : List (List Int32)) : List Line :=
  (subghzProtocolRawHeader preset).map entryLine ++ blocks.map rawLine

lemma header_written {preset : SubGhzRadioPreset} {data : FlipperStreamWriteData}
    (h : data ∈ subghzProtocolRawHeader preset) :
    data.value ≠ .ignore ∧ data.value.Passed := by
  have hname : 0 ∉ subghzBlockGenericGetPresetName preset.name := by
    rw [subghzBlockGenericGetPresetName]
    split_ifs <;> decide
  have hdata : (preset.data.take (preset.data.length % 65536)).length < 65536 := by
    rw [List.length_take]
    omega
  rw [subghzProtocolRawHeader] at h
  simp only [List.mem_append, List.mem_cons, List.not_mem_nil, or_false] at h
  rcases h with ((rfl | rfl | rfl | rfl) | h) | rfl
  · exact ⟨nofun, by decide⟩
  · exact ⟨nofun, Nat.one_lt_ofNat⟩
  · exact ⟨nofun, Nat.one_lt_ofNat⟩
  · exact ⟨nofun, hname⟩
  · split_ifs at h
    · simp only [List.mem_cons, List.not_mem_nil, or_false] at h
      rcases h with rfl | rfl
      · exact ⟨nofun, by decide⟩
      · exact ⟨nofun, hdata⟩
    · exact absurd h List.not_mem_nil
  · exact ⟨nofun, by decide⟩

lemma line_eq_entryLine {data : FlipperStreamWriteData} (h : data.value ≠ .ignore)
    (hpassed : data.value.Passed) : data.line = (entryLine data).bytes := by
  rw [FlipperStreamWriteData.line, if_neg h, FlipperStreamValue.passed_eq hpassed]
  rfl

lemma writeValueLines_eq {entries : List FlipperStreamWriteData}
    (h : ∀ data ∈ entries, data.value ≠ .ignore ∧ data.value.Passed) (f : File) :
    writeValueLines entries f = (true, (f.write (textOf (entries.map entryLine))).2) := by
  induction entries generalizing f with
  | nil =>
    rw [List.map_nil, textOf_nil, File.write_nil]
    rfl
  | cons data entries ih =>
    rw [writeValueLines, writeValueLine_eq, if_pos rfl,
      ih fun data' hdata' => h data' (List.mem_cons_of_mem data hdata'), File.write_write,
      List.map_cons, textOf_cons, line_eq_entryLine (h data List.mem_cons_self).1 (h data List.mem_cons_self).2]

/-! ### The recorder -/

/-- The recorder has got these numbers: full lines are written, and the others wait. -/
structure Recorded (preset : SubGhzRadioPreset) (s : SubGhzProtocolDecoderRAW)
    (blocks : List (List Int32)) (numbers : List Int32) : Prop where
  running : s.pause = false ∧ s.fileIsOpen = true
  file : s.flipperFile = (File.created.write (textOf (recordingLines preset blocks))).2
  full : ∀ block ∈ blocks, block.length = 512
  room : s.uploadRaw.length < 512
  numbers : blocks.flatten ++ s.uploadRaw = numbers

variable {preset : SubGhzRadioPreset} {s : SubGhzProtocolDecoderRAW} {blocks : List (List Int32)}
  {numbers : List Int32}

lemma saveToFileInit_recorded (preset : SubGhzRadioPreset) :
    ∃ s, subghzProtocolRawSaveToFileInit preset = some s ∧ s.lastLevel = false ∧
      Recorded preset s [] [] := by
  have hwritten : ∀ data ∈ subghzProtocolRawHeader preset,
      data.value ≠ .ignore ∧ data.value.Passed := fun _ h => header_written h
  have hwrites := writeValueLines_eq hwritten File.created
  rw [subghzProtocolRawSaveToFileInit, hwrites]
  refine ⟨_, rfl, rfl, ⟨rfl, rfl⟩, ?_, fun _ h => absurd h List.not_mem_nil, Nat.zero_lt_succ _, rfl⟩
  rw [recordingLines, List.map_nil, List.append_nil]

lemma saveToFileWrite_eq (hopen : s.fileIsOpen = true)
    (hfile : s.flipperFile = (File.created.write (textOf (recordingLines preset blocks))).2)
    (hroom : s.uploadRaw.length < 65536) :
    s.saveToFileWrite = (true, { s with
      flipperFile :=
        (File.created.write (textOf (recordingLines preset (blocks ++ [s.uploadRaw])))).2
      sampleWrite := s.sampleWrite + s.uploadRaw.length
      uploadRaw := [] }) := by
  have htext : textOf (recordingLines preset (blocks ++ [s.uploadRaw])) =
      textOf (recordingLines preset blocks) ++ (subghzProtocolRawData s.uploadRaw).line := by
    have hvalue : (subghzProtocolRawData s.uploadRaw).value ≠ .ignore := by
      rw [subghzProtocolRawData]
      exact nofun
    rw [line_eq_entryLine hvalue hroom, recordingLines, recordingLines, List.map_append,
      ← List.append_assoc, textOf_append]
    simp [rawLine]
  rw [SubGhzProtocolDecoderRAW.saveToFileWrite, if_pos hopen, writeValueLine_eq, hfile,
    File.write_write, htext]
  rfl

lemma Recorded.feed_skipped (h : Recorded preset s blocks numbers) {level : Bool}
    {duration : UInt32}
    (hskip : ¬((50 < duration ∧ duration < 1000000) ∧ s.lastLevel ≠ level)) :
    s.feed level duration = s := by
  have hroom : s.uploadRaw.length ≠ 512 := Nat.ne_of_lt h.room
  rw [SubGhzProtocolDecoderRAW.feed]
  by_cases hrunning : s.pause = false ∧ s.fileIsOpen = true ∧ duration < 1000000
  · have hdrop : ¬(50 < duration ∧ s.lastLevel ≠ level) :=
      fun hkept => hskip ⟨⟨hkept.1, hrunning.2.2⟩, hkept.2⟩
    rw [if_pos hrunning]
    simp only [if_neg hdrop, if_neg hroom]
  · rw [if_neg hrunning]

lemma Recorded.feed_kept (h : Recorded preset s blocks numbers) {level : Bool}
    {duration : UInt32}
    (hkept : (50 < duration ∧ duration < 1000000) ∧ s.lastLevel ≠ level) :
    (s.feed level duration).lastLevel = level ∧
      ∃ blocks', Recorded preset (s.feed level duration) blocks'
        (numbers ++ [sampleNumber (level, duration)]) := by
  obtain ⟨⟨hpause, hopen⟩, hfile, hfull, hroom, hnumbers⟩ := h
  have hkeep : 50 < duration ∧ s.lastLevel ≠ level := ⟨hkept.1.1, hkept.2⟩
  rw [SubGhzProtocolDecoderRAW.feed, if_pos ⟨hpause, hopen, hkept.1.2⟩]
  simp only [if_pos hkeep]
  have hnumber : (if level = true then duration else -duration).toInt32 =
      sampleNumber (level, duration) := rfl
  rw [hnumber]
  by_cases hend : (s.uploadRaw ++ [sampleNumber (level, duration)]).length = 512
  · -- the line is full
    have hwrite := saveToFileWrite_eq (s := { s with
      lastLevel := level
      uploadRaw := s.uploadRaw ++ [sampleNumber (level, duration)] }) hopen hfile
      (Nat.lt_of_le_of_lt (Nat.le_of_eq hend) (by decide))
    rw [if_pos hend, hwrite]
    refine ⟨rfl, blocks ++ [s.uploadRaw ++ [sampleNumber (level, duration)]], ⟨hpause, hopen⟩, rfl,
      ?_, Nat.zero_lt_succ _, ?_⟩
    · intro block hblock
      rcases List.mem_append.mp hblock with hblock | hblock
      · exact hfull block hblock
      · rw [List.mem_singleton.mp hblock]
        exact hend
    · rw [List.append_nil, List.flatten_append, List.flatten_singleton, ← List.append_assoc,
        hnumbers]
  · rw [if_neg hend]
    refine ⟨rfl, blocks, ⟨hpause, hopen⟩, hfile, hfull, ?_, ?_⟩
    · rw [List.length_append, List.length_singleton] at hend ⊢
      omega
    · rw [← List.append_assoc, hnumbers]

lemma Recorded.feeds (h : Recorded preset s blocks numbers) (samples : List SubGhzSample) :
    ∃ blocks', Recorded preset (samples.foldl (fun s sample => s.feed sample.1 sample.2) s) blocks'
      (numbers ++ (keptSamples s.lastLevel samples).map sampleNumber) := by
  induction samples generalizing s blocks numbers with
  | nil =>
    rw [keptSamples, List.map_nil, List.append_nil]
    exact ⟨blocks, h⟩
  | cons sample samples ih =>
    obtain ⟨level, duration⟩ := sample
    rw [List.foldl_cons, keptSamples]
    split_ifs with hkept
    · obtain ⟨hlevel, blocks', h'⟩ := h.feed_kept hkept
      obtain ⟨blocks'', h''⟩ := ih h'
      refine ⟨blocks'', ?_⟩
      rw [List.map_cons, ← List.singleton_append, ← List.append_assoc]
      simpa only [hlevel] using h''
    · rw [h.feed_skipped hkept]
      exact ih h

/-- The lines of numbers of a recording. -/
structure Cut (blocks : List (List Int32)) (numbers : List Int32) : Prop where
  flatten : blocks.flatten = numbers
  block : ∀ block ∈ blocks, block ≠ [] ∧ block.length ≤ 512
  count : blocks.length * 512 < numbers.length + 512

lemma length_flatten_full (hfull : ∀ block ∈ blocks, block.length = 512) :
    blocks.flatten.length = blocks.length * 512 := by
  induction blocks with
  | nil => rfl
  | cons block blocks ih =>
    rw [List.flatten_cons, List.length_append, hfull block List.mem_cons_self,
      ih fun b hb => hfull b (List.mem_cons_of_mem block hb), List.length_cons, Nat.succ_mul,
      Nat.add_comm]

lemma Recorded.stop (h : Recorded preset s blocks numbers) :
    ∃ blocks', s.saveToFileStop.flipperFile.content = textOf (recordingLines preset blocks') ∧
      Cut blocks' numbers := by
  obtain ⟨⟨-, hopen⟩, hfile, hfull, hroom, rfl⟩ := h
  have hlen := length_flatten_full hfull
  have hwhole : ∀ block ∈ blocks, block ≠ [] ∧ block.length ≤ 512 := by
    intro block hblock
    have hblock := hfull block hblock
    refine ⟨?_, Nat.le_of_eq hblock⟩
    rintro rfl
    cases hblock
  rw [SubGhzProtocolDecoderRAW.saveToFileStop]
  split_ifs with hrest
  · refine ⟨blocks ++ [s.uploadRaw], ?_, ?_, ?_, ?_⟩
    · rw [saveToFileWrite_eq hopen hfile (Nat.lt_trans hroom (by decide))]
      exact overwrite_length [] _
    · rw [List.flatten_append, List.flatten_singleton]
    · intro block hblock
      rcases List.mem_append.mp hblock with hblock | hblock
      · exact hwhole block hblock
      · rw [List.mem_singleton.mp hblock]
        exact ⟨hrest.2, Nat.le_of_lt hroom⟩
    · have hpos : 0 < s.uploadRaw.length := List.length_pos_iff.mpr hrest.2
      rw [List.length_append, List.length_append, List.length_singleton, hlen]
      omega
  · have hnil : s.uploadRaw = [] := not_not.mp fun hne => hrest ⟨hopen, hne⟩
    refine ⟨blocks, ?_, ?_, hwhole, ?_⟩
    · rw [hfile]
      exact overwrite_length [] _
    · rw [hnil, List.append_nil]
    · rw [hnil, List.append_nil, hlen]
      omega

/-- What a recording is. -/
theorem subghzRecording_eq (preset : SubGhzRadioPreset) (samples : List SubGhzSample) :
    ∃ blocks, subghzRecording preset samples = some (textOf (recordingLines preset blocks)) ∧
      Cut blocks ((keptSamples false samples).map sampleNumber) := by
  obtain ⟨s, hinit, hlevel, hs⟩ := saveToFileInit_recorded preset
  obtain ⟨blocks, hblocks⟩ := hs.feeds samples
  obtain ⟨blocks', hcontent, hcut⟩ := hblocks.stop
  rw [List.nil_append, hlevel] at hcut
  refine ⟨blocks', ?_, hcut⟩
  rw [subghzRecording, hinit, Option.map_some, hcontent]

end FlipperZero
