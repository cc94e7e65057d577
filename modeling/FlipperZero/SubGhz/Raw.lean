import FlipperZero.FlipperFormat.FlipperFormatStream

/-!
# The RAW recorder

`raw.c` of the sub-GHz protocols: a recording is a flipper format file with a header and lines of
at most 512 numbers. A number is a duration in microseconds, positive for the high level and
negative for the low one. The file is written without failure.
-/

namespace FlipperZero

open FlipperFormatStream

/-- `SubGhzRadioPreset`, as far as a recording keeps it. -/
structure SubGhzRadioPreset where
  name : List UInt8
  frequency : UInt32
  data : List UInt8

/-- A sample: a level and its duration. -/
abbrev SubGhzSample : Type := Bool × UInt32

/-! ### The header -/

/-- The name of a preset of one's own. -/
def subghzPresetCustom : List UInt8 :=
  ascii ['F', 'u', 'r', 'i', 'H', 'a', 'l', 'S', 'u', 'b', 'G', 'h', 'z', 'P', 'r', 'e', 's', 'e',
    't', 'C', 'u', 's', 't', 'o', 'm']

def subghzBlockGenericGetPresetName (presetName : List UInt8) : List UInt8 :=
  if presetName = ascii ['A', 'M', '2', '7', '0'] then
    ascii ['F', 'u', 'r', 'i', 'H', 'a', 'l', 'S', 'u', 'b', 'G', 'h', 'z', 'P', 'r', 'e', 's', 'e',
      't', 'O', 'o', 'k', '2', '7', '0', 'A', 's', 'y', 'n', 'c']
  else if presetName = ascii ['A', 'M', '6', '5', '0'] then
    ascii ['F', 'u', 'r', 'i', 'H', 'a', 'l', 'S', 'u', 'b', 'G', 'h', 'z', 'P', 'r', 'e', 's', 'e',
      't', 'O', 'o', 'k', '6', '5', '0', 'A', 's', 'y', 'n', 'c']
  else if presetName = ascii ['F', 'M', '2', '3', '8'] then
    ascii ['F', 'u', 'r', 'i', 'H', 'a', 'l', 'S', 'u', 'b', 'G', 'h', 'z', 'P', 'r', 'e', 's', 'e',
      't', '2', 'F', 'S', 'K', 'D', 'e', 'v', '2', '3', '8', 'A', 's', 'y', 'n', 'c']
  else if presetName = ascii ['F', 'M', '4', '7', '6'] then
    ascii ['F', 'u', 'r', 'i', 'H', 'a', 'l', 'S', 'u', 'b', 'G', 'h', 'z', 'P', 'r', 'e', 's', 'e',
      't', '2', 'F', 'S', 'K', 'D', 'e', 'v', '4', '7', '6', 'A', 's', 'y', 'n', 'c']
  else subghzPresetCustom

/-- The key of the line with the name of the protocol. -/
def subghzProtocolKey : List UInt8 := ascii ['P', 'r', 'o', 't', 'o', 'c', 'o', 'l']

/-- The entries that `subghz_protocol_raw_save_to_file_init` writes. The size of the data of a
preset is a `uint16_t` of the writer. -/
def subghzProtocolRawHeader (preset : SubGhzRadioPreset) : List FlipperStreamWriteData :=
  let presetName := subghzBlockGenericGetPresetName preset.name
  [⟨ascii ['F', 'i', 'l', 'e', 't', 'y', 'p', 'e'],
      .str (ascii ['F', 'l', 'i', 'p', 'p', 'e', 'r', ' ', 'S', 'u', 'b', 'G', 'h', 'z', ' ', 'R',
        'A', 'W', ' ', 'F', 'i', 'l', 'e'])⟩,
    ⟨ascii ['V', 'e', 'r', 's', 'i', 'o', 'n'], .uint32 [1]⟩,
    ⟨ascii ['F', 'r', 'e', 'q', 'u', 'e', 'n', 'c', 'y'], .uint32 [preset.frequency]⟩,
    ⟨ascii ['P', 'r', 'e', 's', 'e', 't'], .str presetName⟩] ++
  (if presetName = subghzPresetCustom then
    [⟨ascii ['C', 'u', 's', 't', 'o', 'm', '_', 'p', 'r', 'e', 's', 'e', 't', '_', 'm', 'o', 'd',
          'u', 'l', 'e'], .str (ascii ['C', 'C', '1', '1', '0', '1'])⟩,
      ⟨ascii ['C', 'u', 's', 't', 'o', 'm', '_', 'p', 'r', 'e', 's', 'e', 't', '_', 'd', 'a', 't',
          'a'], .hex (preset.data.take (preset.data.length % 65536))⟩]
  else []) ++
  [⟨subghzProtocolKey, .str (ascii ['R', 'A', 'W'])⟩]

/-- Writes of entries in a row, up to the first one that fails. -/
def writeValueLines : List FlipperStreamWriteData → File → Bool × File
  | [], f           => (true, f)
  | data :: rest, f =>
    let r := writeValueLine data f
    if r.1 then writeValueLines rest r.2 else (false, r.2)

/-! ### The recorder -/

/-- `SubGhzProtocolDecoderRAW`. The array has its first `ind_write` entries, and is there while the
file is open for writing. -/
structure SubGhzProtocolDecoderRAW where
  uploadRaw : List Int32
  flipperFile : File
  fileIsOpen : Bool
  sampleWrite : Nat
  lastLevel : Bool
  pause : Bool

/-- `subghz_protocol_raw_save_to_file_init` of a recorder without entries. The file is new. -/
def subghzProtocolRawSaveToFileInit (preset : SubGhzRadioPreset) :
    Option SubGhzProtocolDecoderRAW :=
  let r := writeValueLines (subghzProtocolRawHeader preset) File.created
  if r.1 then
    some {
      uploadRaw := []
      flipperFile := r.2
      fileIsOpen := true
      sampleWrite := 0
      lastLevel := false
      pause := false }
  else none

/-- The entry of a line with numbers. -/
def subghzProtocolRawData (uploadRaw : List Int32) : FlipperStreamWriteData :=
  ⟨ascii ['R', 'A', 'W', '_', 'D', 'a', 't', 'a'], .int32 uploadRaw⟩

namespace SubGhzProtocolDecoderRAW

variable (s : SubGhzProtocolDecoderRAW)

/-- `subghz_protocol_raw_save_to_file_write`. -/
def saveToFileWrite : Bool × SubGhzProtocolDecoderRAW :=
  if s.fileIsOpen then
    let r := writeValueLine (subghzProtocolRawData s.uploadRaw) s.flipperFile
    if r.1 then
      (true, { s with
        flipperFile := r.2
        sampleWrite := s.sampleWrite + s.uploadRaw.length
        uploadRaw := [] })
    else (false, { s with flipperFile := r.2 })
  else (false, s)

/-- `subghz_protocol_raw_save_to_file_stop`. -/
def saveToFileStop : SubGhzProtocolDecoderRAW :=
  let s := if s.fileIsOpen ∧ s.uploadRaw ≠ [] then s.saveToFileWrite.2 else s
  { s with fileIsOpen := false }

def feed (level : Bool) (duration : UInt32) : SubGhzProtocolDecoderRAW :=
  if s.pause = false ∧ s.fileIsOpen = true ∧ duration < 1000000 then
    let s :=
      if 50 < duration ∧ s.lastLevel ≠ level then
        { s with
          lastLevel := level
          uploadRaw := s.uploadRaw ++ [(if level then duration else -duration).toInt32] }
      else s
    if s.uploadRaw.length = 512 then s.saveToFileWrite.2 else s
  else s

end SubGhzProtocolDecoderRAW

def subghzRecording (preset : SubGhzRadioPreset) (samples : List SubGhzSample) :
    Option (List UInt8) :=
  (subghzProtocolRawSaveToFileInit preset).map fun s =>
    (samples.foldl (fun s sample => s.feed sample.1 sample.2) s).saveToFileStop.flipperFile.content

end FlipperZero
