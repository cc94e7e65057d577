import FlipperZero.Toolbox.Varint
import FlipperZero.Stream.FileStream
import FlipperZero.Foundation.System

/-!
# Raw files of the 125 kHz reader

`lfrfid_raw_file.c` reads a header, and then blocks of bytes, each behind its size, that hold
pairs of numbers. The size of a block is read into the live state before it is checked, and the
counter is reset only once the whole block was read.
-/

namespace FlipperZero

open Foundation

/-- The bytes of a little-endian word are read over the ones it has. -/
def overlayWord (old : Nat) (bytes : List UInt8) : Nat :=
  loadWord 4 (fun i =>
    match bytes[i]? with
    | some c => c.toNat
    | none   => old >>> (8 * i) &&& 0xFF) 0

/-- `LFRFIDRawFile`. The buffer is the memory from its address on. -/
structure LFRFIDRawFile where
  stream : File
  maxBufferSize : Nat
  buffer : Nat → UInt8
  bufferSize : Nat
  bufferCounter : Nat

namespace LFRFIDRawFile

def headerWord (header : List UInt8) (offset : Nat) : Nat := overlayWord 0 (header.drop offset)

/-- `lfrfid_raw_file_read_header`: the bits of the frequency and of the duty cycle. The allocated
memory is clear; `heap` is what stands behind it. -/
def readHeader (file : LFRFIDRawFile) (heap : Nat → UInt8) :
    Option (Nat × Nat) × LFRFIDRawFile :=
  let (header, stream) := file.stream.read 20
  let file := { file with stream := stream }
  if header.length = 20 then
    if headerWord header 0 = 0x4C464952 ∧ headerWord header 4 = 1 then
      let maxBufferSize := headerWord header 16
      (some (headerWord header 8, headerWord header 12),
        { file with
          maxBufferSize := maxBufferSize
          buffer := fun i => if i < maxBufferSize then 0 else heap i
          bufferSize := 0
          bufferCounter := 0 })
    else (none, file)
  else (none, file)

/-- At the end of the file the header is passed again: the stream, and `pass_end`. -/
def passEnd (stream : File) : File × Bool :=
  if stream.eof then ((fileStreamSeek stream 20 .fromStart).2, true) else (stream, false)

def readBlock (file : LFRFIDRawFile) : Bool × LFRFIDRawFile :=
  let (sizeBytes, stream) := (passEnd file.stream).1.read 4
  let file := { file with stream := stream, bufferSize := overlayWord file.bufferSize sizeBytes }
  if sizeBytes.length ≠ 4 then (false, file)
  else if file.maxBufferSize < file.bufferSize then (false, file)
  else
    let (data, stream) := file.stream.read file.bufferSize
    let file := { file with
      stream := stream
      buffer := fun i => if i < data.length then data.getD i 0 else file.buffer i }
    if data.length ≠ file.bufferSize then (false, file)
    else (true, { file with bufferCounter := 0 })

/-- The pair of the block at the counter. -/
def unpackPair (file : LFRFIDRawFile) : Option (Nat × Nat × Nat) :=
  varintPairUnpack (fun i => file.buffer (file.bufferCounter + i))
    (file.bufferSize - file.bufferCounter)

/-- The second half of `lfrfid_raw_file_read_pair`: the duration and the pulse. -/
def decodePair (file : LFRFIDRawFile) : Option (Nat × Nat) × LFRFIDRawFile :=
  match file.unpackPair with
  | some (pulse, duration, size) =>
    (some (duration, pulse),
      { file with bufferCounter := (file.bufferCounter + size) % 4294967296 })
  | none => (none, file)

/-- `lfrfid_raw_file_read_pair`: the duration and the pulse, `pass_end`, and the file. -/
def readPair (file : LFRFIDRawFile) : Option (Nat × Nat) × Bool × LFRFIDRawFile :=
  if file.bufferSize ≤ file.bufferCounter then
    match file.readBlock with
    | (false, file') => (none, (passEnd file.stream).2, file')
    | (true, file')  => (file'.decodePair.1, (passEnd file.stream).2, file'.decodePair.2)
  else (file.decodePair.1, false, file.decodePair.2)

/-- Calls of `lfrfid_raw_file_read_pair`, whatever they return. -/
def reads : System LFRFIDRawFile Unit where
  step := fun file _ => some file.readPair.2.2

/-! ### The counter and the end of the block -/

/-- The bytes of the block from the counter on. -/
def block (file : LFRFIDRawFile) (i : Nat) : UInt8 := file.buffer (file.bufferCounter + i)

end LFRFIDRawFile

/-- An input of a number, and of a pair: what is taken lies within the input if and only if a
number ends in it; for a pair, if no number ends before its last byte, or two do. A pair that is
decoded from a block then leaves the counter within the block. -/
theorem varintUnpack_count_le_iff (data : Nat → UInt8) (dataLength : Nat) :
    ((varintUint32Unpack data dataLength).2 ≤ dataLength ↔
        ∃ i < dataLength, EndsVarint (data i)) ∧
      ((∀ v₁ v₂ length, varintPairUnpack data dataLength = some (v₁, v₂, length) →
          length ≤ dataLength) ↔
        ∀ t, t + 1 < dataLength → EndsVarint (data t) →
          ∃ t' < dataLength, t' ≠ t ∧ EndsVarint (data t')) ∧
      ∀ file : LFRFIDRawFile, file.block = data → file.bufferSize = file.bufferCounter + dataLength →
        ((∀ v₁ v₂ length, file.unpackPair = some (v₁, v₂, length) →
            file.bufferCounter + length ≤ file.bufferSize) ↔
          ∀ t, t + 1 < dataLength → EndsVarint (data t) →
            ∃ t' < dataLength, t' ≠ t ∧ EndsVarint (data t')) := by
  refine ⟨varintUint32Unpack_count_le_iff data dataLength,
    varintPairUnpack_count_le_iff data dataLength, ?_⟩
  rintro file rfl hsize
  rw [← varintPairUnpack_count_le_iff, LFRFIDRawFile.unpackPair, hsize, Nat.add_sub_cancel_left]
  simp only [Nat.add_le_add_iff_left]
  rfl

/-- Two bytes of one number each. -/
theorem varintUnpack_count_le_two :
    let data : Nat → UInt8 := fun i => [1, 2].getD i 0
    (varintUint32Unpack data 2).2 ≤ 2 ∧
      (∀ v₁ v₂ length, varintPairUnpack data 2 = some (v₁, v₂, length) → length ≤ 2) := by
  intro data
  have h := varintUnpack_count_le_iff data 2
  exact ⟨h.1.mpr ⟨0, by decide, by decide⟩,
    h.2.1.mpr fun t ht _ => ⟨1, by decide, by omega, by decide⟩⟩

/-- A number that does not end takes one byte more than there are, and so does the second number
of a pair. -/
theorem varintUnpack_count_unterminated :
    (varintUint32Unpack (fun _ => 0x80) 1).2 = 2 ∧
      varintPairUnpack (fun i => [1, 0x80].getD i 0) 2 = some (1, 0, 3) := by
  decide

namespace LFRFIDRawFile

variable {file file' : LFRFIDRawFile}

/-! ### The size of the block and its buffer -/

def BlockFits (file : LFRFIDRawFile) : Prop :=
  file.bufferCounter < file.bufferSize → file.bufferSize ≤ file.maxBufferSize

/-- The size that the next bytes of the file leave behind, read over the size of the last block. -/
def nextBlockSize (file : LFRFIDRawFile) : Nat :=
  overlayWord file.bufferSize ((passEnd file.stream).1.read 4).1

/-- When the block is used up, the size that is read for the next one fits the buffer, or lies
below the counter. -/
def NextBlockFits (file : LFRFIDRawFile) : Prop :=
  file.bufferSize ≤ file.bufferCounter →
    file.nextBlockSize ≤ file.maxBufferSize ∨ file.nextBlockSize ≤ file.bufferCounter

instance (file : LFRFIDRawFile) : Decidable file.BlockFits := inferInstanceAs (Decidable (_ → _))

instance (file : LFRFIDRawFile) : Decidable file.NextBlockFits :=
  inferInstanceAs (Decidable (_ → _))

lemma readBlock_true (h : file.readBlock = (true, file')) :
    file'.bufferSize = file.nextBlockSize ∧ file'.bufferCounter = 0 ∧
      file'.maxBufferSize = file.maxBufferSize ∧ file'.bufferSize ≤ file'.maxBufferSize := by
  simp only [readBlock] at h
  split_ifs at h with hsize hbig hdata
  · exact absurd (congrArg Prod.fst h) Bool.false_ne_true
  · exact absurd (congrArg Prod.fst h) Bool.false_ne_true
  · exact absurd (congrArg Prod.fst h) Bool.false_ne_true
  · obtain rfl := (Prod.ext_iff.mp h).2
    exact ⟨rfl, rfl, rfl, Nat.le_of_not_lt hbig⟩

lemma readBlock_false (h : file.readBlock = (false, file')) :
    file'.bufferSize = file.nextBlockSize ∧ file'.bufferCounter = file.bufferCounter ∧
      file'.maxBufferSize = file.maxBufferSize := by
  simp only [readBlock] at h
  split_ifs at h with hsize hbig hdata
  · obtain rfl := (Prod.ext_iff.mp h).2
    exact ⟨rfl, rfl, rfl⟩
  · obtain rfl := (Prod.ext_iff.mp h).2
    exact ⟨rfl, rfl, rfl⟩
  · obtain rfl := (Prod.ext_iff.mp h).2
    exact ⟨rfl, rfl, rfl⟩
  · exact absurd (congrArg Prod.fst h) Bool.true_eq_false.mp

lemma decodePair_size (file : LFRFIDRawFile) :
    file.decodePair.2.bufferSize = file.bufferSize ∧
      file.decodePair.2.maxBufferSize = file.maxBufferSize := by
  rw [decodePair]
  split <;> exact ⟨rfl, rfl⟩

/-- One call keeps the block within the buffer if and only if the size it reads, when it reads
one, is not one that is too big and above the counter. -/
lemma blockFits_readPair_iff (h : file.BlockFits) :
    file.readPair.2.2.BlockFits ↔ file.NextBlockFits := by
  rw [readPair, BlockFits, NextBlockFits]
  by_cases hused : file.bufferSize ≤ file.bufferCounter
  · rw [if_pos hused]
    match hread : file.readBlock with
    | (true, file') =>
      obtain ⟨hsize, -, hmax, hfits⟩ := readBlock_true hread
      have hdecoded := decodePair_size file'
      simp only [hdecoded]
      rw [hsize, hmax] at hfits
      rw [hsize, hmax]
      exact iff_of_true (fun _ => hfits) (fun _ => .inl hfits)
    | (false, file') =>
      obtain ⟨hsize, hcounter, hmax⟩ := readBlock_false hread
      simp only [hsize, hcounter, hmax]
      omega
  · rw [if_neg hused]
    have hdecoded := decodePair_size file
    simp only [hdecoded]
    refine iff_of_true ?_ ?_
    · intro _
      exact h (Nat.lt_of_not_le hused)
    · intro hle
      exact absurd hle hused

/-- The file with another memory in place of its buffer. -/
abbrev withBuffer (file : LFRFIDRawFile) (buffer : Nat → UInt8) : LFRFIDRawFile :=
  { file with buffer := buffer }

lemma decodePair_congr {buffer : Nat → UInt8}
    (h : ∀ i < file.bufferSize, buffer i = file.buffer i) :
    (file.withBuffer buffer).decodePair.1 = file.decodePair.1 := by
  have hunpack : (file.withBuffer buffer).unpackPair = file.unpackPair :=
    varintPairUnpack_congr fun i hi => h (file.bufferCounter + i) (Nat.add_lt_of_lt_sub' hi)
  rw [decodePair, decodePair, hunpack]
  split <;> rfl

lemma readBlock_withBuffer (file : LFRFIDRawFile) (buffer : Nat → UInt8) :
    ∃ buffer', (file.withBuffer buffer).readBlock =
        (file.readBlock.1, file.readBlock.2.withBuffer buffer') ∧
      ∀ i, buffer i = file.buffer i → buffer' i = file.readBlock.2.buffer i := by
  obtain ⟨stream, maxBufferSize, old, bufferSize, bufferCounter⟩ := file
  simp only [readBlock, withBuffer]
  by_cases hsize : ((passEnd stream).1.read 4).1.length ≠ 4
  · simp only [if_pos hsize]
    exact ⟨_, rfl, fun _ hi => hi⟩
  by_cases hbig : maxBufferSize < overlayWord bufferSize ((passEnd stream).1.read 4).1
  · simp only [if_neg hsize, if_pos hbig]
    exact ⟨_, rfl, fun _ hi => hi⟩
  simp only [if_neg hsize, if_neg hbig]
  by_cases hdata : (((passEnd stream).1.read 4).2.read
      (overlayWord bufferSize ((passEnd stream).1.read 4).1)).1.length ≠
        overlayWord bufferSize ((passEnd stream).1.read 4).1
  · simp only [if_pos hdata]
    refine ⟨_, rfl, ?_⟩
    intro i hi
    simp only [hi]
  · simp only [if_neg hdata]
    refine ⟨_, rfl, ?_⟩
    intro i hi
    simp only [hi]

/-- While the block fits, what a call returns depends on the bytes of the buffer only. -/
lemma readPair_congr (h : file.BlockFits) {buffer : Nat → UInt8}
    (hbuffer : ∀ i < file.maxBufferSize, buffer i = file.buffer i) :
    (file.withBuffer buffer).readPair.1 = file.readPair.1 := by
  by_cases hused : file.bufferSize ≤ file.bufferCounter
  · obtain ⟨buffer', hread, hagree⟩ := file.readBlock_withBuffer buffer
    simp only [readPair, if_pos hused, hread]
    match hblock : file.readBlock with
    | (false, file') => rfl
    | (true, file')  =>
      obtain ⟨-, -, hmax, hfits⟩ := readBlock_true hblock
      rw [hblock] at hagree
      apply decodePair_congr
      intro i hi
      exact hagree i (hbuffer i (Nat.lt_of_lt_of_le hi (hmax ▸ hfits)))
  · simp only [readPair, if_neg hused]
    have hfits := h (Nat.lt_of_not_le hused)
    exact decodePair_congr fun i hi => hbuffer i (Nat.lt_of_lt_of_le hi hfits)

/-- Nothing is used of the buffer of a file whose header was just read. -/
lemma blockFits_readHeader {heap : Nat → UInt8} {header : Nat × Nat}
    (h : file.readHeader heap = (some header, file')) : file'.BlockFits := by
  simp only [readHeader] at h
  split_ifs at h with hsize hmagic
  · obtain rfl := (Prod.ext_iff.mp h).2
    intro hlt
    exact absurd hlt (Nat.lt_irrefl 0)
  · exact absurd (congrArg Prod.fst h) (by simp)
  · exact absurd (congrArg Prod.fst h) (by simp)

/-- In a run in which no size is read that is too big and above the counter, a block that is not
used up fits the buffer in every state, and what the next call returns depends on the bytes of the
buffer only. The first such size breaks this. -/
theorem reads_blockFits {start : LFRFIDRawFile} {heap : Nat → UInt8} {header : Nat × Nat}
    {raw : LFRFIDRawFile} (hheader : raw.readHeader heap = (some header, start))
    (hrun : reads.Reaches (fun file _ => file.NextBlockFits) start file) :
    file.BlockFits ∧
      (∀ buffer, (∀ i < file.maxBufferSize, buffer i = file.buffer i) →
        (file.withBuffer buffer).readPair.1 = file.readPair.1) ∧
      (file.readPair.2.2.BlockFits ↔ file.NextBlockFits) := by
  have hfits : file.BlockFits := by
    refine hrun.invariant (blockFits_readHeader hheader) ?_
    intro file next _ h hnext hstep
    obtain rfl := Option.some.inj hstep
    exact (blockFits_readPair_iff h).mpr hnext
  refine ⟨hfits, ?_, blockFits_readPair_iff hfits⟩
  intro buffer hbuffer
  exact readPair_congr hfits hbuffer

/-- A file that was opened, before its header is read. -/
def opened (content : List UInt8) : LFRFIDRawFile where
  stream := ⟨content, 0, File.zero_le_length content⟩
  maxBufferSize := 0
  buffer := fun _ => 0
  bufferSize := 0
  bufferCounter := 0

/-- A header with a buffer of two bytes. -/
def smallHeader : List UInt8 :=
  [0x52, 0x49, 0x46, 0x4C, 1, 0, 0, 0, 0, 0, 0, 0, 0, 0, 0, 0, 2, 0, 0, 0]

/-- One block of two bytes, read once. -/
theorem reads_blockFits_small :
    let start := ((opened (smallHeader ++ [2, 0, 0, 0, 1, 2])).readHeader fun _ => 0).2
    start.readPair.1 = some (2, 1) ∧ start.readPair.2.2.BlockFits := by
  intro start
  have hheader : (opened (smallHeader ++ [2, 0, 0, 0, 1, 2])).readHeader (fun _ => 0) =
      (some (0, 0), start) := rfl
  have hnext : start.NextBlockFits := by decide
  refine ⟨by decide, ?_⟩
  exact (reads_blockFits hheader (.step (e := ()) .refl hnext rfl)).1

/-- Behind a block of two bytes stands a block of five, more than the buffer takes. The call that
reads its size returns false, and the next one decodes the memory behind the buffer. -/
theorem reads_blockFits_corrupt :
    let raw := opened (smallHeader ++ [2, 0, 0, 0, 1, 2, 5, 0, 0, 0])
    let start := (raw.readHeader fun _ => 7).2
    let file := start.readPair.2.2.readPair.2.2
    raw.readHeader (fun _ => 7) = (some (0, 0), start) ∧
      reads.Reaches (fun _ _ => True) start file ∧ ¬ file.BlockFits ∧
      file.readPair.1 = some (7, 7) := by
  intro raw start file
  have hheader : (raw.readHeader fun _ => 7).1 = some (0, 0) := by decide
  refine ⟨Prod.ext hheader rfl, ?_, by decide, by decide⟩
  exact .step (e := ()) (.step (e := ()) .refl trivial rfl) trivial rfl

end LFRFIDRawFile

end FlipperZero
