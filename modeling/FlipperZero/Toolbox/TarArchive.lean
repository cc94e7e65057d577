import FlipperZero.Foundation.Loop
import FlipperZero.Foundation.Memory
import FlipperZero.Storage.FilesystemApi

/-!
# Extracting the files of a tar archive

`archive_extract_current_file` copies the data of an entry into a file, a block at a time. The
reading of the archive is a library and is a parameter, with what it documents: a call returns the
count of bytes it has put into the buffer, or a negative code. What the storage does is a parameter
as well; a write may fail or be short, and closing the file may fail.
-/

namespace FlipperZero

open Foundation

/-- The calls of the library on an entry: whether its data has been read, and the next bytes of
it. -/
structure Mtar (σ : Type) where
  eofData : σ → Bool
  readData : σ → Nat → Int × List (BitVec 8) × σ
  /-- The data of the entry that is not read yet. -/
  remaining : σ → List (BitVec 8)
  eofData_iff : ∀ tar, eofData tar = true ↔ remaining tar = []
  readData_count : ∀ tar size, (readData tar size).1 < 0 ∨
    (readData tar size).1 = (readData tar size).2.1.length ∧
      (readData tar size).2.1.length ≤ size ∧
      remaining tar = (readData tar size).2.1 ++ remaining (readData tar size).2.2

/-- The storage under the file that is written: `storage_file_open`, `storage_file_write` of a number
of bytes, which returns how many of them it has written, and `storage_file_close`. -/
structure TarStorage (τ : Type) where
  fileOpen : τ → Bool × τ
  fileWrite : τ → Nat → Nat × τ
  fileClose : τ → StorageFileClose (List (BitVec 8)) × τ
  fileWrite_le : ∀ storage size, (fileWrite storage size).1 ≤ size

/-! ### Extraction -/

/-- `FILE_BLOCK_SIZE`. -/
def tarFileBlockSize : Nat := 10 * 1024

/-- `FILE_OPEN_NTRIES`. -/
def tarFileOpenNtries : Nat := 10

/-- One write: the bytes that the read before it has got from the archive, and those written. -/
structure TarBlock where
  got : List (BitVec 8)
  put : List (BitVec 8)

/-- The variables of `archive_extract_current_file`, with the blocks written so far. -/
structure TarExtraction (σ τ : Type) where
  tar : σ
  storage : τ
  readbuf : Memory
  blocks : List TarBlock

/-- What was written to the file. -/
def TarExtraction.content {σ τ : Type} (s : TarExtraction σ τ) : List (BitVec 8) :=
  s.blocks.flatMap (·.put)

section
variable {σ τ : Type} (mtar : Mtar σ) (store : TarStorage τ)

def tarOpenTries : Nat → τ → Bool × τ
  | 0, storage           => (false, storage)
  | nTries + 1, storage =>
    let opened := store.fileOpen storage
    if opened.1 then opened else tarOpenTries nTries opened.2

/-- The size that a count is passed on as, an unsigned number of 32 bits. -/
def tarWriteSize (readcnt : Int) : Nat := (readcnt % 2 ^ 32).toNat

/-- One round of the loop that copies. -/
def archiveExtractRound (s : TarExtraction σ τ) :
    Round (TarExtraction σ τ) (Bool × TarExtraction σ τ) :=
  if mtar.eofData s.tar then .leave (true, s)
  else
    let read := mtar.readData s.tar tarFileBlockSize
    let readbuf := s.readbuf.copy 0 read.2.1
    let s := { s with tar := read.2.2, readbuf }
    if read.1 = 0 then .leave (false, s)
    else
      let written := store.fileWrite s.storage (tarWriteSize read.1)
      let s := { s with
        storage := written.2
        blocks := s.blocks ++ [⟨read.2.1, (List.range written.1).map readbuf⟩] }
      if written.1 = 0 then .leave (false, s) else .again s

/-- `storage_file_free` of the open file, which drops what closing it returns: the content that the
file is left with. -/
def tarFileFree (s : TarExtraction σ τ) : Option (List (BitVec 8)) × TarExtraction σ τ :=
  let close := store.fileClose s.storage
  (close.1.content (some s.content), { s with storage := close.2 })

/-- `archive_extract_current_file`, with a bound on the rounds of its loop: what it returns, and the
content of the file, when there is one. -/
def archiveExtractCurrentFile (rounds : Nat) (tar : σ) (storage : τ) :
    Option (Bool × Option (List (BitVec 8)) × TarExtraction σ τ) :=
  let opened := tarOpenTries store tarFileOpenNtries storage
  let s : TarExtraction σ τ := ⟨tar, opened.2, fun _ => 0, []⟩
  if !opened.1 then some (false, none, s)
  else
    (loop (archiveExtractRound mtar store) rounds s).map fun (success, s) =>
      (success, tarFileFree store s)

/-! ### What an extraction is to do -/

/-- The extraction of an entry ends, writes only what it has got from the archive, and returns true
only when the file is the entry. -/
def TarExtracts (tar : σ) (storage : τ) : Prop :=
  ∃ rounds success content s,
    archiveExtractCurrentFile mtar store rounds tar storage = some (success, content, s) ∧
    (∀ block ∈ s.blocks, block.put <+: block.got) ∧
    (success = true → content = some (mtar.remaining tar))

/-- The state is reached by rounds of the loop that copies. -/
inductive TarReached (start : TarExtraction σ τ) : TarExtraction σ τ → Prop where
  | refl : TarReached start start
  | again {s s' : TarExtraction σ τ} (h : TarReached start s)
      (hround : archiveExtractRound mtar store s = .again s') : TarReached start s'

/-- The read of a round does not fail, and its write writes all of the bytes or none. -/
def TarRoundClean (s : TarExtraction σ τ) : Prop :=
  0 ≤ (mtar.readData s.tar tarFileBlockSize).1 ∧
    ((store.fileWrite s.storage (mtar.readData s.tar tarFileBlockSize).2.1.length).1 = 0 ∨
      (store.fileWrite s.storage (mtar.readData s.tar tarFileBlockSize).2.1.length).1 =
        (mtar.readData s.tar tarFileBlockSize).2.1.length)

/-- When the file can be opened, all rounds of an extraction are clean, and at the end of the data the
file can be closed. -/
def TarClean (tar : σ) (storage : τ) : Prop :=
  (tarOpenTries store tarFileOpenNtries storage).1 = true → ∀ s,
    TarReached mtar store ⟨tar, (tarOpenTries store tarFileOpenNtries storage).2, fun _ => 0, []⟩ s →
      if mtar.eofData s.tar then (store.fileClose s.storage).1 = .closed
      else TarRoundClean mtar store s

/-- A run of `tar_archive_unpack_to` through `mtar_foreach`: the regular files that the callback
extracts, and the code that comes back. The library returns success only when no callback has
returned an error. -/
structure TarUnpack where
  files : List (σ × τ)
  result : Int
  result_zero : result = 0 → ∀ file ∈ files, ∀ rounds success content s,
    archiveExtractCurrentFile mtar store rounds file.1 file.2 = some (success, content, s) →
      success = true

def tarArchiveUnpackTo (unpack : TarUnpack mtar store) : Bool := unpack.result == 0

end

/-! ### Clean rounds -/

variable {σ τ : Type} {mtar : Mtar σ} {store : TarStorage τ} {s s' : TarExtraction σ τ}

/-- What holds while an entry is copied by clean rounds. -/
structure TarCopying (mtar : Mtar σ) (data : List (BitVec 8)) (s : TarExtraction σ τ) : Prop where
  blocks : ∀ block ∈ s.blocks, block.put <+: block.got
  content : s.content ++ mtar.remaining s.tar = data

/-- The bytes that have been copied to the beginning of a buffer. -/
lemma map_copy_range (mem : Memory) (bytes : List (BitVec 8)) :
    (List.range bytes.length).map (mem.copy 0 bytes) = bytes := by
  apply List.ext_getElem
  · simp
  · intro i hi hi'
    rw [List.getElem_map, List.getElem_range, Memory.copy, if_pos ⟨Nat.zero_le i, by omega⟩,
      Nat.sub_zero, List.getD_eq_getElem _ _ hi']

lemma archiveExtractRound_clean {data : List (BitVec 8)} (hs : TarCopying mtar data s)
    (hclean : if mtar.eofData s.tar then (store.fileClose s.storage).1 = .closed
      else TarRoundClean mtar store s) :
    (archiveExtractRound mtar store s).Meets (TarCopying mtar data)
      (fun s => (mtar.remaining s.tar).length)
      (fun r => (∀ block ∈ r.2.blocks, block.put <+: block.got) ∧
        (r.1 = true → (tarFileFree store r.2).1 = some data)) (mtar.remaining s.tar).length := by
  rw [archiveExtractRound]
  split
  next heof =>
    refine ⟨hs.blocks, fun _ => ?_⟩
    have hdata := hs.content
    rw [(mtar.eofData_iff s.tar).mp heof, List.append_nil] at hdata
    rw [if_pos heof] at hclean
    show (store.fileClose s.storage).1.content (some s.content) = some data
    rw [hclean, hdata]
    rfl
  next heof =>
  rw [if_neg heof] at hclean
  obtain ⟨hread, hwrite⟩ := hclean
  obtain ⟨hcount, -, hremaining⟩ :=
    (mtar.readData_count s.tar tarFileBlockSize).resolve_left (Int.not_lt.mpr hread)
  have hle := (mtar.readData_count s.tar tarFileBlockSize).resolve_left (Int.not_lt.mpr hread)
  dsimp only
  split
  · exact ⟨hs.blocks, nofun⟩
  next hne =>
  have hsize : tarWriteSize (mtar.readData s.tar tarFileBlockSize).1 =
      (mtar.readData s.tar tarFileBlockSize).2.1.length := by
    have hblock : tarFileBlockSize < 2 ^ 32 := by decide
    have hlen := hle.2.1
    rw [tarWriteSize, hcount]
    omega
  rw [hsize]
  rcases hwrite with hzero | hall
  · rw [if_pos hzero, hzero]
    refine ⟨fun block hblock => ?_, nofun⟩
    rcases List.mem_append.mp hblock with hblock | hblock
    · exact hs.blocks block hblock
    · obtain rfl := List.mem_singleton.mp hblock
      exact List.nil_prefix
  · rw [if_neg (by rw [hall]; omega), hall, map_copy_range]
    refine ⟨⟨fun block hblock => ?_, ?_⟩, ?_⟩
    · rcases List.mem_append.mp hblock with hblock | hblock
      · exact hs.blocks block hblock
      · obtain rfl := List.mem_singleton.mp hblock
        exact List.prefix_rfl
    · have hdata := hs.content
      rw [hremaining, ← List.append_assoc] at hdata
      rw [TarExtraction.content, List.flatMap_append, List.flatMap_singleton]
      exact hdata
    · show (mtar.remaining (mtar.readData s.tar tarFileBlockSize).2.2).length < _
      rw [hremaining, List.length_append]
      omega

variable {tar : σ} {storage : τ}

/-- An extraction whose rounds are clean ends as it should. -/
theorem archiveExtractCurrentFile_clean (h : TarClean mtar store tar storage) :
    TarExtracts mtar store tar storage := by
  by_cases hopened : (tarOpenTries store tarFileOpenNtries storage).1 = true
  · have hbody : ∀ s, TarReached mtar store
        ⟨tar, (tarOpenTries store tarFileOpenNtries storage).2, fun _ => 0, []⟩ s ∧
          TarCopying mtar (mtar.remaining tar) s →
        (archiveExtractRound mtar store s).Meets (fun s => TarReached mtar store
            ⟨tar, (tarOpenTries store tarFileOpenNtries storage).2, fun _ => 0, []⟩ s ∧
              TarCopying mtar (mtar.remaining tar) s)
          (fun s => (mtar.remaining s.tar).length)
          (fun r => (∀ block ∈ r.2.blocks, block.put <+: block.got) ∧
            (r.1 = true → (tarFileFree store r.2).1 = some (mtar.remaining tar)))
          (mtar.remaining s.tar).length := by
      rintro s ⟨hreached, hcopying⟩
      have hround := archiveExtractRound_clean hcopying (h hopened s hreached)
      cases hs : archiveExtractRound mtar store s with
      | again s' =>
        rw [hs] at hround
        exact ⟨⟨hreached.again hs, hround.1⟩, hround.2⟩
      | leave r =>
        rw [hs] at hround
        exact hround
    obtain ⟨⟨success, s⟩, hloop, hblocks, hcontent⟩ := loop_total hbody
      ⟨.refl, ⟨nofun, rfl⟩⟩ (Nat.lt_succ_self _)
    refine ⟨(mtar.remaining tar).length + 1, success, (tarFileFree store s).1,
      (tarFileFree store s).2, ?_, hblocks, hcontent⟩
    rw [archiveExtractCurrentFile, hopened, Bool.not_true, if_neg Bool.false_ne_true, hloop]
    rfl
  · refine ⟨0, false, none, ⟨tar, (tarOpenTries store tarFileOpenNtries storage).2, fun _ => 0, []⟩,
      ?_, nofun, nofun⟩
    rw [archiveExtractCurrentFile, Bool.eq_false_iff.mpr hopened, Bool.not_false, if_pos rfl]

/-- The result of an extraction does not depend on the bound. -/
lemma archiveExtractCurrentFile_unique {m n : Nat}
    {r r' : Bool × Option (List (BitVec 8)) × TarExtraction σ τ}
    (h : archiveExtractCurrentFile mtar store m tar storage = some r)
    (h' : archiveExtractCurrentFile mtar store n tar storage = some r') : r = r' := by
  rw [archiveExtractCurrentFile] at h h'
  split at h
  · rw [if_pos ‹_›] at h'
    exact Option.some.inj (h.symm.trans h')
  · rw [if_neg ‹_›] at h'
    obtain ⟨a, ha, rfl⟩ := Option.map_eq_some_iff.mp h
    obtain ⟨b, hb, rfl⟩ := Option.map_eq_some_iff.mp h'
    have heq : a = b := Option.some.inj ((loop_mono ha (Nat.le_max_left m n)).symm.trans
      (loop_mono hb (Nat.le_max_right m n)))
    rw [heq]

/-- An archive that is read without a failure, up to a block at a time. -/
def listMtar : Mtar (List (BitVec 8)) where
  eofData := List.isEmpty
  readData data size := ((data.take size).length, data.take size, data.drop size)
  remaining data := data
  eofData_iff _ := List.isEmpty_iff
  readData_count data size :=
    .inr ⟨rfl, List.length_take_le _ _, (List.take_append_drop size data).symm⟩

/-- A storage that writes up to `n` bytes, and closes files. -/
def shortStorage (n : Nat) : TarStorage Unit where
  fileOpen _ := (true, ())
  fileWrite _ size := (min size n, ())
  fileClose _ := (.closed, ())
  fileWrite_le _ size := Nat.min_le_left size n

lemma archiveExtractCurrentFile_four (n : Nat) (hn : n = 2 ∨ n = tarFileBlockSize) : ∃ s,
    archiveExtractCurrentFile listMtar (shortStorage n) 2 [1, 2, 3, 4] () =
      some (true, some (if n = 2 then [1, 2] else [1, 2, 3, 4]), s) := by
  have hmap : ((archiveExtractCurrentFile listMtar (shortStorage n) 2 [1, 2, 3, 4] ()).map
      fun r => (r.1, r.2.1)) = some (true, some (if n = 2 then [1, 2] else [1, 2, 3, 4])) := by
    rcases hn with rfl | rfl <;> decide +kernel
  obtain ⟨⟨success, content, s⟩, hcall, hpair⟩ := Option.map_eq_some_iff.mp hmap
  obtain ⟨rfl, rfl⟩ := Prod.mk.inj hpair
  exact ⟨s, hcall⟩

/-- An archive of one entry that is unpacked in full. -/
def fourBytesUnpack : TarUnpack listMtar (shortStorage tarFileBlockSize) where
  files := [([1, 2, 3, 4], ())]
  result := 0
  result_zero := by
    rintro - file hfile rounds success content s hcall
    obtain rfl := List.mem_singleton.mp hfile
    obtain ⟨s', hcall'⟩ := archiveExtractCurrentFile_four tarFileBlockSize (.inr rfl)
    exact congrArg Prod.fst (archiveExtractCurrentFile_unique hcall hcall')

end FlipperZero
