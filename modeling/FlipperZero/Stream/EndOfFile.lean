import FlipperZero.Stream.Refinement

/-!
# The end of a buffered file stream

`BufferedFileStream.eof` against the position and the size, in every state that calls can
reach. The invariant does not depend on what the file contains, so it also holds after calls
that `CallSafe` excludes.
-/

namespace FlipperZero

open Foundation

/-- Bytes read ahead lie before the file position, and a pending write is not empty. -/
structure CachePlaced (b : BufferedFileStream) : Prop where
  reading : b.syncPending = false → b.cache.data.length ≤ b.file.pos
  writing : b.syncPending = true → b.cache.data ≠ []

namespace CachePlaced

variable {b : BufferedFileStream}

lemma of_empty (f : File) : CachePlaced ⟨f, .empty, false⟩ where
  reading _ := Nat.zero_le _
  writing h := absurd h Bool.false_ne_true

/-- A call that only moves the cache position keeps the cache in its place. -/
lemma withCache (h : CachePlaced b) {c : StreamCache} (hc : c.data = b.cache.data) :
    CachePlaced { b with cache := c } where
  reading hp := by rw [hc]; exact h.reading hp
  writing hp := by rw [hc]; exact h.writing hp

/-! ### Leaving the cache -/

lemma flush (b : BufferedFileStream) : CachePlaced b.flush.2 := by
  simp only [BufferedFileStream.flush, StreamCache.flush_eq, Bool.not_true, Bool.false_eq_true,
    if_false]
  split_ifs <;> exact of_empty _

lemma sync (h : CachePlaced b) : CachePlaced b.sync.2 := by
  simp only [BufferedFileStream.sync]
  split_ifs
  · exact flush b
  · exact h

lemma unread (hp : b.syncPending = false) : ∃ f, b.unread.2 = ⟨f, .empty, false⟩ := by
  simp only [BufferedFileStream.unread, hp]
  split_ifs with hne
  · exact ⟨_, rfl⟩
  · exact ⟨_, rfl⟩
  · have hempty : b.cache = .empty := by
      have := b.cache.position_le
      exact StreamCache.ext (List.length_eq_zero_iff.mp (by omega)) (by simp; omega)
    exact ⟨b.file, by rw [← hempty, ← hp]⟩

lemma seekFile (b : BufferedFileStream) (off : Int) (kind : StreamOffset) :
    CachePlaced (b.seekFile off kind).2 := by
  simp only [BufferedFileStream.seekFile]
  by_cases hp : b.syncPending
  · obtain ⟨f, hf⟩ : ∃ f, b.sync.2 = ⟨f, .empty, false⟩ := by
      simp only [BufferedFileStream.sync, hp, if_true, BufferedFileStream.flush,
        StreamCache.flush_eq, Bool.not_true, Bool.false_eq_true, if_false]
      split_ifs <;> exact ⟨_, rfl⟩
    simp only [hp, if_true, hf]
    split_ifs <;> exact of_empty _
  · have hfalse : b.syncPending = false := by simpa using hp
    simp only [hfalse, Bool.false_eq_true, if_false, if_true]
    exact of_empty _

lemma seek (h : CachePlaced b) (off : Int) (kind : StreamOffset) :
    CachePlaced (b.seek off kind).2 := by
  cases kind with
  | fromCurrent =>
    have hmoved := h.withCache (StreamCache.seek_data b.cache off)
    simp only [BufferedFileStream.seek]
    split_ifs <;> first | exact seekFile _ _ _ | exact hmoved
  | fromStart | fromEnd => exact seekFile b _ _

/-! ### Writing and reading -/

lemma writeLoop (b : BufferedFileStream) {d : List UInt8} (hd : d ≠ []) :
    CachePlaced (b.writeLoop d).2 := by
  fun_induction BufferedFileStream.writeLoop b d with
  | case1 => exact absurd rfl hd
  | case2 b d hne written cache hdone =>
    refine ⟨fun h => absurd h.symm Bool.false_ne_true, fun _ => ?_⟩
    have hpos := List.length_pos_iff.mpr hne
    have hfull := List.drop_eq_nil_iff.mp hdone
    have hle := (b.cache.write d).2.position_le
    simp only [written, StreamCache.write_fst, StreamCache.write_position] at hfull hle
    refine List.length_pos_iff.mp ?_
    show 0 < (b.cache.write d).2.data.length
    omega
  | case3 b d hne written cache hmore r hflush ih => exact ih hmore
  | case4 b d hne written cache hmore r hflush => exact absurd (by simp [r]) hflush

lemma write (h : CachePlaced b) (d : List UInt8) : CachePlaced (b.write d).2 := by
  have hready : CachePlaced (if b.syncPending then (true, b) else b.unread).2 := by
    split_ifs with hp
    · exact h
    · obtain ⟨f, hf⟩ := unread (by simpa using hp)
      rw [hf]
      exact of_empty f
  unfold BufferedFileStream.write
  revert hready
  generalize (if b.syncPending then (true, b) else b.unread) = r
  intro hready
  obtain ⟨success, b'⟩ := r
  cases success with
  | false => exact hready
  | true =>
    by_cases hd : d = []
    · subst hd
      show CachePlaced (b'.writeLoop []).2
      rw [BufferedFileStream.writeLoop, if_pos rfl]
      exact hready
    · exact writeLoop b' hd

/-- Reading ahead leaves the file position behind what was read. -/
lemma refill (h : CachePlaced b) : CachePlaced b.refill.2 := by
  have hfill : ∀ (g : BufferedFileStream), g.syncPending = false →
      CachePlaced { g with
        cache := (StreamCache.fill g.file).2.1, file := (StreamCache.fill g.file).2.2 } := by
    intro g hp
    refine ⟨fun _ => ?_, fun ht => absurd (hp.symm.trans ht) Bool.false_ne_true⟩
    simp only [StreamCache.fill_data, StreamCache.fill_file, File.read_pos, List.length_take,
      List.length_drop]
    omega
  have hflush : b.flush.2.syncPending = false := by
    simp only [BufferedFileStream.flush, StreamCache.flush_eq, Bool.not_true,
      Bool.false_eq_true, if_false]
    split_ifs <;> rfl
  simp only [BufferedFileStream.refill]
  split_ifs with hp hok
  · exact hfill _ hflush
  · exact flush b
  · exact hfill b (by simpa using hp)
  · exact h

lemma read (h : CachePlaced b) (n : Nat) : CachePlaced (b.read n).2 := by
  fun_induction BufferedFileStream.read b n with
  | case1 => exact h
  | case2 b n hn bytes b' hdone => exact h.withCache (StreamCache.read_data b.cache n)
  | case3 b n hn bytes b' hmore hfill r ih =>
    exact ih (h.withCache (StreamCache.read_data b.cache n)).refill
  | case4 b n hn bytes b' hmore hempty =>
    exact (h.withCache (StreamCache.read_data b.cache n)).refill

/-! ### Runs -/

lemma step (h : CachePlaced b) (c : StreamCall) : CachePlaced (bufferedFileStream.step b c).2 := by
  cases c with
  | read n => exact h.read n
  | write d => exact h.write d
  | seek off kind => exact h.seek _ kind
  | tell => exact h
  | size => exact h
  | sync => exact h.sync

/-- The cache is in its place after every run, from every file. -/
theorem run (f : File) (calls : List StreamCall) :
    CachePlaced (bufferedFileStream.final (.opened f) calls) :=
  (Mealy.along_true (M := bufferedFileStream)).invariant (fun _ c h _ => h.step c) (of_empty f)

end CachePlaced

/-! ### Position and size -/

variable {b : BufferedFileStream}

lemma CachePlaced.tell (h : CachePlaced b) (hfit : b.totalSize < 4294967296) :
    b.tell = b.position := by
  have hfile := b.file.pos_le
  have hcache := b.cache.position_le
  simp only [BufferedFileStream.totalSize] at hfit
  simp only [BufferedFileStream.tell, BufferedFileStream.position]
  split_ifs at hfit ⊢ with hp
  · have htell : b.file.tell = b.file.pos := asUInt32_of_lt (by omega)
    exact asUInt32_eq (by omega) (by omega)
  · have hread := h.reading (by simpa using hp)
    have htell : b.file.tell = b.file.pos := asUInt32_of_lt (by omega)
    exact asUInt32_eq (by omega) (by omega)

lemma BufferedFileStream.size_eq_totalSize (hfit : b.totalSize < 4294967296) :
    b.size = b.totalSize := by
  have hfile := b.file.pos_le
  have hlen : b.file.content.length < 4294967296 := by
    simp only [BufferedFileStream.totalSize] at hfit
    split_ifs at hfit <;> omega
  have hsize : b.file.size = b.file.content.length := asUInt32_of_lt hlen
  have htell : b.file.tell = b.file.pos := asUInt32_of_lt (by omega)
  have hremaining : asUInt32 (b.file.content.length - b.file.pos) =
      b.file.content.length - b.file.pos := asUInt32_eq (by omega) (by omega)
  simp only [BufferedFileStream.totalSize] at hfit
  simp only [BufferedFileStream.size, BufferedFileStream.totalSize, hsize, htell, hremaining]
  by_cases hp : b.syncPending = true
  · simp only [hp, if_true] at hfit ⊢
    split_ifs with hgrow
    · exact asUInt32_eq (by omega) hfit
    · omega
  · simp only [hp, Bool.false_eq_true, if_false]

lemma BufferedFileStream.position_le_totalSize : b.position ≤ b.totalSize := by
  have hfile := b.file.pos_le
  have hcache := b.cache.position_le
  simp only [BufferedFileStream.position, BufferedFileStream.totalSize]
  split_ifs <;> omega

lemma CachePlaced.eof_reading (h : CachePlaced b) (hp : b.syncPending = false) :
    b.eof = true ↔ b.position = b.totalSize := by
  have hle := h.reading hp
  have hfile := b.file.pos_le
  have hcache := b.cache.position_le
  simp only [BufferedFileStream.eof, BufferedFileStream.position, BufferedFileStream.totalSize,
    hp, File.eof, StreamCache.atEnd, Bool.not_false, if_true, Bool.false_eq_true, if_false,
    Bool.and_eq_true, beq_iff_eq]
  omega

/-- With a write pending the cache holds at least one byte, so the size always reaches the
boolean it is compared with. -/
lemma CachePlaced.eof_writing (h : CachePlaced b) (hp : b.syncPending = true) :
    b.eof = true := by
  have hpos := List.length_pos_iff.mpr (h.writing hp)
  simp only [BufferedFileStream.eof, hp, Bool.not_true, Bool.false_eq_true, if_false,
    decide_eq_true_eq]
  exact Nat.le_trans (Bool.toNat_le _) hpos

/-- In every state that a run of calls reaches, the buffered stream reports its end at the
positions the plain streams do if and only if no write is pending, or the position stands at
the end of what will be the file. -/
theorem bufferedFileStream_eof_iff (f : File) (calls : List StreamCall)
    (hfit : (bufferedFileStream.final (.opened f) calls).totalSize < 4294967296) :
    let b := bufferedFileStream.final (.opened f) calls
    (b.eof = true ↔ b.size ≤ b.tell) ↔ (b.syncPending = true → b.position = b.totalSize) := by
  intro b
  have hplaced : CachePlaced b := .run f calls
  have hend : b.size ≤ b.tell ↔ b.position = b.totalSize := by
    have hle := b.position_le_totalSize
    rw [BufferedFileStream.size_eq_totalSize hfit, hplaced.tell hfit]
    exact ⟨fun h => Nat.le_antisymm hle h, fun h => Nat.le_of_eq h.symm⟩
  rw [hend]
  cases hp : b.syncPending with
  | false => simpa using hplaced.eof_reading hp
  | true => simp [hplaced.eof_writing hp]

/-- A pending write that ends at the end of the file. -/
theorem bufferedFileStream_eof_iff_append :
    let b := bufferedFileStream.final (.opened ⟨[1, 2], 0, by decide⟩) [.read 1, .write [7, 8]]
    b.totalSize < 4294967296 ∧
      ((b.eof = true ↔ b.size ≤ b.tell) ↔ (b.syncPending = true → b.position = b.totalSize)) := by
  intro b
  have hfit : b.totalSize < 4294967296 := by decide +kernel
  exact ⟨hfit, bufferedFileStream_eof_iff ⟨[1, 2], 0, by decide⟩ _ hfit⟩

/-- One byte is written at the start of a 10-byte file: the stream reports its end at
position 1. -/
theorem bufferedFileStream_eof_pending :
    let f : File := ⟨List.replicate 10 0, 0, by decide⟩
    let b := bufferedFileStream.final (.opened f) [.write [1]]
    b.eof = true ∧ b.tell = 1 ∧ b.size = 10 := by
  decide +kernel

end FlipperZero
