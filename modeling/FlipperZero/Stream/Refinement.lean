import FlipperZero.Stream.BufferedFileStream

/-!
# The cache of a buffered file stream is invisible

`Represents b f` relates a buffered stream to the file a plain stream would have: with nothing
pending the cache is a window that ends at the file position, with a write pending it is a
segment that still has to be written over the file. Every call keeps the relation and gives
the reply of the plain stream, with two exceptions that `CallSafe` excludes:

* a relative seek that leaves the cache backwards while a write is pending. The flush already
  moves the file position back to the start of the cache, and the seek subtracts the cache size
  once more;
* a position that the `int32_t` casts of the file seek cannot address, when the buffered stream
  has to seek back over its cache, or answers from the cache what the file would refuse.
-/

namespace FlipperZero

open Foundation

/-! ### The file behind a buffered stream -/

/-- The cache is a window over the file that ends at the file position. -/
structure ReadWindow (b : BufferedFileStream) (f : File) : Prop where
  content : f.content = b.file.content
  pos : f.pos + b.cache.data.length = b.file.pos + b.cache.position
  window : f.content.drop (b.file.pos - b.cache.data.length) =
    b.cache.data ++ f.content.drop b.file.pos
  size_le : b.cache.data.length ≤ b.file.pos

/-- The cache is a segment to be written over the file at the file position. -/
structure WriteSegment (b : BufferedFileStream) (f : File) : Prop where
  content : f.content = overwrite b.file.content b.file.pos b.cache.data
  pos : f.pos = b.file.pos + b.cache.position

/-- The buffered stream `b` stands for the plain file `f`. -/
structure Represents (b : BufferedFileStream) (f : File) : Prop where
  size_lt : f.content.length < 4294967296
  reading : b.syncPending = false → ReadWindow b f
  writing : b.syncPending = true → WriteSegment b f ∧ b.cache.data ≠ []

namespace BufferedFileStream

/-- The position a user of the stream is at. -/
def position (b : BufferedFileStream) : Nat :=
  if b.syncPending then b.file.pos + b.cache.position
  else b.file.pos + b.cache.position - b.cache.data.length

/-- The size of the file once everything pending is written. -/
def totalSize (b : BufferedFileStream) : Nat :=
  if b.syncPending then max b.file.content.length (b.file.pos + b.cache.data.length)
  else b.file.content.length

/-- A target relative to the position lies in the cache. -/
def InCache (b : BufferedFileStream) (offset : Int) : Prop :=
  -(b.cache.position : Int) ≤ offset ∧ offset ≤ b.cache.data.length - b.cache.position

instance (b : BufferedFileStream) (offset : Int) : Decidable (b.InCache offset) :=
  inferInstanceAs (Decidable (_ ∧ _))

/-- The stream can seek back over the part of the cache behind its position. -/
def CanStepBack (b : BufferedFileStream) : Prop :=
  b.cache.position < b.cache.data.length → Addressable b.totalSize b.position

instance (b : BufferedFileStream) : Decidable b.CanStepBack :=
  inferInstanceAs (Decidable (_ → _))

end BufferedFileStream

/-- The conditions on a call and the state before it under which the cache stays invisible. -/
def CallSafe (b : BufferedFileStream) : StreamCall → Prop
  | .write d =>
    b.position + d.length < 4294967296 ∧ (b.syncPending = false → b.CanStepBack)
  | .seek off .fromCurrent =>
    (b.InCache off.toInt → Addressable b.totalSize (b.position + off.toInt).toNat) ∧
      (b.syncPending = true → off.toInt < -(b.cache.position : Int) →
        b.position + off.toInt < 0 ∧
          -2147483648 ≤ b.position + off.toInt - b.cache.data.length ∧
          Addressable b.totalSize (b.position - b.cache.position))
  | .seek _ .fromStart | .seek _ .fromEnd | .sync => b.syncPending = true → b.CanStepBack
  | .read _ | .tell | .size => True

instance (b : BufferedFileStream) : ∀ c : StreamCall, Decidable (CallSafe b c)
  | .write _ => inferInstanceAs (Decidable (_ ∧ _))
  | .seek _ .fromCurrent => inferInstanceAs (Decidable (_ ∧ _))
  | .seek _ .fromStart => inferInstanceAs (Decidable (_ → _))
  | .seek _ .fromEnd => inferInstanceAs (Decidable (_ → _))
  | .sync => inferInstanceAs (Decidable (_ → _))
  | .read _ | .tell | .size => .isTrue trivial

variable {b : BufferedFileStream} {f : File}

lemma ReadWindow.represents (h : ReadWindow b f) (hp : b.syncPending = false)
    (hlen : f.content.length < 4294967296) : Represents b f where
  size_lt := hlen
  reading _ := h
  writing ht := absurd (hp.symm.trans ht) Bool.false_ne_true

lemma WriteSegment.represents (h : WriteSegment b f) (hp : b.syncPending = true)
    (hne : b.cache.data ≠ []) (hlen : f.content.length < 4294967296) : Represents b f where
  size_lt := hlen
  reading hf := absurd (hf.symm.trans hp) Bool.false_ne_true
  writing _ := ⟨h, hne⟩

lemma ReadWindow.of_empty (f : File) (pending : Bool) :
    ReadWindow ⟨f, .empty, pending⟩ f where
  content := rfl
  pos := by simp
  window := by simp
  size_le := Nat.zero_le _

lemma WriteSegment.of_empty (f : File) (pending : Bool) :
    WriteSegment ⟨f, .empty, pending⟩ f where
  content := by simp
  pos := by simp

lemma Represents.opened (hlen : f.content.length < 4294967296) :
    Represents (.opened f) f :=
  (ReadWindow.of_empty f false).represents rfl hlen

lemma Represents.position_eq (h : Represents b f) : b.position = f.pos := by
  simp only [BufferedFileStream.position]
  cases hp : b.syncPending with
  | false => have := (h.reading hp).pos; simp only [Bool.false_eq_true, if_false]; omega
  | true => simp [(h.writing hp).1.pos]

lemma Represents.totalSize_eq (h : Represents b f) : b.totalSize = f.content.length := by
  simp only [BufferedFileStream.totalSize]
  cases hp : b.syncPending with
  | false => simp [(h.reading hp).content]
  | true => simp [(h.writing hp).1.content, length_overwrite b.file.pos_le]

lemma Represents.canStepBack (h : Represents b f) (hb : b.CanStepBack)
    (hlt : b.cache.position < b.cache.data.length) : Addressable f.content.length f.pos := by
  rw [← h.totalSize_eq, ← h.position_eq]
  exact hb hlt

/-! ### Flushing and forgetting the cache -/

lemma Represents.flush (h : Represents b f) (hp : b.syncPending = true) (hb : b.CanStepBack) :
    b.flush = (true, ⟨f, .empty, false⟩) := by
  obtain ⟨⟨hcontent, hpos⟩, -⟩ := h.writing hp
  have hle := b.cache.position_le
  have hcache := b.cache.data_le
  have hmax : streamCacheMaxSize = 1024 := rfl
  have hoff : asInt32 (b.cache.data.length - b.cache.position) =
      b.cache.data.length - b.cache.position := asInt32_of_bounds (by omega) (by omega)
  simp only [BufferedFileStream.flush, StreamCache.flush_eq, hoff, Bool.not_true,
    Bool.false_eq_true, if_false]
  split_ifs with hlt
  · have hseek : fileStreamSeek (b.file.write b.cache.data).2
        (-(b.cache.data.length - b.cache.position)) .fromCurrent =
          (true, (b.file.write b.cache.data).2.seek f.pos) := by
      refine fileStreamSeek_current ?_ ?_ ?_ ?_
      · rw [File.write_content, ← hcontent]; exact h.size_lt
      · rw [File.write_pos]; omega
      · rw [File.write_content, ← hcontent]; exact f.pos_le
      · rw [File.write_content, ← hcontent]; exact h.canStepBack hb (by omega)
    rw [hseek]
    have hfile : (b.file.write b.cache.data).2.seek f.pos = f :=
      File.ext hcontent.symm (by
        simp only [File.seek, File.write_content, ← hcontent]
        exact Nat.min_eq_left f.pos_le)
    rw [hfile]
  · have hfile : (b.file.write b.cache.data).2 = f :=
      File.ext hcontent.symm (by rw [File.write_pos]; omega)
    rw [hfile]

/-- Forgetting the bytes read ahead leaves the plain file, also in its position. -/
lemma Represents.unread (h : Represents b f) (hp : b.syncPending = false)
    (hb : b.CanStepBack) : b.unread = (true, ⟨f, .empty, false⟩) := by
  obtain ⟨hcontent, hpos, -, hsize⟩ := h.reading hp
  have hle := b.cache.position_le
  have hcache := b.cache.data_le
  have hmax : streamCacheMaxSize = 1024 := rfl
  have hoff : asInt32 (b.cache.data.length - b.cache.position) =
      b.cache.data.length - b.cache.position := asInt32_of_bounds (by omega) (by omega)
  simp only [BufferedFileStream.unread, hoff, hp]
  split_ifs with hne hlt
  · have hseek : fileStreamSeek b.file (-(b.cache.data.length - b.cache.position)) .fromCurrent =
        (true, b.file.seek f.pos) := by
      refine fileStreamSeek_current ?_ (by omega) ?_ ?_
      · rw [← hcontent]; exact h.size_lt
      · rw [← hcontent]; exact f.pos_le
      · rw [← hcontent]; exact h.canStepBack hb hlt
    have hfile : b.file.seek f.pos = f :=
      File.ext hcontent.symm (by
        simp only [File.seek, ← hcontent]
        exact Nat.min_eq_left f.pos_le)
    rw [hseek, hfile]
  · have hfile : b.file = f := File.ext hcontent.symm (by omega)
    rw [hfile]
  · have hfile : b.file = f := File.ext hcontent.symm (by omega)
    have hempty : b.cache = .empty :=
      StreamCache.ext (List.length_eq_zero_iff.mp (by omega)) (by simp; omega)
    rw [← hfile, ← hempty, ← hp]

/-- The content after a sync is that of the plain file, wherever the position ends up. -/
lemma Represents.sync_content (h : Represents b f) : b.sync.2.file.content = f.content := by
  have hseek : ∀ (g : File) (off : Int) (kind : StreamOffset),
      (fileStreamSeek g off kind).2.content = g.content := fun g off kind =>
    File.seekLimited_content g _
  simp only [BufferedFileStream.sync]
  split_ifs with hp
  · simp only [BufferedFileStream.flush, StreamCache.flush_eq, Bool.not_true,
      Bool.false_eq_true, if_false]
    split_ifs
    · rw [hseek, File.write_content, ← (h.writing hp).1.content]
    · rw [File.write_content, ← (h.writing hp).1.content]
  · exact (h.reading (by simpa using hp)).content.symm

lemma Represents.sync (h : Represents b f) (hb : b.syncPending = true → b.CanStepBack) :
    b.sync.1 = true ∧ Represents b.sync.2 f := by
  simp only [BufferedFileStream.sync]
  split_ifs with hp
  · rw [h.flush hp (hb hp)]
    exact ⟨rfl, .opened h.size_lt⟩
  · exact ⟨rfl, h⟩

/-! ### Position and size -/

lemma Represents.tell (h : Represents b f) : b.tell = f.tell := by
  simp only [BufferedFileStream.tell, File.tell]
  split_ifs with hp
  · have := (h.writing hp).1.pos
    refine asUInt32_congr ?_
    simp only [asUInt32]
    omega
  · have := (h.reading (by simpa using hp)).pos
    refine asUInt32_congr ?_
    simp only [asUInt32]
    omega

lemma Represents.size (h : Represents b f) : b.size = f.size := by
  simp only [BufferedFileStream.size]
  split_ifs with hp hgrow
  all_goals simp only [File.size, File.tell] at *
  · obtain ⟨⟨hcontent, -⟩, -⟩ := h.writing hp
    have hlt := h.size_lt
    have hlen := length_overwrite b.file.pos_le b.cache.data
    have hfile := b.file.pos_le
    rw [← hcontent] at hlen
    refine asUInt32_congr ?_
    simp only [asUInt32] at *
    omega
  · obtain ⟨⟨hcontent, -⟩, -⟩ := h.writing hp
    have hlt := h.size_lt
    have hlen := length_overwrite b.file.pos_le b.cache.data
    have hfile := b.file.pos_le
    rw [← hcontent] at hlen
    simp only [asUInt32] at *
    omega
  · rw [(h.reading (by simpa using hp)).content]

/-! ### Seeking -/

lemma Represents.withCache (h : Represents b f) {c : StreamCache} (hdata : c.data = b.cache.data)
    {t : Nat} (ht : (t : Int) = f.pos + (c.position - b.cache.position)) :
    Represents { b with cache := c } (f.seek t) := by
  have hfile := b.file.pos_le
  have hc := c.position_le
  have hsame : c.data.length = b.cache.data.length := by rw [hdata]
  cases hp : b.syncPending with
  | false =>
    obtain ⟨hcontent, hpos, hwindow, hsize⟩ := h.reading hp
    have hlen : f.content.length = b.file.content.length := by rw [hcontent]
    refine ReadWindow.represents ⟨hcontent, ?_, ?_, ?_⟩ rfl h.size_lt
    · simp only [File.seek]
      omega
    · simpa only [hdata, File.seek_content] using hwindow
    · simpa only [hdata] using hsize
  | true =>
    obtain ⟨⟨hcontent, hpos⟩, hne⟩ := h.writing hp
    have hlen := length_overwrite b.file.pos_le b.cache.data
    rw [← hcontent] at hlen
    refine WriteSegment.represents ⟨?_, ?_⟩ rfl ?_ h.size_lt
    · simpa only [hdata, File.seek_content] using hcontent
    · simp only [File.seek]
      omega
    · simpa only [hdata] using hne

/-- A seek that leaves the cache is a seek of the plain file, or of the file behind the cache
when nothing is pending. -/
lemma Represents.seekFile (h : Represents b f) (hb : b.syncPending = true → b.CanStepBack)
    {off : Int} {kind : StreamOffset} {r : Bool × File}
    (hr : fileStreamSeek (if b.syncPending then f else b.file) off kind = r) :
    (b.seekFile off kind).1 = r.1 ∧ Represents (b.seekFile off kind).2 r.2 := by
  have hsync : (if b.syncPending then b.sync else (true, { b with cache := .empty })) =
      (true, ⟨if b.syncPending then f else b.file, .empty, false⟩) := by
    split_ifs with hp
    · simp [BufferedFileStream.sync, hp, h.flush hp (hb hp)]
    · simp [hp]
  have hlen : r.2.content.length < 4294967296 := by
    have hsize := h.size_lt
    rw [← hr, fileStreamSeek, File.seekLimited_content]
    split_ifs with hp
    · exact hsize
    · rwa [← (h.reading (by simpa using hp)).content]
  simp only [BufferedFileStream.seekFile, hsync, if_true, hr, true_and]
  exact .opened hlen

lemma Represents.seek_absolute (h : Represents b f) (off : Int) {kind : StreamOffset}
    (hkind : kind ≠ .fromCurrent) (hb : b.syncPending = true → b.CanStepBack) :
    (b.seek off kind).1 = (fileStreamSeek f off kind).1 ∧
      Represents (b.seek off kind).2 (fileStreamSeek f off kind).2 := by
  have hsame : fileStreamSeek (if b.syncPending then f else b.file) off kind =
      fileStreamSeek f off kind := by
    split_ifs with hp
    · rfl
    · have hcontent := (h.reading (by simpa using hp)).content
      have hsize : b.file.size = f.size := by rw [File.size, File.size, hcontent]
      cases kind with
      | fromCurrent => exact absurd rfl hkind
      | fromStart | fromEnd =>
        rw [fileStreamSeek, fileStreamSeek, hsize, File.seekLimited_congr hcontent.symm]
        rfl
  cases kind with
  | fromCurrent => exact absurd rfl hkind
  | fromStart | fromEnd => exact h.seekFile hb hsame

lemma Represents.inCache_bounds (h : Represents b f) {off : Int} (hin : b.InCache off) :
    0 ≤ f.pos + off ∧ f.pos + off ≤ f.content.length := by
  obtain ⟨hlo, hhi⟩ := hin
  have hfile := b.file.pos_le
  cases hp : b.syncPending with
  | false =>
    obtain ⟨hcontent, hpos, -, hsize⟩ := h.reading hp
    rw [hcontent]
    omega
  | true =>
    obtain ⟨⟨hcontent, hpos⟩, -⟩ := h.writing hp
    rw [hcontent, length_overwrite hfile]
    omega

lemma Represents.seek_inCache (h : Represents b f) {off : Int} (hin : b.InCache off)
    (haddr : Addressable b.totalSize (b.position + off).toNat) :
    (b.seek off .fromCurrent).1 = (fileStreamSeek f off .fromCurrent).1 ∧
      Represents (b.seek off .fromCurrent).2 (fileStreamSeek f off .fromCurrent).2 := by
  have hact := StreamCache.seek_inside b.cache off hin.1 hin.2
  have hpos' := StreamCache.seek_position b.cache off
  rw [hact] at hpos'
  rw [h.totalSize_eq, h.position_eq] at haddr
  have htarget := h.inCache_bounds hin
  have hplain : fileStreamSeek f off .fromCurrent = (true, f.seek (f.pos + off).toNat) :=
    fileStreamSeek_current h.size_lt (by omega) (by omega) haddr
  have hbuf : b.seek off .fromCurrent = (true, { b with cache := (b.cache.seek off).2 }) := by
    simp [BufferedFileStream.seek, hact, asInt32]
  rw [hplain, hbuf]
  exact ⟨rfl, h.withCache (b.cache.seek_data off) (by omega)⟩

lemma Represents.seek_forward (h : Represents b f) {off : Int} (hhi : off < 2147483648)
    (hout : b.cache.data.length - b.cache.position < off) :
    (b.seek off .fromCurrent).1 = (fileStreamSeek f off .fromCurrent).1 ∧
      Represents (b.seek off .fromCurrent).2 (fileStreamSeek f off .fromCurrent).2 := by
  have hact := StreamCache.seek_forward b.cache off hout
  have hpos' := StreamCache.seek_position b.cache off
  have hle := b.cache.position_le
  rw [hact] at hpos'
  have hrest : asInt32 (off - (b.cache.data.length - b.cache.position)) =
      off - (b.cache.data.length - b.cache.position) := asInt32_of_bounds (by omega) (by omega)
  have hbuf : b.seek off .fromCurrent = BufferedFileStream.seekFile
      { b with cache := (b.cache.seek off).2 }
      (off - (b.cache.data.length - b.cache.position)) .fromCurrent := by
    have hpos : 0 < off - (b.cache.data.length - b.cache.position) := by omega
    simp only [BufferedFileStream.seek, hact, hrest]
    rw [if_neg (by omega : ¬ off - (b.cache.data.length - b.cache.position) < 0), if_pos (Int.ne_of_gt hpos)]
  have hmoved : Represents { b with cache := (b.cache.seek off).2 }
      (f.seek (f.pos + (b.cache.data.length - b.cache.position))) :=
    h.withCache (b.cache.seek_data off) (by omega)
  rw [hbuf]
  refine hmoved.seekFile (fun _ hlt => ?_) ?_
  · simp only [StreamCache.seek_data] at hlt
    omega
  · have hfile := b.file.pos_le
    cases hp : b.syncPending with
    | false =>
      obtain ⟨hcontent, hpos, -, -⟩ := h.reading hp
      exact fileStreamSeek_congr hcontent.symm (by omega)
    | true =>
      obtain ⟨⟨hcontent, hpos⟩, -⟩ := h.writing hp
      have hlen := length_overwrite b.file.pos_le b.cache.data
      rw [← hcontent] at hlen
      simp only [if_true]
      refine fileStreamSeek_congr (f.seek_content _) ?_
      simp only [File.seek]
      omega

/-- A relative seek before the start of the cache. With a write pending it is made from the
wrong place, which goes unnoticed only when both targets lie before the start of the file. -/
lemma Represents.seek_backward (h : Represents b f) {off : Int} (hlo : -2147483648 ≤ off)
    (hout : off < -(b.cache.position : Int))
    (hback : b.syncPending = true → b.position + off < 0 ∧
      -2147483648 ≤ b.position + off - b.cache.data.length ∧
      Addressable b.totalSize (b.position - b.cache.position)) :
    (b.seek off .fromCurrent).1 = (fileStreamSeek f off .fromCurrent).1 ∧
      Represents (b.seek off .fromCurrent).2 (fileStreamSeek f off .fromCurrent).2 := by
  have hact := StreamCache.seek_backward b.cache off hout
  have hpos' := StreamCache.seek_position b.cache off
  have hcache := b.cache.data_le
  have hle := b.cache.position_le
  have hmax : streamCacheMaxSize = 1024 := rfl
  rw [hact] at hpos'
  have hrest : asInt32 (off - -(b.cache.position : Int)) = off + b.cache.position := by
    rw [asInt32_of_bounds (by omega) (by omega)]
    omega
  have hwrap : (asInt32 (off + b.cache.position - b.cache.data.length) -
      (off + b.cache.position - b.cache.data.length)) % 4294967296 = 0 ∧
      asInt32 (off + b.cache.position - b.cache.data.length) ≠ 0 := by
    unfold asInt32
    split_ifs <;> omega
  have hbuf : b.seek off .fromCurrent = BufferedFileStream.seekFile
      { b with cache := (b.cache.seek off).2 }
      (asInt32 (off + b.cache.position - b.cache.data.length)) .fromCurrent := by
    simp only [BufferedFileStream.seek, hact, hrest, StreamCache.seek_data]
    rw [if_pos (show off + (b.cache.position : Int) < 0 by omega), if_pos hwrap.2]
  have hge : b.cache.position ≤ f.pos ∧ f.pos - b.cache.position ≤ f.content.length := by
    have hfile := b.file.pos_le
    have hplain := f.pos_le
    cases hp : b.syncPending with
    | false => have hpos := (h.reading hp).pos; have hsize := (h.reading hp).size_le; omega
    | true => have hpos := (h.writing hp).1.pos; omega
  have hmoved : Represents { b with cache := (b.cache.seek off).2 }
      (f.seek (f.pos - b.cache.position)) := h.withCache (b.cache.seek_data off) (by omega)
  rw [hbuf]
  rw [h.position_eq, h.totalSize_eq] at hback
  refine hmoved.seekFile (fun hp _ => ?_) ?_
  · rw [hmoved.totalSize_eq, hmoved.position_eq]
    simp only [File.seek, Nat.min_eq_left hge.2]
    exact (hback hp).2.2
  · cases hp : b.syncPending with
    | false =>
      obtain ⟨hcontent, hpos, -, -⟩ := h.reading hp
      exact fileStreamSeek_congr hcontent.symm (by omega)
    | true =>
      obtain ⟨hneg, hbound, -⟩ := hback hp
      rw [@fileStreamSeek_below f off (f.pos + off) (by omega) (by omega) hneg]
      simp only [if_true]
      refine fileStreamSeek_below (t := f.pos + off - b.cache.data.length) ?_ hbound (by omega)
      simp only [File.seek]
      omega

/-! ### Reading -/

lemma Represents.cache_read (h : Represents b f) (n : Nat) :
    (b.cache.read n).1 = (f.read (min n (b.cache.data.length - b.cache.position))).1 ∧
      Represents { b with cache := (b.cache.read n).2 }
        (f.read (min n (b.cache.data.length - b.cache.position))).2 := by
  have hle := b.cache.position_le
  have hfile := b.file.pos_le
  have hbytes : f.content.drop f.pos = b.cache.data.drop b.cache.position ++
      f.content.drop (f.pos + (b.cache.data.length - b.cache.position)) := by
    cases hp : b.syncPending with
    | false =>
      obtain ⟨hcontent, hpos, hwindow, hsize⟩ := h.reading hp
      have hstart : f.pos = b.file.pos - b.cache.data.length + b.cache.position := by omega
      have hend : f.pos + (b.cache.data.length - b.cache.position) = b.file.pos := by omega
      rw [hend, hstart, ← List.drop_drop, hwindow, List.drop_append_of_le_length hle]
    | true =>
      obtain ⟨⟨hcontent, hpos⟩, -⟩ := h.writing hp
      have hend : f.pos + (b.cache.data.length - b.cache.position) =
          b.file.pos + b.cache.data.length := by omega
      rw [hend, hpos, hcontent, drop_overwrite hfile hle, drop_overwrite hfile le_rfl,
        List.drop_length, List.nil_append]
  have hlong : b.cache.data.length - b.cache.position ≤ f.content.length - f.pos := by
    have := congrArg List.length hbytes
    simp only [List.length_append, List.length_drop] at this
    omega
  refine ⟨?_, ?_⟩
  · rw [File.read_fst, hbytes, List.take_append_of_le_length
      (by rw [List.length_drop]; exact Nat.min_le_right _ _), StreamCache.read_fst]
  · have hseek : (f.read (min n (b.cache.data.length - b.cache.position))).2 =
        f.seek (f.pos + min n (b.cache.data.length - b.cache.position)) := by
      have := f.pos_le
      refine File.ext rfl ?_
      simp only [File.read_pos, File.seek]
      omega
    rw [hseek]
    exact h.withCache (b.cache.read_data n) (by rw [StreamCache.read_position]; omega)

/-- Refilling an exhausted cache does not move the represented position; it reads nothing only
at the end of the file. -/
lemma Represents.refill (h : Represents b f) (hend : b.cache.data.length ≤ b.cache.position) :
    b.refill.1 = min streamCacheMaxSize (f.content.length - f.pos) ∧ Represents b.refill.2 f := by
  have hready : (if b.syncPending then b.flush else (true, b)).1 = true ∧
      (if b.syncPending then b.flush else (true, b)).2.file = f ∧
      (if b.syncPending then b.flush else (true, b)).2.syncPending = false := by
    split_ifs with hp
    · rw [h.flush hp (fun hlt => by omega)]
      exact ⟨rfl, rfl, rfl⟩
    · obtain ⟨hcontent, hpos, -, -⟩ := h.reading (by simpa using hp)
      have hle := b.cache.position_le
      have hpos' : b.file.pos = f.pos := by omega
      exact ⟨rfl, File.ext hcontent.symm hpos', by simpa using hp⟩
  obtain ⟨hok, hfile, hpending⟩ := hready
  have hle := f.pos_le
  simp only [BufferedFileStream.refill, hok, if_true, hfile, hpending]
  refine ⟨by simp, ReadWindow.represents ⟨rfl, ?_, ?_, ?_⟩ rfl h.size_lt⟩
  · simp only [StreamCache.fill_data, StreamCache.fill_position, StreamCache.fill_file,
      File.read_pos, List.length_take, List.length_drop]
    omega
  · have hbase : f.pos + min streamCacheMaxSize (f.content.length - f.pos) -
        ((f.content.drop f.pos).take streamCacheMaxSize).length = f.pos := by
      simp only [List.length_take, List.length_drop]
      omega
    simp only [StreamCache.fill_data, StreamCache.fill_file, File.read_pos, hbase]
    rw [← List.drop_drop]
    conv_lhs => rw [← List.take_append_drop streamCacheMaxSize (f.content.drop f.pos)]
    congr 1
    by_cases hshort : streamCacheMaxSize ≤ f.content.length - f.pos
    · rw [Nat.min_eq_left hshort]
    · rw [List.drop_of_length_le (by simp; omega), List.drop_of_length_le (by simp; omega)]
  · simp only [StreamCache.fill_data, StreamCache.fill_file, File.read_pos, List.length_take,
      List.length_drop]
    omega

lemma File.read_of_le (f : File) (h : f.content.length ≤ f.pos) (n : Nat) : f.read n = ([], f) :=
  Prod.ext (by rw [File.read_fst, List.drop_of_length_le h, List.take_nil])
    (File.ext rfl (by rw [File.read_pos, Nat.sub_eq_zero_of_le h, Nat.min_zero, Nat.add_zero]))

theorem Represents.read (h : Represents b f) (n : Nat) :
    (b.read n).1 = (f.read n).1 ∧ Represents (b.read n).2 (f.read n).2 := by
  have hcount : ∀ (b : BufferedFileStream) (n : Nat), (b.cache.read n).1.length =
      min n (b.cache.data.length - b.cache.position) := fun b n => by
    rw [StreamCache.read_fst, List.length_take, List.length_drop]; omega
  induction b, n using BufferedFileStream.read.induct generalizing f with
  | case1 b =>
    rw [BufferedFileStream.read, if_pos rfl]
    exact ⟨by simp, by simpa using h⟩
  | case2 b n hn bytes =>
    rename_i hdone
    obtain ⟨hbytes, hrep⟩ := h.cache_read n
    simp only [bytes, hcount] at hdone
    rw [show min n (b.cache.data.length - b.cache.position) = n by omega] at hbytes hrep
    rw [BufferedFileStream.read, if_neg hn, if_pos (by rwa [hcount])]
    exact ⟨hbytes, hrep⟩
  | case3 b n hn bytes b' hmore =>
    rename_i hrefill ih
    obtain ⟨hbytes, hrep⟩ := h.cache_read n
    have hend : (b.cache.read n).2.data.length ≤ (b.cache.read n).2.position := by
      simp only [bytes, hcount] at hmore
      rw [StreamCache.read_data, StreamCache.read_position]
      omega
    obtain ⟨htail, hfin⟩ := ih (hrep.refill hend).2
    rw [BufferedFileStream.read, if_neg hn, if_neg hmore, if_pos hrefill]
    simp only [b', bytes, hcount] at htail hfin ⊢
    rw [File.read_read, Nat.add_sub_cancel' (Nat.min_le_left ..)] at hfin
    rw [htail, hbytes, File.read_append, Nat.add_sub_cancel' (Nat.min_le_left ..)]
    exact ⟨rfl, hfin⟩
  | case4 b n hn bytes b' hmore =>
    rename_i hrefill
    obtain ⟨hbytes, hrep⟩ := h.cache_read n
    have hend : (b.cache.read n).2.data.length ≤ (b.cache.read n).2.position := by
      simp only [bytes, hcount] at hmore
      rw [StreamCache.read_data, StreamCache.read_position]
      omega
    obtain ⟨hzero, hfin⟩ := hrep.refill hend
    set g := (f.read (min n (b.cache.data.length - b.cache.position))).2 with hg
    have heof : g.content.length ≤ g.pos := by
      have hmax : streamCacheMaxSize = 1024 := rfl
      have hnone : ¬ 0 < min streamCacheMaxSize (g.content.length - g.pos) := hzero ▸ hrefill
      omega
    have hrest := g.read_of_le heof (n - min n (b.cache.data.length - b.cache.position))
    have happ := f.read_append (min n (b.cache.data.length - b.cache.position))
      (n - min n (b.cache.data.length - b.cache.position))
    have hread := f.read_read (min n (b.cache.data.length - b.cache.position))
      (n - min n (b.cache.data.length - b.cache.position))
    rw [← hg, hrest, Nat.add_sub_cancel' (Nat.min_le_left ..)] at happ hread
    rw [BufferedFileStream.read, if_neg hn, if_neg hmore, if_neg hrefill, ← hread, ← happ,
      List.append_nil]
    exact ⟨hbytes, hfin⟩

/-! ### Writing -/

/-- One round of the write loop: as much of the data as fits is in the cache. -/
lemma WriteSegment.cache_write (h : WriteSegment b f) (d : List UInt8) :
    WriteSegment { b with cache := (b.cache.write d).2, syncPending := true }
      (f.write (d.take (b.cache.write d).1)).2 where
  content := by
    rw [File.write_content, h.content, h.pos, overwrite_overwrite b.file.pos_le b.cache.position_le]
    rfl
  pos := by
    have hpos := h.pos
    simp only [File.write_pos, List.length_take, StreamCache.write_position, StreamCache.write_fst]
    omega

lemma WriteSegment.writeLoop (h : WriteSegment b f) (d : List UInt8)
    (hlen : f.content.length < 4294967296) (hfit : f.pos + d.length < 4294967296) :
    (b.writeLoop d).1 = 0 ∧ (d ≠ [] → Represents (b.writeLoop d).2 (f.write d).2) := by
  induction b, d using BufferedFileStream.writeLoop.induct generalizing f with
  | case1 b => exact ⟨by rw [BufferedFileStream.writeLoop, if_pos rfl], fun hne => absurd rfl hne⟩
  | case2 b d hne written =>
    rename_i hdone
    have hall : d.take (b.cache.write d).1 = d :=
      List.take_of_length_le (List.drop_eq_nil_iff.mp hdone)
    have hsegment := h.cache_write d
    rw [hall] at hsegment
    rw [BufferedFileStream.writeLoop, if_neg hne, if_pos hdone]
    refine ⟨rfl, fun _ => hsegment.represents rfl ?_ ?_⟩
    · have hpos := List.length_pos_iff.mpr hne
      have hfull := List.drop_eq_nil_iff.mp hdone
      have hle := (b.cache.write d).2.position_le
      simp only [written, StreamCache.write_fst, StreamCache.write_position] at hfull hle
      refine List.length_pos_iff.mp ?_
      simp only
      omega
    · rw [File.write_content, length_overwrite f.pos_le]
      omega
  | case3 b d hne written cache hmore =>
    rename_i r hflush ih
    have hsegment := h.cache_write d
    set g := (f.write (d.take (b.cache.write d).1)).2 with hg
    have hwritten : (b.cache.write d).1 < d.length := by
      by_contra hge
      exact hmore (List.drop_of_length_le (by omega))
    have hfile : (b.file.write (b.cache.write d).2.data).2 = g := by
      refine File.ext hsegment.content.symm ?_
      have hpos := hsegment.pos
      have hle := (b.cache.write d).2.position_le
      have hmax := (b.cache.write d).2.data_le
      simp only [StreamCache.write_fst, StreamCache.write_position] at hwritten hpos hle
      rw [File.write_pos]
      omega
    have hglen : g.content.length < 4294967296 := by
      rw [hg, File.write_content, length_overwrite f.pos_le, List.length_take]
      omega
    have hrest : (g.write (d.drop (b.cache.write d).1)).2 = (f.write d).2 := by
      rw [hg, File.write_write, List.take_append_drop]
    simp only [r, cache, written, StreamCache.flush_eq, hfile] at ih
    obtain ⟨hzero, hrep⟩ := ih (WriteSegment.of_empty g false) hglen (by
      rw [hg, File.write_pos, List.length_take, List.length_drop]
      omega)
    rw [BufferedFileStream.writeLoop, if_neg hne, if_neg hmore]
    simp only [StreamCache.flush_eq, hfile, if_true]
    rw [hrest] at hrep
    exact ⟨hzero, fun _ => hrep hmore⟩
  | case4 b d hne written cache hmore =>
    rename_i r hflush
    exact absurd (by simp [r]) hflush

theorem Represents.write (h : Represents b f) (d : List UInt8)
    (hfit : f.pos + d.length < 4294967296) (hb : b.syncPending = false → b.CanStepBack) :
    (b.write d).1 = d.length ∧ Represents (b.write d).2 (f.write d).2 := by
  have hready : (if b.syncPending then (true, b) else b.unread).1 = true ∧
      Represents (if b.syncPending then (true, b) else b.unread).2 f ∧
      WriteSegment (if b.syncPending then (true, b) else b.unread).2 f := by
    split_ifs with hp
    · exact ⟨rfl, h, (h.writing hp).1⟩
    · rw [h.unread (by simpa using hp) (hb (by simpa using hp))]
      exact ⟨rfl, .opened h.size_lt, .of_empty f false⟩
  obtain ⟨hok, hrep, hsegment⟩ := hready
  obtain ⟨hzero, hloop⟩ := hsegment.writeLoop d h.size_lt hfit
  simp only [BufferedFileStream.write, hok, if_true, hzero, Nat.sub_zero, true_and]
  by_cases hne : d = []
  · subst hne
    rw [BufferedFileStream.writeLoop, if_pos rfl, File.write_nil]
    exact hrep
  · exact hloop hne

/-! ### Whole runs -/

/-- One call: equal replies, and the buffered stream stands for the plain file again. -/
theorem Represents.step (h : Represents b f) (c : StreamCall) (hsafe : CallSafe b c) :
    (bufferedFileStream.step b c).1 = (fileStream.step f c).1 ∧
      Represents (bufferedFileStream.step b c).2 (fileStream.step f c).2 := by
  cases c with
  | read n =>
    obtain ⟨hbytes, hrep⟩ := h.read n
    exact ⟨congrArg StreamReply.bytes hbytes, hrep⟩
  | write d =>
    obtain ⟨hfit, hb⟩ := hsafe
    rw [h.position_eq] at hfit
    obtain ⟨hcount, hrep⟩ := h.write d hfit hb
    exact ⟨congrArg StreamReply.count hcount, hrep⟩
  | seek off kind =>
    suffices hseek : (b.seek off.toInt kind).1 = (fileStreamSeek f off.toInt kind).1 ∧
        Represents (b.seek off.toInt kind).2 (fileStreamSeek f off.toInt kind).2 from
      ⟨congrArg StreamReply.result hseek.1, hseek.2⟩
    obtain ⟨hlo, hhi⟩ := int32_bounds off
    cases kind with
    | fromCurrent =>
      obtain ⟨hcached, hback⟩ := hsafe
      by_cases hin : b.InCache off.toInt
      · exact h.seek_inCache hin (hcached hin)
      · rcases Int.lt_or_le off.toInt (-(b.cache.position : Int)) with hlt | hge
        · exact h.seek_backward hlo hlt fun hp => hback hp hlt
        · refine h.seek_forward hhi ?_
          by_contra hle
          exact hin ⟨hge, by omega⟩
    | fromStart | fromEnd => exact h.seek_absolute _ (by decide) hsafe
  | tell => exact ⟨congrArg StreamReply.count h.tell, h⟩
  | size => exact ⟨congrArg StreamReply.count h.size, h⟩
  | sync =>
    obtain ⟨hok, hrep⟩ := h.sync hsafe
    exact ⟨congrArg StreamReply.result hok, hrep⟩

/-- Over every run of safe calls from every starting position, a buffered file stream gives the
replies of a plain one, and after a final sync the files have the same content. -/
theorem bufferedFileStream_refines (f : File) (calls : List StreamCall)
    (hlen : f.content.length < 4294967296)
    (hsafe : bufferedFileStream.Along CallSafe (.opened f) calls) :
    bufferedFileStream.outputs (.opened f) calls = fileStream.outputs f calls ∧
      (bufferedFileStream.final (.opened f) calls).sync.2.file.content =
        (fileStream.final f calls).content := by
  obtain ⟨hout, hrep⟩ := hsafe.simulation (N := fileStream) (R := Represents)
    (fun b f c h hc => h.step c hc) (Represents.opened hlen)
  exact ⟨hout, hrep.sync_content⟩

/-- The conditions hold of a run that uses the cache in both roles. -/
theorem bufferedFileStream_refines_mixed :
    let f : File := ⟨[1, 2, 3, 4], 1, by decide⟩
    let calls : List StreamCall :=
      [.read 2, .write [9], .seek (-1) .fromCurrent, .sync, .seek (-2) .fromCurrent, .tell]
    f.content.length < 4294967296 ∧ bufferedFileStream.Along CallSafe (.opened f) calls ∧
      bufferedFileStream.outputs (.opened f) calls = fileStream.outputs f calls ∧
      (bufferedFileStream.final (.opened f) calls).sync.2.file.content =
        (fileStream.final f calls).content := by
  intro f calls
  have hlen : f.content.length < 4294967296 := by decide
  have hsafe : bufferedFileStream.Along CallSafe (.opened f) calls := by decide +kernel
  exact ⟨hlen, hsafe, bufferedFileStream_refines f calls hlen hsafe⟩

/-- One byte is written at position 5 of a 10-byte file, then the position moves back by three:
the plain stream is at position 3, the buffered one at position 2. -/
theorem bufferedFileStream_seek_back_pending :
    let f : File := ⟨List.replicate 10 0, 5, by decide⟩
    let calls : List StreamCall := [.write [1], .seek (-3) .fromCurrent, .tell]
    fileStream.outputs f calls = [.count 1, .result true, .count 3] ∧
      bufferedFileStream.outputs (.opened f) calls = [.count 1, .result true, .count 2] := by
  decide +kernel

end FlipperZero
