import FlipperZero.Stream.StringStream

/-!
# Deleting and inserting in the middle of a stream

`stream_delete_and_insert` on a file goes through a scratch file: the part before the
position, the inserted bytes and the part behind the deletion are copied there, and the whole
is copied back. Its seeks take 32-bit signed offsets. On a string it keeps the part behind the
deletion as a C string. Both should splice.
-/

namespace FlipperZero

open Foundation

/-- `STREAM_CACHE_SIZE`, the buffer of `stream_copy`. -/
def streamCopyBufferSize : Nat := 512

/-- `stream_copy` between file streams: how much was copied, the source and the target. -/
def streamCopy (source target : File) (size : Nat) : Nat × File × File :=
  if size = 0 then (0, source, target)
  else
    let bytesCount := min streamCopyBufferSize size
    let r := source.read bytesCount
    if r.1.length ≠ bytesCount then (0, r.2, target)
    else
      let w := target.write r.1
      if w.1 ≠ bytesCount then (0, r.2, w.2)
      else
        let rest := streamCopy r.2 w.2 (size - bytesCount)
        (bytesCount + rest.1, rest.2)
termination_by size
decreasing_by
  have : 0 < streamCopyBufferSize := by decide
  omega

namespace File

def created : File where
  content := []
  pos := 0
  pos_le := created_pos_le

/-- `storage_file_truncate`: cut the file at its position. -/
def truncate (f : File) : File where
  content := f.content.take f.pos
  pos := f.pos
  pos_le := by
    have := f.pos_le
    rw [List.length_take]
    omega

/-- The callback of `file_stream_delete_and_insert` on the scratch file. -/
def writeInserted (scratch : File) : Option (List UInt8) → Bool × File
  | none      => (true, scratch)
  | some data => ((scratch.write data).1 == data.length, (scratch.write data).2)

/-- The last stage of `file_stream_delete_and_insert`: copy the scratch file back, truncate,
and seek behind the inserted bytes. -/
def copyBack (f scratch : File) (newPosition : Nat) : Bool × File :=
  let newFileSize := scratch.size
  let r := fileStreamSeek f 0 .fromStart
  if r.1 = false then (false, r.2)
  else
    let s := fileStreamSeek scratch 0 .fromStart
    if s.1 = false then (false, r.2)
    else
      let c := streamCopy s.2 r.2 newFileSize
      if c.1 ≠ newFileSize then (false, c.2.2)
      else fileStreamSeek c.2.2.truncate (asInt32 newPosition) .fromStart

/-- `file_stream_delete_and_insert`, with a callback that writes the inserted bytes. -/
def deleteAndInsert (f : File) (deleteSize : Nat) (insert : Option (List UInt8)) : Bool × File :=
  let currentPosition := f.tell
  let fileSize := f.size
  let sizeToDelete := min deleteSize (asUInt32 (fileSize - currentPosition))
  let sizeToCopyBefore := currentPosition
  let sizeToCopyAfter := asUInt32 (fileSize - currentPosition - sizeToDelete)
  let r := fileStreamSeek f 0 .fromStart
  if r.1 = false then (false, r.2)
  else
    let before := streamCopy r.2 created sizeToCopyBefore
    if before.1 ≠ sizeToCopyBefore then (false, before.2.1)
    else
      let inserted := before.2.2.writeInserted insert
      if inserted.1 = false then (false, before.2.1)
      else
        let r := fileStreamSeek before.2.1 (asInt32 sizeToDelete) .fromCurrent
        if r.1 = false then (false, r.2)
        else
          let after := streamCopy r.2 inserted.2 sizeToCopyAfter
          if after.1 ≠ sizeToCopyAfter then (false, after.2.1)
          else copyBack after.2.1 after.2.2 inserted.2.tell

end File

/-! ### Copying and seeking -/

lemma streamCopy_eq (source target : File) (size : Nat)
    (h : source.pos + size ≤ source.content.length) :
    streamCopy source target size =
      (size, (source.read size).2, (target.write (source.read size).1).2) := by
  fun_induction streamCopy source target size with
  | case1 source target => simp
  | case2 source target size hne bytesCount r hshort =>
    refine absurd ?_ hshort
    simp only [r, bytesCount, File.read_fst, List.length_take, List.length_drop]
    omega
  | case3 source target size hne bytesCount r hfull w hshort =>
    exact absurd (by simpa [w] using hfull) hshort
  | case4 source target size hne bytesCount r hfull w hwritten rest ih =>
    have hcount : bytesCount + (size - bytesCount) = size := by omega
    have hrest : rest = _ := ih (by
      simp only [r, File.read_pos, File.read_content]
      omega)
    rw [hrest]
    refine Prod.ext hcount (Prod.ext ?_ ?_)
    · simp only [r]
      rw [File.read_read, hcount]
    · simp only [w, r]
      rw [File.write_write, File.read_append, hcount]

variable {f : File}

lemma fileStreamSeek_start {t : Nat} (hlen : f.content.length < 4294967296)
    (ht : t ≤ f.content.length) :
    fileStreamSeek f t .fromStart =
      if f.content.length ≤ t + 2147483648 then (true, f.seek t) else (false, f.seek f.size) := by
  have hsize : f.size = f.content.length := asUInt32_of_lt hlen
  have htarget : seekTarget f.tell f.size t .fromStart = some t := by
    simp only [seekTarget]
    rw [if_pos (Int.natCast_nonneg t), asUInt32_of_lt (by omega)]
  rw [fileStreamSeek, htarget, File.seekLimited]
  by_cases h : f.content.length ≤ t + 2147483648
  · rw [if_pos h, if_neg]
    rw [asInt32_pos_iff, hsize]
    omega
  · rw [if_neg h, if_pos]
    rw [asInt32_pos_iff, hsize]
    omega

lemma fileStreamSeek_rewind (hlen : f.content.length < 4294967296) :
    fileStreamSeek f 0 .fromStart =
      if f.content.length ≤ 2147483648 then (true, f.seek 0) else (false, f.seek f.size) := by
  simpa using fileStreamSeek_start hlen (Nat.zero_le _)

lemma fileStreamSeek_start_neg {off : Int} (h : off < 0) :
    fileStreamSeek f off .fromStart = (false, f.seek 0) := by
  have htarget : seekTarget f.tell f.size off .fromStart = none := if_neg (by omega)
  rw [fileStreamSeek, htarget, File.seekLimited]

/-- The deleted size passes through `int32_t`, so the seek over it works up to position
`2 ^ 31 - 1`. -/
lemma fileStreamSeek_over {n : Nat} (hlen : f.content.length ≤ 2147483648)
    (hn : f.pos + n ≤ f.content.length) :
    fileStreamSeek f (asInt32 n) .fromCurrent =
      if f.pos + n < 2147483648 then (true, f.seek (f.pos + n)) else (false, f.seek 0) := by
  have htell : f.tell = f.pos := asUInt32_of_lt (by have := f.pos_le; omega)
  by_cases h : f.pos + n < 2147483648
  · rw [if_pos h, asInt32_of_bounds (by omega) (by omega)]
    exact fileStreamSeek_current (by omega) (by omega) hn ⟨h, by omega⟩
  · rw [if_neg h]
    refine fileStreamSeek_below (t := f.pos + n - 4294967296) ?_ (by omega) (by omega)
    simp only [asInt32]
    split_ifs <;> omega

/-! ### The stages -/

lemma File.seek_of_le {t : Nat} (h : t ≤ f.content.length) : f.seek t = ⟨f.content, t, h⟩ :=
  File.ext rfl (Nat.min_eq_left h)

lemma File.truncate_write (f scratch : File) :
    (((f.seek 0).write scratch.content).2.truncate).content = scratch.content := by
  simp only [File.truncate, File.write_content, File.write_pos, File.seek_content]
  have hpos : (f.seek 0).pos = 0 := Nat.zero_min _
  rw [hpos, take_overwrite (Nat.zero_le _), List.take_zero, List.nil_append]

/-- The last stage succeeds if and only if the rewind of the scratch file and the final seek
are within the range of their casts. -/
lemma File.copyBack_eq (f scratch : File) (newPosition : Nat) (hf : f.content.length ≤ 2147483648)
    (hs : scratch.content.length < 4294967296) (hp : newPosition ≤ scratch.content.length) :
    if scratch.content.length ≤ 2147483648 ∧ newPosition < 2147483648 then
      f.copyBack scratch newPosition = (true, ⟨scratch.content, newPosition, hp⟩)
    else (f.copyBack scratch newPosition).1 = false := by
  have hsize : scratch.size = scratch.content.length := asUInt32_of_lt hs
  have hpos : (scratch.seek 0).pos = 0 := Nat.zero_min _
  have hcopy : streamCopy (scratch.seek 0) (f.seek 0) scratch.content.length =
      (scratch.content.length, ((scratch.seek 0).read scratch.content.length).2,
        ((f.seek 0).write scratch.content).2) := by
    rw [streamCopy_eq _ _ _ (by rw [hpos, File.seek_content]; omega), File.read_fst, hpos,
      File.seek_content, List.drop_zero, List.take_length]
  have hrewind : fileStreamSeek f 0 .fromStart = (true, f.seek 0) := by
    rw [fileStreamSeek_rewind (by omega), if_pos hf]
  by_cases hlen : scratch.content.length ≤ 2147483648
  · have hrewind' : fileStreamSeek scratch 0 .fromStart = (true, scratch.seek 0) := by
      rw [fileStreamSeek_rewind hs, if_pos hlen]
    have hcut := File.truncate_write f scratch
    have hback : f.copyBack scratch newPosition =
        fileStreamSeek ((f.seek 0).write scratch.content).2.truncate (asInt32 newPosition)
          .fromStart := by
      simp only [File.copyBack, hrewind, hrewind', hsize, hcopy, Bool.true_eq_false, if_false,
        ne_eq, not_true_eq_false]
    rw [hback]
    by_cases hsmall : newPosition < 2147483648
    · rw [if_pos ⟨hlen, hsmall⟩, asInt32_of_bounds (by omega) (by omega),
        fileStreamSeek_start (by rw [hcut]; exact hs) (by rw [hcut]; exact hp),
        if_pos (by rw [hcut]; omega), File.seek_of_le (by rw [hcut]; exact hp)]
      exact congrArg _ (File.ext hcut rfl)
    · rw [if_neg fun h => hsmall h.2, fileStreamSeek_start_neg]
      simp only [asInt32]
      split_ifs <;> omega
  · have hrewind' : fileStreamSeek scratch 0 .fromStart = (false, scratch.seek scratch.size) := by
      rw [fileStreamSeek_rewind hs, if_neg hlen]
    rw [if_neg fun h => hlen h.1]
    simp only [File.copyBack, hrewind, hrewind', Bool.true_eq_false, if_false, if_true]

@[simp] lemma File.writeInserted_eq (scratch : File) (insert : Option (List UInt8)) :
    scratch.writeInserted insert = (true, (scratch.write (insert.getD [])).2) := by
  cases insert with
  | none => rw [Option.getD_none, File.write_nil]; rfl
  | some d => simp [File.writeInserted]

lemma File.created_write (before inserted after : List UInt8) :
    ((((created.write before).2.write inserted).2.write after).2).content =
      before ++ inserted ++ after := by
  rw [File.write_write, File.write_write, File.write_content]
  simp [created, overwrite]

/-- The sizes with which `file_stream_delete_and_insert` stays within the range of its casts:
those of the old and the new file, and the positions behind the deletion and the insertion. -/
def InsertAddressable (f : File) (deleteSize : Nat) (insert : Option (List UInt8)) : Prop :=
  f.content.length ≤ 2147483648 ∧
    f.pos + min deleteSize (f.content.length - f.pos) < 2147483648 ∧
    (splice f.content f.pos deleteSize (insert.getD [])).length ≤ 2147483648 ∧
    f.pos + (insert.getD []).length < 2147483648

instance (f : File) (deleteSize : Nat) (insert : Option (List UInt8)) :
    Decidable (InsertAddressable f deleteSize insert) :=
  inferInstanceAs (Decidable (_ ∧ _))

/-- The file stream splices if and only if the sizes are within the range of its casts, and
reports a failure otherwise. -/
theorem File.deleteAndInsert_eq (f : File) (deleteSize : Nat) (insert : Option (List UInt8))
    (hlen : f.content.length < 4294967296)
    (hnew : (splice f.content f.pos deleteSize (insert.getD [])).length < 4294967296)
    (hp : f.pos + (insert.getD []).length ≤
      (splice f.content f.pos deleteSize (insert.getD [])).length) :
    if InsertAddressable f deleteSize insert then
      f.deleteAndInsert deleteSize insert =
        (true, ⟨splice f.content f.pos deleteSize (insert.getD []),
          f.pos + (insert.getD []).length, hp⟩)
    else (f.deleteAndInsert deleteSize insert).1 = false := by
  have hpos := f.pos_le
  have hsize : f.size = f.content.length := asUInt32_of_lt hlen
  have htell : f.tell = f.pos := asUInt32_of_lt (by omega)
  have hremain : asUInt32 ((f.content.length : Int) - f.pos) = f.content.length - f.pos :=
    asUInt32_eq (by omega) (by omega)
  set d := min deleteSize (f.content.length - f.pos) with hd
  have hafterSize : asUInt32 ((f.content.length : Int) - f.pos - d) =
      f.content.length - f.pos - d := asUInt32_eq (by omega) (by omega)
  -- the part before the position
  have hstart : (f.seek 0).pos = 0 := Nat.zero_min _
  have hback : ((f.seek 0).read f.pos).2 = f :=
    File.ext rfl (by rw [File.read_pos, hstart, File.seek_content]; omega)
  have hbefore : streamCopy (f.seek 0) File.created f.pos =
      (f.pos, f, (File.created.write (f.content.take f.pos)).2) := by
    rw [streamCopy_eq _ _ _ (by rw [hstart, File.seek_content]; omega), hback, File.read_fst,
      hstart, File.seek_content, List.drop_zero]
  -- the part behind the deletion
  set inserted := ((File.created.write (f.content.take f.pos)).2.write (insert.getD [])).2
    with hinserted
  have hdrop : f.content.length - f.pos - d = (f.content.drop (f.pos + d)).length := by
    rw [List.length_drop]
    omega
  have hseek : (f.seek (f.pos + d)).pos = f.pos + d := Nat.min_eq_left (by omega)
  have hafter : streamCopy (f.seek (f.pos + d)) inserted (f.content.length - f.pos - d) =
      (f.content.length - f.pos - d,
        ((f.seek (f.pos + d)).read (f.content.length - f.pos - d)).2,
        (inserted.write (f.content.drop (f.pos + d))).2) := by
    rw [streamCopy_eq _ _ _ (by rw [hseek, File.seek_content]; omega), File.read_fst, hseek,
      File.seek_content, hdrop, List.take_length]
  have hscratch : (inserted.write (f.content.drop (f.pos + d))).2.content =
      splice f.content f.pos deleteSize (insert.getD []) := File.created_write _ _ _
  have hnewPos : inserted.tell = f.pos + (insert.getD []).length := by
    have hlen' : inserted.pos = f.pos + (insert.getD []).length := by
      rw [hinserted, File.write_pos, File.write_pos, List.length_take,
        Nat.min_eq_left hpos]
      exact congrArg (· + _) (Nat.zero_add _)
    rw [File.tell, hlen', asUInt32_of_lt (by omega)]
  by_cases hold : f.content.length ≤ 2147483648
  · have hrewind : fileStreamSeek f 0 .fromStart = (true, f.seek 0) := by
      rw [fileStreamSeek_rewind hlen, if_pos hold]
    have hover := fileStreamSeek_over (f := f) (n := d) hold (by omega)
    by_cases hdel : f.pos + d < 2147483648
    · rw [if_pos hdel] at hover
      have hstages : f.deleteAndInsert deleteSize insert =
          ((f.seek (f.pos + d)).read (f.content.length - f.pos - d)).2.copyBack
            (inserted.write (f.content.drop (f.pos + d))).2
            (f.pos + (insert.getD []).length) := by
        simp only [File.deleteAndInsert, hrewind, htell, hsize, hremain, ← hd, hbefore, hover,
          hafterSize, File.writeInserted_eq, ← hinserted, hafter, hnewPos, Bool.true_eq_false,
          if_false, ne_eq, not_true_eq_false]
      have hlast := File.copyBack_eq
        ((f.seek (f.pos + d)).read (f.content.length - f.pos - d)).2
        (inserted.write (f.content.drop (f.pos + d))).2 (f.pos + (insert.getD []).length) hold
        (by rw [hscratch]; exact hnew) (by rw [hscratch]; exact hp)
      rw [hstages]
      by_cases hfit : (splice f.content f.pos deleteSize (insert.getD [])).length ≤ 2147483648 ∧
          f.pos + (insert.getD []).length < 2147483648
      · rw [if_pos (by rw [hscratch]; exact hfit)] at hlast
        rw [if_pos ⟨hold, hdel, hfit⟩, hlast]
        exact congrArg _ (File.ext hscratch rfl)
      · rw [if_neg (by rw [hscratch]; exact hfit)] at hlast
        rw [if_neg fun h => hfit h.2.2, hlast]
    · rw [if_neg hdel] at hover
      rw [if_neg fun h => hdel h.2.1]
      simp only [File.deleteAndInsert, hrewind, htell, hsize, hremain, ← hd, hbefore, hover,
        File.writeInserted_eq, Bool.true_eq_false, if_false, ne_eq, not_true_eq_false, if_true]
  · have hrewind : fileStreamSeek f 0 .fromStart = (false, f.seek f.size) := by
      rw [fileStreamSeek_rewind hlen, if_neg hold]
    rw [if_neg fun h => hold h.1]
    simp only [File.deleteAndInsert, hrewind, if_true]

/-! ### Agreement -/

/-- A stream operation on bytes did what was asked: it reports success, holds the spliced
content and stands behind the inserted bytes. -/
def Spliced (ok : Bool) (content : List UInt8) (pos : Nat) (old : List UInt8)
    (start size : Nat) (inserted : List UInt8) : Prop :=
  ok = true ∧ content = splice old start size inserted ∧ pos = start + inserted.length

lemma InsertAddressable.spliced_iff (f : File) (deleteSize : Nat) (insert : Option (List UInt8))
    (hlen : f.content.length < 4294967296)
    (hnew : (splice f.content f.pos deleteSize (insert.getD [])).length < 4294967296) :
    Spliced (f.deleteAndInsert deleteSize insert).1 (f.deleteAndInsert deleteSize insert).2.content
      (f.deleteAndInsert deleteSize insert).2.pos f.content f.pos deleteSize (insert.getD []) ↔
        InsertAddressable f deleteSize insert := by
  have hp : f.pos + (insert.getD []).length ≤
      (splice f.content f.pos deleteSize (insert.getD [])).length := by
    rw [length_splice f.pos_le]
    exact Nat.le_add_right _ _
  have hfile := f.deleteAndInsert_eq deleteSize insert hlen hnew hp
  constructor
  · rintro ⟨hok, -, -⟩
    by_contra hnot
    rw [if_neg hnot, hok] at hfile
    exact Bool.noConfusion hfile
  · intro h
    rw [if_pos h] at hfile
    rw [hfile]
    exact ⟨rfl, rfl, rfl⟩

section

open FuriString

variable {σ : Type} [FuriString σ]

/-- The string stream splices if and only if it inserts nothing, or no zero byte stands behind
the deleted bytes. -/
lemma StringStream.spliced_iff (s : StringStream σ) (deleteSize : Nat)
    (insert : Option (List UInt8)) :
    Spliced (s.deleteAndInsert deleteSize insert).1
      (bytes (s.deleteAndInsert deleteSize insert).2.string)
      (s.deleteAndInsert deleteSize insert).2.index (bytes s.string) s.index deleteSize
      (insert.getD []) ↔
        (insert.isSome → 0 ∉ (bytes s.string).drop
          (s.index + min deleteSize ((bytes s.string).length - s.index))) := by
  cases insert with
  | none =>
    refine ⟨fun _ h => absurd h Bool.false_ne_true, fun _ => ⟨rfl, ?_, rfl⟩⟩
    exact s.deleteAndInsert_none deleteSize
  | some d =>
    obtain ⟨hok, hbytes, hindex⟩ := s.deleteAndInsert_some d deleteSize
    rw [Spliced, hok, hbytes, hindex, Option.getD_some, splice, List.append_cancel_left_eq]
    simp only [true_and, and_true, Option.isSome_some, forall_const]
    exact cString_eq_self_iff _

/-- A string stream and a file stream with the same content and position, both far from the
limits of the file system: deleting and inserting splices both of them, and so leaves them
equal, if and only if no zero byte stands behind the deleted bytes of a string that takes an
insertion, and the sizes are within the range of the casts of the file stream. -/
theorem streamDeleteAndInsert_agree_iff (s : StringStream σ) (f : File)
    (hcontent : bytes s.string = f.content) (hindex : s.index = f.pos)
    (deleteSize : Nat) (insert : Option (List UInt8))
    (hlen : f.content.length < 4294967296)
    (hnew : (splice f.content f.pos deleteSize (insert.getD [])).length < 4294967296) :
    (Spliced (s.deleteAndInsert deleteSize insert).1
        (bytes (s.deleteAndInsert deleteSize insert).2.string)
        (s.deleteAndInsert deleteSize insert).2.index f.content f.pos deleteSize
        (insert.getD []) ∧
      Spliced (f.deleteAndInsert deleteSize insert).1
        (f.deleteAndInsert deleteSize insert).2.content
        (f.deleteAndInsert deleteSize insert).2.pos f.content f.pos deleteSize
        (insert.getD [])) ↔
      ((insert.isSome →
          0 ∉ f.content.drop (f.pos + min deleteSize (f.content.length - f.pos))) ∧
        InsertAddressable f deleteSize insert) := by
  have hstring := s.spliced_iff deleteSize insert
  rw [hcontent, hindex] at hstring
  rw [hstring, InsertAddressable.spliced_iff f deleteSize insert hlen hnew]

end

/-- Three bytes are replaced in the middle. -/
theorem streamDeleteAndInsert_agree_replace :
    let f : File := ⟨[1, 2, 3, 4, 5, 6], 2, by decide⟩
    let s : StringStream (List UInt8) := ⟨[1, 2, 3, 4, 5, 6], 2, by decide⟩
    Spliced (s.deleteAndInsert 3 (some [7])).1 (s.deleteAndInsert 3 (some [7])).2.string
        (s.deleteAndInsert 3 (some [7])).2.index [1, 2, 3, 4, 5, 6] 2 3 [7] ∧
      Spliced (f.deleteAndInsert 3 (some [7])).1 (f.deleteAndInsert 3 (some [7])).2.content
        (f.deleteAndInsert 3 (some [7])).2.pos [1, 2, 3, 4, 5, 6] 2 3 [7] := by
  intro f s
  exact (streamDeleteAndInsert_agree_iff s f rfl rfl 3 (some [7]) (by decide) (by decide)).mpr
    (by decide)

/-- One byte is inserted at the start of two bytes, the first of them zero: the string loses
both, the file keeps them. -/
theorem streamDeleteAndInsert_zero :
    let f : File := ⟨[0, 65], 0, by decide⟩
    let s : StringStream (List UInt8) := ⟨[0, 65], 0, by decide⟩
    splice [0, 65] 0 0 [66] = [66, 0, 65] ∧
      (s.deleteAndInsert 0 (some [66])).2.string = [66] ∧
      (f.deleteAndInsert 0 (some [66])).2.content = [66, 0, 65] := by
  decide +kernel

end FlipperZero
