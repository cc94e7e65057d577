import FlipperZero.Toolbox.KeysDictRead
import Mathlib.Data.List.DropRight

/-!
# Editing dictionaries of keys

A key is added as a line at the end of the file, which opening has completed. A key is deleted by
moving back as many bytes as its line should have and deleting them; a longer line leaves its
beginning behind, in front of the next line.
-/

namespace FlipperZero

open Foundation

namespace KeysDict

variable {d d' : KeysDict} {f : File} {stale : UInt8} {n : Nat} {key l : List UInt8}

/-! ### Lines and keys -/

@[simp] lemma lineText_nil : lineText [] = [] := rfl

lemma lineReads_nil (hn : 0 < n) : lineReads stale n [] = none := by
  rw [lineReads, keyOf_of_lineText_nil hn lineText_nil]
  rfl

lemma filterMap_lineReads_singleton (l : List UInt8) :
    [l].filterMap (lineReads stale n) = (lineReads stale n l).toList := by
  rw [List.filterMap_cons]
  cases lineReads stale n l <;> rfl

lemma filterMap_splitBehind_of_notMem (hn : 0 < n) (h : 10 ∉ l) :
    (splitBehind 10 l).filterMap (lineReads stale n) = (lineReads stale n l).toList := by
  by_cases hnil : l = []
  · rw [hnil, lineReads_nil hn]
    rfl
  · rw [splitBehind_of_notMem h hnil, filterMap_lineReads_singleton]

/-! ### Adding -/

/-- What stands behind the last line feed. -/
def unfinished (content : List UInt8) : List UInt8 := content.rtakeWhile (· ≠ 10)

lemma notMem_unfinished (content : List UInt8) : 10 ∉ unfinished content := by
  intro hmem
  have hne := List.mem_rtakeWhile_imp hmem
  simp at hne

lemma splitBehind_append_unfinished (content t : List UInt8) :
    ∃ ls, splitBehind 10 (content ++ t) = ls ++ splitBehind 10 (unfinished content ++ t) ∧
      splitBehind 10 content = ls ++ splitBehind 10 (unfinished content) := by
  have hsplit : content.rdropWhile (· ≠ 10) ++ unfinished content = content :=
    List.rdropWhile_append_rtakeWhile
  have hlast : ∀ c ∈ (content.rdropWhile (· ≠ 10)).getLast?, c = 10 := by
    intro c hc
    have hne : content.rdropWhile (· ≠ 10) ≠ [] := by
      intro hnil
      rw [hnil] at hc
      exact absurd hc (by simp)
    rw [List.getLast?_eq_some_getLast hne] at hc
    have hnot := List.rdropWhile_last_not (· ≠ 10) content hne
    rw [Option.some.inj hc] at hnot
    simpa using hnot
  refine ⟨splitBehind 10 (content.rdropWhile (· ≠ 10)), ?_, ?_⟩
  · rw [← splitBehind_append hlast, ← List.append_assoc, hsplit]
  · rw [← splitBehind_append hlast, hsplit]

lemma notMem_intToStr {c : UInt8} (hc : ∀ i < 16, digitText i ≠ c) (key : List UInt8) :
    c ∉ intToStr key := by
  induction key with
  | nil => exact List.not_mem_nil
  | cons b key ih =>
    have hcons : intToStr (b :: key) =
        digitText (b.toNat / 16 % 16) :: digitText (b.toNat % 16) :: intToStr key := rfl
    rw [hcons, List.mem_cons, List.mem_cons]
    rintro (h | h | h)
    · exact hc _ (Nat.mod_lt _ (by decide)) h.symm
    · exact hc _ (Nat.mod_lt _ (by decide)) h.symm
    · exact ih h

lemma keyOf_intToStr (hn : 0 < n) (hkey : key.length = n) :
    keyOf n (intToStr key ++ [10]) = some (intToStr key) := by
  have hcr : (13 : UInt8) ∉ intToStr key := notMem_intToStr (by decide) key
  have hhash : (35 : UInt8) ∉ intToStr key := notMem_intToStr (by decide) key
  have htext : lineText (intToStr key ++ [10]) = intToStr key ++ [10] := by
    rw [lineText, List.filter_eq_self]
    intro c hc
    rcases List.mem_append.mp hc with hc | hc
    · exact decide_eq_true fun heq => hcr (heq ▸ hc)
    · rw [List.mem_singleton.mp hc]
      rfl
  have htake : (intToStr key ++ [10]).take (n * 2) = intToStr key := by
    apply List.take_left'
    rw [length_intToStr, hkey, Nat.mul_comm]
  have hhead : (intToStr key ++ [10]).head? ≠ some 35 := by
    cases hcons : intToStr key with
    | nil =>
      have hlen := length_intToStr key
      rw [hcons, List.length_nil] at hlen
      omega
    | cons c cs =>
      intro heq
      rw [hcons] at hhash
      exact hhash (List.mem_cons.mpr (.inl (Option.some.inj heq).symm))
  rw [keyOf, htext, lineKey, if_neg hhead, htake, if_pos]
  rw [length_intToStr, hkey, Nat.mul_comm]

lemma seekable_of_seek_end (hlen : f.content.length < 4294967296)
    (h : (fileStreamSeek f 0 .fromEnd).1 = true) : Seekable f := by
  by_contra hf
  have hsize : f.size = f.content.length := asUInt32_of_lt hlen
  have hnot : ¬ 0 ≤ asInt32 ((f.content.length : Int) + 0) := by
    rw [asInt32_nonneg_iff]
    rw [Seekable] at hf
    omega
  have htarget : seekTarget f.tell f.size 0 .fromEnd = none := by
    simp only [seekTarget, hsize, if_neg hnot]
  rw [fileStreamSeek, htarget] at h
  exact absurd h Bool.false_ne_true

lemma seek_end (hf : Seekable f) :
    fileStreamSeek f 0 .fromEnd = (true, f.seek f.content.length) := by
  have hseek := seek_fromEnd hf (Nat.zero_le f.content.length)
  rwa [Nat.sub_zero] at hseek

lemma deleteAndInsert_end {t : List UInt8} (hlen : f.content.length + t.length < 4294967296) :
    if f.content.length + t.length < 2147483648 then
      ∃ f', (f.seek f.content.length).deleteAndInsert 0 (some t) = (true, f') ∧
        f'.content = f.content ++ t
    else ((f.seek f.content.length).deleteAndInsert 0 (some t)).1 = false := by
  have hpos : (f.seek f.content.length).pos = f.content.length := Nat.min_self _
  have hsplice : splice f.content f.content.length 0 t = f.content ++ t := by
    rw [splice]
    simp
  have hresult := (f.seek f.content.length).deleteAndInsert_eq 0 (some t)
  have hiff : InsertAddressable (f.seek f.content.length) 0 (some t) ↔
      f.content.length + t.length < 2147483648 := by
    rw [InsertAddressable, hpos, File.seek_content, Option.getD_some, hsplice,
      List.length_append, Nat.zero_min]
    omega
  simp only [hpos, File.seek_content, Option.getD_some, hsplice, List.length_append, hiff]
    at hresult
  have hspliced := hresult (by omega) hlen (Nat.le_refl _)
  split_ifs with hlt
  · rw [if_pos hlt] at hspliced
    exact ⟨_, hspliced, rfl⟩
  · rw [if_neg hlt] at hspliced
    exact hspliced

lemma length_keyText (key : List UInt8) :
    (intToStr key ++ [10]).length = 2 * key.length + 1 := by
  rw [List.length_append, length_intToStr, List.length_singleton]

lemma fileStreamSeek_content (f : File) (offset : Int) (kind : StreamOffset) :
    (fileStreamSeek f offset kind).2.content = f.content := by
  rw [fileStreamSeek, File.seekLimited_content]

lemma addKey_spec {r w : Bool × File} (hseek : fileStreamSeek d.stream 0 .fromEnd = r)
    (hinsert : (if r.1 then r.2.deleteAndInsert 0 (some (intToStr key ++ [10]))
      else (false, r.2)) = w) :
    (d.addKey key).1 = w.1 ∧ (d.addKey key).2.stream.content = w.2.content ∧
      (d.addKey key).2.keySize = d.keySize ∧
      (d.addKey key).2.totalKeys = if w.1 then d.totalKeys + 1 else d.totalKeys := by
  -- the seek back is named, so that no projection of it is evaluated
  obtain ⟨q, hq⟩ : ∃ q, fileStreamSeek w.2 (asInt32 d.stream.tell) .fromStart = q := ⟨_, rfl⟩
  have hcontent : q.2.content = w.2.content := by rw [← hq, fileStreamSeek_content]
  have hadd : d.addKey key = (w.1, { d with
      stream := q.2
      totalKeys := if w.1 then d.totalKeys + 1 else d.totalKeys }) := by
    simp only [addKey, hseek, addKeyStr, hinsert, hq]
  rw [hadd]
  exact ⟨rfl, hcontent, rfl, rfl⟩

lemma addKey_of_lt (d : KeysDict) (key : List UInt8)
    (hlt : d.stream.content.length + (2 * key.length + 1) < 2147483648) :
    (d.addKey key).1 = true ∧
      (d.addKey key).2.stream.content = d.stream.content ++ (intToStr key ++ [10]) ∧
      (d.addKey key).2.keySize = d.keySize ∧
      (d.addKey key).2.totalKeys = d.totalKeys + 1 := by
  have hf : Seekable d.stream := by
    rw [Seekable]
    omega
  rw [← length_keyText] at hlt
  have hinsert := deleteAndInsert_end (f := d.stream) (t := intToStr key ++ [10]) (by omega)
  rw [if_pos hlt] at hinsert
  obtain ⟨f', hinsert, hcontent⟩ := hinsert
  obtain ⟨hok, hnew, hsize, htotal⟩ := addKey_spec (seek_end hf) ((if_pos rfl).trans hinsert)
  rw [if_pos rfl] at htotal
  exact ⟨hok, hnew.trans hcontent, hsize, htotal⟩

lemma lt_of_addKey (hsize : d.stream.content.length + (2 * key.length + 1) < 4294967296)
    (h : (d.addKey key).1 = true) :
    d.stream.content.length + (2 * key.length + 1) < 2147483648 := by
  have hlen : d.stream.content.length < 4294967296 := by omega
  have hf : Seekable d.stream := by
    apply seekable_of_seek_end hlen
    by_contra hfail
    rw [(addKey_spec rfl (if_neg hfail)).1] at h
    exact absurd h Bool.false_ne_true
  have hseek := seek_end hf
  rw [← length_keyText] at hsize ⊢
  by_contra hge
  have hinsert := deleteAndInsert_end hsize
  rw [if_neg hge] at hinsert
  rw [(addKey_spec hseek (if_pos rfl)).1, hinsert] at h
  exact absurd h Bool.false_ne_true

lemma keys_append (hn : 0 < d.keySize) (stale : UInt8) (hsize : d'.keySize = d.keySize)
    (hcontent : d'.stream.content = d.stream.content ++ (intToStr key ++ [10])) :
    ∃ ks, d.keys stale = ks ++ (lineReads stale d.keySize (unfinished d.stream.content)).toList ∧
      d'.keys stale = ks ++ (lineReads stale d.keySize
        (unfinished d.stream.content ++ (intToStr key ++ [10]))).toList := by
  obtain ⟨ls, hnew, hold⟩ := splitBehind_append_unfinished d.stream.content (intToStr key ++ [10])
  have hline : 10 ∉ unfinished d.stream.content ++ intToStr key := by
    intro hmem
    rcases List.mem_append.mp hmem with hmem | hmem
    · exact notMem_unfinished _ hmem
    · exact notMem_intToStr (by decide) key hmem
  refine ⟨ls.filterMap (lineReads stale d.keySize), ?_, ?_⟩
  · rw [keys, lines, hold, List.filterMap_append,
      filterMap_splitBehind_of_notMem hn (notMem_unfinished _)]
  · rw [keys, lines, hcontent, hnew, hsize, List.filterMap_append, ← List.append_assoc,
      splitBehind_append_sep hline, splitBehind_nil, filterMap_lineReads_singleton]

/-- What a key and the end of the file are when the key can be added as it is: nothing is
unfinished and there are zeros in front of the last eight bytes of the key, or the unfinished
line, which is no key, together with the text of the key is read as the key. -/
def Appendable (stale : UInt8) (d : KeysDict) (key : List UInt8) : Prop :=
  if unfinished d.stream.content = [] then
    key.take (d.keySize - 8) = List.replicate (d.keySize - 8) 0
  else
    lineReads stale d.keySize (unfinished d.stream.content) = none ∧
      lineReads stale d.keySize (unfinished d.stream.content ++ (intToStr key ++ [10])) = some key

instance (stale : UInt8) (d : KeysDict) (key : List UInt8) : Decidable (Appendable stale d key) := by
  unfold Appendable
  infer_instance

/-- When a key was added, the keys read back are the previous ones and the key, if and only if the
key and the end of the file admit it. One more key is counted in any case. -/
theorem addKey_reads_iff (hn : 0 < d.keySize) (hkey : key.length = d.keySize)
    (hsize : d.stream.content.length + (2 * key.length + 1) < 4294967296)
    (hadd : d.addKey key = (true, d')) (stale : UInt8) :
    ((∃ ks, d.Reads stale ks ∧ d'.Reads stale (ks ++ [key])) ∧
        d'.totalKeys = d.totalKeys + 1) ↔ Appendable stale d key := by
  have hlt := lt_of_addKey hsize (congrArg Prod.fst hadd)
  obtain ⟨-, hcontent, hkeySize, htotal⟩ := addKey_of_lt d key hlt
  rw [hadd] at hcontent hkeySize htotal
  have hf : Seekable d.stream := by
    rw [Seekable]
    omega
  have hf' : Seekable d'.stream := by
    rw [Seekable, hcontent, List.length_append, length_keyText]
    exact hlt
  have hreads := reads_keys hn hf stale
  have hreads' := reads_keys (hkeySize ▸ hn) hf' stale
  have hiff : ((∃ ks, d.Reads stale ks ∧ d'.Reads stale (ks ++ [key])) ∧
      d'.totalKeys = d.totalKeys + 1) ↔ d'.keys stale = d.keys stale ++ [key] := by
    constructor
    · rintro ⟨⟨ks, hks, hks'⟩, -⟩
      rw [hks.unique hreads] at hks'
      exact hreads'.unique hks'
    · intro h
      exact ⟨⟨d.keys stale, hreads, h ▸ hreads'⟩, htotal⟩
  obtain ⟨ks, hold, hnew⟩ := keys_append hn stale hkeySize hcontent
  rw [hiff, hold, hnew, List.append_assoc, List.append_cancel_left_eq, Appendable]
  split_ifs with hnil
  · have hread := keyOfLine_intToStr stale key
    rw [hkey] at hread
    rw [hnil, lineReads_nil hn, List.nil_append, lineReads, keyOf_intToStr hn hkey,
      Option.map_some, hread]
    constructor
    · intro heq
      have hkeep : List.replicate (d.keySize - 8) 0 ++ key.drop (d.keySize - 8) = key :=
        List.singleton_inj.mp heq
      rw [← hkeep, List.take_left' List.length_replicate]
    · intro hzeros
      rw [← hzeros, List.take_append_drop]
      rfl
  · cases hold : lineReads stale d.keySize (unfinished d.stream.content) with
    | none => simp [Option.toList_eq_singleton_iff]
    | some k =>
      cases hnew : lineReads stale d.keySize
        (unfinished d.stream.content ++ (intToStr key ++ [10])) <;> simp

/-- A key of two bytes is added to a file with a comment, whose line was not finished. -/
theorem addKey_reads_two_bytes :
    ∃ d d', alloc [35, 107] 2 = some d ∧ d.addKey [175, 254] = (true, d') ∧
      (∃ ks, d.Reads 0 ks ∧ d'.Reads 0 (ks ++ [[175, 254]])) ∧ d'.totalKeys = d.totalKeys + 1 := by
  let d : KeysDict := ⟨⟨[35, 107, 10], 0, by decide⟩, 2, 0⟩
  obtain ⟨hok, -⟩ := addKey_of_lt d [175, 254] (by decide)
  have hadd : d.addKey [175, 254] = (true, (d.addKey [175, 254]).2) := Prod.ext hok rfl
  exact ⟨d, _, alloc_eq (by decide) (by decide), hadd,
    (addKey_reads_iff (by decide) rfl (by decide) hadd 0).mpr (by decide)⟩

/-- The first byte of nine is lost. -/
theorem addKey_nine_bytes :
    ∃ d d', alloc [] 9 = some d ∧ d.addKey [1, 2, 3, 4, 5, 6, 7, 8, 9] = (true, d') ∧
      d.Reads 0 [] ∧ d'.Reads 0 [[0, 2, 3, 4, 5, 6, 7, 8, 9]] := by
  let d : KeysDict := ⟨⟨[], 0, by decide⟩, 9, 0⟩
  obtain ⟨hok, hcontent, hsize, -⟩ :=
    addKey_of_lt d [1, 2, 3, 4, 5, 6, 7, 8, 9] (by decide)
  refine ⟨d, (d.addKey [1, 2, 3, 4, 5, 6, 7, 8, 9]).2, alloc_eq (by decide) (by decide),
    Prod.ext hok rfl, ?_, ?_⟩
  · have hf : Seekable d.stream := by
      rw [Seekable]
      decide
    exact reads_keys (by decide) hf 0
  · have hf : Seekable (d.addKey [1, 2, 3, 4, 5, 6, 7, 8, 9]).2.stream := by
      rw [Seekable, hcontent]
      decide
    have hkeys : (d.addKey [1, 2, 3, 4, 5, 6, 7, 8, 9]).2.keys 0 =
        [[0, 2, 3, 4, 5, 6, 7, 8, 9]] := by
      rw [keys, lines, hcontent, hsize]
      decide +kernel
    exact hkeys ▸ reads_keys (by rw [hsize]; decide) hf 0

/-! ### Deleting -/

lemma deleteAndInsert_delete (hf : Seekable f) (size : Nat) :
    ∃ f', f.deleteAndInsert size none = (true, f') ∧
      f'.content = f.content.take f.pos ++ f.content.drop (f.pos + size) := by
  have hpos := f.pos_le
  have hlen : f.content.length < 2147483648 := hf
  have hdrop : f.content.drop (f.pos + min size (f.content.length - f.pos)) =
      f.content.drop (f.pos + size) := by
    rcases Nat.le_total size (f.content.length - f.pos) with h | h
    · rw [Nat.min_eq_left h]
    · rw [Nat.min_eq_right h, Nat.add_sub_cancel' hpos, List.drop_length,
        List.drop_of_length_le (by omega)]
  have hsplice : splice f.content f.pos size [] =
      f.content.take f.pos ++ f.content.drop (f.pos + size) := by
    rw [splice, hdrop, List.append_nil]
  have hlength := length_splice hpos size ([] : List UInt8)
  rw [List.length_nil, Nat.add_zero] at hlength
  have haddr : InsertAddressable f size none := by
    rw [InsertAddressable, Option.getD_none, hlength, List.length_nil]
    omega
  have hspliced := f.deleteAndInsert_eq size none (by omega)
    (by rw [Option.getD_none, hlength]; omega)
    (by rw [Option.getD_none, hlength, List.length_nil]; omega)
  rw [if_pos haddr] at hspliced
  exact ⟨_, hspliced, hsplice⟩

/-- The key that was read last is deleted: what stood before the symbols of a key is left, and what
stands behind the position. -/
lemma deleteLast_inside {u v : List UInt8} (hf : Seekable d.stream)
    (hcontent : d.stream.content = u ++ v) (hpos : d.stream.pos = u.length)
    (hlen : d.keySizeSymbols ≤ u.length) :
    ∃ d', d.deleteLast = (true, d') ∧ d'.keySize = d.keySize ∧ d'.totalKeys = d.totalKeys - 1 ∧
      d'.stream.content = u.take (u.length - d.keySizeSymbols) ++ v := by
  have hlt : d.stream.content.length < 2147483648 := hf
  have hfile : d.stream.content.length = d.stream.pos + v.length := by
    rw [hcontent, hpos, List.length_append]
  have hoffset : asInt32 (-(d.keySizeSymbols : Int)) = -d.keySizeSymbols :=
    asInt32_of_bounds (by omega) (by omega)
  have hseek : fileStreamSeek d.stream (asInt32 (-(d.keySizeSymbols : Int))) .fromCurrent =
      (true, d.stream.seek (d.stream.pos - d.keySizeSymbols)) := by
    rw [hoffset]
    exact hf.seek (by omega) (by omega)
  have hstart : (d.stream.seek (d.stream.pos - d.keySizeSymbols)).pos =
      d.stream.pos - d.keySizeSymbols := Nat.min_eq_left (by omega)
  have hf' : Seekable (d.stream.seek (d.stream.pos - d.keySizeSymbols)) := hf
  obtain ⟨f', hdelete, hnew⟩ := deleteAndInsert_delete hf' d.keySizeSymbols
  refine ⟨{ d with stream := f', totalKeys := d.totalKeys - 1 }, ?_, rfl, rfl, ?_⟩
  · rw [deleteLast, hseek, hdelete]
    rfl
  · have hback : d.stream.pos - d.keySizeSymbols + d.keySizeSymbols = u.length := by omega
    rw [hnew, hstart, File.seek_content, hback, hcontent, List.drop_left, hpos,
      List.take_append_of_le_length (Nat.sub_le _ _)]

/-- With fewer bytes before the position, the stream goes to the start of the file. -/
lemma deleteLast_start {u v : List UInt8} (hf : Seekable d.stream)
    (hcontent : d.stream.content = u ++ v) (hpos : d.stream.pos = u.length)
    (hlen : u.length < d.keySizeSymbols) (hsymbols : d.keySizeSymbols ≤ 2147483648) :
    ∃ d', d.deleteLast = (true, d') ∧ d'.keySize = d.keySize ∧ d'.totalKeys = d.totalKeys - 1 ∧
      d'.stream.content = v.drop (d.keySizeSymbols - u.length) := by
  have hlt : d.stream.content.length < 2147483648 := hf
  have hfile : d.stream.content.length = d.stream.pos + v.length := by
    rw [hcontent, hpos, List.length_append]
  have hoffset : asInt32 (-(d.keySizeSymbols : Int)) = -d.keySizeSymbols :=
    asInt32_of_bounds (by omega) (by omega)
  have htell : d.stream.tell = d.stream.pos := asUInt32_of_lt (by omega)
  have hbelow : ¬ 0 ≤ asInt32 ((d.stream.tell : Int) + -d.keySizeSymbols) := by
    rw [htell, asInt32_of_bounds (by omega) (by omega)]
    omega
  have hseek : fileStreamSeek d.stream (asInt32 (-(d.keySizeSymbols : Int))) .fromCurrent =
      (false, d.stream.seek 0) := by
    rw [hoffset, fileStreamSeek, seekTarget, if_neg hbelow]
    rfl
  have hstart : (d.stream.seek 0).pos = 0 := Nat.zero_min _
  have hf' : Seekable (d.stream.seek 0) := hf
  obtain ⟨f', hdelete, hnew⟩ := deleteAndInsert_delete hf' d.keySizeSymbols
  refine ⟨{ d with stream := f', totalKeys := d.totalKeys - 1 }, ?_, rfl, rfl, ?_⟩
  · rw [deleteLast, hseek, hdelete]
    rfl
  · rw [hnew, hstart, File.seek_content, hcontent, List.take_zero, List.nil_append, Nat.zero_add,
      List.drop_append, List.drop_of_length_le (Nat.le_of_lt hlen), List.nil_append]

lemma Ahead.deleteLoop {ls : List (List UInt8)} (hn : 0 < d.keySize) (h : Ahead d.stream ls)
    (stale : UInt8) (key : List UInt8) {r : Nat} (hr : ls.length < r) :
    ((∀ x ∈ ls, lineReads stale d.keySize x ≠ some key) ∧
      ∃ f', f'.content = d.stream.content ∧
        loop (deleteStep stale key) r d = some (some (false, { d with stream := f' }))) ∨
      ∃ pre l post f', ls = pre ++ l :: post ∧
        (∀ x ∈ pre, lineReads stale d.keySize x ≠ some key) ∧
        lineReads stale d.keySize l = some key ∧ f'.content = d.stream.content ∧ Ahead f' post ∧
        loop (deleteStep stale key) r d = some (some { d with stream := f' }.deleteLast) := by
  induction r generalizing d ls with
  | zero => exact absurd hr (Nat.not_lt_zero _)
  | succ r ih =>
    obtain ⟨f', hcontent, hahead, hnext⟩ := h.getNextKey hn stale
    have hnone : ∀ {skip : List (List UInt8)}, (∀ x ∈ skip, keyOf d.keySize x = none) →
        ∀ x ∈ skip, lineReads stale d.keySize x ≠ some key := by
      intro skip hskip x hx
      rw [lineReads, hskip x hx]
      exact Option.some_ne_none key ∘ Eq.symm
    rcases firstKey_spec d.keySize ls with
      ⟨hfirst, hall⟩ | ⟨skip, l, post, str, rfl, hskip, hl, hfirst⟩
    · rw [hfirst] at hnext
      refine .inl ⟨hnone hall, f', hcontent, loop_leave ?_⟩
      rw [deleteStep, hnext]
      rfl
    · rw [hfirst] at hnext hahead
      have hreads : lineReads stale d.keySize l = some (keyOfLine stale d.keySize str) := by
        rw [lineReads, hl, Option.map_some]
      by_cases hkey : keyOfLine stale d.keySize str = key
      · refine .inr ⟨skip, l, post, f', rfl, hnone hskip, hkey ▸ hreads, hcontent, hahead,
          loop_leave ?_⟩
        rw [deleteStep, hnext]
        exact if_pos hkey
      · have hstep : deleteStep stale key d = .again { d with stream := f' } := by
          rw [deleteStep, hnext]
          exact if_neg hkey
        have hskip' : ∀ x ∈ skip ++ [l], lineReads stale d.keySize x ≠ some key := by
          intro x hx
          rcases List.mem_append.mp hx with hx | hx
          · exact hnone hskip x hx
          · rw [List.mem_singleton.mp hx, hreads]
            exact fun heq => hkey (Option.some.inj heq)
        have hlt : post.length < r := by
          rw [List.length_append, List.length_cons] at hr
          omega
        rw [loop_again hstep]
        rcases ih (d := { d with stream := f' }) hn hahead hlt with
          ⟨hpost, f'', hcontent', hloop⟩ |
            ⟨pre, l', post', f'', rfl, hpre, hl', hcontent', hahead', hloop⟩
        · refine .inl ⟨?_, f'', hcontent'.trans hcontent, hloop⟩
          rw [List.append_cons]
          exact List.forall_mem_append.mpr ⟨hskip', hpost⟩
        · refine .inr ⟨skip ++ [l] ++ pre, l', post', f'', ?_, ?_, hl', hcontent'.trans hcontent,
            hahead', hloop⟩
          · simp
          · exact List.forall_mem_append.mpr ⟨hskip', hpre⟩

/-- What the line of a key has more than the symbols of a key. Deleting the key leaves it in front
of the next line. -/
def surplus (n : Nat) (l : List UInt8) : List UInt8 := l.take (l.length - (n * 2 + 1))

/-- The keys that are read when the key of a line is deleted. A line whose line feed is taken as the
last symbol of its key is one byte shorter than what is deleted: the line feed of the line before it
goes as well, or the first byte of the line behind it when there is none before. -/
def readsLeft (stale : UInt8) (n : Nat) (pre : List (List UInt8)) (l : List UInt8)
    (post : List (List UInt8)) : List (List UInt8) :=
  let next := post.headD []
  let rest := post.tail.filterMap (lineReads stale n)
  if n * 2 < l.length then
    pre.filterMap (lineReads stale n) ++ ((lineReads stale n (surplus n l ++ next)).toList ++ rest)
  else
    match pre.getLast? with
    | none      => (lineReads stale n next.tail).toList ++ rest
    | some prev => pre.dropLast.filterMap (lineReads stale n) ++
        ((lineReads stale n (prev.dropLast ++ next)).toList ++ rest)

/-- The first line that is read as a key is deleted in a way that leaves the keys of the other
lines: what it leaves behind does not change how the next line is read, and when one byte too many
is deleted, the lines around it are read as the same keys with that byte missing. -/
def DeletesWhole (stale : UInt8) (n : Nat) (key : List UInt8) (ls : List (List UInt8)) : Prop :=
  match ls.dropWhile fun l => lineReads stale n l ≠ some key with
  | []        => True
  | l :: post =>
    let next := post.headD []
    if n * 2 < l.length then lineReads stale n (surplus n l ++ next) = lineReads stale n next
    else
      match (ls.takeWhile fun l => lineReads stale n l ≠ some key).getLast? with
      | none      => lineReads stale n next.tail = lineReads stale n next
      | some prev => (lineReads stale n (prev.dropLast ++ next)).toList =
          (lineReads stale n prev).toList ++ (lineReads stale n next).toList

instance (stale : UInt8) (n : Nat) (key : List UInt8) (ls : List (List UInt8)) :
    Decidable (DeletesWhole stale n key ls) := by
  unfold DeletesWhole
  split
  · infer_instance
  · dsimp only
    split_ifs
    · infer_instance
    · split <;> infer_instance

lemma deletesWhole_of_notMem {ls : List (List UInt8)}
    (h : ∀ x ∈ ls, lineReads stale n x ≠ some key) : DeletesWhole stale n key ls := by
  have hdrop : (ls.dropWhile fun l => lineReads stale n l ≠ some key) = [] :=
    List.dropWhile_eq_nil_iff.mpr fun x hx => decide_eq_true (h x hx)
  rw [DeletesWhole, hdrop]
  trivial

lemma le_length_of_keyOf {str : List UInt8} (hkey : keyOf n l = some str) : n * 2 ≤ l.length := by
  rw [keyOf, lineKey] at hkey
  split_ifs at hkey with hhash hsize
  have hle : n * 2 ≤ (lineText l).length := by
    rw [← hsize]
    exact List.length_take_le' _ _
  exact hle.trans (List.length_filter_le _ _)

lemma notMem_surplus (hcomplete : CompleteLine 10 l) : 10 ∉ surplus n l := by
  obtain ⟨u, hu, rfl⟩ := hcomplete
  intro hmem
  rw [surplus, List.length_append, List.length_singleton, Nat.add_sub_add_right,
    List.take_append_of_le_length (Nat.sub_le _ _)] at hmem
  exact hu (List.mem_of_mem_take hmem)

lemma filterMap_lineReads_headD (hn : 0 < n) (post : List (List UInt8)) :
    post.filterMap (lineReads stale n) =
      (lineReads stale n (post.headD [])).toList ++ post.tail.filterMap (lineReads stale n) := by
  cases post with
  | nil =>
    rw [List.headD_nil, lineReads_nil hn]
    rfl
  | cons l post =>
    rw [List.filterMap_cons, List.headD_cons, List.tail_cons]
    cases lineReads stale n l <;> rfl

lemma filterMap_splitBehind_append {q : List UInt8} {post : List (List UInt8)} (hn : 0 < n)
    (hq : 10 ∉ q) (hpost : ∀ x ∈ post, CompleteLine 10 x) :
    (splitBehind 10 (q ++ post.flatten)).filterMap (lineReads stale n) =
      (lineReads stale n (q ++ post.headD [])).toList ++
        post.tail.filterMap (lineReads stale n) := by
  have hsplit := splitBehind_flatten_append hpost []
  rw [List.append_nil, splitBehind_nil, List.append_nil] at hsplit
  cases post with
  | nil =>
    rw [List.flatten_nil, List.append_nil, filterMap_splitBehind_of_notMem hn hq, List.headD_nil,
      List.append_nil]
    exact (List.append_nil _).symm
  | cons l post =>
    rw [splitBehind_append_of_notMem hq, hsplit, List.headD_cons, List.tail_cons,
      List.filterMap_cons]
    cases lineReads stale n (q ++ l) <;> rfl

/-- Between a list with an element, with few others around it, and a list with at most one element
in their place the difference is that element if and only if the others are the same. -/
lemma removed_iff {α : Type*} {k : α} {r s x : Option α} {a b : List α} :
    (∃ c e, a ++ (r.toList ++ k :: (s.toList ++ b)) = c ++ k :: e ∧
      a ++ (x.toList ++ b) = c ++ e) ↔ x.toList = r.toList ++ s.toList := by
  constructor
  · rintro ⟨c, e, hold, hnew⟩
    have hperm : (k :: (a ++ ((r.toList ++ s.toList) ++ b))).Perm
        (k :: (a ++ (x.toList ++ b))) := by
      have hfirst : (k :: (a ++ ((r.toList ++ s.toList) ++ b))).Perm
          (a ++ (r.toList ++ k :: (s.toList ++ b))) := by
        simp only [← List.append_assoc]
        simp only [List.append_assoc (a ++ r.toList)]
        exact List.perm_middle.symm
      rw [hnew]
      exact (hfirst.trans (List.Perm.of_eq hold)).trans List.perm_middle
    have hrest : (r.toList ++ s.toList).Perm x.toList := (List.perm_append_right_iff b).mp
      ((List.perm_append_left_iff a).mp hperm.cons_inv)
    cases x with
    | none => exact hrest.eq_nil.symm
    | some y => exact (List.perm_singleton.mp hrest).symm
  · intro h
    refine ⟨a ++ r.toList, s.toList ++ b, by simp only [List.append_assoc], ?_⟩
    rw [h, List.append_assoc, List.append_assoc]

/-- What is read afterwards are the keys without the one that is deleted exactly when the lines are
deleted as they should. -/
lemma readsLeft_removed_iff (hn : 0 < n) {pre post : List (List UInt8)}
    (hpre : ∀ x ∈ pre, lineReads stale n x ≠ some key) (hl : lineReads stale n l = some key) :
    (∃ c e, (pre ++ l :: post).filterMap (lineReads stale n) = c ++ key :: e ∧
      readsLeft stale n pre l post = c ++ e) ↔ DeletesWhole stale n key (pre ++ l :: post) := by
  have hdrop : ((pre ++ l :: post).dropWhile fun l => lineReads stale n l ≠ some key) =
      l :: post := by
    rw [List.dropWhile_append_of_pos fun x hx => decide_eq_true (hpre x hx)]
    exact List.dropWhile_cons_of_neg (by simp [hl])
  have htake : ((pre ++ l :: post).takeWhile fun l => lineReads stale n l ≠ some key) = pre := by
    rw [List.takeWhile_append_of_pos fun x hx => decide_eq_true (hpre x hx),
      List.takeWhile_cons_of_neg (by simp [hl]), List.append_nil]
  have hkeys : (pre ++ l :: post).filterMap (lineReads stale n) =
      pre.filterMap (lineReads stale n) ++ key ::
        ((lineReads stale n (post.headD [])).toList ++
          post.tail.filterMap (lineReads stale n)) := by
    rw [List.filterMap_append, List.filterMap_cons_some hl, filterMap_lineReads_headD hn post]
  rw [DeletesWhole, hdrop, htake, hkeys]
  dsimp only
  have hone {a : List (List UInt8)} {x s : Option (List UInt8)} {b : List (List UInt8)} :
      (∃ c e, a ++ key :: (s.toList ++ b) = c ++ key :: e ∧ a ++ (x.toList ++ b) = c ++ e) ↔
        x = s := by
    refine (removed_iff (r := none)).trans ⟨fun h => ?_, fun h => ?_⟩
    · cases x <;> cases s <;> simp_all
    · rw [h]
      rfl
  unfold readsLeft
  by_cases hlong : n * 2 < l.length
  · rw [if_pos hlong, if_pos hlong]
    exact hone
  · rw [if_neg hlong, if_neg hlong]
    cases hlast : pre.getLast? with
    | none =>
      rw [List.getLast?_eq_none_iff.mp hlast]
      exact hone (a := [])
    | some prev =>
      obtain ⟨init, rfl⟩ := List.getLast?_eq_some_iff.mp hlast
      rw [List.dropLast_concat, List.filterMap_append, filterMap_lineReads_singleton,
        List.append_assoc]
      exact removed_iff

@[simp] lemma rewind_content (d : KeysDict) : d.rewind.stream.content = d.stream.content := by
  rw [rewind, streamRewind, fileStreamSeek_content]

@[simp] lemma rewind_keySize (d : KeysDict) : d.rewind.keySize = d.keySize := rfl

@[simp] lemma rewind_totalKeys (d : KeysDict) : d.rewind.totalKeys = d.totalKeys := rfl

/-- A dictionary is left with the keys of its file when its file is below 2 GiB. -/
lemma reads_rewind (hn : 0 < d.keySize) (hf : Seekable d.stream) (stale : UInt8) :
    d.rewind.Reads stale (d.keys stale) := by
  have hf' : Seekable d.rewind.stream := by
    rw [Seekable, rewind_content]
    exact hf
  have hreads := reads_keys (d := d.rewind) hn hf' stale
  rw [keys, lines, rewind_content] at hreads
  exact hreads

/-- What is left of a file when the key of a line is deleted that is one byte shorter than what is
deleted. -/
lemma filterMap_splitBehind_shorter (hn : 0 < n) {pre post : List (List UInt8)}
    (hpre : ∀ x ∈ pre, CompleteLine 10 x) (hpost : ∀ x ∈ post, CompleteLine 10 x)
    (hshort : ¬ n * 2 < l.length) :
    (splitBehind 10 (if pre = [] then post.flatten.drop 1
      else pre.flatten.dropLast ++ post.flatten)).filterMap (lineReads stale n) =
        readsLeft stale n pre l post := by
  rw [readsLeft, if_neg hshort]
  cases hlast : pre.getLast? with
  | none =>
    rw [if_pos (List.getLast?_eq_none_iff.mp hlast), List.drop_one]
    dsimp only
    cases post with
    | nil =>
      rw [List.headD_nil, List.tail_nil, lineReads_nil hn]
      rfl
    | cons y post =>
      obtain ⟨u, hu, rfl⟩ := hpost y List.mem_cons_self
      have hpost' : ∀ x ∈ post, CompleteLine 10 x := fun x hx => hpost x (List.mem_cons_of_mem _ hx)
      rw [List.headD_cons, List.tail_cons, List.flatten_cons]
      cases u with
      | nil =>
        have hkeys : (splitBehind 10 ([] ++ post.flatten)).filterMap (lineReads stale n) =
            (lineReads stale n ([] ++ post.headD [])).toList ++
              post.tail.filterMap (lineReads stale n) :=
          filterMap_splitBehind_append hn List.not_mem_nil hpost'
        rw [List.nil_append, List.nil_append] at hkeys
        change (splitBehind 10 post.flatten).filterMap _ =
          (lineReads stale n []).toList ++ post.filterMap _
        rw [hkeys, lineReads_nil hn, ← filterMap_lineReads_headD hn]
        rfl
      | cons c u =>
        have hline : ∀ x ∈ (u ++ [10]) :: post, CompleteLine 10 x := List.forall_mem_cons.mpr
          ⟨⟨u, fun hc => hu (List.mem_cons_of_mem _ hc), rfl⟩, hpost'⟩
        exact filterMap_splitBehind_append hn List.not_mem_nil hline
  | some prev =>
    obtain ⟨init, rfl⟩ := List.getLast?_eq_some_iff.mp hlast
    obtain ⟨u, hu, rfl⟩ := hpre prev (by simp)
    have hinit : ∀ x ∈ init, CompleteLine 10 x := fun x hx => hpre x (by simp [hx])
    have hflat : (init ++ [u ++ [10]]).flatten.dropLast = init.flatten ++ u := by
      rw [List.flatten_append, List.flatten_singleton, ← List.append_assoc, List.dropLast_concat]
    rw [if_neg (by simp), hflat, List.append_assoc, splitBehind_flatten_append hinit,
      List.filterMap_append, filterMap_splitBehind_append hn hu hpost]
    dsimp only
    rw [List.dropLast_concat, List.dropLast_concat]

lemma Ahead.deleteLast {pre post : List (List UInt8)} (hn : 0 < d.keySize)
    (hcomplete : ∀ x ∈ pre ++ l :: post, CompleteLine 10 x)
    (hcontent : d.stream.content = (pre ++ l :: post).flatten) (hahead : Ahead d.stream post)
    (hl : lineReads stale d.keySize l = some key) :
    ∃ d', d.deleteLast = (true, d') ∧ d'.keySize = d.keySize ∧ d'.totalKeys = d.totalKeys - 1 ∧
      Seekable d'.stream ∧ d'.keys stale = readsLeft stale d.keySize pre l post := by
  have hpre : ∀ x ∈ pre, CompleteLine 10 x := fun x hx => hcomplete x (by simp [hx])
  have hpost : ∀ x ∈ post, CompleteLine 10 x := fun x hx => hcomplete x (by simp [hx])
  obtain ⟨str, hstr, -⟩ := Option.map_eq_some_iff.mp hl
  have hsymbols := le_length_of_keyOf hstr
  rw [List.flatten_append, List.flatten_cons, ← List.append_assoc] at hcontent
  have hpos : d.stream.pos = (pre.flatten ++ l).length := by
    have hdrop := flatten_splitBehind 10 (d.stream.content.drop d.stream.pos)
    rw [hahead.lines] at hdrop
    have hlen := congrArg List.length hdrop
    have hle := d.stream.pos_le
    rw [List.length_drop] at hlen
    rw [hcontent, List.length_append] at hlen hle
    omega
  have hlt : d.stream.content.length < 2147483648 := hahead.seekable
  have hall : (pre.flatten ++ l).length + post.flatten.length < 2147483648 := by
    rw [hcontent, List.length_append] at hlt
    exact hlt
  rw [List.length_append] at hall
  by_cases hlong : d.keySize * 2 < l.length
  · -- the line has a byte more than the symbols, and what is in front of those is left behind
    obtain ⟨d', hdelete, hsize, htotal, hnew⟩ := deleteLast_inside hahead.seekable hcontent hpos
      (by rw [List.length_append, keySizeSymbols]; omega)
    have hsurplus : 10 ∉ surplus d.keySize l := notMem_surplus (hcomplete l (by simp))
    have hcut : (pre.flatten ++ l).take ((pre.flatten ++ l).length - d.keySizeSymbols) =
        pre.flatten ++ surplus d.keySize l := by
      rw [List.length_append, Nat.add_sub_assoc (by rw [keySizeSymbols]; omega),
        List.take_length_add_append]
      rfl
    rw [hcut, List.append_assoc] at hnew
    refine ⟨d', hdelete, hsize, htotal, ?_, ?_⟩
    · rw [Seekable, hnew]
      simp only [surplus, List.length_append, List.length_take]
      omega
    · rw [keys, KeysDict.lines, hsize, hnew, splitBehind_flatten_append hpre, List.filterMap_append,
        filterMap_splitBehind_append hn hsurplus hpost, readsLeft]
      rw [if_pos hlong]
  · -- the line feed is the last symbol, and one more byte is deleted
    have hsame : l.length = d.keySize * 2 := by omega
    rw [← filterMap_splitBehind_shorter hn hpre hpost hlong]
    by_cases hnil : pre = []
    · obtain ⟨d', hdelete, hsize, htotal, hnew⟩ := deleteLast_start hahead.seekable hcontent hpos
        (by rw [hnil, List.flatten_nil, List.nil_append, keySizeSymbols]; omega)
        (by rw [keySizeSymbols]; omega)
      have hone : d.keySizeSymbols - (pre.flatten ++ l).length = 1 := by
        rw [hnil, List.flatten_nil, List.nil_append, keySizeSymbols]
        omega
      rw [hone] at hnew
      refine ⟨d', hdelete, hsize, htotal, ?_, ?_⟩
      · rw [Seekable, hnew, List.length_drop]
        omega
      · rw [keys, KeysDict.lines, hsize, hnew, if_pos hnil]
    · have hfirst : 0 < pre.flatten.length := by
        obtain ⟨x, pre, rfl⟩ := List.exists_cons_of_ne_nil hnil
        obtain ⟨u, -, rfl⟩ := hpre x List.mem_cons_self
        simp
      obtain ⟨d', hdelete, hsize, htotal, hnew⟩ := deleteLast_inside hahead.seekable hcontent hpos
        (by rw [List.length_append, keySizeSymbols]; omega)
      have hcut : (pre.flatten ++ l).take ((pre.flatten ++ l).length - d.keySizeSymbols) =
          pre.flatten.dropLast := by
        have hone : (pre.flatten ++ l).length - d.keySizeSymbols = pre.flatten.length - 1 := by
          rw [List.length_append, keySizeSymbols]
          omega
        rw [hone, List.take_append_of_le_length (Nat.sub_le _ _), List.dropLast_eq_take]
      rw [hcut] at hnew
      refine ⟨d', hdelete, hsize, htotal, ?_, ?_⟩
      · rw [Seekable, hnew, List.length_append, List.length_dropLast]
        omega
      · rw [keys, KeysDict.lines, hsize, hnew, if_neg hnil]

/-- Deleting from an opened dictionary: nothing is found, or the first line that is read as the
key is deleted, and a byte too few or too many with it. -/
lemma deleteKey_spec (hn : 0 < d.keySize) (hf : Seekable d.stream)
    (hcomplete : ∀ x ∈ d.lines, CompleteLine 10 x) (stale : UInt8) (key : List UInt8) :
    ((∀ x ∈ d.lines, lineReads stale d.keySize x ≠ some key) ∧
        ∃ d', d.deleteKey stale key = some (false, d') ∧ d'.Reads stale (d.keys stale) ∧
          d'.totalKeys = d.totalKeys) ∨
      ∃ pre l post, d.lines = pre ++ l :: post ∧
        (∀ x ∈ pre, lineReads stale d.keySize x ≠ some key) ∧
        lineReads stale d.keySize l = some key ∧
        ∃ d', d.deleteKey stale key = some (true, d') ∧ d'.totalKeys = d.totalKeys - 1 ∧
          d'.Reads stale (readsLeft stale d.keySize pre l post) := by
  have hrewound : Ahead d.rewind.stream d.lines := Ahead.rewound hf
  have hrounds : d.lines.length < rounds d.stream :=
    Nat.lt_succ_of_le (length_splitBehind_le 10 d.stream.content)
  have hsearch := Ahead.deleteLoop (d := d.rewind) hn hrewound stale key hrounds
  simp only [rewind_keySize, rewind_totalKeys, rewind_content] at hsearch
  rcases hsearch with
    ⟨hnone, f', hcontent, hloop⟩ | ⟨pre, l, post, f', hlines, hpre, hl, hcontent, hahead, hloop⟩
  · have hf' : Seekable f' := by
      rw [Seekable, hcontent]
      exact hf
    refine .inl ⟨hnone, { d with stream := f' }.rewind, ?_, ?_, rfl⟩
    · rw [deleteKey, hloop]
      rfl
    · have hreads := reads_rewind (d := { d with stream := f' }) hn hf' stale
      rw [keys, lines, hcontent] at hreads
      exact hreads
  · have hcontent' : f'.content = (pre ++ l :: post).flatten := by
      rw [hcontent, ← hlines, lines, flatten_splitBehind]
    obtain ⟨d', hdelete, hsize, htotal, hf', hkeys⟩ := Ahead.deleteLast
      (d := { d with stream := f' }) hn (hlines ▸ hcomplete) hcontent' hahead hl
    refine .inr ⟨pre, l, post, hlines, hpre, hl, d'.rewind, ?_, htotal, ?_⟩
    · rw [deleteKey, hloop, hdelete]
      rfl
    · rw [← hkeys]
      exact reads_rewind (hsize ▸ hn) hf' stale

lemma keySize_pos_of_alloc {content : List UInt8} (hopen : alloc content n = some d) : 0 < n := by
  apply Nat.pos_of_ne_zero
  rintro rfl
  exact absurd hopen (by simp [alloc])

/-- Deleting a key from the dictionary of a file below 2 GiB fails and leaves the keys as they are,
or removes one occurrence of the key, with the count of the keys in step, if and only if what is
deleted too few or too many with the line of the key does not change how the lines around it are
read. -/
theorem deleteKey_removes_iff {content : List UInt8} (hlen : content.length + 1 < 2147483648)
    (hopen : alloc content n = some d) (stale : UInt8) (key : List UInt8) :
    (∃ ok d', d.deleteKey stale key = some (ok, d') ∧
        (ok = false ∧
            (∃ ks, d.Reads stale ks ∧ d'.Reads stale ks ∧ d'.totalKeys = ks.length) ∨
          ok = true ∧ ∃ a b, d.Reads stale (a ++ key :: b) ∧ d'.Reads stale (a ++ b) ∧
            d'.totalKeys = (a ++ b).length)) ↔
      DeletesWhole stale n key d.lines := by
  have hn := keySize_pos_of_alloc hopen
  obtain rfl := Option.some.inj ((alloc_eq hn hlen).symm.trans hopen)
  set d : KeysDict := ⟨⟨repaired content, 0, Nat.zero_le _⟩, n,
    (keyLines n (splitBehind 10 (repaired content))).length⟩ with hd
  have hf : Seekable d.stream := seekable_repaired hlen
  have hcomplete : ∀ x ∈ d.lines, CompleteLine 10 x := fun x hx =>
    completeLine_of_mem_splitBehind (fun c hc => getLast?_repaired hc) hx
  have hcount : d.totalKeys = (d.keys stale).length := (length_keys stale d).symm
  have hreads := reads_keys (d := d) hn hf stale
  rcases deleteKey_spec (d := d) hn hf hcomplete stale key with
    ⟨hnone, d', hdelete, hreads', htotal⟩ |
      ⟨pre, l, post, hlines, hpre, hl, d', hdelete, htotal, hreads'⟩
  · refine iff_of_true ?_ (deletesWhole_of_notMem hnone)
    exact ⟨false, d', hdelete, .inl ⟨rfl, d.keys stale, hreads, hreads', htotal.trans hcount⟩⟩
  · have hkeys : d.keys stale = (pre ++ l :: post).filterMap (lineReads stale n) := by
      rw [keys, hlines]
    rw [hlines, ← readsLeft_removed_iff hn hpre hl, hdelete]
    rw [hkeys] at hreads hcount
    constructor
    · rintro ⟨ok, d'', heq, ⟨rfl, -⟩ | ⟨rfl, c, e, hold, hnew, -⟩⟩
      · cases heq
      · cases heq
        exact ⟨c, e, hreads.unique hold, hreads'.unique hnew⟩
    · rintro ⟨c, e, hold, hnew⟩
      rw [hold] at hreads hcount
      rw [hnew] at hreads'
      refine ⟨true, d', rfl, .inr ⟨rfl, c, e, hreads, hreads', ?_⟩⟩
      rw [htotal, hcount, List.length_append, List.length_append, List.length_cons]
      omega

/-- A line that ends with a line feed only is deleted as a whole. -/
theorem deleteKey_removes_first :
    ∃ d, alloc [35, 10, 65, 48, 65, 49, 10, 66, 48, 66, 49, 13, 10] 2 = some d ∧
      ∃ ok d', d.deleteKey 0 [160, 161] = some (ok, d') ∧
        (ok = false ∧ (∃ ks, d.Reads 0 ks ∧ d'.Reads 0 ks ∧ d'.totalKeys = ks.length) ∨
          ok = true ∧ ∃ a b, d.Reads 0 (a ++ [160, 161] :: b) ∧ d'.Reads 0 (a ++ b) ∧
            d'.totalKeys = (a ++ b).length) := by
  let content : List UInt8 := [35, 10, 65, 48, 65, 49, 10, 66, 48, 66, 49, 13, 10]
  have hlen : content.length + 1 < 2147483648 := by decide
  have hopen := alloc_eq (by decide : 0 < 2) hlen
  exact ⟨_, hopen, (deleteKey_removes_iff (by decide) hopen 0 _).mpr (by decide)⟩

/-- Two keys, the lines of which end with a carriage return and a line feed. Deleting the first one
leaves its first character behind, and the second one is no longer there. -/
theorem deleteKey_fuses_lines :
    ∃ d d', alloc [65, 48, 65, 49, 13, 10, 66, 48, 66, 49, 13, 10] 2 = some d ∧
      d.deleteKey 0 [160, 161] = some (true, d') ∧
      d.Reads 0 [[160, 161], [176, 177]] ∧ d'.Reads 0 [[171, 11]] := by
  let d : KeysDict := ⟨⟨[65, 48, 65, 49, 13, 10, 66, 48, 66, 49, 13, 10], 0, by decide⟩, 2, 2⟩
  have hlen : d.stream.content.length + 1 < 2147483648 := by decide
  have hopen := alloc_eq (by decide : 0 < 2) hlen
  have hf : Seekable d.stream := by
    rw [Seekable]
    decide
  have hlines : d.lines = [[65, 48, 65, 49, 13, 10], [66, 48, 66, 49, 13, 10]] := by decide
  have hlast : ∀ c ∈ d.stream.content.getLast?, c = 10 := fun c hc => (Option.some.inj hc).symm
  have hcomplete : ∀ x ∈ d.lines, CompleteLine 10 x := fun x hx =>
    completeLine_of_mem_splitBehind hlast hx
  rcases deleteKey_spec (d := d) (by decide) hf hcomplete 0 [160, 161] with
    ⟨hnone, -⟩ | ⟨pre, l, post, hsplit, hpre, -, d', hdelete, -, hreads⟩
  · exact absurd (by decide) (hnone [65, 48, 65, 49, 13, 10] (by decide))
  · have hkeys : d.keys 0 = [[160, 161], [176, 177]] := by decide
    refine ⟨d, d', hopen, hdelete, hkeys ▸ reads_keys (by decide) hf 0, ?_⟩
    rw [hlines] at hsplit
    cases pre with
    | nil =>
      rw [List.nil_append, List.cons.injEq] at hsplit
      obtain ⟨rfl, rfl⟩ := hsplit
      have hfused : readsLeft 0 2 [] [65, 48, 65, 49, 13, 10] [[66, 48, 66, 49, 13, 10]] =
          [[171, 11]] := by decide
      exact hfused ▸ hreads
    | cons x pre =>
      rw [List.cons_append, List.cons.injEq] at hsplit
      obtain ⟨rfl, -⟩ := hsplit
      exact absurd (by decide) (hpre _ List.mem_cons_self)

end KeysDict

end FlipperZero
