import FlipperZero.FlipperFormat.Lines

/-!
# Updating and deleting keys

`flipper_format_stream_delete_key_and_write` recovers the start of the line from the position
behind its key and scans for its end. Over the text of lines it replaces the first line with the
key and nothing else, as long as the texts stay below 2 GiB, the range of the seek offsets.
-/

namespace FlipperZero

open Foundation

namespace FlipperFormatStream

/-! ### Looking up keys -/

/-- The text behind a key, if the line carries it. -/
def Line.valueOf (key : List UInt8) : Line → Option (List UInt8)
  | .comment _   => none
  | .entry k value => if k = key then some value else none

/-- The text behind the first line that carries a key. -/
def lookup (key : List UInt8) (lines : List Line) : Option (List UInt8) :=
  lines.findSome? (Line.valueOf key)

variable {lines before after : List Line} {key value rest : List UInt8} {f : File}

lemma findKey_of_lookup_none (h : lookup key lines = none) : findKey key lines = none := by
  induction lines with
  | nil => rfl
  | cons l lines ih =>
    rw [lookup, List.findSome?_cons] at h
    cases l with
    | comment text => rw [findKey, ih h, Option.map_none]
    | entry k v =>
      by_cases heq : k = key
      · rw [Line.valueOf, if_pos heq] at h
        cases h
      · rw [Line.valueOf, if_neg heq] at h
        rw [findKey, if_neg heq, ih h, Option.map_none]

lemma findKey_append (h : lookup key before = none) :
    findKey key (before ++ .entry key value :: after) =
      some ((textOf before).length + (key.length + 2)) := by
  induction before with
  | nil => simp [findKey]
  | cons l before ih =>
    rw [lookup, List.findSome?_cons] at h
    cases l with
    | comment text =>
      rw [List.cons_append, findKey, ih h, Option.map_some, textOf_cons, List.length_append,
        Nat.add_assoc]
    | entry k v =>
      by_cases heq : k = key
      · rw [Line.valueOf, if_pos heq] at h
        cases h
      · rw [Line.valueOf, if_neg heq] at h
        rw [List.cons_append, findKey, if_neg heq, ih h, Option.map_some, textOf_cons,
          List.length_append, Nat.add_assoc]

lemma exists_of_lookup_some (h : lookup key lines = some value) :
    ∃ before after, lines = before ++ .entry key value :: after ∧ lookup key before = none := by
  obtain ⟨before, l, after, hlines, hl, hbefore⟩ := List.findSome?_eq_some_iff.mp h
  cases l with
  | comment text => cases hl
  | entry k v =>
    rw [Line.valueOf] at hl
    split_ifs at hl with heq
    cases hl
    rw [heq] at hlines
    exact ⟨before, after, hlines, List.findSome?_eq_none_iff.mpr hbefore⟩

/-! ### Reading a key -/

def lineFile (value : List UInt8) : File := ⟨value ++ [eoln], 0, Nat.zero_le _⟩

/-- The file below 2 GiB holds the text of valid lines. -/
structure HoldsLines (f : File) (lines : List Line) : Prop where
  seekable : Seekable f
  content : f.content = textOf lines
  valid : ∀ l ∈ lines, l.Valid

lemma HoldsLines.seekToKey (hf : HoldsLines f lines) (hpos : f.pos = 0) {rounds : Nat}
    (hrounds : lines.length + 2 ≤ rounds) (key : List UInt8) :
    seekToKey rounds key false f = some
      (match findKey key lines with
      | some offset => (true, f.seek offset)
      | none => (false, f.seek f.content.length)) := by
  have hsearch := seekToKey_lines hf.valid key (f := f) hf.seekable skipped_nil
    (by rw [hpos, List.drop_zero, hf.content, List.nil_append]) hrounds
  rw [hsearch]
  cases findKey key lines with
  | none => rfl
  | some offset =>
    simp only [hpos, List.length_nil, Nat.zero_add]

lemma HoldsLines.onLine (hf : HoldsLines f (before ++ .entry key value :: after)) :
    (f.seek ((textOf before).length + (key.length + 2))).pos =
        (textOf before).length + (key.length + 2) ∧
      OnLine (f.seek ((textOf before).length + (key.length + 2))) value := by
  have hsplit : f.content = (textOf before ++ (key ++ [delimiter, space])) ++
      (value ++ eoln :: textOf after) := by
    rw [hf.content]
    simp [Line.bytes]
  have hlen : (textOf before ++ (key ++ [delimiter, space])).length =
      (textOf before).length + (key.length + 2) := by simp
  have hpos : (f.seek ((textOf before).length + (key.length + 2))).pos =
      (textOf before).length + (key.length + 2) := by
    refine Nat.min_eq_left ?_
    rw [hsplit, List.length_append, hlen]
    exact Nat.le_add_right _ _
  refine ⟨hpos, hf.seekable, textOf after, ?_⟩
  rw [hpos, File.seek_content, hsplit, ← hlen, List.drop_left]

lemma HoldsLines.onLine_lineFile (hf : HoldsLines f (before ++ .entry key value :: after)) :
    OnLine (lineFile value) value := by
  refine ⟨?_, [], by simp [lineFile]⟩
  have hlen : f.content.length < 2147483648 := hf.seekable
  have hsize : (value ++ [eoln]).length ≤ f.content.length := by
    rw [hf.content]
    simp [Line.bytes]
    omega
  exact Nat.lt_of_le_of_lt hsize hlen

/-- What is read for a key, from the start of the text, is a function of its first line. -/
lemma HoldsLines.readValueLine {α : Type*} (hf : HoldsLines f lines) (hpos : f.pos = 0)
    {rounds : Nat} (hrounds : lines.length + 2 ≤ rounds) (scan : List UInt8 → Option α)
    (key : List UInt8) (size : Nat) :
    (readValueLine scan rounds key size false f).map Prod.fst =
      some ((lookup key lines).elim (false, []) fun value =>
        (readValues scan size (lineFile value)).1) := by
  rw [FlipperFormatStream.readValueLine, hf.seekToKey hpos hrounds]
  cases hlookup : lookup key lines with
  | none =>
    rw [findKey_of_lookup_none hlookup]
    rfl
  | some value =>
    obtain ⟨before, after, rfl, hbefore⟩ := exists_of_lookup_some hlookup
    rw [findKey_append hbefore]
    exact congrArg some (readValues_onLine scan size hf.onLine.2 hf.onLine_lineFile)

lemma HoldsLines.readStringLine (hf : HoldsLines f lines) (hpos : f.pos = 0) {rounds : Nat}
    (hrounds : lines.length + 2 ≤ rounds) (key : List UInt8) :
    (readStringLine rounds key false f).map Prod.fst =
      some ((lookup key lines).elim (false, []) fun value => (readLine (lineFile value)).1) := by
  rw [FlipperFormatStream.readStringLine, hf.seekToKey hpos hrounds]
  cases hlookup : lookup key lines with
  | none =>
    rw [findKey_of_lookup_none hlookup]
    rfl
  | some value =>
    obtain ⟨before, after, rfl, hbefore⟩ := exists_of_lookup_some hlookup
    rw [findKey_append hbefore]
    exact congrArg some (readLine_onLine hf.onLine.2 hf.onLine_lineFile)

/-! ### The update -/

/-- The key is a C string, and a call gets the whole value. -/
structure FlipperStreamWriteData.Passed (data : FlipperStreamWriteData) : Prop where
  key : 0 ∉ data.key
  value : data.value.Passed

/-- The lines that a write adds: none when the value is ignored. -/
def FlipperStreamWriteData.newLines (data : FlipperStreamWriteData) : List Line :=
  if data.value = .ignore then []
  else [.entry data.key (valueWrites data.value.printed).flatten]

lemma FlipperStreamWriteData.line_eq {data : FlipperStreamWriteData} (h : data.value.Passed) :
    data.line = textOf data.newLines := by
  unfold FlipperStreamWriteData.line FlipperStreamWriteData.newLines
  rw [FlipperStreamValue.passed_eq h]
  split_ifs
  · rfl
  · simp [Line.bytes]

variable {data : FlipperStreamWriteData} {rounds : Nat}

lemma HoldsLines.size (hf : HoldsLines f lines) : f.size = f.content.length := by
  have hlen : f.content.length < 2147483648 := hf.seekable
  exact asUInt32_of_lt (by omega)

lemma HoldsLines.rewind (hf : HoldsLines f lines) :
    fileStreamSeek f 0 .fromStart = (true, f.seek 0) := by
  have hlen : f.content.length < 2147483648 := hf.seekable
  rw [fileStreamSeek_rewind (by omega), if_pos (by omega)]

lemma HoldsLines.deleteKeyAndWrite_none (hf : HoldsLines f lines)
    (hrounds : lines.length + 2 ≤ rounds) (h : lookup data.key lines = none) :
    ∃ g, deleteKeyAndWrite rounds data false f = some (false, g) ∧ g.content = f.content := by
  unfold deleteKeyAndWrite
  by_cases hsize : f.size = 0
  · simp only [hsize, if_true]
    exact ⟨f, rfl, rfl⟩
  · have hstart : HoldsLines (f.seek 0) lines := ⟨hf.seekable, hf.content, hf.valid⟩
    have hpos : (f.seek 0).pos = 0 := Nat.zero_min _
    simp only [hsize, if_false, hf.rewind, Bool.true_eq_false, hstart.seekToKey hpos hrounds,
      findKey_of_lookup_none h, Option.map_some, Bool.false_eq_true]
    exact ⟨_, rfl, rfl⟩

lemma replaceLine_eq {start : List UInt8} {g : File}
    (hcontent : g.content = start ++ (data.key ++ [delimiter, space] ++ value ++ [eoln]) ++ rest)
    (hpos : g.pos = start.length + (data.key.length + 2)) (hvalue : OneLine value)
    (hlen : g.content.length < 2147483648)
    (hnew : (start ++ data.line ++ rest).length < 2147483648) :
    ∃ g', replaceLine data g.content.length g = (true, g') ∧
      g'.content = start ++ data.line ++ rest := by
  have hsize : g.content.length =
      start.length + (data.key.length + 2 + value.length + 1) + rest.length := by
    rw [hcontent]
    simp
    omega
  -- the line starts `strlen(key) + 2` before the position
  have htell : asUInt32 (g.tell - data.key.length) = start.length + 2 := by
    rw [File.tell, hpos, asUInt32_of_lt (by omega)]
    exact asUInt32_eq (by omega) (by omega)
  -- and ends at the next line feed
  have honLine : OnLine g value := by
    refine ⟨hlen, rest, ?_⟩
    have hsplit : g.content = (start ++ (data.key ++ [delimiter, space])) ++
        (value ++ eoln :: rest) := by
      rw [hcontent]
      simp
    have hbehind : g.pos = (start ++ (data.key ++ [delimiter, space])).length := by simp [hpos]
    rw [hbehind, hsplit, List.drop_left]
  have hnext := seekToNextLine_onLine honLine hvalue
  have hnextPos : (g.seek (g.pos + value.length)).pos = g.pos + value.length :=
    Nat.min_eq_left (by omega)
  have hnextTell : (g.seek (g.pos + value.length)).tell = g.pos + value.length := by
    rw [File.tell, hnextPos, asUInt32_of_lt (by omega)]
  have hend : g.pos + value.length < g.content.length := by omega
  have hback : fileStreamSeek (g.seek (g.pos + value.length)) (asInt32 start.length) .fromStart =
      (true, g.seek start.length) := by
    rw [asInt32_of_bounds (by omega) (by omega),
      fileStreamSeek_start (by rw [File.seek_content]; omega) (by rw [File.seek_content]; omega),
      if_pos (by rw [File.seek_content]; omega)]
    rfl
  have hdelete : asUInt32 ((g.pos + value.length + 1 : Nat) - start.length) =
      data.key.length + 2 + value.length + 1 := asUInt32_eq (by omega) (by omega)
  have hrun : replaceLine data g.content.length g =
      (g.seek start.length).deleteAndInsert (data.key.length + 2 + value.length + 1)
        (some data.line) := by
    have htwo : ¬ start.length + 2 < 2 := by omega
    simp only [replaceLine, htell, if_neg htwo, hnext, hnextTell, if_pos hend,
      Nat.add_sub_cancel, hback, hdelete, Bool.true_eq_false, if_false]
  -- the deletion and the insertion are a splice
  have hstart : (g.seek start.length).pos = start.length := Nat.min_eq_left (by omega)
  have hline : (data.key ++ [delimiter, space] ++ value ++ [eoln]).length =
      data.key.length + 2 + value.length + 1 := by
    simp
    omega
  have hsplice : splice (g.seek start.length).content (g.seek start.length).pos
      (data.key.length + 2 + value.length + 1) data.line = start ++ data.line ++ rest := by
    rw [splice, hstart, File.seek_content, Nat.min_eq_left (by omega), ← hline,
      ← List.length_append]
    conv_lhs => rw [hcontent]
    rw [List.drop_left, List.append_assoc start, List.take_left]
  have hfits : InsertAddressable (g.seek start.length) (data.key.length + 2 + value.length + 1)
      (some data.line) := by
    rw [List.length_append, List.length_append] at hnew
    refine ⟨?_, ?_, ?_, ?_⟩
    · rw [File.seek_content]; omega
    · rw [hstart, File.seek_content]; omega
    · rw [Option.getD_some, hsplice, List.length_append, List.length_append]; omega
    · rw [Option.getD_some, hstart]; omega
  have hspliced := (InsertAddressable.spliced_iff _ _ _
    (by rw [File.seek_content]; omega) (by rw [Option.getD_some, hsplice]; omega)).mpr hfits
  obtain ⟨hok, hresult, -⟩ := hspliced
  refine ⟨_, Prod.ext ((congrArg Prod.fst hrun).trans hok) rfl, ?_⟩
  rw [hrun, hresult, Option.getD_some, hsplice]

lemma HoldsLines.deleteKeyAndWrite_some
    (hf : HoldsLines f (before ++ .entry data.key value :: after)) (hdata : data.value.Passed)
    (hrounds : (before ++ .entry data.key value :: after).length + 2 ≤ rounds)
    (hbefore : lookup data.key before = none)
    (hnew : (textOf (before ++ data.newLines ++ after)).length < 2147483648) :
    ∃ g, deleteKeyAndWrite rounds data false f = some (true, g) ∧
      g.content = textOf (before ++ data.newLines ++ after) := by
  have hvalue : OneLine value := (hf.valid (.entry data.key value) (by simp)).2
  have hcontent : f.content = textOf before ++
      (data.key ++ [delimiter, space] ++ value ++ [eoln]) ++ textOf after := by
    rw [hf.content]
    simp [Line.bytes]
  have hnewText : textOf (before ++ data.newLines ++ after) =
      textOf before ++ data.line ++ textOf after := by
    rw [textOf_append, textOf_append, data.line_eq hdata]
  rw [hnewText] at hnew ⊢
  obtain ⟨g, hg, hresult⟩ := replaceLine_eq
    (g := f.seek ((textOf before).length + (data.key.length + 2))) hcontent hf.onLine.1 hvalue
    hf.seekable hnew
  refine ⟨g, ?_, hresult⟩
  have hzero : f.size ≠ 0 := by
    rw [hf.size, hcontent]
    simp
  have hstart : HoldsLines (f.seek 0) (before ++ .entry data.key value :: after) :=
    ⟨hf.seekable, hf.content, hf.valid⟩
  have hseek := hstart.seekToKey (Nat.zero_min _) hrounds data.key
  rw [findKey_append hbefore] at hseek
  simp only [deleteKeyAndWrite, hzero, if_false, hf.rewind, Bool.true_eq_false, hseek,
    Option.map_some, if_true]
  rw [hf.size]
  exact congrArg some hg

/-! ### Values on one line -/

/-- No value has a line feed in it. The texts of numbers never do. -/
def FlipperStreamValue.OneLine : FlipperStreamValue → Prop
  | .str data    => FlipperFormatStream.OneLine data
  | .float texts => ∀ text ∈ texts, FlipperFormatStream.OneLine text
  | _            => True

lemma FlipperStreamValue.OneLine.printed {v : FlipperStreamValue} (h : v.OneLine) :
    ∀ text ∈ v.printed, FlipperFormatStream.OneLine text := by
  intro text htext
  cases v with
  | ignore => exact absurd htext List.not_mem_nil
  | str data =>
    rw [List.mem_singleton.mp htext]
    exact h
  | hex data =>
    obtain ⟨n, -, rfl⟩ := List.mem_map.mp htext
    exact (plainText_hexText (by decide) _).oneLine
  | float texts => exact h text htext
  | int32 data =>
    obtain ⟨n, -, rfl⟩ := List.mem_map.mp htext
    exact (plainText_integerText _).oneLine
  | uint32 data =>
    obtain ⟨n, -, rfl⟩ := List.mem_map.mp htext
    exact (plainText_decimalText _).oneLine
  | hexUint64 data =>
    obtain ⟨n, -, rfl⟩ := List.mem_map.mp htext
    exact ((plainText_hexText (by decide) _).append (plainText_hexText (by decide) _)).oneLine
  | bool data =>
    obtain ⟨b, -, rfl⟩ := List.mem_map.mp htext
    cases b <;> decide

lemma oneLine_valueWrites {texts : List (List UInt8)} (h : ∀ text ∈ texts, OneLine text) :
    OneLine (valueWrites texts).flatten := by
  fun_induction valueWrites texts with
  | case1 => exact List.not_mem_nil
  | case2 v =>
    rw [List.flatten_singleton]
    exact h v (List.mem_singleton_self v)
  | case3 v w vs ih =>
    intro hmem
    rw [List.flatten_cons] at hmem
    rcases List.mem_append.mp hmem with hmem | hmem
    · rcases List.mem_append.mp hmem with hmem | hmem
      · exact h v List.mem_cons_self hmem
      · exact absurd (List.mem_singleton.mp hmem) (by decide)
    · exact ih (fun text htext => h text (List.mem_cons_of_mem v htext)) hmem

/-! ### Other keys -/

/-- From the start, everything that can be read for a key is the same in two files. -/
structure ReadsSame (rounds : Nat) (key : List UInt8) (f g : File) : Prop where
  string : (readStringLine rounds key false (fileStreamSeek f 0 .fromStart).2).map Prod.fst =
    (readStringLine rounds key false (fileStreamSeek g 0 .fromStart).2).map Prod.fst
  values (α : Type) (scan : List UInt8 → Option α) (size : Nat) :
    (readValueLine scan rounds key size false (fileStreamSeek f 0 .fromStart).2).map Prod.fst =
      (readValueLine scan rounds key size false (fileStreamSeek g 0 .fromStart).2).map Prod.fst

lemma lookup_append (key : List UInt8) (lines lines' : List Line) :
    lookup key (lines ++ lines') = (lookup key lines).or (lookup key lines') :=
  List.findSome?_append

lemma lookup_update (hkey : key ≠ data.key) :
    lookup key (before ++ data.newLines ++ after) =
      lookup key (before ++ .entry data.key value :: after) := by
  have hentry (v : List UInt8) : (Line.entry data.key v).valueOf key = none :=
    if_neg fun heq => hkey heq.symm
  have hnew : lookup key data.newLines = none := by
    unfold FlipperStreamWriteData.newLines
    split_ifs
    · rfl
    · rw [lookup, List.findSome?_cons, hentry]
      rfl
  have hold : lookup key (.entry data.key value :: after) = lookup key after := by
    rw [lookup, List.findSome?_cons, hentry]
    rfl
  rw [List.append_assoc, lookup_append, lookup_append, lookup_append, hnew, hold, Option.none_or]

lemma HoldsLines.readsSame {g : File} {lines' : List Line} (hf : HoldsLines f lines)
    (hg : HoldsLines g lines') (hrounds : lines.length + 2 ≤ rounds)
    (hrounds' : lines'.length + 2 ≤ rounds) (hlookup : lookup key lines = lookup key lines') :
    ReadsSame rounds key f g := by
  have hf' : HoldsLines (f.seek 0) lines := ⟨hf.seekable, hf.content, hf.valid⟩
  have hg' : HoldsLines (g.seek 0) lines' := ⟨hg.seekable, hg.content, hg.valid⟩
  constructor
  · rw [hf.rewind, hg.rewind, hf'.readStringLine (Nat.zero_min _) hrounds,
      hg'.readStringLine (Nat.zero_min _) hrounds', hlookup]
  · intro α scan size
    rw [hf.rewind, hg.rewind, hf'.readValueLine (Nat.zero_min _) hrounds,
      hg'.readValueLine (Nat.zero_min _) hrounds', hlookup]

/-- Over the text of valid lines below 2 GiB, with a key that is a C string and a value that the call
gets as a whole: without the key the call returns false and changes
nothing; with it the call returns true and replaces the first line with the key, when the new text
is also below 2 GiB, and then every other key reads as before. -/
theorem flipperFormatStream_update (lines : List Line) (hvalid : ∀ l ∈ lines, l.Valid) (f : File)
    (hcontent : f.content = textOf lines) (hlen : (textOf lines).length < 2147483648)
    (data : FlipperStreamWriteData) (hdata : data.Passed) (rounds : Nat)
    (hrounds : lines.length + 2 ≤ rounds) :
    (lookup data.key lines = none →
      ∃ g, deleteKeyAndWrite rounds data false f = some (false, g) ∧ g.content = f.content) ∧
    ∀ before value after, lines = before ++ .entry data.key value :: after →
      lookup data.key before = none →
        (textOf (before ++ data.newLines ++ after)).length < 2147483648 →
          ∃ g, deleteKeyAndWrite rounds data false f = some (true, g) ∧
            g.content = textOf (before ++ data.newLines ++ after) ∧
            (data.value.OneLine → ∀ key, 0 ∉ key → key ≠ data.key →
              ReadsSame rounds key f g) := by
  have hf : HoldsLines f lines := ⟨by rw [Seekable, hcontent]; exact hlen, hcontent, hvalid⟩
  refine ⟨hf.deleteKeyAndWrite_none hrounds, ?_⟩
  rintro before value after rfl hbefore hnew
  obtain ⟨g, hg, hresult⟩ := hf.deleteKeyAndWrite_some hdata.value hrounds hbefore hnew
  refine ⟨g, hg, hresult, fun honeLine key _ hkey => ?_⟩
  have hline := hvalid (.entry data.key value) (by simp)
  have hnewLines : ∀ l ∈ data.newLines, l.Valid := by
    unfold FlipperStreamWriteData.newLines
    split_ifs
    · exact fun l hl => absurd hl List.not_mem_nil
    · intro l hl
      rw [List.mem_singleton.mp hl]
      exact ⟨hline.1, oneLine_valueWrites honeLine.printed⟩
  have hlength : data.newLines.length ≤ 1 := by
    unfold FlipperStreamWriteData.newLines
    split_ifs <;> simp
  have hg' : HoldsLines g (before ++ data.newLines ++ after) := by
    refine ⟨by rw [Seekable, hresult]; exact hnew, hresult, fun l hl => ?_⟩
    rcases List.mem_append.mp hl with hl | hl
    · rcases List.mem_append.mp hl with hl | hl
      · exact hvalid l (List.mem_append_left _ hl)
      · exact hnewLines l hl
    · exact hvalid l (List.mem_append_right _ (List.mem_cons_of_mem _ hl))
  refine hf.readsSame hg' hrounds ?_ (lookup_update hkey).symm
  simp only [List.length_append, List.length_cons] at hrounds ⊢
  omega

/-- The second of three lines is replaced. -/
theorem flipperFormatStream_update_second :
    let lines := [Line.comment [120], .entry [65] [49], .entry [66] [50]]
    let data : FlipperStreamWriteData := ⟨[65], .uint32 [7, 8]⟩
    ∃ g, deleteKeyAndWrite 5 data false ⟨textOf lines, 0, Nat.zero_le _⟩ = some (true, g) ∧
      g.content = textOf [.comment [120], .entry [65] [55, 32, 56], .entry [66] [50]] ∧
      (data.value.OneLine → ∀ key, 0 ∉ key → key ≠ data.key →
        ReadsSame 5 key ⟨textOf lines, 0, Nat.zero_le _⟩ g) :=
  (flipperFormatStream_update [.comment [120], .entry [65] [49], .entry [66] [50]] (by decide)
    ⟨_, 0, Nat.zero_le _⟩ rfl (by decide) ⟨[65], .uint32 [7, 8]⟩ ⟨by decide, by decide⟩ 5
    (by decide)).2
    [.comment [120]] [49] [.entry [66] [50]] rfl rfl (by decide +kernel)

lemma deleteKeyAndWrite_large (h : 2147483648 < f.content.length)
    (h' : f.content.length < 4294967296) :
    (deleteKeyAndWrite rounds data false f).map Prod.fst = some false := by
  have hsize : f.size = f.content.length := asUInt32_of_lt h'
  have hzero : f.size ≠ 0 := by omega
  have hrewind : fileStreamSeek f 0 .fromStart = (false, f.seek f.size) := by
    rw [fileStreamSeek_rewind h', if_neg (by omega)]
  simp only [deleteKeyAndWrite, hzero, if_false, hrewind, if_true, Option.map_some]

lemma deleteKeyAndWrite_behind {n : Nat} (hn : 2147483648 ≤ n) (hn' : n < 4294967000) :
    (∀ l ∈ [Line.comment (List.replicate n 120), .entry [65] [49]], l.Valid) ∧
      lookup [65] [.comment (List.replicate n 120), .entry [65] [49]] = some [49] ∧
      ∀ rounds, (deleteKeyAndWrite rounds ⟨[65], .ignore⟩ false
        ⟨textOf [.comment (List.replicate n 120), .entry [65] [49]], 0, Nat.zero_le _⟩).map
          Prod.fst = some false := by
  have hlen : (textOf [.comment (List.replicate n 120), .entry [65] [49]]).length = n + 8 := by
    simp [Line.bytes]
  refine ⟨?_, rfl, fun rounds => deleteKeyAndWrite_large ?_ ?_⟩
  · intro l hl
    rcases List.mem_cons.mp hl with rfl | hl
    · intro hmem
      exact absurd (List.eq_of_mem_replicate hmem) (by decide)
    · rw [List.mem_singleton.mp hl]
      decide
  · rw [hlen]
    omega
  · rw [hlen]
    omega

/-- Behind a comment of 2 GiB a key is not deleted. -/
theorem flipperFormatStream_update_large :
    let lines := [Line.comment (List.replicate 2147483648 120), .entry [65] [49]]
    (∀ l ∈ lines, l.Valid) ∧ lookup [65] lines = some [49] ∧
      ∀ rounds, (deleteKeyAndWrite rounds ⟨[65], .ignore⟩ false
        ⟨textOf lines, 0, Nat.zero_le _⟩).map Prod.fst = some false :=
  deleteKeyAndWrite_behind (Nat.le_refl _) (by decide)

end FlipperFormatStream

end FlipperZero
