import FlipperZero.Toolbox.KeysDictText

/-!
# Reading dictionaries of keys

Below 2 GiB the loops of `keys_dict.c` go through the lines of the file. The lines that are keys
give the two views of a dictionary: a key is present when its text is one of them, and iterating
gives what they are parsed to.
-/

namespace FlipperZero

open Foundation

namespace KeysDict

/-! ### Lines ahead of the position -/

/-- What `stream_read_line` makes of a line. -/
def lineText (l : List UInt8) : List UInt8 := l.filter (· ≠ 13)

/-- The lines behind the position of a file below 2 GiB. -/
structure Ahead (f : File) (ls : List (List UInt8)) : Prop where
  seekable : Seekable f
  lines : splitBehind 10 (f.content.drop f.pos) = ls

variable {f f' : File} {n : Nat} {l : List UInt8} {ls : List (List UInt8)}

lemma scanFrom_lineStep_again {t : List UInt8} (h : 10 ∉ t) (i : Nat) (acc : List UInt8) :
    scanFrom lineStep i acc t = .again (acc ++ lineText t) := by
  induction t generalizing i acc with
  | nil => simp [lineText]
  | cons c t ih =>
    obtain ⟨hc, ht⟩ := not_or.mp fun hmem => h (List.mem_cons.mpr hmem)
    have hne : ¬ c = 10 := fun heq => hc heq.symm
    by_cases hcr : c = 13
    · have hstep : lineStep acc c = .again acc := by rw [lineStep, if_neg hne, if_pos hcr]
      have htext : lineText (c :: t) = lineText t := by simp [lineText, hcr]
      rw [scanFrom_cons_again hstep, ih ht, htext]
    · have hstep : lineStep acc c = .again (acc ++ [c]) := by
        rw [lineStep, if_neg hne, if_neg hcr]
      have htext : lineText (c :: t) = c :: lineText t := by simp [lineText, hcr]
      rw [scanFrom_cons_again hstep, ih ht, htext, List.append_assoc, List.singleton_append]

lemma scanFrom_lineStep_leave {t : List UInt8} (h : 10 ∉ t) (i : Nat) (rest : List UInt8) :
    scanFrom lineStep i [] (t ++ 10 :: rest) = .leave (lineText t, i + t.length) := by
  have hstop : lineStep (lineText t) 10 = .leave (lineText t) := if_pos rfl
  rw [scanFrom_append_again (scanFrom_lineStep_again h i []), List.nil_append,
    scanFrom_cons_leave hstop]

lemma Ahead.readLine_nil (h : Ahead f []) :
    streamReadLine f = ([], f.seek f.content.length) ∧ Ahead (f.seek f.content.length) [] := by
  have hdrop : f.content.drop f.pos = [] := by
    rw [← flatten_splitBehind 10 (f.content.drop f.pos), h.lines, List.flatten_nil]
  refine ⟨?_, h.seekable, ?_⟩
  · rw [streamReadLine, Seekable.scanStream h.seekable _ _ (Nat.le_refl 1), hdrop]
    rfl
  · simp [File.seek]

/-- The reader takes the first line, and stands in front of the others then. -/
lemma Ahead.readLine_cons (h : Ahead f (l :: ls)) :
    streamReadLine f = (lineText l, f.seek (f.pos + l.length)) ∧
      Ahead (f.seek (f.pos + l.length)) ls := by
  obtain ⟨hf, hlines⟩ := h
  have hflat := flatten_splitBehind 10 (f.content.drop f.pos)
  rw [hlines, List.flatten_cons] at hflat
  have hlen : l.length + ls.flatten.length = f.content.length - f.pos := by
    rw [← List.length_append, hflat, List.length_drop]
  have hpos := f.pos_le
  have hseek : (f.seek (f.pos + l.length)).pos = f.pos + l.length := Nat.min_eq_left (by omega)
  have hdrop : f.content.drop (f.pos + l.length) = ls.flatten := by
    rw [← List.drop_drop, ← hflat, List.drop_left]
  refine ⟨?_, hf, ?_⟩
  · rw [streamReadLine, Seekable.scanStream hf _ _ (Nat.le_refl 1)]
    by_cases hmem : 10 ∈ f.content.drop f.pos
    · obtain ⟨u, rest, hsplit, hu⟩ := List.eq_append_cons_of_mem hmem
      rw [hsplit, splitBehind_append_sep hu, List.cons.injEq] at hlines
      rw [hsplit, scanFrom_lineStep_leave hu, ← hlines.1]
      simp [lineText, Nat.add_assoc]
    · have hne : f.content.drop f.pos ≠ [] := by
        intro hnil
        rw [hnil] at hlines
        exact absurd hlines (by simp)
      rw [splitBehind_of_notMem hmem hne, List.cons.injEq] at hlines
      obtain ⟨rfl, rfl⟩ := hlines
      rw [scanFrom_lineStep_again hmem]
      have hend : f.pos + (f.content.drop f.pos).length = f.content.length := by
        rw [List.length_drop, Nat.add_sub_cancel' hpos]
      rw [hend]
      rfl
  · rw [hseek, File.seek_content, hdrop]
    exact splitBehind_flatten_tail hlines

/-! ### Key lines -/

/-- The key that a line of the file holds, as text. -/
def keyOf (n : Nat) (l : List UInt8) : Option (List UInt8) := lineKey n (lineText l)

def keyLines (n : Nat) (ls : List (List UInt8)) : List (List UInt8) := ls.filterMap (keyOf n)

/-- The first key that lines hold, and the lines behind it. -/
def firstKey (n : Nat) : List (List UInt8) → Option (List UInt8) × List (List UInt8)
  | []      => (none, [])
  | l :: ls =>
    match keyOf n l with
    | none     => firstKey n ls
    | some str => (some str, ls)

lemma keyOf_of_lineText_nil (hn : 0 < n) (h : lineText l = []) : keyOf n l = none := by
  rw [keyOf, h, lineKey, if_neg (by simp), if_neg]
  simp
  omega

lemma Ahead.tail_nil (h : Ahead f (l :: ls)) (hl : lineText l = []) : ls = [] := by
  by_contra hne
  have hmem := mem_of_splitBehind_cons h.lines hne
  have hkeep : (10 : UInt8) ∈ lineText l := List.mem_filter.mpr ⟨hmem, by decide⟩
  rw [hl] at hkeep
  exact absurd hkeep List.not_mem_nil

lemma Ahead.readKeyLine (h : Ahead f (l :: ls)) :
    ∃ f', f'.content = f.content ∧ Ahead f' ls ∧
      (lineText l = [] ∧ ls = [] ∧ KeysDict.readKeyLine n f = (none, f') ∨
        KeysDict.readKeyLine n f = (some (keyOf n l), f')) := by
  obtain ⟨hread, hahead⟩ := h.readLine_cons
  refine ⟨f.seek (f.pos + l.length), rfl, hahead, ?_⟩
  simp only [KeysDict.readKeyLine, hread]
  by_cases hl : lineText l = []
  · exact .inl ⟨hl, h.tail_nil hl, if_pos hl⟩
  · exact .inr (if_neg hl)

lemma Ahead.readKeyLine_nil (h : Ahead f []) :
    ∃ f', f'.content = f.content ∧ Ahead f' [] ∧ KeysDict.readKeyLine n f = (none, f') := by
  obtain ⟨hread, hahead⟩ := h.readLine_nil
  refine ⟨f.seek f.content.length, rfl, hahead, ?_⟩
  simp only [KeysDict.readKeyLine, hread, if_true]

lemma Ahead.nextKey (hn : 0 < n) (h : Ahead f ls) {r : Nat} (hr : ls.length < r) :
    ∃ f', f'.content = f.content ∧ Ahead f' (firstKey n ls).2 ∧
      loop (nextKeyStep n) r f = some ((firstKey n ls).1, f') := by
  induction ls generalizing f r with
  | nil =>
    obtain ⟨r, rfl⟩ := Nat.exists_eq_add_of_lt hr
    obtain ⟨f', hcontent, hahead, hread⟩ := h.readKeyLine_nil (n := n)
    refine ⟨f', hcontent, hahead, loop_leave ?_⟩
    rw [nextKeyStep, hread]
    rfl
  | cons l ls ih =>
    obtain ⟨r, rfl⟩ : ∃ k, r = k + 1 := Nat.exists_eq_succ_of_ne_zero (Nat.ne_zero_of_lt hr)
    obtain ⟨f', hcontent, hahead, ⟨hl, rfl, hread⟩ | hread⟩ := h.readKeyLine (n := n)
    · have hfirst : firstKey n [l] = (none, []) := by
        rw [firstKey, keyOf_of_lineText_nil hn hl]
        rfl
      rw [hfirst]
      refine ⟨f', hcontent, hahead, loop_leave ?_⟩
      rw [nextKeyStep, hread]
    · rw [firstKey]
      cases hkey : keyOf n l with
      | none =>
        obtain ⟨f'', hcontent', hahead', hloop⟩ := ih hahead (Nat.lt_of_succ_lt_succ hr)
        refine ⟨f'', hcontent'.trans hcontent, hahead', ?_⟩
        have hstep : nextKeyStep n f = .again f' := by rw [nextKeyStep, hread, hkey]
        rw [loop_again hstep, hloop]
      | some str =>
        refine ⟨f', hcontent, hahead, loop_leave ?_⟩
        rw [nextKeyStep, hread, hkey]

lemma Ahead.present (hn : 0 < n) (h : Ahead f ls) (key : List UInt8) {r : Nat}
    (hr : ls.length < r) :
    ∃ f', f'.content = f.content ∧
      loop (presentStep n key) r f = some (decide (key ∈ keyLines n ls), f') := by
  induction ls generalizing f r with
  | nil =>
    obtain ⟨r, rfl⟩ := Nat.exists_eq_add_of_lt hr
    obtain ⟨f', hcontent, -, hread⟩ := h.readKeyLine_nil (n := n)
    refine ⟨f', hcontent, loop_leave ?_⟩
    rw [presentStep, hread]
    rfl
  | cons l ls ih =>
    obtain ⟨r, rfl⟩ : ∃ k, r = k + 1 := Nat.exists_eq_succ_of_ne_zero (Nat.ne_zero_of_lt hr)
    obtain ⟨f', hcontent, hahead, ⟨hl, rfl, hread⟩ | hread⟩ := h.readKeyLine (n := n)
    · refine ⟨f', hcontent, loop_leave ?_⟩
      rw [presentStep, hread, keyLines, List.filterMap_cons, keyOf_of_lineText_nil hn hl]
      rfl
    · obtain ⟨f'', hcontent', hloop⟩ := ih hahead (Nat.lt_of_succ_lt_succ hr)
      rw [keyLines, List.filterMap_cons]
      cases hkey : keyOf n l with
      | none =>
        refine ⟨f'', hcontent'.trans hcontent, ?_⟩
        have hstep : presentStep n key f = .again f' := by rw [presentStep, hread, hkey]
        rw [loop_again hstep, hloop]
        rfl
      | some str =>
        by_cases heq : key = str
        · refine ⟨f', hcontent, loop_leave ?_⟩
          rw [presentStep, hread, hkey]
          simp [heq]
        · refine ⟨f'', hcontent'.trans hcontent, ?_⟩
          have hstep : presentStep n key f = .again f' := by
            rw [presentStep, hread, hkey]
            exact if_neg heq
          rw [loop_again hstep, hloop]
          simp [keyLines, heq]

lemma Ahead.count (hn : 0 < n) (h : Ahead f ls) (total : Nat) {r : Nat} (hr : ls.length < r) :
    ∃ f', f'.content = f.content ∧
      loop (countStep n) r (f, total) = some (f', total + (keyLines n ls).length) := by
  induction ls generalizing f r total with
  | nil =>
    obtain ⟨r, rfl⟩ := Nat.exists_eq_add_of_lt hr
    obtain ⟨f', hcontent, -, hread⟩ := h.readKeyLine_nil (n := n)
    refine ⟨f', hcontent, loop_leave ?_⟩
    rw [countStep, hread]
    rfl
  | cons l ls ih =>
    obtain ⟨r, rfl⟩ : ∃ k, r = k + 1 := Nat.exists_eq_succ_of_ne_zero (Nat.ne_zero_of_lt hr)
    obtain ⟨f', hcontent, hahead, ⟨hl, rfl, hread⟩ | hread⟩ := h.readKeyLine (n := n)
    · refine ⟨f', hcontent, loop_leave ?_⟩
      rw [countStep, hread, keyLines, List.filterMap_cons, keyOf_of_lineText_nil hn hl]
      rfl
    · rw [keyLines, List.filterMap_cons]
      cases hkey : keyOf n l with
      | none =>
        obtain ⟨f'', hcontent', hloop⟩ := ih hahead total (Nat.lt_of_succ_lt_succ hr)
        refine ⟨f'', hcontent'.trans hcontent, ?_⟩
        have hstep : countStep n (f, total) = .again (f', total) := by
          rw [countStep, hread, hkey]
        rw [loop_again hstep, hloop]
        rfl
      | some str =>
        obtain ⟨f'', hcontent', hloop⟩ := ih hahead (total + 1) (Nat.lt_of_succ_lt_succ hr)
        refine ⟨f'', hcontent'.trans hcontent, ?_⟩
        have hstep : countStep n (f, total) = .again (f', total + 1) := by
          rw [countStep, hread, hkey]
        rw [loop_again hstep, hloop, List.length_cons, Nat.add_assoc, Nat.add_comm 1]
        rfl

/-! ### The keys of a dictionary -/

def lines (d : KeysDict) : List (List UInt8) := splitBehind 10 d.stream.content

def texts (d : KeysDict) : List (List UInt8) := keyLines d.keySize d.lines

def lineReads (stale : UInt8) (n : Nat) (l : List UInt8) : Option (List UInt8) :=
  (keyOf n l).map (keyOfLine stale n)

/-- The keys that iterating gives. -/
def keys (stale : UInt8) (d : KeysDict) : List (List UInt8) :=
  d.lines.filterMap (lineReads stale d.keySize)

variable {d : KeysDict} {stale : UInt8}

lemma keys_eq_map (stale : UInt8) (d : KeysDict) :
    d.keys stale = d.texts.map (keyOfLine stale d.keySize) :=
  List.map_filterMap.symm

lemma length_keys (stale : UInt8) (d : KeysDict) : (d.keys stale).length = d.texts.length := by
  rw [keys_eq_map, List.length_map]

lemma streamRewind_eq (hf : Seekable f) : streamRewind f = (true, f.seek 0) := by
  have hlen : f.content.length < 2147483648 := hf
  rw [streamRewind, fileStreamSeek_rewind (by omega), if_pos (by omega)]

lemma Ahead.rewound (hf : Seekable f) : Ahead (streamRewind f).2 (splitBehind 10 f.content) := by
  rw [streamRewind_eq hf]
  exact ⟨hf, by simp [File.seek]⟩

lemma Ahead.length_lt_rounds (h : Ahead f ls) : ls.length < rounds f := by
  have hlines := length_splitBehind_le 10 (f.content.drop f.pos)
  rw [h.lines, List.length_drop] at hlines
  exact Nat.lt_succ_of_le (Nat.le_trans hlines (Nat.sub_le _ _))

lemma firstKey_spec (n : Nat) (ls : List (List UInt8)) :
    (firstKey n ls = (none, []) ∧ ∀ l ∈ ls, keyOf n l = none) ∨
      ∃ skip l post str, ls = skip ++ l :: post ∧ (∀ x ∈ skip, keyOf n x = none) ∧
        keyOf n l = some str ∧ firstKey n ls = (some str, post) := by
  induction ls with
  | nil => exact .inl ⟨rfl, fun l hl => absurd hl List.not_mem_nil⟩
  | cons l ls ih =>
    cases hkey : keyOf n l with
    | some str =>
      refine .inr ⟨[], l, ls, str, rfl, fun x hx => absurd hx List.not_mem_nil, hkey, ?_⟩
      rw [firstKey, hkey]
    | none =>
      have hfirst : firstKey n (l :: ls) = firstKey n ls := by rw [firstKey, hkey]
      rw [hfirst]
      rcases ih with ⟨hnone, hall⟩ | ⟨skip, l', post, str, rfl, hskip, hl', hsome⟩
      · exact .inl ⟨hnone, List.forall_mem_cons.mpr ⟨hkey, hall⟩⟩
      · exact .inr ⟨l :: skip, l', post, str, rfl, List.forall_mem_cons.mpr ⟨hkey, hskip⟩, hl',
          hsome⟩

lemma filterMap_lineReads_of_none {skip : List (List UInt8)} (h : ∀ x ∈ skip, keyOf n x = none) :
    skip.filterMap (lineReads stale n) = [] := by
  apply List.filterMap_eq_nil_iff.mpr
  intro x hx
  rw [lineReads, h x hx]
  rfl

lemma filterMap_lineReads (stale : UInt8) (n : Nat) (ls : List (List UInt8)) :
    (firstKey n ls = (none, []) ∧ ls.filterMap (lineReads stale n) = []) ∨
      ∃ str post, firstKey n ls = (some str, post) ∧
        ls.filterMap (lineReads stale n) =
          keyOfLine stale n str :: post.filterMap (lineReads stale n) := by
  rcases firstKey_spec n ls with ⟨hnone, hall⟩ | ⟨skip, l, post, str, rfl, hskip, hl, hsome⟩
  · exact .inl ⟨hnone, filterMap_lineReads_of_none hall⟩
  · refine .inr ⟨str, post, hsome, ?_⟩
    rw [List.filterMap_append, filterMap_lineReads_of_none hskip, List.nil_append,
      List.filterMap_cons, lineReads, hl]
    rfl

lemma Ahead.getNextKey (hn : 0 < d.keySize) (h : Ahead d.stream ls) (stale : UInt8) :
    ∃ f', f'.content = d.stream.content ∧ Ahead f' (firstKey d.keySize ls).2 ∧
      d.getNextKey stale =
        some ((firstKey d.keySize ls).1.map (keyOfLine stale d.keySize),
          { d with stream := f' }) := by
  obtain ⟨f', hcontent, hahead, hloop⟩ := h.nextKey hn h.length_lt_rounds
  refine ⟨f', hcontent, hahead, ?_⟩
  rw [KeysDict.getNextKey, hloop]
  simp only [Option.map_some, keyBytes_strToInt]

lemma Ahead.nthKey (hn : 0 < d.keySize) (h : Ahead d.stream ls) (m : Nat) :
    nthKey stale m d = some (ls.filterMap (lineReads stale d.keySize))[m]? := by
  induction m generalizing d ls with
  | zero =>
    obtain ⟨f', -, -, hnext⟩ := h.getNextKey hn stale
    rw [KeysDict.nthKey, hnext]
    rcases filterMap_lineReads stale d.keySize ls with ⟨hfirst, hkeys⟩ | ⟨str, post, hfirst, hkeys⟩
    · rw [hfirst, hkeys]
      rfl
    · rw [hfirst, hkeys]
      rfl
  | succ m ih =>
    obtain ⟨f', -, hahead, hnext⟩ := h.getNextKey hn stale
    have hrest := ih (d := { d with stream := f' }) hn hahead
    rw [KeysDict.nthKey, hnext, Option.bind_some, hrest]
    rcases filterMap_lineReads stale d.keySize ls with ⟨hfirst, hkeys⟩ | ⟨str, post, hfirst, hkeys⟩
    · rw [hfirst, hkeys]
      rfl
    · rw [hfirst, hkeys]
      rfl

/-- Iterating from a dictionary that was rewound gives its keys. -/
theorem reads_keys (hn : 0 < d.keySize) (hf : Seekable d.stream) (stale : UInt8) :
    d.Reads stale (d.keys stale) := by
  intro m
  exact Ahead.nthKey (d := d.rewind) hn (Ahead.rewound hf) m

lemma Reads.unique {ks ks' : List (List UInt8)} (h : d.Reads stale ks) (h' : d.Reads stale ks') :
    ks = ks' := by
  apply List.ext_getElem?
  intro m
  exact Option.some.inj ((h m).symm.trans (h' m))

/-- A key is present when its text is one of those in the file. -/
theorem isKeyPresent_eq (hn : 0 < d.keySize) (hf : Seekable d.stream) (key : List UInt8) :
    ∃ d', d.isKeyPresent key = some (decide (intToStr key ∈ d.texts), d') := by
  have hahead := Ahead.rewound hf
  obtain ⟨f', -, hloop⟩ := hahead.present hn (intToStr key) hahead.length_lt_rounds
  refine ⟨{ d with stream := (fileStreamSeek f' (asInt32 d.stream.tell) .fromStart).2 }, ?_⟩
  rw [isKeyPresent, hloop]
  rfl

/-! ### Opening -/

/-- What opening leaves in the file: the last line gets a line feed if it has none. -/
def repaired (content : List UInt8) : List UInt8 :=
  if content.getLast?.getD 10 = 10 then content else content ++ [10]

variable {content : List UInt8}

lemma seek_fromEnd (hf : Seekable f) {k : Nat} (hk : k ≤ f.content.length) :
    fileStreamSeek f (-k) .fromEnd = (true, f.seek (f.content.length - k)) := by
  have hlen : f.content.length < 2147483648 := hf
  have hsize : f.size = f.content.length := asUInt32_of_lt (by omega)
  have hsum : (f.content.length : Int) + -k = (f.content.length - k : Nat) := by omega
  have hnonneg : 0 ≤ asInt32 ((f.content.length - k : Nat) : Int) :=
    asInt32_nonneg_iff.mpr (by omega)
  have htarget : seekTarget f.tell f.size (-k) .fromEnd = some (f.content.length - k) := by
    simp only [seekTarget, hsize, hsum, hnonneg, if_true]
    rw [asUInt32_of_lt (by omega)]
  have hnot : ¬ 0 < asInt32 (((f.content.length - k : Nat) : Int) - f.size) := by
    rw [asInt32_pos_iff, hsize]
    omega
  rw [fileStreamSeek, htarget, File.seekLimited, if_neg hnot]

/-- A text that does not end inside a line is kept, and the last line is completed otherwise. -/
lemma addEndingNewLine_eq (hlen : content.length + 1 < 2147483648) :
    addEndingNewLine ⟨content, 0, Nat.zero_le _⟩ = ⟨repaired content, 0, Nat.zero_le _⟩ := by
  rcases List.eq_nil_or_concat' content with rfl | ⟨u, c, rfl⟩
  · exact File.ext rfl rfl
  · rw [List.length_append, List.length_singleton] at hlen
    set f : File := ⟨u ++ [c], 0, Nat.zero_le _⟩ with hf
    have hseekable : Seekable f := by
      rw [Seekable, hf, List.length_append, List.length_singleton]
      omega
    have hseek := seek_fromEnd hseekable (k := 1) (by simp [hf])
    have hpos : (f.seek (f.content.length - 1)).pos = u.length := by simp [hf, File.seek]
    have hread : ((f.seek (f.content.length - 1)).read 1).1 = [c] := by
      rw [File.read_fst, hpos]
      simp [hf]
    have hend : ((f.seek (f.content.length - 1)).read 1).2.pos = (u ++ [c]).length := by
      rw [File.read_pos, hpos]
      simp [hf]
    rw [addEndingNewLine, show (-1 : Int) = -(1 : Nat) from rfl, hseek]
    simp only [if_true, hread]
    by_cases hc : c = 10
    · have hkeep : repaired (u ++ [c]) = u ++ [c] := by simp [repaired, hc]
      have hread' : Seekable ((f.seek (f.content.length - 1)).read 1).2 := hseekable
      rw [if_neg (by simp [hc]), streamRewind_eq hread']
      exact File.ext hkeep.symm (Nat.zero_min _)
    · have hadd : repaired (u ++ [c]) = u ++ [c] ++ [10] := by simp [repaired, hc]
      have hcontent : (((f.seek (f.content.length - 1)).read 1).2.write [10]).2.content =
          u ++ [c] ++ [10] := by
        rw [File.write_content, hend]
        exact overwrite_length _ _
      have hwritten : Seekable (((f.seek (f.content.length - 1)).read 1).2.write [10]).2 := by
        rw [Seekable, hcontent, List.length_append, List.length_append, List.length_singleton,
          List.length_singleton]
        omega
      rw [if_pos ⟨rfl, by simp [hc]⟩, streamRewind_eq hwritten]
      exact File.ext (hcontent.trans hadd.symm) (Nat.zero_min _)

lemma getLast?_repaired {c : UInt8} (hc : c ∈ (repaired content).getLast?) : c = 10 := by
  rw [repaired] at hc
  split_ifs at hc with hlast
  · rw [Option.mem_def.mp hc] at hlast
    exact hlast
  · rw [List.getLast?_append, List.getLast?_singleton] at hc
    exact (Option.some.inj hc).symm

lemma seekable_repaired (hlen : content.length + 1 < 2147483648) :
    Seekable ⟨repaired content, 0, Nat.zero_le _⟩ := by
  rw [Seekable, repaired]
  split_ifs
  · exact Nat.lt_of_succ_lt hlen
  · rw [List.length_append, List.length_singleton]
    exact hlen

/-- The dictionary of a file below 2 GiB. -/
theorem alloc_eq (hn : 0 < n) (hlen : content.length + 1 < 2147483648) :
    alloc content n = some
      { stream := ⟨repaired content, 0, Nat.zero_le _⟩
        keySize := n
        totalKeys := (keyLines n (splitBehind 10 (repaired content))).length } := by
  have hf := seekable_repaired hlen
  have hahead : Ahead ⟨repaired content, 0, Nat.zero_le _⟩ (splitBehind 10 (repaired content)) :=
    ⟨hf, rfl⟩
  obtain ⟨f', hcontent, hloop⟩ := hahead.count hn 0 hahead.length_lt_rounds
  have hrewind : streamRewind f' = (true, ⟨repaired content, 0, Nat.zero_le _⟩) := by
    have hf' : Seekable f' := by
      rw [Seekable, hcontent]
      exact hf
    rw [streamRewind_eq hf']
    exact congrArg _ (File.ext hcontent (Nat.zero_min _))
  rw [alloc, if_neg (Nat.ne_of_gt hn), addEndingNewLine_eq hlen]
  simp only [hloop, Option.map_some, hrewind, Nat.zero_add]

/-! ### The two views -/

/-- The dictionary of a file below 2 GiB says of every key that it is present exactly if iterating
gives it, if and only if each key in the file also stands there in upper case, and no key in
upper case has anything but zeros in front of its last eight bytes. -/
theorem isKeyPresent_iff_iterated_iff (hn : 0 < d.keySize) (hf : Seekable d.stream)
    (stale : UInt8) :
    (∀ key, key.length = d.keySize →
        ((∃ d', d.isKeyPresent key = some (true, d')) ↔
          ∃ m, nthKey stale m d.rewind = some (some key))) ↔
      (∀ str ∈ d.texts, intToStr (keyOfLine stale d.keySize str) ∈ d.texts) ∧
        ∀ key, key.length = d.keySize → intToStr key ∈ d.texts →
          key.take (d.keySize - 8) = List.replicate (d.keySize - 8) 0 := by
  have hpresent : ∀ key, (∃ d', d.isKeyPresent key = some (true, d')) ↔
      intToStr key ∈ d.texts := by
    intro key
    obtain ⟨d', hd'⟩ := isKeyPresent_eq hn hf key
    rw [hd']
    constructor
    · rintro ⟨d'', h⟩
      exact of_decide_eq_true (congrArg Prod.fst (Option.some.inj h))
    · intro h
      exact ⟨d', by rw [decide_eq_true h]⟩
  have hiterated : ∀ key, (∃ m, nthKey stale m d.rewind = some (some key)) ↔
      ∃ str ∈ d.texts, keyOfLine stale d.keySize str = key := by
    intro key
    rw [← List.mem_map, ← keys_eq_map, List.mem_iff_getElem?]
    refine exists_congr fun m => ?_
    rw [reads_keys hn hf stale m, Option.some.injEq]
  constructor
  · intro h
    refine ⟨fun str hstr => ?_, fun key hkey hmem => ?_⟩
    · apply (hpresent _).mp
      apply (h _ (length_keyOfLine _ _ _)).mpr
      exact (hiterated _).mpr ⟨str, hstr, rfl⟩
    · obtain ⟨str, -, rfl⟩ := (hiterated key).mp ((h key hkey).mp ((hpresent key).mpr hmem))
      rw [keyOfLine, List.take_left' List.length_replicate]
  · rintro ⟨hupper, hzeros⟩ key hkey
    rw [hpresent, hiterated]
    constructor
    · intro hmem
      refine ⟨intToStr key, hmem, ?_⟩
      have hkeep := keyOfLine_intToStr stale key
      rw [hkey, ← hzeros key hkey hmem, List.take_append_drop] at hkeep
      exact hkeep
    · rintro ⟨str, hstr, rfl⟩
      exact hupper str hstr

/-- A key in upper case and a key of zeros. -/
theorem isKeyPresent_iff_iterated_upper :
    let d : KeysDict := ⟨⟨[65, 48, 70, 70, 10, 48, 48, 48, 48, 13, 10], 0, by decide⟩, 2, 2⟩
    ∀ key, key.length = 2 →
      ((∃ d', d.isKeyPresent key = some (true, d')) ↔
        ∃ m, nthKey 0 m d.rewind = some (some key)) := by
  intro d
  have hf : Seekable d.stream := by
    rw [Seekable]
    decide
  exact (isKeyPresent_iff_iterated_iff (by decide) hf 0).mpr ⟨by decide, fun _ _ _ => rfl⟩

/-- A key in lower case is read, but it is not present. -/
theorem isKeyPresent_lower_case :
    let d : KeysDict := ⟨⟨[97, 48, 97, 49, 97, 50, 97, 51, 97, 52, 97, 53, 10], 0, by decide⟩, 6, 1⟩
    alloc [97, 48, 97, 49, 97, 50, 97, 51, 97, 52, 97, 53, 10] 6 = some d ∧
      nthKey 0 0 d.rewind = some (some [160, 161, 162, 163, 164, 165]) ∧
      ∃ d', d.isKeyPresent [160, 161, 162, 163, 164, 165] = some (false, d') := by
  intro d
  have hn : 0 < d.keySize := by decide
  have hf : Seekable d.stream := by
    rw [Seekable]
    decide
  have hkeys : d.keys 0 = [[160, 161, 162, 163, 164, 165]] := by decide
  have habsent : ¬ intToStr [160, 161, 162, 163, 164, 165] ∈ d.texts := by decide
  refine ⟨alloc_eq (by decide) (by decide), ?_, ?_⟩
  · rw [reads_keys hn hf 0 0, hkeys]
    rfl
  · obtain ⟨d', hpresent⟩ := isKeyPresent_eq hn hf [160, 161, 162, 163, 164, 165]
    rw [decide_eq_false habsent] at hpresent
    exact ⟨d', hpresent⟩

end KeysDict

end FlipperZero
