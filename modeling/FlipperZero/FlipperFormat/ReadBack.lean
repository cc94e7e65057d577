import FlipperZero.FlipperFormat.Lines

/-!
# Reading back what was written

Entries and comments are written to an empty stream, the stream is rewound, and the entries are
read in the same order, each with the read function of its type and its count. Below 2 GiB every
value comes back, in strict mode and without it.
-/

namespace FlipperZero

open Foundation

namespace FlipperFormatStream

/-- One call of a write function. -/
inductive Item where
  | comment (text : List UInt8)
  | entry (data : FlipperStreamWriteData)

/-- Values that a read function gives back: an array that is not empty, the count of which is a
`uint16_t`, or a string on one line that is not empty and has no zero byte in it. -/
def FlipperStreamValue.Readable : FlipperStreamValue → Prop
  | .ignore         => False
  | .float _        => False
  | .str data       => data ≠ [] ∧ eoln ∉ data ∧ eolr ∉ data ∧ 0 ∉ data
  | .hex data       => data ≠ [] ∧ data.length < 65536
  | .int32 data     => data ≠ [] ∧ data.length < 65536
  | .uint32 data    => data ≠ [] ∧ data.length < 65536
  | .hexUint64 data => data ≠ [] ∧ data.length < 65536
  | .bool data      => data ≠ [] ∧ data.length < 65536

instance : ∀ value : FlipperStreamValue, Decidable value.Readable
  | .ignore         => inferInstanceAs (Decidable False)
  | .float _        => inferInstanceAs (Decidable False)
  | .str data       =>
    inferInstanceAs (Decidable (data ≠ [] ∧ eoln ∉ data ∧ eolr ∉ data ∧ 0 ∉ data))
  | .hex data       => inferInstanceAs (Decidable (data ≠ [] ∧ data.length < 65536))
  | .int32 data     => inferInstanceAs (Decidable (data ≠ [] ∧ data.length < 65536))
  | .uint32 data    => inferInstanceAs (Decidable (data ≠ [] ∧ data.length < 65536))
  | .hexUint64 data => inferInstanceAs (Decidable (data ≠ [] ∧ data.length < 65536))
  | .bool data      => inferInstanceAs (Decidable (data ≠ [] ∧ data.length < 65536))

lemma FlipperStreamValue.Readable.passed {value : FlipperStreamValue} (h : value.Readable) :
    value.Passed := by
  cases value with
  | ignore         => exact trivial
  | float texts    => exact absurd h id
  | str data       => exact h.2.2.2
  | hex data       => exact h.2
  | int32 data     => exact h.2
  | uint32 data    => exact h.2
  | hexUint64 data => exact h.2
  | bool data      => exact h.2

namespace Item

def line : Item → Line
  | .comment text => .comment (cString text)
  | .entry data   => .entry data.key (valueWrites data.value.printed).flatten

def Valid : Item → Prop
  | .comment text => OneLine text
  | .entry data   => ValidKey data.key ∧ data.value.Readable

instance : ∀ item : Item, Decidable item.Valid
  | .comment text => inferInstanceAs (Decidable (OneLine text))
  | .entry data   => inferInstanceAs (Decidable (ValidKey data.key ∧ data.value.Readable))

/-- The call. -/
def write : Item → File → Bool × File
  | .comment text => writeComment text
  | .entry data   => writeValueLine data

end Item

/-- The calls in a row, up to the first one that fails. -/
def writeItems : List Item → File → Bool × File
  | [], f            => (true, f)
  | item :: items, f =>
    let r := item.write f
    if r.1 then writeItems items r.2 else (false, r.2)

/-- The read function for the type and the count of a value, which is a `uint16_t`. -/
def readBack (rounds : Nat) (strictMode : Bool) (key : List UInt8) (f : File) :
    FlipperStreamValue → Option ((Bool × FlipperStreamValue) × File)
  | .ignore => some ((true, .ignore), f)
  | .str _ => (readStringLine rounds key strictMode f).map fun ((ok, str), g) => ((ok, .str str), g)
  | .hex data =>
    (readValueLine scanHex rounds key (data.length % 65536) strictMode f).map
      fun ((ok, values), g) => ((ok, .hex (values.map UInt8.ofNat)), g)
  | .float texts =>
    (readValueLine some rounds key (texts.length % 65536) strictMode f).map
      fun ((ok, values), g) => ((ok, .float values), g)
  | .int32 data =>
    (readValueLine scanInt32 rounds key (data.length % 65536) strictMode f).map
      fun ((ok, values), g) => ((ok, .int32 (values.map Int32.ofInt)), g)
  | .uint32 data =>
    (readValueLine scanUint32 rounds key (data.length % 65536) strictMode f).map
      fun ((ok, values), g) => ((ok, .uint32 (values.map UInt32.ofNat)), g)
  | .hexUint64 data =>
    (readValueLine scanHexUint64 rounds key (data.length % 65536) strictMode f).map
      fun ((ok, values), g) => ((ok, .hexUint64 (values.map UInt64.ofNat)), g)
  | .bool data =>
    (readValueLine scanBool rounds key (data.length % 65536) strictMode f).map
      fun ((ok, values), g) => ((ok, .bool values), g)

def readItems (rounds : Nat) (strictMode : Bool) :
    List Item → File → Option (List (Bool × FlipperStreamValue))
  | [], _                    => some []
  | .comment _ :: items, f   => readItems rounds strictMode items f
  | .entry data :: items, f =>
    (readBack rounds strictMode data.key f data.value).bind fun (r, g) =>
      (readItems rounds strictMode items g).map (r :: ·)

/-- What reading the entries should give. -/
def values (items : List Item) : List (Bool × FlipperStreamValue) :=
  items.filterMap fun
    | .comment _  => none
    | .entry data => some (true, data.value)

/-! ### Writing -/

variable {items : List Item} {f : File} {text rest : List UInt8}

lemma Item.write_eq {item : Item} (h : item.Valid) (f : File) :
    item.write f = (true, (f.write item.line.bytes).2) := by
  cases item with
  | comment text => exact writeComment_eq f text
  | entry data =>
    have hvalue : data.value ≠ .ignore := by
      intro heq
      have hreadable := h.2
      rw [heq] at hreadable
      exact hreadable
    rw [Item.write, writeValueLine_eq, FlipperStreamWriteData.line, if_neg hvalue,
      FlipperStreamValue.passed_eq h.2.passed]
    rfl

lemma writeItems_eq (h : ∀ item ∈ items, item.Valid) (f : File) :
    writeItems items f = (true, (f.write (textOf (items.map Item.line))).2) := by
  induction items generalizing f with
  | nil =>
    rw [writeItems, List.map_nil, textOf_nil, File.write_nil]
  | cons item items ih =>
    rw [writeItems, Item.write_eq (h item List.mem_cons_self), if_pos rfl,
      ih fun i hi => h i (List.mem_cons_of_mem item hi), File.write_write, List.map_cons,
      textOf_cons]

/-! ### Lengths -/

lemma length_valueWrites {texts : List (List UInt8)} (hne : texts ≠ []) :
    (valueWrites texts).flatten.length + 1 = (texts.map fun t => t.length + 1).sum := by
  fun_induction valueWrites texts with
  | case1 => exact absurd rfl hne
  | case2 v => simp
  | case3 v t vs ih =>
    have hrest := ih (List.cons_ne_nil t vs)
    rw [List.map_cons, List.sum_cons, ← hrest]
    simp only [List.flatten_cons, List.length_append, List.length_singleton]
    omega

/-- A line with a short key and not too many short values is short. -/
lemma length_entryLine_le {data : FlipperStreamWriteData} {size count width : Nat}
    (hkey : data.key.length ≤ size) (hcount : data.value.printed.length ≤ count)
    (htexts : ∀ t ∈ data.value.printed, t.length ≤ width) :
    (Item.entry data).line.bytes.length ≤ size + 3 + count * (width + 1) := by
  have hvalues : (valueWrites data.value.printed).flatten.length ≤ count * (width + 1) := by
    by_cases hne : data.value.printed = []
    · rw [hne]
      exact Nat.zero_le _
    · have hsum := List.sum_le_card_nsmul (data.value.printed.map fun t => t.length + 1) (width + 1)
        fun n hn => by
          obtain ⟨t, ht, rfl⟩ := List.mem_map.mp hn
          exact Nat.succ_le_succ (htexts t ht)
      rw [← length_valueWrites hne, List.length_map, Nat.nsmul_eq_mul] at hsum
      exact Nat.le_trans (Nat.le_of_succ_le hsum) (Nat.mul_le_mul_right _ hcount)
  have hbytes : (Item.entry data).line.bytes.length =
      data.key.length + 3 + (valueWrites data.value.printed).flatten.length := by
    simp only [Item.line, Line.bytes, List.length_append, List.length_cons, List.length_nil]
    omega
  rw [hbytes]
  exact Nat.add_le_add (Nat.add_le_add_right hkey 3) hvalues

/-! ### Reading values -/

lemma scan_characters (i : Nat) (acc : List UInt8) (h : ∀ c ∈ text, isSpace c = false ∧ c ≠ eoln) :
    scanFrom ValueScan.step i ⟨.readValue, acc⟩ text = .again ⟨.readValue, acc ++ text⟩ := by
  induction text generalizing i acc with
  | nil => rw [scanFrom_nil, List.append_nil]
  | cons c text ih =>
    obtain ⟨hspace, heoln⟩ := h c List.mem_cons_self
    have hstep : ValueScan.step ⟨.readValue, acc⟩ c = .again ⟨.readValue, acc ++ [c]⟩ := by
      simp [ValueScan.step, hspace, heoln]
    rw [scanFrom_cons_again hstep, ih _ _ fun d hd => h d (List.mem_cons_of_mem c hd),
      List.append_assoc]
    rfl

lemma scan_value (i : Nat) (h : PlainText text) :
    scanFrom ValueScan.step i ValueScan.init text = .again ⟨.readValue, text⟩ := by
  cases text with
  | nil => exact absurd rfl h.ne_nil
  | cons c text =>
    obtain ⟨hspace, heoln⟩ := h.chars c List.mem_cons_self
    have hstep : ValueScan.step ValueScan.init c = .again ⟨.readValue, [c]⟩ := by
      simp [ValueScan.step, ValueScan.init, hspace, heoln]
    rw [scanFrom_cons_again hstep,
      scan_characters _ _ fun d hd => h.chars d (List.mem_cons_of_mem c hd)]
    rfl

lemma scan_lastValue (i : Nat) (h : PlainText text) :
    scanFrom ValueScan.step i ValueScan.init (text ++ eoln :: rest) =
      .leave (some (text, true), i + text.length) := by
  rw [scanFrom_append_again (scan_value i h)]
  rfl

lemma scan_nextValue (i : Nat) (h : PlainText text) {c : UInt8}
    (hc : isSpace c = false ∧ c ≠ eoln) :
    scanFrom ValueScan.step i ValueScan.init (text ++ space :: c :: rest) =
      .leave (some (text, false), i + text.length + 1) := by
  have hspace : ValueScan.step ⟨.readValue, text⟩ space = .again ⟨.trailingSpace, text⟩ := rfl
  have hstep : ValueScan.step ⟨.trailingSpace, text⟩ c = .leave (some (text, false)) := by
    simp [ValueScan.step, hc.1, hc.2]
  rw [scanFrom_append_again (scan_value i h), scanFrom_cons_again hspace,
    scanFrom_cons_leave hstep]

lemma head_valueWrites {texts : List (List UInt8)} (hne : texts ≠ [])
    (h : ∀ text ∈ texts, PlainText text) :
    ∃ c rest, (valueWrites texts).flatten = c :: rest ∧ isSpace c = false ∧ c ≠ eoln := by
  cases texts with
  | nil => exact absurd rfl hne
  | cons text texts =>
    have htext := h text List.mem_cons_self
    cases text with
    | nil => exact absurd rfl htext.ne_nil
    | cons c text =>
      have hc := htext.chars c List.mem_cons_self
      cases texts with
      | nil => exact ⟨c, text, by simp [valueWrites], hc⟩
      | cons w ws => exact ⟨c, _, by rw [valueWrites, List.flatten_cons]; rfl, hc⟩

lemma readValues_texts {α β : Type*} (print : α → List UInt8) (scan : List UInt8 → Option β)
    (val : α → β) (hprint : ∀ a, PlainText (print a) ∧ scan (print a) = some (val a))
    (xs : List α) : ∀ {f : File} {rest : List UInt8}, Seekable f → xs ≠ [] →
      f.content.drop f.pos = (valueWrites (xs.map print)).flatten ++ eoln :: rest →
        readValues scan xs.length f = ((true, xs.map val),
          f.seek (f.pos + (valueWrites (xs.map print)).flatten.length)) := by
  induction xs with
  | nil => exact fun _ hne => absurd rfl hne
  | cons x xs ih =>
    intro f rest hf _ hdrop
    obtain ⟨hplain, hscan⟩ := hprint x
    cases xs with
    | nil =>
      simp only [List.map_cons, List.map_nil, valueWrites, List.flatten_singleton] at hdrop ⊢
      have hread : readValue f = (some (print x, true), f.seek (f.pos + (print x).length)) := by
        rw [readValue, hf.scanStream _ 0 (Nat.zero_le 1), hdrop, scan_lastValue _ hplain]
        rfl
      rw [List.length_singleton, readValues, hread]
      simp only [hscan, ne_eq, not_true_eq_false, and_false, if_false, readValues]
    | cons y ys =>
      simp only [List.map_cons, valueWrites, List.flatten_cons] at hdrop ⊢
      obtain ⟨c, more, hnext, hc⟩ := head_valueWrites (List.cons_ne_nil (print y) (ys.map print))
        fun text htext => by
          rw [← List.map_cons] at htext
          obtain ⟨a, -, rfl⟩ := List.mem_map.mp htext
          exact (hprint a).1
      have hsplit : f.content.drop f.pos = (print x ++ [space]) ++
          ((valueWrites (print y :: ys.map print)).flatten ++ eoln :: rest) := by
        rw [hdrop, List.append_assoc]
      have hread : readValue f =
          (some (print x, false), f.seek (f.pos + (print x ++ [space]).length)) := by
        have hdrop' : f.content.drop f.pos =
            print x ++ space :: c :: (more ++ eoln :: rest) := by
          rw [hsplit, hnext]
          simp
        rw [readValue, hf.scanStream _ 0 (Nat.zero_le 1), hdrop', scan_nextValue _ hplain hc]
        simp [Nat.add_assoc]
      obtain ⟨hpos, hrest⟩ := drop_seek hsplit
      set g := f.seek (f.pos + (print x ++ [space]).length) with hg
      have hbehind : g.content.drop g.pos =
          (valueWrites ((y :: ys).map print)).flatten ++ eoln :: rest := by
        rw [hpos, hrest, List.map_cons]
      have hreads := ih (f := g) hf (List.cons_ne_nil _ _) hbehind
      rw [List.length_cons, readValues, hread]
      simp only [hscan, Bool.false_eq_true, false_and, if_false, hreads, hpos]
      conv_rhs => rw [List.length_append, ← Nat.add_assoc]
      rfl

lemma readLine_string (hf : Seekable f) (hne : text ≠ []) (heoln : eoln ∉ text)
    (heolr : eolr ∉ text) (hdrop : f.content.drop f.pos = text ++ eoln :: rest) :
    readLine f = ((true, text), f.seek (f.pos + text.length)) := by
  have hscan (acc : List UInt8) (i : Nat) : scanFrom lineStep i acc text = .again (acc ++ text) := by
    clear hne hdrop
    induction text generalizing acc i with
    | nil => rw [scanFrom_nil, List.append_nil]
    | cons c text ih =>
      have hc : lineStep acc c = .again (acc ++ [c]) := by
        have hceoln : c ≠ eoln := fun heq => heoln (heq ▸ List.mem_cons_self)
        have hceolr : c ≠ eolr := fun heq => heolr (heq ▸ List.mem_cons_self)
        simp [lineStep, hceoln, hceolr]
      rw [scanFrom_cons_again hc, ih (fun h => heoln (List.mem_cons_of_mem c h))
        (fun h => heolr (List.mem_cons_of_mem c h)), List.append_assoc]
      rfl
  have hline : scanFrom lineStep f.pos [] (f.content.drop f.pos) =
      .leave (text, f.pos + text.length) := by
    rw [hdrop, scanFrom_append_again (hscan [] f.pos), List.nil_append]
    rfl
  rw [readLine, hf.scanStream _ 0 (Nat.zero_le 1), hline]
  simp [hne]

/-! ### The texts of the types -/

lemma scanHex_text (n : UInt8) :
    PlainText (hexText 2 n.toNat) ∧ scanHex (hexText 2 n.toNat) = some n.toNat := by
  refine ⟨plainText_hexText (by decide) _, ?_⟩
  have hlt : n.toNat < 256 := n.toNat_lt
  have hhigh : n.toNat / 16 % 16 = n.toNat / 16 := Nat.mod_eq_of_lt (by omega)
  have htext : hexText 2 n.toNat = [digitText (n.toNat / 16), digitText (n.toNat % 16)] := by
    simp [hexText, hhigh]
  rw [htext, scanHex, if_pos (by simp)]
  exact hexCharToUint8_digitText hlt

lemma endsNumber_nil : EndsNumber [] := fun _ h => nomatch h

lemma scanInt32_text (n : Int32) :
    PlainText (integerText n.toInt) ∧ scanInt32 (integerText n.toInt) = some n.toInt := by
  refine ⟨plainText_integerText _, ?_⟩
  obtain ⟨hlow, hhigh⟩ := int32_bounds n
  have hread := strintToInt32_integerText endsNumber_nil hlow (Int.le_of_lt_add_one hhigh)
  rw [List.append_nil] at hread
  rw [scanInt32, hread]
  rfl

lemma scanUint32_text (n : UInt32) :
    PlainText (decimalText n.toNat) ∧ scanUint32 (decimalText n.toNat) = some n.toNat := by
  refine ⟨plainText_decimalText _, ?_⟩
  have hread := strintToUint32_decimalText endsNumber_nil n.toNat_lt
  rw [List.append_nil] at hread
  rw [scanUint32, hread]
  rfl

lemma scanHexUint64_text (n : UInt64) :
    PlainText (hexText 8 (n.toNat / 4294967296) ++ hexText 8 n.toNat) ∧
      scanHexUint64 (hexText 8 (n.toNat / 4294967296) ++ hexText 8 n.toNat) = some n.toNat := by
  refine ⟨(plainText_hexText (by decide) _).append (plainText_hexText (by decide) _), ?_⟩
  rw [scanHexUint64, if_pos (by simp)]
  exact hexCharsToUint64_hexText n.toNat_lt

lemma scanBool_text (b : Bool) :
    PlainText (if b then [116, 114, 117, 101] else [102, 97, 108, 115, 101]) ∧
      scanBool (if b then [116, 114, 117, 101] else [102, 97, 108, 115, 101]) = some b := by
  cases b
  · exact ⟨by decide, by decide⟩
  · exact ⟨by decide, by decide⟩

/-! ### Entries -/

variable {skip : List UInt8} {data : FlipperStreamWriteData}

/-- Where the stream stands behind the values of an entry. -/
def behind (f : File) (skip : List UInt8) (data : FlipperStreamWriteData) : File :=
  f.seek (f.pos + skip.length + data.key.length + 2 + (valueWrites data.value.printed).flatten.length)

lemma readBack_next (hf : Seekable f) (hskip : Skipped skip) (hkey : ValidKey data.key)
    (hvalue : data.value.Readable)
    (hdrop : f.content.drop f.pos = skip ++ ((Item.entry data).line.bytes ++ rest))
    (strictMode : Bool) (rounds : Nat) :
    readBack (rounds + 1) strictMode data.key f data.value =
      some ((true, data.value), behind f skip data) := by
  obtain ⟨key, value⟩ := data
  have hnext : f.content.drop f.pos = skip ++ (key ++ delimiter :: space ::
      ((valueWrites value.printed).flatten ++ eoln :: rest)) := by
    rw [hdrop]
    simp [Item.line, Line.bytes]
  have hseek := seekToKey_next hf hskip hkey hnext strictMode rounds
  -- behind the key the values stand
  have hsplit : f.content.drop f.pos = (skip ++ (key ++ [delimiter, space])) ++
      ((valueWrites value.printed).flatten ++ eoln :: rest) := by
    rw [hnext]
    simp
  obtain ⟨hpos, hrest⟩ := drop_seek hsplit
  have hlen : f.pos + (skip ++ (key ++ [delimiter, space])).length =
      f.pos + skip.length + key.length + 2 := by
    simp
    omega
  rw [hlen] at hpos hrest
  set g := f.seek (f.pos + skip.length + key.length + 2) with hg
  have hgdrop : g.content.drop g.pos = (valueWrites value.printed).flatten ++ eoln :: rest := by
    rw [hpos, hrest]
  have hbehind : g.seek (g.pos + (valueWrites value.printed).flatten.length) =
      behind f skip ⟨key, value⟩ := by
    rw [hpos]
    rfl
  have harray {α β : Type} (print : α → List UInt8) (scan : List UInt8 → Option β) (val : α → β)
      (hprint : ∀ a, PlainText (print a) ∧ scan (print a) = some (val a)) (xs : List α)
      (hne : xs ≠ []) (htexts : value.printed = xs.map print) :
      readValueLine scan (rounds + 1) key xs.length strictMode f =
        some ((true, xs.map val), behind f skip ⟨key, value⟩) := by
    rw [htexts] at hgdrop
    have hread := readValues_texts print scan val hprint xs (f := g) hf hne hgdrop
    rw [← htexts, hbehind] at hread
    rw [readValueLine, hseek]
    exact congrArg some hread
  cases value with
  | ignore => exact absurd hvalue id
  | float texts => exact absurd hvalue id
  | str str =>
    obtain ⟨hne, heoln, heolr, -⟩ := hvalue
    have hread := readLine_string (f := g) hf hne heoln heolr (by
      simpa [FlipperStreamValue.printed, valueWrites] using hgdrop)
    rw [readBack, readStringLine, hseek]
    simp only [Option.map_some, if_true, hread, hpos]
    simp [behind, FlipperStreamValue.printed, valueWrites]
    rfl
  | hex data =>
    have hid : UInt8.ofNat ∘ UInt8.toNat = id := funext fun n => UInt8.ofNat_toNat
    rw [readBack, Nat.mod_eq_of_lt hvalue.2, harray _ scanHex _ scanHex_text data hvalue.1 rfl]
    simp [hid]
  | int32 data =>
    have hid : Int32.ofInt ∘ Int32.toInt = id := funext fun n => Int32.ofInt_toInt n
    rw [readBack, Nat.mod_eq_of_lt hvalue.2, harray _ scanInt32 _ scanInt32_text data hvalue.1 rfl]
    simp [hid]
  | uint32 data =>
    have hid : UInt32.ofNat ∘ UInt32.toNat = id := funext fun n => UInt32.ofNat_toNat
    rw [readBack, Nat.mod_eq_of_lt hvalue.2, harray _ scanUint32 _ scanUint32_text data hvalue.1 rfl]
    simp [hid]
  | hexUint64 data =>
    have hid : UInt64.ofNat ∘ UInt64.toNat = id := funext fun n => UInt64.ofNat_toNat
    rw [readBack, Nat.mod_eq_of_lt hvalue.2, harray _ scanHexUint64 _ scanHexUint64_text data hvalue.1 rfl]
    simp [hid]
  | bool data =>
    rw [readBack, Nat.mod_eq_of_lt hvalue.2, harray _ scanBool id scanBool_text data hvalue.1 rfl]
    simp

/-- The lines of items stand behind the position of a file below 2 GiB, behind text that the search
for a key goes through. -/
def Ahead (items : List Item) (f : File) : Prop :=
  Seekable f ∧ ∃ skip rest, Skipped skip ∧
    f.content.drop f.pos = skip ++ (textOf (items.map Item.line) ++ rest)

/-- The lines of items and then the rest stand behind the position. -/
def AheadOf (rest : List UInt8) (items : List Item) (f : File) : Prop :=
  Seekable f ∧ ∃ skip, Skipped skip ∧
    f.content.drop f.pos = skip ++ (textOf (items.map Item.line) ++ rest)

lemma ahead_iff : Ahead items f ↔ ∃ rest, AheadOf rest items f :=
  ⟨fun ⟨hf, skip, rest, h⟩ => ⟨rest, hf, skip, h⟩, fun ⟨rest, hf, skip, h⟩ => ⟨hf, skip, rest, h⟩⟩

lemma Ahead.comment (h : Ahead (.comment text :: items) f) (htext : OneLine text) :
    Ahead items f := by
  obtain ⟨hf, skip, rest, hskip, hdrop⟩ := h
  refine ⟨hf, skip ++ (Line.comment (cString text)).bytes, rest,
    hskip.append (skipped_comment htext.cString), ?_⟩
  rw [hdrop, List.map_cons, textOf_cons, Item.line, List.append_assoc, List.append_assoc]

lemma AheadOf.entry (h : AheadOf rest (.entry data :: items) f) (hvalid : (Item.entry data).Valid)
    (strictMode : Bool) (rounds : Nat) :
    ∃ g, readBack (rounds + 1) strictMode data.key f data.value = some ((true, data.value), g) ∧
      AheadOf rest items g := by
  obtain ⟨hf, skip, hskip, hdrop⟩ := h
  obtain ⟨hkey, hvalue⟩ := hvalid
  rw [List.map_cons, textOf_cons, List.append_assoc] at hdrop
  refine ⟨_, readBack_next hf hskip hkey hvalue hdrop strictMode rounds, hf, [eoln],
    fun _ => rfl, ?_⟩
  -- the stream stands at the end of the line
  have hsplit : f.content.drop f.pos =
      (skip ++ (data.key ++ [delimiter, space] ++ (valueWrites data.value.printed).flatten)) ++
        ([eoln] ++ (textOf (items.map Item.line) ++ rest)) := by
    rw [hdrop]
    simp [Item.line, Line.bytes]
  obtain ⟨hpos, hrest⟩ := drop_seek hsplit
  have hlen : f.pos + (skip ++ (data.key ++ [delimiter, space] ++
      (valueWrites data.value.printed).flatten)).length = f.pos + skip.length +
        data.key.length + 2 + (valueWrites data.value.printed).flatten.length := by
    simp
    omega
  rw [hlen] at hpos hrest
  rw [behind, hpos, hrest]

lemma Ahead.entry (h : Ahead (.entry data :: items) f) (hvalid : (Item.entry data).Valid)
    (strictMode : Bool) (rounds : Nat) :
    ∃ g, readBack (rounds + 1) strictMode data.key f data.value = some ((true, data.value), g) ∧
      Ahead items g := by
  obtain ⟨rest, h⟩ := ahead_iff.mp h
  obtain ⟨g, hread, hahead⟩ := h.entry hvalid strictMode rounds
  exact ⟨g, hread, ahead_iff.mpr ⟨rest, hahead⟩⟩

lemma AheadOf.hex {key data : List UInt8} (h : AheadOf rest (.entry ⟨key, .hex data⟩ :: items) f)
    (hvalid : (Item.entry ⟨key, .hex data⟩).Valid) (strictMode : Bool) (rounds : Nat) :
    ∃ values g, readValueLine scanHex (rounds + 1) key data.length strictMode f =
      some ((true, values), g) ∧ values.map UInt8.ofNat = data ∧ AheadOf rest items g := by
  obtain ⟨g, hread, hahead⟩ := h.entry hvalid strictMode rounds
  obtain ⟨⟨⟨ok, values⟩, g'⟩, hline, heq⟩ := Option.map_eq_some_iff.mp hread
  rw [Nat.mod_eq_of_lt hvalid.2.2] at hline
  cases heq
  exact ⟨values, g, hline, rfl, hahead⟩

lemma AheadOf.uint32 {key : List UInt8} {data : List UInt32}
    (h : AheadOf rest (.entry ⟨key, .uint32 data⟩ :: items) f)
    (hvalid : (Item.entry ⟨key, .uint32 data⟩).Valid) (strictMode : Bool) (rounds : Nat) :
    ∃ values g, readValueLine scanUint32 (rounds + 1) key data.length strictMode f =
      some ((true, values), g) ∧ values.map UInt32.ofNat = data ∧ AheadOf rest items g := by
  obtain ⟨g, hread, hahead⟩ := h.entry hvalid strictMode rounds
  obtain ⟨⟨⟨ok, values⟩, g'⟩, hline, heq⟩ := Option.map_eq_some_iff.mp hread
  rw [Nat.mod_eq_of_lt hvalid.2.2] at hline
  cases heq
  exact ⟨values, g, hline, rfl, hahead⟩

lemma Ahead.str {key text : List UInt8} (h : Ahead (.entry ⟨key, .str text⟩ :: items) f)
    (hvalid : (Item.entry ⟨key, .str text⟩).Valid) (strictMode : Bool) (rounds : Nat) :
    ∃ g, readStringLine (rounds + 1) key strictMode f = some ((true, text), g) ∧ Ahead items g := by
  obtain ⟨g, hread, hahead⟩ := h.entry hvalid strictMode rounds
  obtain ⟨⟨⟨ok, str⟩, g'⟩, hline, heq⟩ := Option.map_eq_some_iff.mp hread
  cases heq
  exact ⟨g, hline, hahead⟩

lemma Ahead.hex {key data : List UInt8} (h : Ahead (.entry ⟨key, .hex data⟩ :: items) f)
    (hvalid : (Item.entry ⟨key, .hex data⟩).Valid) (strictMode : Bool) (rounds : Nat) :
    ∃ values g, readValueLine scanHex (rounds + 1) key data.length strictMode f =
      some ((true, values), g) ∧ values.map UInt8.ofNat = data ∧ Ahead items g := by
  obtain ⟨rest, h⟩ := ahead_iff.mp h
  obtain ⟨values, g, hread, hvalues, hahead⟩ := h.hex hvalid strictMode rounds
  exact ⟨values, g, hread, hvalues, ahead_iff.mpr ⟨rest, hahead⟩⟩

lemma Ahead.uint32 {key : List UInt8} {data : List UInt32}
    (h : Ahead (.entry ⟨key, .uint32 data⟩ :: items) f)
    (hvalid : (Item.entry ⟨key, .uint32 data⟩).Valid) (strictMode : Bool) (rounds : Nat) :
    ∃ values g, readValueLine scanUint32 (rounds + 1) key data.length strictMode f =
      some ((true, values), g) ∧ values.map UInt32.ofNat = data ∧ Ahead items g := by
  obtain ⟨rest, h⟩ := ahead_iff.mp h
  obtain ⟨values, g, hread, hvalues, hahead⟩ := h.uint32 hvalid strictMode rounds
  exact ⟨values, g, hread, hvalues, ahead_iff.mpr ⟨rest, hahead⟩⟩

lemma AheadOf.seek_other {key : List UInt8} (h : AheadOf rest (.entry data :: items) f)
    (hvalid : (Item.entry data).line.Valid) (hne : data.key ≠ key) (rounds : Nat) :
    ∃ g, g.content = f.content ∧ AheadOf rest items g ∧
      seekToKey (rounds + 1) key false f = seekToKey rounds key false g := by
  obtain ⟨hf, skip, hskip, hdrop⟩ := h
  obtain ⟨hkey, hvalue⟩ := hvalid
  have hnext : f.content.drop f.pos = skip ++ (data.key ++ delimiter :: space ::
      ((valueWrites data.value.printed).flatten ++ [eoln] ++
        (textOf (items.map Item.line) ++ rest))) := by
    rw [hdrop]
    simp [Item.line, Line.bytes]
  have hcstring : cString data.key = data.key :=
    (cString_eq_self_iff data.key).mpr fun hmem => (hkey.chars 0 hmem).2.2.2 rfl
  have hround : seekToKeyRound key false f =
      .again (f.seek (f.pos + skip.length + data.key.length)) := by
    simp only [seekToKeyRound, eof_of_drop hnext (by simp), readValidKey_found hf hskip hkey hnext,
      hcstring, if_neg hne, Bool.false_eq_true, if_false]
  -- the search goes on behind the key, at the delimiter
  have hsplit : f.content.drop f.pos = (skip ++ data.key) ++
      (delimiter :: space :: (valueWrites data.value.printed).flatten ++ [eoln] ++
        (textOf (items.map Item.line) ++ rest)) := by
    rw [hnext]
    simp
  obtain ⟨hpos, hrest⟩ := drop_seek hsplit
  rw [List.length_append, ← Nat.add_assoc] at hpos hrest
  refine ⟨f.seek (f.pos + skip.length + data.key.length), rfl, ⟨hf, _, skipped_value hvalue, ?_⟩,
    loop_again hround⟩
  rw [hpos, hrest]

lemma AheadOf.seek_others {key : List UInt8} {header : List FlipperStreamWriteData}
    (hheader : ∀ data ∈ header, (Item.entry data).line.Valid ∧ data.key ≠ key) :
    ∀ {f : File}, AheadOf rest (header.map .entry ++ items) f → ∀ rounds, ∃ g,
      g.content = f.content ∧ AheadOf rest items g ∧
        seekToKey (header.length + rounds) key false f = seekToKey rounds key false g := by
  induction header with
  | nil =>
    intro f h rounds
    exact ⟨f, rfl, h, by rw [List.length_nil, Nat.zero_add]⟩
  | cons data header ih =>
    intro f h rounds
    obtain ⟨hvalid, hne⟩ := hheader data List.mem_cons_self
    obtain ⟨g, hcontent, hahead, hseek⟩ := h.seek_other hvalid hne (header.length + rounds)
    obtain ⟨g', hcontent', hahead', hseek'⟩ :=
      ih (fun d hd => hheader d (List.mem_cons_of_mem data hd)) hahead rounds
    refine ⟨g', hcontent'.trans hcontent, hahead', ?_⟩
    rw [List.length_cons, Nat.add_right_comm, hseek, hseek']

lemma AheadOf.seek_none (h : AheadOf [] [] f) (key : List UInt8) (rounds : Nat) :
    seekToKey (rounds + 2) key false f = some (false, f.seek f.content.length) := by
  obtain ⟨hf, skip, hskip, hdrop⟩ := h
  have hvalid : ∀ l ∈ ([] : List Line), l.Valid := fun l hl => absurd hl List.not_mem_nil
  exact seekToKey_lines hvalid key hf hskip hdrop (Nat.le_add_left 2 rounds)

lemma readValueLine_total {α : Type*} (hf : Seekable f) {rounds : Nat}
    (hrounds : f.content.length < rounds) (scan : List UInt8 → Option α) (key : List UInt8)
    (size : Nat) (strictMode : Bool) :
    ∃ r, readValueLine scan rounds key size strictMode f = some r ∧ r.2.content = f.content := by
  obtain ⟨⟨found, g⟩, hseek, hcontent⟩ := seekToKey_total hf hrounds key strictMode
  rw [readValueLine, hseek]
  refine ⟨_, rfl, ?_⟩
  cases found with
  | true => exact (readValues_content scan size g).trans hcontent
  | false => exact hcontent

lemma readValueLine_content {α : Type*} (hf : Seekable f) {rounds : Nat}
    (hrounds : f.content.length < rounds) {scan : List UInt8 → Option α} {key : List UInt8}
    {size : Nat} {strictMode : Bool} {r : (Bool × List α) × File}
    (h : readValueLine scan rounds key size strictMode f = some r) : r.2.content = f.content := by
  obtain ⟨r', hr', hcontent⟩ := readValueLine_total hf hrounds scan key size strictMode
  rwa [Option.some.inj (h.symm.trans hr')]

lemma readItems_eq (strictMode : Bool) (rounds : Nat) (h : ∀ item ∈ items, item.Valid) :
    ∀ {f : File}, Ahead items f → readItems (rounds + 1) strictMode items f = some (values items) := by
  induction items with
  | nil => exact fun _ => rfl
  | cons item items ih =>
    intro f hahead
    have hitem := h item List.mem_cons_self
    have hitems := fun i hi => h i (List.mem_cons_of_mem item hi)
    cases item with
    | comment text =>
      rw [readItems, ih hitems (hahead.comment hitem)]
      rfl
    | entry data =>
      obtain ⟨g, hread, hahead'⟩ := hahead.entry hitem strictMode rounds
      rw [readItems, hread, Option.bind_some]
      dsimp only
      rw [ih hitems hahead']
      rfl

/-- Valid items below 2 GiB are written to an empty stream, the stream is rewound, and in every
mode the entries are read back in order with exactly their values. -/
theorem flipperFormatStream_readBack (items : List Item) (hvalid : ∀ item ∈ items, item.Valid)
    (hlen : (textOf (items.map Item.line)).length < 2147483648) (strictMode : Bool) (rounds : Nat)
    (hrounds : 0 < rounds) :
    ∃ f g, writeItems items File.created = (true, f) ∧
      f.content = textOf (items.map Item.line) ∧
      fileStreamSeek f 0 .fromStart = (true, g) ∧
      readItems rounds strictMode items g = some (values items) := by
  set f := (File.created.write (textOf (items.map Item.line))).2 with hf
  have hcontent : f.content = textOf (items.map Item.line) := by
    rw [hf, File.write_content]
    exact overwrite_length [] _
  have hseekable : Seekable f := by
    rw [Seekable, hcontent]
    exact hlen
  have hrewind : fileStreamSeek f 0 .fromStart = (true, f.seek 0) := by
    rw [fileStreamSeek_rewind (by rw [hcontent]; omega), if_pos (by rw [hcontent]; omega)]
  obtain ⟨n, rfl⟩ := Nat.exists_eq_add_of_lt hrounds
  have hpos : (f.seek 0).pos = 0 := Nat.zero_min _
  refine ⟨f, f.seek 0, writeItems_eq hvalid _, hcontent, hrewind, ?_⟩
  rw [Nat.zero_add]
  refine readItems_eq strictMode n hvalid ⟨hseekable, [], [], skipped_nil, ?_⟩
  rw [hpos, List.drop_zero, File.seek_content, hcontent, List.nil_append, List.append_nil]

/-- A comment and two entries. -/
theorem flipperFormatStream_readBack_three :
    let items := [Item.comment [120], .entry ⟨[65], .uint32 [7, 8]⟩, .entry ⟨[66], .str [58, 32]⟩]
    ∃ f g, writeItems items File.created = (true, f) ∧
      f.content = textOf (items.map Item.line) ∧
      fileStreamSeek f 0 .fromStart = (true, g) ∧
      readItems 1 true items g = some (values items) :=
  flipperFormatStream_readBack
    [.comment [120], .entry ⟨[65], .uint32 [7, 8]⟩, .entry ⟨[66], .str [58, 32]⟩] (by decide)
    (by decide +kernel) true 1 (by decide)

/-! ### Above 2 GiB -/

lemma seekToKey_end {g : File} (h : g.eof = true) (key : List UInt8) (strictMode : Bool)
    (rounds : Nat) : seekToKey (rounds + 1) key strictMode g = some (false, g) := by
  refine loop_leave ?_
  rw [seekToKeyRound, if_pos h]

lemma readItems_end {g : File} (h : g.eof = true) (key : List UInt8) (data : List UInt8)
    (rounds : Nat) (strictMode : Bool) (items : List Item) :
    readItems rounds strictMode (.entry ⟨key, .hex data⟩ :: items) g ≠
      some (values (.entry ⟨key, .hex data⟩ :: items)) := by
  cases rounds with
  | zero => exact nofun
  | succ rounds =>
    rw [readItems, readBack, readValueLine, seekToKey_end h]
    simp only [Option.map_some, Bool.false_eq_true, if_false, Option.bind_some, List.map_nil]
    intro heq
    obtain ⟨results, -, hcons⟩ := Option.map_eq_some_iff.mp heq
    have hok := congrArg Prod.fst (List.cons.inj hcons).1
    exact absurd hok Bool.false_ne_true

lemma readBack_behind {n : Nat} (hn : 2147483648 ≤ n) (hn' : n < 4294967000) :
    let items := [Item.comment (List.replicate n 120), .entry ⟨[65], .hex [1]⟩]
    (∀ item ∈ items, item.Valid) ∧
      ∃ f g, writeItems items File.created = (true, f) ∧
        fileStreamSeek f 0 .fromStart = (false, g) ∧
        ∀ rounds strictMode, readItems rounds strictMode items g ≠ some (values items) := by
  intro items
  have hvalid : ∀ item ∈ items, item.Valid := by
    intro item hitem
    rcases List.mem_cons.mp hitem with rfl | hitem
    · intro hmem
      exact absurd (List.eq_of_mem_replicate hmem) (by decide)
    · rw [List.mem_singleton.mp hitem]
      decide
  have hlen : (textOf (items.map Item.line)).length = n + 9 := by
    have hentry : (Item.entry ⟨[65], .hex [1]⟩).line.bytes.length = 6 := by decide
    have hcomment : cString (List.replicate n 120) = List.replicate n 120 := by
      rw [cString_eq_self_iff]
      exact fun hmem => absurd (List.eq_of_mem_replicate hmem) (by decide)
    simp only [items, List.map_cons, List.map_nil, textOf_cons, textOf_nil, List.append_nil,
      List.length_append, hentry]
    simp [Item.line, Line.bytes, hcomment]
  set f := (File.created.write (textOf (items.map Item.line))).2 with hf
  have hcontent : f.content = textOf (items.map Item.line) := by
    rw [hf, File.write_content]
    exact overwrite_length [] _
  have hsize : f.size = n + 9 := by
    rw [File.size, hcontent, hlen, asUInt32_of_lt (by omega)]
  have hrewind : fileStreamSeek f 0 .fromStart = (false, f.seek f.size) := by
    rw [fileStreamSeek_rewind (by rw [hcontent]; omega), if_neg (by rw [hcontent]; omega)]
  have heof : (f.seek f.size).eof = true := by
    have hpos : (f.seek f.size).pos = f.content.length := by
      rw [hsize, ← hlen, ← hcontent]
      exact Nat.min_self _
    simp [File.eof, hpos]
  refine ⟨hvalid, f, f.seek f.size, writeItems_eq hvalid _, hrewind, fun rounds strictMode => ?_⟩
  exact readItems_end heof [65] [1] rounds strictMode []

/-- Behind a comment of 2 GiB an entry is written, but the stream cannot be rewound to it. -/
theorem flipperFormatStream_readBack_large :
    let items := [Item.comment (List.replicate 2147483648 120), .entry ⟨[65], .hex [1]⟩]
    (∀ item ∈ items, item.Valid) ∧
      ∃ f g, writeItems items File.created = (true, f) ∧
        fileStreamSeek f 0 .fromStart = (false, g) ∧
        ∀ rounds strictMode, readItems rounds strictMode items g ≠ some (values items) :=
  readBack_behind (Nat.le_refl _) (by decide)

end FlipperFormatStream

end FlipperZero
