import FlipperZero.FlipperFormat.FlipperFormatStream
import Mathlib.Algebra.Order.BigOperators.Group.List
import Mathlib.Algebra.Order.Group.Nat

/-!
# Texts of lines

A text that the write functions produce is a list of lines. Over such a text the key search finds
the next line with the key, wherever the chunks of the reader cut the text: a comment and the rest
of a line behind its delimiter leave the scanner at the start of a line.
-/

namespace FlipperZero

open Foundation

namespace FlipperFormatStream

/-- A line: a comment, or a key and the text of its values. -/
inductive Line where
  | comment (text : List UInt8)
  | entry (key value : List UInt8)
  deriving DecidableEq

def OneLine (text : List UInt8) : Prop := eoln ∉ text

/-- A key that the search can find. -/
structure ValidKey (key : List UInt8) : Prop where
  ne_nil : key ≠ []
  head : key.head? ≠ some FlipperFormatStream.comment
  chars : ∀ c ∈ key, c ≠ delimiter ∧ c ≠ eoln ∧ c ≠ eolr ∧ c ≠ 0

namespace Line

def bytes : Line → List UInt8
  | .comment text    => [FlipperFormatStream.comment, space] ++ text ++ [eoln]
  | .entry key value => key ++ [delimiter, space] ++ value ++ [eoln]

/-- The line can be written by the write functions, for a valid key. -/
def Valid : Line → Prop
  | .comment text    => OneLine text
  | .entry key value => ValidKey key ∧ OneLine value

end Line

instance (text : List UInt8) : Decidable (OneLine text) := inferInstanceAs (Decidable (_ ∉ _))

instance (key : List UInt8) : Decidable (ValidKey key) :=
  decidable_of_iff (key ≠ [] ∧ key.head? ≠ some FlipperFormatStream.comment ∧
      key.all fun c => c ≠ delimiter ∧ c ≠ eoln ∧ c ≠ eolr ∧ c ≠ 0)
    ⟨fun ⟨hne, hhead, hchars⟩ => ⟨hne, hhead, by simpa using hchars⟩,
      fun h => ⟨h.ne_nil, h.head, by simpa using h.chars⟩⟩

instance : ∀ l : Line, Decidable l.Valid
  | .comment text    => inferInstanceAs (Decidable (OneLine text))
  | .entry key value => inferInstanceAs (Decidable (ValidKey key ∧ OneLine value))

lemma OneLine.cString {text : List UInt8} (h : OneLine text) : OneLine (cString text) :=
  fun hmem => h ((List.takeWhile_prefix _).mem hmem)

def textOf (lines : List Line) : List UInt8 := lines.flatMap Line.bytes

@[simp] lemma textOf_nil : textOf [] = [] := rfl

@[simp] lemma textOf_cons (l : Line) (ls : List Line) : textOf (l :: ls) = l.bytes ++ textOf ls :=
  List.flatMap_cons

@[simp] lemma textOf_append (ls ls' : List Line) : textOf (ls ++ ls') = textOf ls ++ textOf ls' :=
  List.flatMap_append

lemma length_textOf_le {lines : List Line} {size : Nat}
    (h : ∀ l ∈ lines, l.bytes.length ≤ size) : (textOf lines).length ≤ lines.length * size := by
  rw [textOf, List.length_flatMap]
  refine (List.sum_le_card_nsmul _ size fun n hn => ?_).trans_eq (by rw [List.length_map]; rfl)
  obtain ⟨l, hl, rfl⟩ := List.mem_map.mp hn
  exact h l hl

/-! ### Scanning lines -/

variable {i : Nat} {text key value rest : List UInt8}

/-- Text that the key scanner goes through, from the start of a line to the start of a line. -/
def Skipped (text : List UInt8) : Prop :=
  ∀ i, scanFrom KeyScan.step i KeyScan.init text = .again KeyScan.init

lemma skipped_nil : Skipped [] := fun _ => rfl

lemma Skipped.append {text' : List UInt8} (h : Skipped text) (h' : Skipped text') :
    Skipped (text ++ text') := by
  intro i
  rw [scanFrom_append_again (h i)]
  exact h' _

lemma scan_toEoln (key : List UInt8) (h : OneLine text) :
    scanFrom KeyScan.step i ⟨key, false, false⟩ (text ++ [eoln]) = .again KeyScan.init := by
  have hstays : scanFrom KeyScan.step i ⟨key, false, false⟩ text = .again ⟨key, false, false⟩ := by
    refine scanFrom_of_stays fun c hc => ?_
    have hne : c ≠ eoln := by
      rintro rfl
      exact h hc
    simp only [KeyScan.step, if_neg hne]
    split_ifs <;> first | rfl | contradiction
  rw [scanFrom_append_again hstays]
  rfl

lemma skipped_comment (h : OneLine text) : Skipped (Line.comment text).bytes := by
  intro i
  have hspace : OneLine (space :: text) := by
    intro hmem
    rcases List.mem_cons.mp hmem with heq | hmem
    · exact absurd heq (by decide)
    · exact h hmem
  exact scan_toEoln [] hspace

lemma skipped_value (h : OneLine value) : Skipped (delimiter :: space :: value ++ [eoln]) := by
  intro i
  have hspace : OneLine (space :: value) := by
    intro hmem
    rcases List.mem_cons.mp hmem with heq | hmem
    · exact absurd heq (by decide)
    · exact h hmem
  exact scan_toEoln [] hspace

lemma scan_accumulate (acc : List UInt8)
    (h : ∀ c ∈ key, c ≠ delimiter ∧ c ≠ eoln ∧ c ≠ eolr ∧ c ≠ 0) :
    scanFrom KeyScan.step i ⟨acc, true, false⟩ (key ++ delimiter :: rest) =
      .leave (acc ++ key, i + key.length) := by
  induction key generalizing acc i with
  | nil => simp [scanFrom, KeyScan.step, delimiter, eoln, eolr, comment]
  | cons c cs ih =>
    obtain ⟨hdelimiter, heoln, heolr, -⟩ := h c List.mem_cons_self
    have hstep : KeyScan.step ⟨acc, true, false⟩ c = .again ⟨acc ++ [c], true, false⟩ := by
      simp [KeyScan.step, hdelimiter, heoln, heolr]
    rw [List.cons_append, scanFrom_cons_again hstep,
      ih _ fun d hd => h d (List.mem_cons_of_mem c hd), List.append_assoc, List.length_cons]
    congr 2
    omega

lemma scan_key (h : ValidKey key) :
    scanFrom KeyScan.step i KeyScan.init (key ++ delimiter :: rest) =
      .leave (key, i + key.length) := by
  cases key with
  | nil => exact absurd rfl h.ne_nil
  | cons c cs =>
    obtain ⟨hdelimiter, heoln, heolr, -⟩ := h.chars c List.mem_cons_self
    have hcomment : c ≠ comment := fun heq => h.head (congrArg some heq)
    have hstep : KeyScan.step KeyScan.init c = .again ⟨[c], true, false⟩ := by
      simp [KeyScan.step, KeyScan.init, hdelimiter, heoln, heolr, hcomment]
    rw [List.cons_append, scanFrom_cons_again hstep,
      scan_accumulate [c] fun d hd => h.chars d (List.mem_cons_of_mem c hd), List.length_cons]
    congr 2
    omega

/-! ### Searching keys -/

variable {f : File} {skip : List UInt8}

lemma drop_seek (hdrop : f.content.drop f.pos = text ++ rest) :
    (f.seek (f.pos + text.length)).pos = f.pos + text.length ∧
      (f.seek (f.pos + text.length)).content.drop (f.pos + text.length) = rest := by
  have hlen : f.content.length - f.pos = text.length + rest.length := by
    rw [← List.length_drop, hdrop, List.length_append]
  have hpos := f.pos_le
  refine ⟨Nat.min_eq_left (by omega), ?_⟩
  rw [File.seek_content, ← List.drop_drop, hdrop, List.drop_left]

lemma pos_add_le (hdrop : f.content.drop f.pos = text ++ rest) :
    f.pos + text.length ≤ f.content.length := by
  have hlen : f.content.length - f.pos = text.length + rest.length := by
    rw [← List.length_drop, hdrop, List.length_append]
  have hpos := f.pos_le
  omega

/-- Reading behind skipped text finds the key that stands there. -/
lemma readValidKey_found (hf : Seekable f) (hskip : Skipped skip) (hkey : ValidKey key)
    (hdrop : f.content.drop f.pos = skip ++ (key ++ delimiter :: rest)) :
    readValidKey f = (some key, f.seek (f.pos + skip.length + key.length)) := by
  have hscan : scanFrom KeyScan.step f.pos KeyScan.init (f.content.drop f.pos) =
      .leave (key, f.pos + skip.length + key.length) := by
    rw [hdrop, scanFrom_append_again (hskip f.pos), scan_key hkey]
  rw [readValidKey, hf.scanStream _ 0 (Nat.zero_le 1), hscan]
  rfl

lemma readValidKey_end (hf : Seekable f) (hskip : Skipped (f.content.drop f.pos)) :
    readValidKey f = (none, f.seek f.content.length) := by
  rw [readValidKey, hf.scanStream _ 0 (Nat.zero_le 1), hskip f.pos]

lemma eof_of_drop (hdrop : f.content.drop f.pos = text ++ rest) (hrest : rest ≠ []) :
    f.eof = false := by
  have hlen : f.content.length - f.pos = text.length + rest.length := by
    rw [← List.length_drop, hdrop, List.length_append]
  have hpos : 0 < rest.length := List.length_pos_iff.mpr hrest
  rw [File.eof, beq_eq_false_iff_ne]
  omega

lemma seekToKey_next (hf : Seekable f) (hskip : Skipped skip) (hkey : ValidKey key)
    (hdrop : f.content.drop f.pos = skip ++ (key ++ delimiter :: space :: rest))
    (strictMode : Bool) (rounds : Nat) :
    seekToKey (rounds + 1) key strictMode f =
      some (true, f.seek (f.pos + skip.length + key.length + 2)) := by
  have hne : key ++ delimiter :: space :: rest ≠ [] := by simp
  have hdrop' : f.content.drop f.pos =
      (skip ++ key ++ [delimiter, space]) ++ rest := by simp [hdrop]
  have hend := pos_add_le hdrop'
  simp only [List.length_append, List.length_cons, List.length_nil] at hend
  have hcstring : cString key = key :=
    (cString_eq_self_iff key).mpr fun hmem => (hkey.chars 0 hmem).2.2.2 rfl
  have hpos : (f.seek (f.pos + skip.length + key.length)).pos =
      f.pos + skip.length + key.length := Nat.min_eq_left (by omega)
  have hseek : fileStreamSeek (f.seek (f.pos + skip.length + key.length)) 2 .fromCurrent =
      (true, f.seek (f.pos + skip.length + key.length + 2)) :=
    Seekable.seek (f := f.seek _) hf (by rw [hpos]; omega) (by rw [File.seek_content]; omega)
  have hround : seekToKeyRound key strictMode f =
      .leave (true, f.seek (f.pos + skip.length + key.length + 2)) := by
    simp only [seekToKeyRound, eof_of_drop hdrop hne, readValidKey_found hf hskip hkey hdrop,
      hcstring, if_true, hseek, Bool.false_eq_true, if_false]
  exact loop_leave hround

/-- Where the value of the first line with a key starts. -/
def findKey (key : List UInt8) : List Line → Option Nat
  | [] => none
  | .comment text :: lines =>
    (findKey key lines).map ((Line.comment text).bytes.length + ·)
  | .entry k value :: lines =>
    if k = key then some (k.length + 2)
    else (findKey key lines).map ((Line.entry k value).bytes.length + ·)

lemma seekToKey_lines {lines : List Line} (hvalid : ∀ l ∈ lines, l.Valid) (key : List UInt8) :
    ∀ {f : File} {skip : List UInt8}, Seekable f → Skipped skip →
      f.content.drop f.pos = skip ++ textOf lines → ∀ {rounds : Nat}, lines.length + 2 ≤ rounds →
        seekToKey rounds key false f = some
          (match findKey key lines with
          | some offset => (true, f.seek (f.pos + skip.length + offset))
          | none => (false, f.seek f.content.length)) := by
  induction lines with
  | nil =>
    intro f skip hf hskip hdrop rounds hrounds
    obtain ⟨n, rfl⟩ : ∃ n, rounds = n + 1 + 1 := ⟨rounds - 2, by simp at hrounds; omega⟩
    have hend : seekToKeyRound key false (f.seek f.content.length) =
        .leave (false, f.seek f.content.length) := by
      have heof : (f.seek f.content.length).eof = true := by
        simp [File.eof, File.seek]
      simp only [seekToKeyRound, heof, if_true]
    rw [textOf_nil, List.append_nil] at hdrop
    have hread := readValidKey_end hf (by rw [hdrop]; exact hskip)
    cases heof : f.eof with
    | true =>
      have hlast : f = f.seek f.content.length := by
        refine File.ext rfl ?_
        rw [File.eof, beq_iff_eq] at heof
        simp [File.seek, heof]
      rw [hlast]
      exact loop_leave hend
    | false =>
      have hround : seekToKeyRound key false f = .again (f.seek f.content.length) := by
        simp only [seekToKeyRound, heof, hread, Bool.false_eq_true, if_false]
      exact (loop_again hround).trans (loop_leave hend)
  | cons l lines ih =>
    intro f skip hf hskip hdrop rounds hrounds
    have hvalid' := fun l' hl' => hvalid l' (List.mem_cons_of_mem l hl')
    have hl := hvalid l List.mem_cons_self
    rw [textOf_cons, List.length_cons] at *
    cases l with
    | comment text =>
      rw [ih hvalid' hf (hskip.append (skipped_comment hl)) (by rw [hdrop, List.append_assoc])
        (Nat.le_trans (by omega) hrounds), findKey]
      cases findKey key lines with
      | none => rfl
      | some offset =>
        simp only [Option.map_some, List.length_append, Nat.add_assoc]
    | entry k value =>
      obtain ⟨hk, hvalue⟩ := hl
      have hkey : f.content.drop f.pos =
          skip ++ (k ++ delimiter :: space :: (value ++ [eoln] ++ textOf lines)) := by
        rw [hdrop]
        simp [Line.bytes]
      obtain ⟨n, rfl⟩ : ∃ n, rounds = n + 1 := ⟨rounds - 1, by omega⟩
      by_cases heq : k = key
      · rw [← heq, seekToKey_next hf hskip hk hkey, findKey, if_pos rfl]
        rfl
      · -- the search goes on behind the key, at the delimiter
        have hcstring : cString k = k :=
          (cString_eq_self_iff k).mpr fun hmem => (hk.chars 0 hmem).2.2.2 rfl
        have hround : seekToKeyRound key false f =
            .again (f.seek (f.pos + skip.length + k.length)) := by
          have hne : k ++ delimiter :: space :: (value ++ [eoln] ++ textOf lines) ≠ [] := by simp
          simp only [seekToKeyRound, eof_of_drop hkey hne, readValidKey_found hf hskip hk hkey,
            hcstring, if_neg heq, Bool.false_eq_true, if_false]
        have hsplit : f.content.drop f.pos = (skip ++ k) ++
            (delimiter :: space :: value ++ [eoln] ++ textOf lines) := by
          rw [hkey]
          simp
        obtain ⟨hpos, hrest⟩ := drop_seek hsplit
        rw [List.length_append, ← Nat.add_assoc] at hpos hrest
        have hnext := ih hvalid' (f := f.seek (f.pos + skip.length + k.length)) hf
          (skipped_value hvalue) (by rw [hpos, hrest]) (Nat.le_of_succ_le_succ hrounds)
        rw [seekToKey, loop_again hround]
        refine hnext.trans ?_
        rw [findKey, if_neg heq, hpos]
        cases findKey key lines with
        | none => rfl
        | some offset =>
          simp only [Option.map_some, Line.bytes, List.length_append, List.length_cons,
            List.length_nil]
          refine congrArg some (Prod.ext rfl (congrArg f.seek ?_))
          omega

/-! ### The end of a search -/

lemma readValidKey_forward (hf : Seekable f) (h : f.eof = false) :
    f.pos < (readValidKey f).2.pos ∧ (readValidKey f).2.content = f.content := by
  have hlt : f.pos < f.content.length := by
    rw [File.eof, beq_eq_false_iff_ne] at h
    exact Nat.lt_of_le_of_ne f.pos_le h
  have hseek {n : Nat} (hn : f.pos < n) : f.pos < (f.seek n).pos := Nat.lt_min.mpr ⟨hn, hlt⟩
  obtain ⟨c, rest, hdrop⟩ := List.exists_cons_of_length_pos (l := f.content.drop f.pos)
    (by rw [List.length_drop]; omega)
  obtain ⟨s, hstep⟩ : ∃ s, KeyScan.step KeyScan.init c = .again s := by
    unfold KeyScan.step
    split_ifs
    all_goals first | exact ⟨_, rfl⟩ | contradiction
  rw [readValidKey, hf.scanStream _ 0 (Nat.zero_le 1), hdrop, scanFrom_cons_again hstep]
  cases hscan : scanFrom KeyScan.step (f.pos + 1) s rest with
  | again s' => exact ⟨hseek hlt, rfl⟩
  | leave r =>
    have hbounds := (scanFrom_leave_bounds hscan).1
    exact ⟨hseek (by omega), rfl⟩

/-- In a file below 2 GiB the search for a key comes to an end and leaves the content as it is. -/
lemma seekToKey_total (hf : Seekable f) {rounds : Nat} (h : f.content.length < rounds)
    (key : List UInt8) (strictMode : Bool) :
    ∃ r, seekToKey rounds key strictMode f = some r ∧ r.2.content = f.content := by
  refine loop_total (I := fun g => g.content = f.content)
    (m := fun g => g.content.length - g.pos) (fun g hg => ?_) rfl (by omega)
  have hg' : Seekable g := by rwa [Seekable, hg]
  rw [seekToKeyRound]
  cases heof : g.eof with
  | true => exact hg
  | false =>
    obtain ⟨hpos, hcontent⟩ := readValidKey_forward hg' heof
    have hle := (readValidKey g).2.pos_le
    have hagain : (readValidKey g).2.content = f.content ∧
        (readValidKey g).2.content.length - (readValidKey g).2.pos < g.content.length - g.pos :=
      ⟨hcontent.trans hg, by rw [hcontent] at hle ⊢; omega⟩
    rcases hread : readValidKey g with ⟨_ | readKey, g'⟩
    · rw [hread] at hagain
      exact hagain
    · rw [hread] at hagain hcontent
      simp only [Bool.false_eq_true, if_false]
      split_ifs
      · exact (fileStreamSeek_content g' 2 .fromCurrent).trans (hcontent.trans hg)
      · exact hcontent.trans hg
      · exact hagain

@[simp] lemma readLine_content (f : File) : (readLine f).2.content = f.content := by
  have hscan := scanStream_content lineStep 0 f []
  rw [readLine]
  split
  all_goals
    rename_i heq
    rw [heq] at hscan
    exact hscan

@[simp] lemma readValue_content (f : File) : (readValue f).2.content = f.content := by
  have hscan := scanStream_content ValueScan.step 0 f ValueScan.init
  rw [readValue]
  split
  all_goals
    rename_i heq
    rw [heq] at hscan
    exact hscan

@[simp] lemma readValues_content {α : Type*} (scan : List UInt8 → Option α) (size : Nat)
    (f : File) : (readValues scan size f).2.content = f.content := by
  induction size generalizing f with
  | zero => rfl
  | succ size ih =>
    have hvalue := readValue_content f
    rw [readValues]
    rcases hread : readValue f with ⟨_ | ⟨value, last⟩, g⟩
    all_goals rw [hread] at hvalue
    · exact hvalue
    · cases hscan : scan value with
      | none =>
        simp only [hscan]
        exact hvalue
      | some a =>
        simp only [hscan]
        split_ifs
        · exact hvalue
        · exact (ih g).trans hvalue

/-! ### Reading one line -/

/-- A file below 2 GiB with the rest of a line behind its position. -/
def OnLine (f : File) (text : List UInt8) : Prop :=
  Seekable f ∧ ∃ rest, f.content.drop f.pos = text ++ eoln :: rest

lemma scanStream_onLine {σ ρ : Type*} {step : σ → UInt8 → Round σ ρ} (h : Stops step eoln) (s : σ)
    (text : List UInt8) : ∃ r j, j ≤ text.length ∧ ∀ f, OnLine f text →
      scanStream step 0 f s = (.leave (r, true), f.seek (f.pos + j)) := by
  obtain ⟨r, j, hj, hscan⟩ := h.scanFrom_eq s text
  refine ⟨r, j, hj, ?_⟩
  rintro f ⟨hf, rest, hdrop⟩
  rw [hf.scanStream _ 0 (Nat.zero_le 1), hdrop, hscan]
  rfl

lemma OnLine.seek {j : Nat} (h : OnLine f text) (hj : j ≤ text.length) :
    OnLine (f.seek (f.pos + j)) (text.drop j) := by
  obtain ⟨hf, rest, hdrop⟩ := h
  refine ⟨hf, rest, ?_⟩
  have hsplit : f.content.drop f.pos = text.take j ++ (text.drop j ++ eoln :: rest) := by
    rw [hdrop, ← List.append_assoc, List.take_append_drop]
  have htake : (text.take j).length = j := by simp [hj]
  obtain ⟨hpos, hrest⟩ := drop_seek hsplit
  rw [htake] at hpos hrest
  rw [hpos, hrest]

lemma stops_valueStep : Stops ValueScan.step eoln := by
  intro s
  rcases s with ⟨_ | _ | _, value⟩
  · exact ⟨none, rfl⟩
  · exact ⟨some (value, true), rfl⟩
  · exact ⟨some (value, true), rfl⟩

lemma stops_lineStep : Stops lineStep eoln := fun str => ⟨str, rfl⟩

lemma readValue_onLine (text : List UInt8) : ∃ r j, j ≤ text.length ∧ ∀ f, OnLine f text →
    readValue f = (r, f.seek (f.pos + j)) := by
  obtain ⟨r, j, hj, hscan⟩ := scanStream_onLine stops_valueStep ValueScan.init text
  refine ⟨r, j, hj, fun f hf => ?_⟩
  rw [readValue, hscan f hf]
  rfl

lemma readValues_onLine {α : Type*} (scan : List UInt8 → Option α) (size : Nat) :
    ∀ {f g : File} {text : List UInt8}, OnLine f text → OnLine g text →
      (readValues scan size f).1 = (readValues scan size g).1 := by
  induction size with
  | zero => exact fun _ _ => rfl
  | succ size ih =>
    intro f g text hf hg
    obtain ⟨r, j, hj, hread⟩ := readValue_onLine text
    rw [readValues, readValues, hread f hf, hread g hg]
    cases r with
    | none => rfl
    | some r =>
      obtain ⟨value, last⟩ := r
      have hnext := ih (hf.seek hj) (hg.seek hj)
      dsimp only
      cases scan value with
      | none => rfl
      | some a =>
        dsimp only
        split_ifs
        · rfl
        · rw [hnext]

lemma readLine_onLine {g : File} (hf : OnLine f text) (hg : OnLine g text) :
    (readLine f).1 = (readLine g).1 := by
  obtain ⟨r, j, -, hscan⟩ := scanStream_onLine stops_lineStep [] text
  rw [readLine, readLine, hscan f hf, hscan g hg]

lemma seekToNextLine_onLine (hf : OnLine f text) (h : OneLine text) :
    seekToNextLine f = (true, f.seek (f.pos + text.length)) := by
  obtain ⟨hseek, rest, hdrop⟩ := hf
  have hstays : scanFrom nextLineStep f.pos () text = .again () := by
    refine scanFrom_of_stays fun c hc => if_neg ?_
    rintro rfl
    exact h hc
  have hscan : scanFrom nextLineStep f.pos () (f.content.drop f.pos) =
      .leave ((), f.pos + text.length) := by
    rw [hdrop, scanFrom_append_again hstays]
    rfl
  rw [seekToNextLine, hseek.scanStream _ 0 (Nat.zero_le 1), hscan]
  rfl

/-! ### Texts of numbers -/

/-- A value that the reader takes as a whole: it is not empty and no space cuts it. -/
structure PlainText (text : List UInt8) : Prop where
  ne_nil : text ≠ []
  chars : ∀ c ∈ text, isSpace c = false ∧ c ≠ eoln

instance (text : List UInt8) : Decidable (PlainText text) :=
  decidable_of_iff (text ≠ [] ∧ text.all fun c => isSpace c = false ∧ c ≠ eoln)
    ⟨fun ⟨hne, hchars⟩ => ⟨hne, by simpa using hchars⟩, fun h => ⟨h.ne_nil, by simpa using h.chars⟩⟩

lemma PlainText.oneLine (h : PlainText text) : OneLine text := fun hmem => (h.chars eoln hmem).2 rfl

lemma PlainText.append (h : PlainText text) (h' : PlainText rest) : PlainText (text ++ rest) where
  ne_nil := List.append_ne_nil_of_left_ne_nil h.ne_nil _
  chars c hc := (List.mem_append.mp hc).elim (h.chars c) (h'.chars c)

lemma plainText_digitText {d : Nat} (h : d < 16) : PlainText [digitText d] := by
  have hall : ∀ e ∈ List.range 16, isSpace (digitText e) = false ∧ digitText e ≠ eoln := by decide
  refine ⟨List.cons_ne_nil _ _, fun c hc => ?_⟩
  rw [List.mem_singleton.mp hc]
  exact hall d (List.mem_range.mpr h)

lemma plainText_hexText {width : Nat} (h : 0 < width) (n : Nat) :
    PlainText (hexText width n) := by
  have hlast := plainText_digitText (Nat.mod_lt n (show 16 > 0 by decide))
  induction width generalizing n with
  | zero => exact absurd h (Nat.lt_irrefl 0)
  | succ width ih =>
    rw [hexText]
    rcases Nat.eq_zero_or_pos width with rfl | hwidth
    · exact hlast
    · exact (ih hwidth (n / 16) (plainText_digitText (Nat.mod_lt _ (by decide)))).append hlast

lemma plainText_decimalText (n : Nat) : PlainText (decimalText n) := by
  obtain ⟨d, ds, htext, hds, -⟩ := exists_digits_decimalText n
  rw [htext]
  refine ⟨List.cons_ne_nil _ _, fun c hc => ?_⟩
  rw [← List.map_cons] at hc
  obtain ⟨e, he, rfl⟩ := List.mem_map.mp hc
  exact (plainText_digitText (Nat.lt_trans (hds e he) (by decide))).chars _
    (List.mem_singleton_self _)

lemma plainText_integerText (n : Int) : PlainText (integerText n) := by
  unfold integerText
  split_ifs
  · have hminus : PlainText [45] := by decide
    exact hminus.append (plainText_decimalText _)
  · exact plainText_decimalText _

end FlipperFormatStream

end FlipperZero
