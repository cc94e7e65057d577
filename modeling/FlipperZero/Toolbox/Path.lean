import FlipperZero.Foundation.LastOccurrence
import FlipperZero.Furi.FuriString
import Mathlib.Algebra.Ring.Nat

/-!
# Names of files

Two functions of `path.c` take the name from a path. `path_extract_filename` asks whether a position
is positive where it means that there is one. So it stores nothing if the only slash is the first
character, and it leaves a name as it is whose only dot is the first character.
-/

namespace FlipperZero

open Foundation

/-! ### Strings -/

def furiStringSearchRchar (str : List UInt8) (c : UInt8) (start : Nat) : Nat :=
  match (str.drop start).reverse.idxOf? c with
  | some i => str.length - 1 - i
  | none   => furiStringFailure

def furiStringLeft (str : List UInt8) (index : Nat) : List UInt8 := str.take index

def furiStringMid (str : List UInt8) (index size : Nat) : List UInt8 :=
  furiStringLeft (furiStringRight str index) size

/-- The difference of two values of the type `size_t`. -/
def sizeSub (a b : Nat) : Nat := (a + 2 ^ 32 - b) % 2 ^ 32

/-! ### The functions -/

def slash : UInt8 := 47

def dot : UInt8 := 46

/-- `path_extract_filename_no_ext`, with the string that it stores. -/
def pathExtractFilenameNoExt (path : List UInt8) : List UInt8 :=
  let startPosition := furiStringSearchRchar path slash 0
  let endPosition := furiStringSearchRchar path dot 0
  let startPosition := if startPosition = furiStringFailure then 0 else startPosition + 1
  let endPosition := if endPosition = furiStringFailure then path.length else endPosition
  furiStringMid path startPosition (sizeSub endPosition startPosition)

/-- `path_extract_filename`, with the string that is stored in `name`. -/
def pathExtractFilename (path name : List UInt8) (trimExt : Bool) : List UInt8 :=
  let filenameStart := furiStringSearchRchar path slash 0
  let name :=
    if 0 < filenameStart then
      let filenameStart := (filenameStart + 1) % 2 ^ 32
      furiStringSetN path filenameStart (sizeSub path.length filenameStart)
    else name
  if trimExt then
    let position := furiStringSearchRchar name dot 0
    if 0 < position then furiStringLeft name position else name
  else name

/-! ### What they should store -/

def fileName (path : List UInt8) : List UInt8 := afterLast slash path

/-- The name without its last extension. -/
def fileStem (path : List UInt8) : List UInt8 := beforeLast dot (fileName path)

/-- Both functions store the name, whatever was stored before. -/
structure ExtractsName (path : List UInt8) : Prop where
  whole : ∀ name, pathExtractFilename path name false = fileName path
  trimmed : ∀ name, pathExtractFilename path name true = fileStem path
  noExt : pathExtractFilenameNoExt path = fileStem path

variable {str a b : List UInt8} {c : UInt8}

/-! ### Positions -/

lemma furiStringSearchRchar_of_notMem (h : c ∉ str) :
    furiStringSearchRchar str c 0 = furiStringFailure := by
  rw [furiStringSearchRchar, List.drop_zero,
    List.idxOf?_eq_none_iff.mpr fun hmem => h (List.mem_reverse.mp hmem)]

lemma furiStringSearchRchar_split (h : c ∉ b) :
    furiStringSearchRchar (a ++ c :: b) c 0 = a.length := by
  have hindex : (a ++ c :: b).reverse.idxOf? c = some b.length := by
    rw [List.reverse_append, List.reverse_cons, List.append_assoc, List.idxOf?, List.findIdx?_append,
      List.findIdx?_eq_none_iff.mpr fun x hx => beq_false_of_ne fun heq : x = c =>
        h (heq ▸ List.mem_reverse.mp hx)]
    simp [List.findIdx?_cons]
  rw [furiStringSearchRchar, List.drop_zero, hindex]
  simp only [List.length_append, List.length_cons]
  omega

lemma sizeSub_of_le {m n : Nat} (hle : m ≤ n) (hn : n < 2 ^ 32) : sizeSub n m = n - m := by
  rw [sizeSub]
  omega

/-! ### The name -/

lemma exists_fileName (path : List UInt8) : ∃ dir, path = dir ++ fileName path ∧
    slash ∉ fileName path ∧
      (slash ∉ path ∧ dir = [] ∨ ∃ parent, dir = parent ++ [slash] ∧
        furiStringSearchRchar path slash 0 = parent.length) := by
  by_cases hmem : slash ∈ path
  · obtain ⟨parent, name, rfl, hname⟩ := exists_last_of_mem hmem
    rw [fileName, afterLast_split hname]
    exact ⟨parent ++ [slash], List.append_cons _ _ _, hname,
      .inr ⟨parent, rfl, furiStringSearchRchar_split hname⟩⟩
  · rw [fileName, afterLast_of_notMem hmem]
    exact ⟨[], rfl, hmem, .inl ⟨hmem, rfl⟩⟩

lemma pathExtractFilename_false (path name : List UInt8) (hpath : path.length < furiStringFailure) :
    pathExtractFilename path name false =
      if furiStringSearchRchar path slash 0 = 0 then name else fileName path := by
  have hbound : path.length < 2 ^ 32 - 1 := hpath
  have hstored : pathExtractFilename path name false =
      if 0 < furiStringSearchRchar path slash 0 then
        furiStringSetN path ((furiStringSearchRchar path slash 0 + 1) % 2 ^ 32)
          (sizeSub path.length ((furiStringSearchRchar path slash 0 + 1) % 2 ^ 32))
      else name := rfl
  rw [hstored]
  obtain ⟨dir, hsplit, -, ⟨hnone, rfl⟩ | ⟨parent, rfl, hposition⟩⟩ := exists_fileName path
  · have hname : fileName path = path := afterLast_of_notMem hnone
    have hstart : (furiStringFailure + 1) % 2 ^ 32 = 0 := by decide
    rw [furiStringSearchRchar_of_notMem hnone, if_pos (by decide), if_neg (by decide), hstart, hname,
      sizeSub_of_le (Nat.zero_le _) (by omega)]
    exact List.take_length
  · have hlength := congrArg List.length hsplit
    rw [List.length_append, List.length_append, List.length_singleton] at hlength
    rw [hposition]
    by_cases hzero : parent.length = 0
    · rw [if_neg (by omega), if_pos hzero]
    · have hstart : (parent.length + 1) % 2 ^ 32 = parent.length + 1 := Nat.mod_eq_of_lt (by omega)
      have hdrop : path.drop (parent.length + 1) = fileName path := by
        conv_lhs => rw [hsplit]
        exact List.drop_left' (by rw [List.length_append, List.length_singleton])
      rw [if_pos (by omega), if_neg hzero, hstart, sizeSub_of_le (by omega) (by omega),
        furiStringSetN, hdrop]
      exact List.take_of_length_le (by omega)

lemma pathExtractFilename_true (path name : List UInt8) :
    pathExtractFilename path name true =
      if furiStringSearchRchar (pathExtractFilename path name false) dot 0 = 0 then
        pathExtractFilename path name false
      else furiStringLeft (pathExtractFilename path name false)
        (furiStringSearchRchar (pathExtractFilename path name false) dot 0) := by
  have htrimmed : pathExtractFilename path name true =
      if 0 < furiStringSearchRchar (pathExtractFilename path name false) dot 0 then
        furiStringLeft (pathExtractFilename path name false)
          (furiStringSearchRchar (pathExtractFilename path name false) dot 0)
      else pathExtractFilename path name false := rfl
  rw [htrimmed]
  by_cases hzero : furiStringSearchRchar (pathExtractFilename path name false) dot 0 = 0
  · rw [if_neg (by omega), if_pos hzero]
  · rw [if_pos (Nat.pos_of_ne_zero hzero), if_neg hzero]

lemma furiStringLeft_dot (hlength : str.length < furiStringFailure) :
    furiStringLeft str (furiStringSearchRchar str dot 0) = beforeLast dot str := by
  by_cases hmem : dot ∈ str
  · obtain ⟨stem, ext, rfl, hext⟩ := exists_last_of_mem hmem
    rw [furiStringSearchRchar_split hext, beforeLast_split hext]
    exact List.take_left
  · rw [furiStringSearchRchar_of_notMem hmem, beforeLast_of_notMem hmem]
    exact List.take_of_length_le hlength.le

/-- The other function has no such exceptions. A dot before the name makes the size of the middle
wrap around, and all of the name is taken. -/
lemma pathExtractFilenameNoExt_eq (path : List UInt8) (hpath : path.length < furiStringFailure) :
    pathExtractFilenameNoExt path = fileStem path := by
  have hbound : path.length < 2 ^ 32 - 1 := hpath
  obtain ⟨dir, hsplit, hslash, hdir⟩ := exists_fileName path
  have hlength := congrArg List.length hsplit
  rw [List.length_append] at hlength
  have hstart : (if furiStringSearchRchar path slash 0 = furiStringFailure then 0
      else furiStringSearchRchar path slash 0 + 1) = dir.length := by
    rcases hdir with ⟨hnone, rfl⟩ | ⟨parent, rfl, hposition⟩
    · exact if_pos (furiStringSearchRchar_of_notMem hnone)
    · rw [List.length_append, List.length_singleton] at hlength ⊢
      rw [hposition, if_neg (by show parent.length ≠ 2 ^ 32 - 1; omega)]
  have hdrop : furiStringRight path dir.length = fileName path := by
    conv_lhs => rw [hsplit]
    exact List.drop_left
  rw [pathExtractFilenameNoExt, fileStem]
  simp only [hstart, furiStringMid, hdrop]
  by_cases hdot : dot ∈ fileName path
  · obtain ⟨stem, ext, hname, hext⟩ := exists_last_of_mem hdot
    have hposition : furiStringSearchRchar path dot 0 = dir.length + stem.length := by
      rw [hsplit, hname, ← List.append_assoc, furiStringSearchRchar_split hext, List.length_append]
    rw [hname, List.length_append] at hlength
    rw [hposition, if_neg (by show _ ≠ 2 ^ 32 - 1; omega), sizeSub_of_le (by omega) (by omega),
      Nat.add_sub_cancel_left, hname, beforeLast_split hext]
    exact List.take_left
  · rw [beforeLast_of_notMem hdot]
    refine List.take_of_length_le ?_
    by_cases hmem : dot ∈ path
    · obtain ⟨before, behind, hcut, hbehind⟩ := exists_last_of_mem hmem
      have hposition : furiStringSearchRchar path dot 0 = before.length := by
        rw [hcut, furiStringSearchRchar_split hbehind]
      have hbefore : before.length < dir.length := by
        by_contra hle
        refine hdot (?_ : dot ∈ fileName path)
        rw [← hdrop, hcut, furiStringRight, List.drop_append_of_le_length (Nat.le_of_not_lt hle)]
        exact List.mem_append_right _ List.mem_cons_self
      rw [hposition, if_neg (by show _ ≠ 2 ^ 32 - 1; omega), sizeSub]
      omega
    · rw [furiStringSearchRchar_of_notMem hmem, if_pos rfl, sizeSub_of_le (by omega) (by omega)]
      omega

/-- Both functions store the name exactly if the last slash of the path and the last dot of the name
are not the first character. -/
theorem pathExtractFilename_right_iff (path : List UInt8) (hpath : path.length < furiStringFailure) :
    ExtractsName path ↔
      furiStringSearchRchar path slash 0 ≠ 0 ∧ furiStringSearchRchar (fileName path) dot 0 ≠ 0 := by
  have hname : (fileName path).length < furiStringFailure :=
    Nat.lt_of_le_of_lt (List.rtakeWhile_suffix _ _).length_le hpath
  constructor
  · intro h
    have hslash : furiStringSearchRchar path slash 0 ≠ 0 := by
      intro hzero
      have hkept := h.whole (slash :: fileName path)
      rw [pathExtractFilename_false path _ hpath, if_pos hzero] at hkept
      exact List.cons_ne_self _ _ hkept
    refine ⟨hslash, fun hzero => ?_⟩
    have hkept := h.trimmed []
    rw [pathExtractFilename_true, h.whole, if_pos hzero, fileStem, ← furiStringLeft_dot hname, hzero]
      at hkept
    have hnil : fileName path = [] := hkept
    rw [hnil] at hzero
    exact absurd hzero (by decide)
  · rintro ⟨hslash, hdot⟩
    have hwhole (name : List UInt8) : pathExtractFilename path name false = fileName path := by
      rw [pathExtractFilename_false path name hpath, if_neg hslash]
    refine ⟨hwhole, fun name => ?_, pathExtractFilenameNoExt_eq path hpath⟩
    rw [pathExtractFilename_true, hwhole, if_neg hdot, furiStringLeft_dot hname, fileStem]

/-- The path `/ext/a.b/c.txt`. -/
def nestedPath : List UInt8 := [47, 101, 120, 116, 47, 97, 46, 98, 47, 99, 46, 116, 120, 116]

theorem pathExtractFilename_right_iff_nested : ExtractsName nestedPath :=
  (pathExtractFilename_right_iff nestedPath (by decide)).mpr (by decide)

/-- Of `/a`, nothing is stored. -/
theorem not_extractsName_root :
    pathExtractFilename [47, 97] [98] false = [98] ∧ fileName [47, 97] = [97] ∧
      ¬ExtractsName [47, 97] := by
  have hold : pathExtractFilename [47, 97] [98] false = [98] := by decide
  have hnew : fileName [47, 97] = [97] := by decide
  refine ⟨hold, hnew, fun h => ?_⟩
  have hwhole := h.whole [98]
  rw [hold, hnew] at hwhole
  exact absurd hwhole (by decide)

end FlipperZero
