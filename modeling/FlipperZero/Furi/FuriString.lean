import Mathlib.Data.List.DropRight

/-!
# Strings

The operations of `FuriString` that the readers of arguments and of lines use. A string is the list
of its characters: the instance of the string library that the string streams, which also pass C
strings to it, take as a parameter. A position is a `size_t`, a word of 32 bits, whose greatest
value says that there is none.
-/

namespace FlipperZero

/-- The characters of `furi_string_trim`. -/
def furiStringIsTrimmed (c : UInt8) : Bool := c = 32 ∨ c = 10 ∨ c = 13 ∨ c = 9

def furiStringTrim (str : List UInt8) : List UInt8 :=
  (str.dropWhile furiStringIsTrimmed).rdropWhile furiStringIsTrimmed

def furiStringFailure : Nat := 4294967295

def furiStringSearchChar (str : List UInt8) (c : UInt8) (start : Nat) : Nat :=
  match (str.drop start).idxOf? c with
  | some i => start + i
  | none   => furiStringFailure

def furiStringRight (str : List UInt8) (index : Nat) : List UInt8 := str.drop index

/-- `furi_string_set_n`, the string that is set. -/
def furiStringSetN (ref : List UInt8) (offset length : Nat) : List UInt8 :=
  (ref.drop offset).take length

lemma length_furiStringTrim_le (str : List UInt8) : (furiStringTrim str).length ≤ str.length := by
  have hkept := List.rdropWhile_prefix furiStringIsTrimmed (str.dropWhile furiStringIsTrimmed)
  have hsuffix := List.dropWhile_suffix (l := str) furiStringIsTrimmed
  exact Nat.le_trans hkept.length_le hsuffix.length_le

lemma furiStringSearchChar_of_notMem {str : List UInt8} {c : UInt8} {start : Nat}
    (h : c ∉ str.drop start) : furiStringSearchChar str c start = furiStringFailure := by
  rw [furiStringSearchChar, List.idxOf?_eq_none_iff.mpr h]

lemma furiStringSearchChar_of_mem {str : List UInt8} {c : UInt8} {start : Nat}
    (h : c ∈ str.drop start) :
    start ≤ furiStringSearchChar str c start ∧ furiStringSearchChar str c start < str.length := by
  obtain ⟨i, hi⟩ := Option.ne_none_iff_exists'.mp fun hnone => List.idxOf?_eq_none_iff.mp hnone h
  have hlt : i < (str.drop start).length := by
    obtain ⟨hlt, -⟩ := List.findIdx?_eq_some_iff_getElem.mp hi
    exact hlt
  rw [furiStringSearchChar, hi]
  rw [List.length_drop] at hlt
  exact ⟨Nat.le_add_right start i, by simp only; omega⟩

end FlipperZero
