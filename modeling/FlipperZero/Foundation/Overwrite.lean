import Mathlib.Tactic.Common
import Mathlib.Data.List.Basic

/-!
# Overwriting a segment of a list

`overwrite l pos d` is the content of a file after the bytes `d` were written at position
`pos`: what stood there is replaced, what lies before and behind stays, and a write that
reaches past the end extends the file.
-/

namespace Foundation

variable {α : Type*} {l d : List α} {pos k : Nat}

/-- Replace the segment of `l` at `pos` by `d`. -/
def overwrite (l : List α) (pos : Nat) (d : List α) : List α :=
  l.take pos ++ d ++ l.drop (pos + d.length)

@[simp] lemma overwrite_nil (l : List α) (pos : Nat) : overwrite l pos [] = l := by
  simp [overwrite]

lemma length_overwrite (h : pos ≤ l.length) (d : List α) :
    (overwrite l pos d).length = max l.length (pos + d.length) := by
  simp only [overwrite, List.length_append, List.length_take, List.length_drop]
  omega

lemma getElem?_overwrite (h : pos ≤ l.length) (d : List α) (i : Nat) :
    (overwrite l pos d)[i]? =
      if i < pos then l[i]? else if i < pos + d.length then d[i - pos]? else l[i]? := by
  have hlen : (l.take pos).length = pos := by simp [h]
  rw [overwrite, List.append_assoc]
  split_ifs with hlt hseg
  · rw [List.getElem?_append_left (by omega), List.getElem?_take_of_lt hlt]
  · rw [List.getElem?_append_right (by omega), hlen, List.getElem?_append_left (by omega)]
  · rw [List.getElem?_append_right (by omega), hlen, List.getElem?_append_right (by omega),
      List.getElem?_drop]
    congr 1
    omega

/-- A write inside or right behind a pending segment is a write of the changed segment. -/
lemma overwrite_overwrite (h : pos ≤ l.length) (hk : k ≤ d.length) (e : List α) :
    overwrite (overwrite l pos d) (pos + k) e = overwrite l pos (overwrite d k e) := by
  have hpos : pos + k ≤ (overwrite l pos d).length := by rw [length_overwrite h]; omega
  refine List.ext_getElem? fun i => ?_
  simp only [getElem?_overwrite hpos, getElem?_overwrite h, getElem?_overwrite hk,
    length_overwrite hk, Nat.sub_sub]
  split_ifs <;> first | rfl | omega

lemma overwrite_length (l d : List α) : overwrite l l.length d = l ++ d := by
  simp [overwrite]

/-- Up to the end of the segment there is the old content and then the new one. -/
lemma take_overwrite (h : pos ≤ l.length) (d : List α) :
    (overwrite l pos d).take (pos + d.length) = l.take pos ++ d := by
  have hlen : (l.take pos ++ d).length = pos + d.length := by simp [h]
  rw [overwrite, ← hlen, List.take_left]

/-- Reading from inside the segment reads the rest of it and then the old content. -/
lemma drop_overwrite (h : pos ≤ l.length) (hk : k ≤ d.length) :
    (overwrite l pos d).drop (pos + k) = d.drop k ++ l.drop (pos + d.length) := by
  refine List.ext_getElem? fun i => ?_
  rw [List.getElem?_drop, getElem?_overwrite h, List.getElem?_append]
  simp only [List.length_drop, List.getElem?_drop]
  split_ifs <;> first | omega | (congr 1; omega)

/-! ### Splicing -/

/-- Replace at most `size` elements of `l` from `pos` on by `d`. -/
def splice (l : List α) (pos size : Nat) (d : List α) : List α :=
  l.take pos ++ d ++ l.drop (pos + min size (l.length - pos))

lemma length_splice (h : pos ≤ l.length) (size : Nat) (d : List α) :
    (splice l pos size d).length =
      pos + d.length + (l.length - pos - min size (l.length - pos)) := by
  simp only [splice, List.length_append, List.length_take, List.length_drop]
  omega

end Foundation
