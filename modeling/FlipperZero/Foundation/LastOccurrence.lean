import Mathlib.Data.List.DropRight

/-!
# The last occurrence in a list

A list is cut at the last occurrence of an element. Without an occurrence, both the part behind the
cut and the part before it are the whole list.
-/

namespace Foundation

variable {α : Type*} {c : α} {l a b : List α}

lemma exists_last_of_mem (h : c ∈ l) : ∃ a b, l = a ++ c :: b ∧ c ∉ b := by
  obtain ⟨b, a, hsplit, hb⟩ := List.eq_append_cons_of_mem (List.mem_reverse.mpr h)
  refine ⟨a.reverse, b.reverse, ?_, fun hmem => hb (List.mem_reverse.mp hmem)⟩
  rw [← List.reverse_reverse l, hsplit, List.reverse_append, List.reverse_cons, List.append_assoc]
  rfl

variable [DecidableEq α]

/-- What stands behind the last occurrence. -/
def afterLast (c : α) (l : List α) : List α := l.rtakeWhile (· ≠ c)

/-- What stands before the last occurrence. -/
def beforeLast (c : α) (l : List α) : List α :=
  if c ∈ l then (l.rdropWhile (· ≠ c)).dropLast else l

lemma afterLast_of_notMem (h : c ∉ l) : afterLast c l = l :=
  List.rtakeWhile_eq_self_iff.mpr fun _ hx => decide_eq_true fun heq => h (heq ▸ hx)

lemma beforeLast_of_notMem (h : c ∉ l) : beforeLast c l = l := if_neg h

lemma rtakeWhile_last (h : c ∉ b) : (a ++ c :: b).rtakeWhile (· ≠ c) = b := by
  induction b using List.reverseRecOn with
  | nil => exact List.rtakeWhile_concat_neg _ _ _ (by simp)
  | append_singleton b x ih =>
    rw [List.mem_append, List.mem_singleton, not_or] at h
    rw [← List.cons_append, ← List.append_assoc,
      List.rtakeWhile_concat_pos _ _ _ (by simpa using Ne.symm h.2), ih h.1]

lemma rdropWhile_last (h : c ∉ b) : (a ++ c :: b).rdropWhile (· ≠ c) = a ++ [c] := by
  have hsplit := List.rdropWhile_append_rtakeWhile (p := (· ≠ c)) (l := a ++ c :: b)
  rw [rtakeWhile_last h, List.append_cons a c b] at hsplit
  rw [List.append_cons a c b]
  exact List.append_cancel_right hsplit

lemma afterLast_split (h : c ∉ b) : afterLast c (a ++ c :: b) = b := rtakeWhile_last h

lemma beforeLast_split (h : c ∉ b) : beforeLast c (a ++ c :: b) = a := by
  rw [beforeLast, if_pos (by simp), rdropWhile_last h, List.dropLast_concat]

end Foundation
