import Mathlib.Tactic.Common

/-!
# Lists of lines

A list is cut behind every separator: each line but the last one ends with a separator, and the
lines together are the list. A line is complete when the separator ends it. Lists of complete
lines and their concatenations determine each other, so an edit of a text that keeps the lines in
front of it complete is an edit of its lines.
-/

namespace Foundation

variable {α β : Type*} [DecidableEq α] {sep : α} {ls : List (List α)} {l t u : List α}

def splitBehind (sep : α) : List α → List (List α)
  | []      => []
  | c :: cs =>
    if c = sep then [c] :: splitBehind sep cs
    else
      match splitBehind sep cs with
      | []      => [[c]]
      | l :: ls => (c :: l) :: ls

@[simp] lemma splitBehind_nil : splitBehind sep [] = [] := rfl

@[simp] lemma splitBehind_sep (t : List α) :
    splitBehind sep (sep :: t) = [sep] :: splitBehind sep t := by
  simp [splitBehind]

lemma splitBehind_append_of_notMem (h : sep ∉ u) (t : List α) :
    splitBehind sep (u ++ t) =
      match splitBehind sep t with
      | []      => if u = [] then [] else [u]
      | l :: ls => (u ++ l) :: ls := by
  induction u with
  | nil =>
    simp only [List.nil_append, if_true]
    split <;> simp_all
  | cons c u ih =>
    obtain ⟨hc, hu⟩ := not_or.mp (fun hmem => h (List.mem_cons.mpr hmem))
    rw [List.cons_append, splitBehind, if_neg fun heq => hc heq.symm, ih hu]
    cases splitBehind sep t with
    | nil =>
      by_cases hnil : u = []
      · simp [hnil]
      · simp [hnil]
    | cons l ls => rfl

lemma splitBehind_of_notMem (h : sep ∉ t) (hne : t ≠ []) : splitBehind sep t = [t] := by
  have hsplit := splitBehind_append_of_notMem h []
  rw [List.append_nil] at hsplit
  simpa [hne] using hsplit

lemma splitBehind_append_sep (h : sep ∉ u) (t : List α) :
    splitBehind sep (u ++ sep :: t) = (u ++ [sep]) :: splitBehind sep t := by
  rw [splitBehind_append_of_notMem h, splitBehind_sep]

/-- Line by line: the empty text, a text of one line that is not complete, and a complete line in
front of a text. -/
@[elab_as_elim]
theorem lineInduction {motive : List α → Prop} (sep : α) (nil : motive [])
    (last : ∀ t, t ≠ [] → sep ∉ t → motive t)
    (line : ∀ u t, sep ∉ u → motive t → motive (u ++ sep :: t)) (t : List α) : motive t := by
  induction hn : t.length using Nat.strongRecOn generalizing t with
  | ind n ih =>
    by_cases hmem : sep ∈ t
    · obtain ⟨u, rest, rfl, hu⟩ := List.eq_append_cons_of_mem hmem
      have hlt : rest.length < n := by
        rw [← hn, List.length_append, List.length_cons]
        omega
      exact line u rest hu (ih rest.length hlt rest rfl)
    · by_cases hnil : t = []
      · rw [hnil]
        exact nil
      · exact last t hnil hmem

lemma flatten_splitBehind (sep : α) (t : List α) : (splitBehind sep t).flatten = t := by
  induction t using lineInduction sep with
  | nil => rfl
  | last t hne h => rw [splitBehind_of_notMem h hne, List.flatten_singleton]
  | line u t h ih => rw [splitBehind_append_sep h, List.flatten_cons, ih, List.append_assoc]; rfl

lemma splitBehind_flatten_tail (h : splitBehind sep t = l :: ls) :
    splitBehind sep ls.flatten = ls := by
  induction t using lineInduction sep with
  | nil => exact absurd h (by simp)
  | last t hne hmem =>
    rw [splitBehind_of_notMem hmem hne, List.cons.injEq] at h
    rw [← h.2]
    rfl
  | line u t hu ih =>
    rw [splitBehind_append_sep hu, List.cons.injEq] at h
    rw [← h.2, flatten_splitBehind]

lemma mem_of_splitBehind_cons (h : splitBehind sep t = l :: ls) (hne : ls ≠ []) : sep ∈ l := by
  induction t using lineInduction sep with
  | nil => exact absurd h (by simp)
  | last t hnil hmem =>
    rw [splitBehind_of_notMem hmem hnil, List.cons.injEq] at h
    exact absurd h.2.symm hne
  | line u t hu ih =>
    rw [splitBehind_append_sep hu, List.cons.injEq] at h
    rw [← h.1]
    exact List.mem_append_right u (List.mem_singleton_self sep)

lemma length_splitBehind_le (sep : α) (t : List α) : (splitBehind sep t).length ≤ t.length := by
  induction t using lineInduction sep with
  | nil => exact Nat.le_refl 0
  | last t hne h =>
    rw [splitBehind_of_notMem h hne]
    exact List.length_pos_iff.mpr hne
  | line u t h ih =>
    rw [splitBehind_append_sep h, List.length_cons, List.length_append, List.length_cons]
    omega

/-! ### Complete lines -/

/-- A line that ends with its only separator. -/
def CompleteLine (sep : α) (l : List α) : Prop := ∃ u, sep ∉ u ∧ l = u ++ [sep]

lemma splitBehind_flatten_append (h : ∀ l ∈ ls, CompleteLine sep l) (t : List α) :
    splitBehind sep (ls.flatten ++ t) = ls ++ splitBehind sep t := by
  induction ls with
  | nil => rfl
  | cons l ls ih =>
    obtain ⟨u, hu, rfl⟩ := h l List.mem_cons_self
    have hrest := ih fun l hl => h l (List.mem_cons_of_mem _ hl)
    rw [List.flatten_cons, List.append_assoc, List.append_assoc, List.singleton_append,
      splitBehind_append_sep hu, hrest, List.cons_append]

lemma completeLine_of_mem_splitBehind (h : ∀ c ∈ t.getLast?, c = sep)
    (hl : l ∈ splitBehind sep t) : CompleteLine sep l := by
  induction t using lineInduction sep with
  | nil => exact absurd hl List.not_mem_nil
  | last t hne hmem =>
    have hlast := h (t.getLast hne) (List.getLast?_eq_some_getLast hne)
    exact absurd (hlast ▸ List.getLast_mem hne) hmem
  | line u t hu ih =>
    rw [splitBehind_append_sep hu] at hl
    rcases List.mem_cons.mp hl with rfl | hl
    · exact ⟨u, hu, rfl⟩
    · apply ih _ hl
      intro c hc
      apply h
      rw [List.getLast?_append, List.getLast?_cons, hc]
      rfl

/-- A text that is empty or ends with a separator is cut apart from what is behind it. -/
lemma splitBehind_append (h : ∀ c ∈ u.getLast?, c = sep) (t : List α) :
    splitBehind sep (u ++ t) = splitBehind sep u ++ splitBehind sep t := by
  have hcomplete : ∀ l ∈ splitBehind sep u, CompleteLine sep l := by
    intro l hl
    exact completeLine_of_mem_splitBehind h hl
  have hsplit := splitBehind_flatten_append hcomplete t
  rwa [flatten_splitBehind] at hsplit

end Foundation
