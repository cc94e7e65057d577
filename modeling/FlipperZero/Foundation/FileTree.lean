import Mathlib.Order.Basic
import Mathlib.Order.Defs.Unbundled
import Mathlib.Tactic.Common

/-!
# File trees

A file tree maps places to files and directories. A place is the list of the keys of the names
that lead to it: names with the same key are the same entry, as on a file system that ignores
case. A directory keeps its entries in slots, and an entry never moves to another slot, so a
reader of the directory remembers a slot. A new entry goes to a free slot, which may lie before
the slot that a reader has reached.

`Extends t t'` says that `t'` has all that `t` has, in the same slots.
-/

namespace Foundation

/-! ### Slots -/

section Slots

variable {ν : Type} {s s' : List (Option ν)} {name m : ν} {i j pos place : Nat}

/-- Put an entry into a slot, or behind the last one when the slot is not free. -/
def fillSlot (s : List (Option ν)) (place : Nat) (name : ν) : List (Option ν) :=
  if (s[place]?).any Option.isNone then s.set place (some name) else s ++ [some name]

/-- The first entry at a slot from `pos` on, and the slot behind it. -/
def nextEntry (s : List (Option ν)) (pos : Nat) : Option (ν × Nat) :=
  go (s.drop pos) pos
where
  go : List (Option ν) → Nat → Option (ν × Nat)
    | [], _             => none
    | some name :: _, i => some (name, i + 1)
    | none :: s, i      => go s (i + 1)

/-- The entries at the slots from `pos` on. -/
def entriesFrom (s : List (Option ν)) (pos : Nat) : List ν := (s.drop pos).filterMap id

/-- How many entries stand in the slots before `i`. -/
def entriesBefore (s : List (Option ν)) (i : Nat) : Nat := (s.take i).countP Option.isSome

/-- Every entry is still in its slot. -/
def SlotsKept (s s' : List (Option ν)) : Prop :=
  ∀ (i : Nat) (name : ν), s[i]? = some (some name) → s'[i]? = some (some name)

/-- Every entry stands in its old slot, but for the new one, which has a slot of its own. -/
lemma getElem?_fillSlot (s : List (Option ν)) (place : Nat) (name : ν) : ∃ k, ∀ (i : Nat) m,
    (fillSlot s place name)[i]? = some (some m) → s[i]? = some (some m) ∨ i = k ∧ m = name := by
  unfold fillSlot
  split_ifs with hfree
  · refine ⟨place, fun i m hi => ?_⟩
    by_cases hne : place = i
    · subst hne
      have hlt : place < s.length := by
        rw [← List.length_set]
        exact (List.getElem?_eq_some_iff.mp hi).1
      rw [List.getElem?_set_self hlt] at hi
      exact .inr ⟨rfl, (Option.some.inj (Option.some.inj hi)).symm⟩
    · rw [List.getElem?_set_ne hne] at hi
      exact .inl hi
  · refine ⟨s.length, fun i m hi => ?_⟩
    rcases Nat.lt_or_ge i s.length with hlt | hge
    · rw [List.getElem?_append_left hlt] at hi
      exact .inl hi
    · rw [List.getElem?_append_right hge, List.getElem?_singleton] at hi
      split_ifs at hi with hzero
      exact .inr ⟨by omega, (Option.some.inj (Option.some.inj hi)).symm⟩

lemma mem_fillSlot : some m ∈ fillSlot s place name ↔ some m ∈ s ∨ m = name := by
  unfold fillSlot
  split_ifs with hfree
  · constructor
    · intro hm
      rcases List.mem_or_eq_of_mem_set hm with hm | hm
      · exact .inl hm
      · exact .inr (Option.some.inj hm)
    · rintro (hm | rfl)
      · obtain ⟨i, hi⟩ := List.mem_iff_getElem?.mp hm
        have hne : place ≠ i := by
          rintro rfl
          rw [hi] at hfree
          cases hfree
        exact List.mem_iff_getElem?.mpr ⟨i, by rw [List.getElem?_set_ne hne, hi]⟩
      · have hlt : place < s.length := by
          by_contra hge
          rw [List.getElem?_eq_none (Nat.not_lt.mp hge)] at hfree
          cases hfree
        exact List.mem_set hlt _
  · simp

private lemma nextEntry_go_none {t : List (Option ν)} (h : nextEntry.go t pos = none) :
    ∀ x ∈ t, x = none := by
  induction t generalizing pos with
  | nil => exact fun x hx => absurd hx List.not_mem_nil
  | cons x t ih =>
    cases x with
    | some name => cases h
    | none =>
      intro x hx
      rcases List.mem_cons.mp hx with rfl | hx
      · rfl
      · exact ih h x hx

private lemma nextEntry_go_some {t : List (Option ν)} (h : nextEntry.go t pos = some (name, j)) :
    ∃ k, j = pos + k + 1 ∧ t[k]? = some (some name) ∧ ∀ x ∈ t.take k, x = none := by
  induction t generalizing pos with
  | nil => cases h
  | cons x t ih =>
    cases x with
    | some name' =>
      cases h
      exact ⟨0, rfl, rfl, fun x hx => absurd hx List.not_mem_nil⟩
    | none =>
      obtain ⟨k, rfl, hk, hbefore⟩ := ih h
      refine ⟨k + 1, by omega, hk, fun x hx => ?_⟩
      rcases List.mem_cons.mp hx with rfl | hx
      · rfl
      · exact hbefore x hx

lemma nextEntry_none (h : nextEntry s pos = none) (hi : pos ≤ i) :
    s[i]? ≠ some (some name) := by
  intro hs
  have hmem : some name ∈ s.drop pos :=
    List.mem_iff_getElem?.mpr ⟨i - pos, by rw [List.getElem?_drop, Nat.add_sub_cancel' hi, hs]⟩
  cases nextEntry_go_none h _ hmem

lemma nextEntry_some (h : nextEntry s pos = some (name, j)) :
    ∃ i, pos ≤ i ∧ j = i + 1 ∧ s[i]? = some (some name) ∧
      ∀ k m, pos ≤ k → k < i → s[k]? ≠ some (some m) := by
  obtain ⟨k, rfl, hk, hbefore⟩ := nextEntry_go_some h
  refine ⟨pos + k, Nat.le_add_right .., rfl, ?_, fun k' m hle hlt hm => ?_⟩
  · rw [← List.getElem?_drop, hk]
  · have hmem : some m ∈ (s.drop pos).take k := by
      refine List.mem_iff_getElem?.mpr ⟨k' - pos, ?_⟩
      rw [List.getElem?_take, if_pos (by omega), List.getElem?_drop, Nat.add_sub_cancel' hle, hm]
    cases hbefore _ hmem

/-- There is no entry in the slots before `i`. -/
def FreeBefore (s : List (Option ν)) (i : Nat) : Prop :=
  ∀ (k : Nat) (name : ν), k < i → s[k]? ≠ some (some name)

lemma FreeBefore.zero (s : List (Option ν)) : FreeBefore s 0 :=
  fun k _ hk => absurd hk (Nat.not_lt_zero k)

lemma FreeBefore.all_none (h : FreeBefore s pos) (hnext : nextEntry s pos = none) :
    ∀ x ∈ s, x = none := by
  intro x hx
  cases x with
  | none => rfl
  | some name =>
    obtain ⟨i, hi⟩ := List.mem_iff_getElem?.mp hx
    rcases Nat.lt_or_ge i pos with hlt | hge
    · exact absurd hi (h i name hlt)
    · exact absurd hi (nextEntry_none hnext hge)

lemma mem_entriesFrom_zero : name ∈ entriesFrom s 0 ↔ some name ∈ s := by
  simp [entriesFrom]

lemma entriesFrom_of_none (h : nextEntry s pos = none) : entriesFrom s pos = [] := by
  refine List.filterMap_eq_nil_iff.mpr fun x hx => ?_
  rw [nextEntry_go_none h x hx]
  rfl

/-- The entry found is the first one, and the others come behind it. -/
lemma entriesFrom_of_some (h : nextEntry s pos = some (name, j)) :
    entriesFrom s pos = name :: entriesFrom s j := by
  obtain ⟨k, rfl, hk, hbefore⟩ := nextEntry_go_some h
  have hnil : ((s.drop pos).take k).filterMap id = [] :=
    List.filterMap_eq_nil_iff.mpr fun x hx => by rw [hbefore x hx]; rfl
  have hdrop : (s.drop pos).drop k = some name :: s.drop (pos + k + 1) := by
    obtain ⟨hlt, hget⟩ := List.getElem?_eq_some_iff.mp hk
    rw [List.drop_eq_getElem_cons hlt, hget, List.drop_drop, Nat.add_assoc]
  unfold entriesFrom
  rw [← List.take_append_drop k (s.drop pos), List.filterMap_append, hnil, hdrop]
  rfl

lemma entriesBefore_succ (h : s[i]? = some (some name)) :
    entriesBefore s (i + 1) = entriesBefore s i + 1 := by
  unfold entriesBefore
  rw [List.take_add_one, h, List.countP_append]
  rfl

lemma entriesBefore_succ_of_free (h : ∀ m, s[i]? ≠ some (some m)) :
    entriesBefore s (i + 1) = entriesBefore s i := by
  unfold entriesBefore
  rw [List.take_add_one, List.countP_append]
  cases hi : s[i]? with
  | none => rfl
  | some x =>
    cases x with
    | none => rfl
    | some m => exact absurd hi (h m)

lemma entriesBefore_mono (h : i ≤ j) : entriesBefore s i ≤ entriesBefore s j := by
  unfold entriesBefore
  exact List.Sublist.countP_le (List.take_sublist_take_left h)

/-- No entry was counted between two slots with none between them. -/
lemma entriesBefore_of_free (hle : i ≤ j) (h : ∀ k m, i ≤ k → k < j → s[k]? ≠ some (some m)) :
    entriesBefore s j = entriesBefore s i := by
  induction hle with
  | refl => rfl
  | @step j hle ih =>
    rw [entriesBefore_succ_of_free fun m => h j m hle (Nat.lt_succ_self j),
      ih fun k m hk hlt => h k m hk (Nat.lt_succ_of_lt hlt)]

end Slots

/-! ### Trees -/

/-- What stands at a place. -/
inductive FileNode (γ : Type) where
  | file (content : γ)
  | dir
  deriving DecidableEq

/-- A file tree with names `ν`, keys `κ` and contents `γ`. The entries of a directory are the
nodes below it, no two of them with the same key, and only a directory has entries. -/
structure FileTree (ν κ γ : Type) (key : ν → κ) where
  node : List κ → Option (FileNode γ)
  slots : List κ → List (Option ν)
  isSome_iff : ∀ l k, (node (l ++ [k])).isSome ↔ ∃ name, some name ∈ slots l ∧ key name = k
  dir_of_isSome : ∀ l k, (node (l ++ [k])).isSome → node l = some .dir
  distinct : ∀ (l : List κ) (i j : Nat) (a b : ν), (slots l)[i]? = some (some a) →
    (slots l)[j]? = some (some b) → key a = key b → i = j

namespace FileTree

variable {ν κ γ : Type} {key : ν → κ} [DecidableEq κ]

omit [DecidableEq κ] in
/-- The tree with an empty root directory. -/
def empty : FileTree ν κ γ key where
  node
    | []     => some .dir
    | _ :: _ => none
  slots _ := []
  isSome_iff l k := by
    constructor
    · intro h
      cases l <;> cases h
    · rintro ⟨name, hname, -⟩
      cases hname
  dir_of_isSome l k h := by
    cases l <;> cases h
  distinct l i j a b hi := by
    rw [List.getElem?_nil] at hi
    cases hi

/-- Make a file or a directory in a directory. -/
def create (t : FileTree ν κ γ key) (l : List κ) (name : ν) (place : Nat) (n : FileNode γ)
    (hdir : t.node l = some .dir) (hfree : t.node (l ++ [key name]) = none) :
    FileTree ν κ γ key where
  node x := if x = l ++ [key name] then some n else t.node x
  slots x := if x = l then fillSlot (t.slots x) place name else t.slots x
  isSome_iff x k := by
    have hnew (h : x = l ++ [key name]) : ¬(t.node (x ++ [k])).isSome := by
      intro hsome
      rw [← h] at hfree
      rw [t.dir_of_isSome x k hsome] at hfree
      cases hfree
    by_cases hx : x = l
    · subst hx
      rw [if_pos rfl]
      by_cases hk : k = key name
      · subst hk
        rw [if_pos rfl]
        exact ⟨fun _ => ⟨name, mem_fillSlot.mpr (.inr rfl), rfl⟩, fun _ => rfl⟩
      · rw [if_neg (by simpa using hk), t.isSome_iff]
        constructor
        · rintro ⟨m, hm, hkey⟩
          exact ⟨m, mem_fillSlot.mpr (.inl hm), hkey⟩
        · rintro ⟨m, hm, hkey⟩
          rcases mem_fillSlot.mp hm with hm | rfl
          · exact ⟨m, hm, hkey⟩
          · exact absurd hkey.symm hk
    · have hne : x ++ [k] ≠ l ++ [key name] := fun h => hx (List.append_inj_left' h rfl)
      rw [if_neg hne, if_neg hx, t.isSome_iff]
  dir_of_isSome x k h := by
    by_cases hx : x = l ++ [key name]
    · -- the new node has nothing below it
      rw [if_neg (by rw [hx]; simp)] at h
      have hx' := t.dir_of_isSome x k h
      rw [hx, hfree] at hx'
      cases hx'
    · rw [if_neg hx]
      by_cases hnew : x ++ [k] = l ++ [key name]
      · rw [List.append_inj_left' hnew rfl, hdir]
      · rw [if_neg hnew] at h
        exact t.dir_of_isSome x k h
  distinct x i j a b hi hj hkey := by
    by_cases hx : x = l
    · subst hx
      rw [if_pos rfl] at hi hj
      obtain ⟨k, hk⟩ := getElem?_fillSlot (t.slots x) place name
      -- an old entry with the key of the new one would not be free
      have hold {i : Nat} {m : ν} (hm : (t.slots x)[i]? = some (some m)) : key m ≠ key name := by
        intro heq
        have hsome := (t.isSome_iff x (key name)).mpr ⟨m, List.mem_of_getElem? hm, heq⟩
        rw [hfree] at hsome
        cases hsome
      rcases hk i a hi with hi' | ⟨rfl, rfl⟩
      · rcases hk j b hj with hj' | ⟨rfl, rfl⟩
        · exact t.distinct x i j a b hi' hj' hkey
        · exact absurd hkey (hold hi')
      · rcases hk j b hj with hj' | ⟨rfl, -⟩
        · exact absurd hkey.symm (hold hj')
        · rfl
    · rw [if_neg hx] at hi hj
      exact t.distinct x i j a b hi hj hkey

def remove (t : FileTree ν κ γ key) (l : List κ) (k : κ)
    (hempty : ∀ x ∈ t.slots (l ++ [k]), x = none) : FileTree ν κ γ key where
  node x := if x = l ++ [k] then none else t.node x
  slots x :=
    if x = l then (t.slots x).map fun s => s.bind fun m => if key m = k then none else some m
    else t.slots x
  isSome_iff x k' := by
    by_cases hx : x = l
    · subst hx
      rw [if_pos rfl]
      by_cases hk : k' = k
      · subst hk
        rw [if_pos rfl]
        constructor
        · intro h
          cases h
        · rintro ⟨m, hm, hkey⟩
          obtain ⟨s, -, hs⟩ := List.mem_map.mp hm
          cases s with
          | none => cases hs
          | some m' =>
            rw [Option.bind_some] at hs
            split_ifs at hs with hkey'
            cases hs
            exact absurd hkey hkey'
      · rw [if_neg (by simpa using hk), t.isSome_iff]
        constructor
        · rintro ⟨m, hm, rfl⟩
          exact ⟨m, List.mem_map.mpr ⟨some m, hm, by rw [Option.bind_some, if_neg hk]⟩, rfl⟩
        · rintro ⟨m, hm, rfl⟩
          obtain ⟨s, hs, hbind⟩ := List.mem_map.mp hm
          cases s with
          | none => cases hbind
          | some m' =>
            rw [Option.bind_some] at hbind
            split_ifs at hbind
            cases hbind
            exact ⟨m, hs, rfl⟩
    · have hne : x ++ [k'] ≠ l ++ [k] := fun h => hx (List.append_inj_left' h rfl)
      rw [if_neg hne, if_neg hx, t.isSome_iff]
  dir_of_isSome x k' h := by
    by_cases hne : x ++ [k'] = l ++ [k]
    · rw [if_pos hne] at h
      cases h
    · rw [if_neg hne] at h
      rw [if_neg, t.dir_of_isSome x k' h]
      -- the removed node had no entries
      rintro rfl
      obtain ⟨m, hm, -⟩ := (t.isSome_iff _ _).mp h
      cases hempty _ hm
  distinct x i j a b hi hj hkey := by
    have hold {i : Nat} {m : ν} (hm : (if x = l then (t.slots x).map fun s => s.bind fun m =>
        if key m = k then none else some m else t.slots x)[i]? = some (some m)) :
        (t.slots x)[i]? = some (some m) := by
      split_ifs at hm with hx
      · rw [List.getElem?_map, Option.map_eq_some_iff] at hm
        obtain ⟨s, hs, hbind⟩ := hm
        cases s with
        | none => cases hbind
        | some m' =>
          rw [Option.bind_some] at hbind
          split_ifs at hbind
          cases hbind
          exact hs
      · exact hm
    exact t.distinct x i j a b (hold hi) (hold hj) hkey

variable {t t' : FileTree ν κ γ key} {l r : List κ} {k : κ} {n : FileNode γ}

omit [DecidableEq κ] in
lemma dir_of_below (h : (t.node (l ++ k :: r)).isSome) : t.node l = some .dir := by
  induction r generalizing l k with
  | nil => exact t.dir_of_isSome l k h
  | cons k' r ih =>
    have hk : t.node (l ++ [k]) = some .dir := ih (by simpa using h)
    exact t.dir_of_isSome l k (by rw [hk]; rfl)

omit [DecidableEq κ] in
lemma exists_slot_of_below (h : (t.node (l ++ k :: r)).isSome) :
    ∃ (i : Nat) (name : ν), (t.slots l)[i]? = some (some name) ∧ key name = k := by
  have hk : (t.node (l ++ [k])).isSome := by
    cases r with
    | nil => exact h
    | cons k' r =>
      have h' : (t.node ((l ++ [k]) ++ k' :: r)).isSome := by simpa using h
      rw [dir_of_below h']
      rfl
  obtain ⟨name, hname, hkey⟩ := (t.isSome_iff l k).mp hk
  obtain ⟨i, hi⟩ := List.mem_iff_getElem?.mp hname
  exact ⟨i, name, hi, hkey⟩

/-! ### Growing trees -/

/-- `t'` has all that `t` has, in the same slots. -/
structure Extends (t t' : FileTree ν κ γ key) : Prop where
  node : ∀ l n, t.node l = some n → t'.node l = some n
  slots : ∀ l, SlotsKept (t.slots l) (t'.slots l)

omit [DecidableEq κ] in
lemma Extends.refl (t : FileTree ν κ γ key) : t.Extends t where
  node _ _ h := h
  slots _ _ _ h := h

omit [DecidableEq κ] in
lemma Extends.trans {t'' : FileTree ν κ γ key} (h : t.Extends t') (h' : t'.Extends t'') :
    t.Extends t'' where
  node l n hn := h'.node l n (h.node l n hn)
  slots l i name hi := h'.slots l i name (h.slots l i name hi)

omit [DecidableEq κ] in
lemma nodup_entries (t : FileTree ν κ γ key) (l : List κ) : (entriesFrom (t.slots l) 0).Nodup := by
  unfold entriesFrom
  rw [List.drop_zero]
  refine List.pairwise_filterMap.mpr (List.pairwise_iff_getElem.mpr ?_)
  intro i j hi hj hlt a ha b hb heq
  have hsame := t.distinct l i j a b
    (List.getElem?_eq_some_iff.mpr ⟨hi, ha⟩) (List.getElem?_eq_some_iff.mpr ⟨hj, hb⟩)
    (congrArg key heq)
  omega

/-! ### Shrinking trees -/

omit [DecidableEq κ] in
lemma slots_of_node_ne_dir (h : t.node l ≠ some .dir) : ∀ x ∈ t.slots l, x = none := by
  intro x hx
  cases x with
  | none => rfl
  | some name =>
    exact absurd (t.dir_of_isSome l _ ((t.isSome_iff l _).mpr ⟨name, hx, rfl⟩)) h

/-- `t'` is `t` without some of what lies below the directory `l`. -/
structure RemovesBelow (l : List κ) (t t' : FileTree ν κ γ key) : Prop where
  kept : t'.Extends t
  node : ∀ x, (∀ k r, x ≠ l ++ k :: r) → t'.node x = t.node x
  slots : ∀ x, ¬l <+: x → t'.slots x = t.slots x
  length : (t'.slots l).length = (t.slots l).length

/-- `t'` is `t` without the entry `k` of the directory `l` and without all that lies below it. -/
structure RemovesAt (l : List κ) (k : κ) (t t' : FileTree ν κ γ key) : Prop where
  kept : t'.Extends t
  gone : ∀ r, t'.node (l ++ k :: r) = none
  node : ∀ x, ¬l ++ [k] <+: x → t'.node x = t.node x
  slots : ∀ x, x ≠ l → ¬l ++ [k] <+: x → t'.slots x = t.slots x
  entries : t'.slots l = (t.slots l).map fun s => s.bind fun m => if key m = k then none else some m

variable {t'' : FileTree ν κ γ key}

omit [DecidableEq κ] in
lemma RemovesBelow.refl (l : List κ) (t : FileTree ν κ γ key) : RemovesBelow l t t where
  kept := .refl t
  node _ _ := rfl
  slots _ _ := rfl
  length := rfl

omit [DecidableEq κ] in
lemma RemovesBelow.trans (h : RemovesBelow l t t') (h' : RemovesBelow l t' t'') :
    RemovesBelow l t t'' where
  kept := h'.kept.trans h.kept
  node x hx := (h'.node x hx).trans (h.node x hx)
  slots x hx := (h'.slots x hx).trans (h.slots x hx)
  length := h'.length.trans h.length

lemma RemovesAt.slot (h : RemovesAt l k t t') {i : Nat} {name : ν}
    (hi : (t'.slots l)[i]? = some (some name)) :
    (t.slots l)[i]? = some (some name) ∧ key name ≠ k := by
  rw [h.entries, List.getElem?_map, Option.map_eq_some_iff] at hi
  obtain ⟨s, hs, hbind⟩ := hi
  cases s with
  | none => cases hbind
  | some m =>
    rw [Option.bind_some] at hbind
    split_ifs at hbind with hkey
    cases hbind
    exact ⟨hs, hkey⟩

/-- With an entry that is the first one of its directory, its slot is free as well. -/
lemma RemovesAt.freeBefore (h : RemovesAt l k t t') {i : Nat} {name : ν}
    (hi : (t.slots l)[i]? = some (some name)) (hkey : key name = k)
    (hfree : FreeBefore (t.slots l) i) : FreeBefore (t'.slots l) (i + 1) := by
  intro j name' hlt hj
  obtain ⟨hj, hne⟩ := h.slot hj
  rcases Nat.eq_or_lt_of_le (Nat.le_of_lt_succ hlt) with rfl | hlt
  · rw [hi] at hj
    cases hj
    exact hne hkey
  · exact hfree j name' hlt hj

lemma RemovesAt.below (h : RemovesAt l k t t') : RemovesBelow l t t' where
  kept := h.kept
  node x hx := h.node x fun ⟨r, hr⟩ => hx k r (by rw [← hr, List.append_assoc]; rfl)
  slots x hx := h.slots x (fun heq => hx (heq ▸ List.prefix_rfl))
    fun hstarts => hx ((List.prefix_append l [k]).trans hstarts)
  length := by rw [h.entries, List.length_map]

lemma RemovesBelow.removesAt (h : RemovesBelow (l ++ [k]) t t') (h' : RemovesAt l k t' t'') :
    RemovesAt l k t t'' where
  kept := h'.kept.trans h.kept
  gone := h'.gone
  node x hx := (h'.node x hx).trans (h.node x fun k' r heq => hx ⟨k' :: r, heq.symm⟩)
  slots x hne hx := (h'.slots x hne hx).trans (h.slots x hx)
  entries := by
    have hself : ¬l ++ [k] <+: l := fun hstarts => by
      have hle := hstarts.length_le
      rw [List.length_append, List.length_singleton] at hle
      omega
    rw [h'.entries, h.slots l hself]

lemma remove_removesAt (hempty : ∀ x ∈ t.slots (l ++ [k]), x = none) :
    RemovesAt l k t (t.remove l k hempty) where
  kept :=
    { node := fun x n hn => by
        simp only [remove] at hn
        split_ifs at hn
        exact hn
      slots := fun x i name hi => by
        simp only [remove] at hi
        split_ifs at hi with hx
        · rw [List.getElem?_map, Option.map_eq_some_iff] at hi
          obtain ⟨s, hs, hbind⟩ := hi
          cases s with
          | none => cases hbind
          | some m =>
            rw [Option.bind_some] at hbind
            split_ifs at hbind
            cases hbind
            exact hs
        · exact hi }
  gone r := by
    cases r with
    | nil => exact if_pos rfl
    | cons k' r =>
      have hne : l ++ k :: k' :: r ≠ l ++ [k] := by simp
      simp only [remove, if_neg hne]
      cases hn : t.node (l ++ k :: k' :: r) with
      | none => rfl
      | some n =>
        -- what lies below the entry would be found through a slot
        have hsome : (t.node ((l ++ [k]) ++ k' :: r)).isSome := by
          rw [List.append_assoc, List.singleton_append, hn]
          rfl
        obtain ⟨i, name, hi, -⟩ := exists_slot_of_below hsome
        cases hempty _ (List.mem_of_getElem? hi)
  node x hx := by
    have hne : x ≠ l ++ [k] := fun heq => hx (heq ▸ List.prefix_rfl)
    simp only [remove, if_neg hne]
  slots x hx _ := by simp only [remove, if_neg hx]
  entries := by simp only [remove, if_true]

end FileTree

end Foundation
