import FlipperZero.Storage.NextFilename
import FlipperZero.Toolbox.DirWalk

/-!
# Paths of entries

What the path of an entry means when the path of its directory is known, and what opening, reading
and closing a directory does on cards that do not fail.
-/

namespace FlipperZero

open Foundation

/-! ### The path of an entry -/

variable {q q' x : CPath} {appid : CPath} {s : StorageService} {t : StorageType}

lemma storageGetTypeByPath_length (h : storageGetTypeByPath q = some t) : 4 ≤ q.length := by
  unfold storageGetTypeByPath at h
  by_contra hlt
  have htake (p : CPath) (hp : p.length = 4) : q.take 4 ≠ p := fun heq => by
    have hlength := congrArg List.length heq
    rw [List.length_take, hp] at hlength
    omega
  rw [if_neg fun hlong => hlt (by omega), if_neg (htake _ rfl), if_neg (htake _ rfl),
    if_neg (htake _ rfl), if_neg (htake _ rfl)] at h
  cases h

lemma storageGetTypeByPath_child (h : storageGetTypeByPath q = some t) (x : CPath) :
    storageGetTypeByPath (q ++ 0x2F :: x) = some t := by
  have hlength := storageGetTypeByPath_length h
  have htake : (q ++ 0x2F :: x).take 4 = q.take 4 := List.take_append_of_le_length hlength
  have hfour : ¬(4 < (q ++ 0x2F :: x).length ∧ (q ++ 0x2F :: x)[4]? ≠ some 0x2F) := by
    rintro ⟨-, hslash⟩
    rcases Nat.eq_or_lt_of_le hlength with heq | hlt
    · rw [List.getElem?_append_right (by omega), heq] at hslash
      exact hslash (by simp)
    · rw [List.getElem?_append_left hlt] at hslash
      unfold storageGetTypeByPath at h
      rw [if_pos ⟨hlt, hslash⟩] at h
      cases h
  unfold storageGetTypeByPath at h ⊢
  rw [if_neg hfour, htake]
  split_ifs at h ⊢ <;> exact h

/-- The path of an alias does not begin like that of a storage. -/
lemma isPrefixOf_child_iff {p : CPath} (hp : 4 ≤ p.length)
    (hstart : ∀ prefix4 ∈ [storageExtPathPrefix, storageIntPathPrefix, storageMntPathPrefix,
      storageAnyPathPrefix], p.take 4 ≠ prefix4)
    (htype : storageGetTypeByPath q = some t) : p.isPrefixOf (q ++ 0x2F :: x) = false := by
  have hlength := storageGetTypeByPath_length htype
  have htake : q.take 4 ∈ [storageExtPathPrefix, storageIntPathPrefix, storageMntPathPrefix,
      storageAnyPathPrefix] := by
    unfold storageGetTypeByPath at htype
    split_ifs at htype with h0 h1 h2 h3 h4 <;> simp_all
  refine Bool.eq_false_iff.mpr fun h => hstart _ htake ?_
  have hstarts := List.prefix_iff_eq_take.mp (List.isPrefixOf_iff_prefix.mp h)
  rw [hstarts, List.take_take, Nat.min_eq_left hp, List.take_append_of_le_length hlength]

lemma storageProcessAlias_child
    (htype : storageGetTypeByPath (storageProcessAlias q appid) = some t) (x : CPath) :
    storageProcessAlias (q ++ 0x2F :: x) appid = storageProcessAlias q appid ++ 0x2F :: x := by
  have hgo (p : CPath) (h : p.isPrefixOf q = true) :
      p.isPrefixOf (q ++ 0x2F :: x) = true ∧ p.length ≤ q.length := by
    have hstarts := List.isPrefixOf_iff_prefix.mp h
    exact ⟨List.isPrefixOf_iff_prefix.mpr (hstarts.trans (List.prefix_append ..)),
      hstarts.length_le⟩
  unfold storageProcessAlias at htype ⊢
  by_cases hdata : storageAppDataPathPrefix.isPrefixOf q = true
  · obtain ⟨hchild, hle⟩ := hgo _ hdata
    rw [if_pos hdata, if_pos hchild, List.drop_append_of_le_length hle]
    simp only [List.append_assoc]
  by_cases hassets : storageAppAssetsPathPrefix.isPrefixOf q = true
  · obtain ⟨hchild, hle⟩ := hgo _ hassets
    have hnot : ¬storageAppDataPathPrefix.isPrefixOf (q ++ 0x2F :: x) = true := fun h => by
      -- one of the two prefixes would be a prefix of the other
      rcases List.prefix_or_prefix_of_prefix (List.isPrefixOf_iff_prefix.mp h)
        (List.isPrefixOf_iff_prefix.mp hchild) with h | h <;> revert h <;> decide
    rw [if_neg hdata, if_pos hassets, if_neg hnot, if_pos hchild,
      List.drop_append_of_le_length hle]
    simp only [List.append_assoc]
  · rw [if_neg hdata, if_neg hassets] at htype ⊢
    rw [isPrefixOf_child_iff (by decide) (by decide) htype,
      isPrefixOf_child_iff (by decide) (by decide) htype]
    rfl

namespace StorageService

lemma getData_child {r : StorageType × CPath} (h : s.getData q = some r) (x : CPath) :
    s.getData (q ++ 0x2F :: x) = some (r.1, r.2 ++ 0x2F :: x) ∧ 4 ≤ r.2.length := by
  unfold getData at h ⊢
  cases htype : storageGetTypeByPath q with
  | none =>
    rw [htype] at h
    cases h
  | some t =>
    have hlength := storageGetTypeByPath_length htype
    rw [htype] at h
    rw [storageGetTypeByPath_child htype]
    cases t with
    | any =>
      have htake : (q ++ 0x2F :: x).take 4 = q.take 4 := List.take_append_of_le_length hlength
      cases h
      simp only [storagePathChangeToRealStorage, htake,
        List.drop_append_of_le_length hlength]
      by_cases hany : q.take 4 = storageAnyPathPrefix
      · simp only [if_pos hany]
        split_ifs <;> exact ⟨by simp only [List.append_assoc], by simp [storageExtPathPrefix,
          storageIntPathPrefix, cBytes]⟩
      · simp only [if_neg hany]
        exact ⟨trivial, hlength⟩
    | ext => cases h; exact ⟨rfl, hlength⟩
    | int => cases h; exact ⟨rfl, hlength⟩
    | mnt => cases h; exact ⟨rfl, hlength⟩

lemma resolve_child {r : StorageType × CPath} (h : s.resolve q appid = some r) (x : CPath) :
    s.resolve (q ++ 0x2F :: x) appid = some (r.1, r.2 ++ 0x2F :: x) ∧ 4 ≤ r.2.length := by
  unfold resolve at h ⊢
  have htype : ∃ t, storageGetTypeByPath (storageProcessAlias q appid) = some t := by
    cases htype : storageGetTypeByPath (storageProcessAlias q appid) with
    | none =>
      unfold getData at h
      rw [htype] at h
      cases h
    | some t => exact ⟨t, rfl⟩
  obtain ⟨t, htype⟩ := htype
  rw [storageProcessAlias_child htype]
  exact getData_child h x

end StorageService

lemma ne_slash_of_mem (name : CardName) {c : UInt8} (hc : c ∈ name.val) : c ≠ 0x2F := by
  rintro rfl
  cases (name.readable hc).1

lemma pathParent_append {x : List UInt8} (h : ∀ c ∈ x, c ≠ 0x2F) :
    pathParent (entryPath q x) = q := by
  have hmem : (entryPath q x).contains 0x2F = true := by simp [entryPath]
  have hcut : (entryPath q x).rdropWhile (fun c => decide (c ≠ 0x2F)) = q ++ [0x2F] := by
    unfold entryPath List.rdropWhile
    rw [List.reverse_append, List.reverse_cons, List.append_assoc,
      List.dropWhile_append_of_pos fun c hc => decide_eq_true (h c (List.mem_reverse.mp hc))]
    simp
  rw [pathParent, if_pos hmem, hcut, List.dropLast_concat]

lemma pathParent_entryPath (q : CPath) (name : CardName) :
    pathParent (entryPath q name.val) = q := pathParent_append fun _ hc => ne_slash_of_mem name hc

/-! ### Places -/

namespace StorageCaller

variable {κ : Type} (e : StorageCaller κ)

/-- All of a path leads to a place: `r` is the path on its storage. -/
structure PathOf (q : CPath) (r : StorageType × CPath) (p : CardPlace) : Prop where
  resolve : e.service.resolve q e.appid = some r
  type : p.type = r.1
  names : fatFollowPath (r.2.drop 4) = (p.names, true)
  printable : IsPrintable (r.2.drop 4)

end StorageCaller

def CardPlace.entry (p : CardPlace) (name : CardName) : CardPlace :=
  { p with names := p.names ++ [name] }

def CardPlace.below (p : CardPlace) (l : List CardName) : CardPlace :=
  { p with names := p.names ++ l }

lemma CardPlace.below_nil (p : CardPlace) : p.below [] = p := by
  rw [CardPlace.below, List.append_nil]

lemma CardPlace.entry_below (p : CardPlace) (name : CardName) (l : List CardName) :
    (p.entry name).below l = p.below (name :: l) := by
  simp only [CardPlace.entry, CardPlace.below, List.append_assoc, List.cons_append,
    List.nil_append]

namespace StorageCaller

variable {κ : Type} {e : StorageCaller κ} {r : StorageType × CPath} {p : CardPlace}
  {w : StorageWorld e.key}

lemma PathOf.entry (h : e.PathOf q r p) {name : CardName} (hname : name.isOem = true) :
    e.PathOf (entryPath q name.val) (r.1, entryPath r.2 name.val) (p.entry name) where
  resolve := (StorageService.resolve_child h.resolve name.val).1
  type := h.type
  names := by
    have hlength := (StorageService.resolve_child h.resolve name.val).2
    rw [entryPath, List.drop_append_of_le_length hlength]
    exact fatFollowPath_child h.names h.printable hname
  printable := by
    have hlength := (StorageService.resolve_child h.resolve name.val).2
    rw [entryPath, List.drop_append_of_le_length hlength]
    exact h.printable.child name

lemma PathOf.find (h : e.PathOf q r p) (w : StorageWorld e.key) : e.find w q = .ok p := by
  have hplace : (⟨r.1, (fatFollowPath (r.2.drop 4)).1⟩ : CardPlace) = p := by
    rw [h.names, ← h.type]
  unfold StorageCaller.find followPath
  rw [h.resolve, Option.map_some, hplace, h.names]

/-! ### Directories -/

def slotsOf (e : StorageCaller κ) (w : StorageWorld e.key) (p : CardPlace) :
    List (Option CardName) := (w.cards p.type).slots (p.names.map e.key)

/-- A directory that is read, from a slot on. -/
def openedAt (r : StorageType × CPath) (p : CardPlace) (pos : Nat) : StorageDir :=
  ⟨some r, some (p, pos), .ok⟩

lemma storageDirOpen_returns (hok : e.NoFailures) (h : e.PathOf q r p)
    (hdir : w.node p = some .dir) (hopen : r ∉ w.opened) :
    (e.storageDirOpen q).Returns w (openedAt r p 0)
      { w.record .other with opened := r :: w.opened } := by
  have hanswer : (e.answer w).error = .ok := hok _
  have hcontains : ¬w.opened.contains r = true := by simpa using hopen
  unfold Program.Returns storageDirOpen
  rw [h.resolve]
  simp only [if_neg hcontains, h.find, if_pos hdir, hanswer, if_true]
  rfl

lemma storageDirClose_returns {f : StorageDir} (hf : f.path = some r)
    {others : List (StorageType × CPath)} (hw : w.opened = r :: others) :
    (e.storageDirClose f).Returns w () { w.record .other with opened := others } := by
  have herase : w.opened.erase r = others := by rw [hw, List.erase_cons_head]
  rw [← herase]
  unfold Program.Returns storageDirClose Program.operation
  rw [hf]

lemma storageDirRead_none {pos : Nat} (hok : e.NoFailures)
    (h : nextEntry (e.slotsOf w p) pos = none) :
    (e.storageDirRead (openedAt r p pos)).Returns w (none, ⟨some r, some (p, pos), .notExist⟩)
      (w.record .other) := by
  have hanswer : (e.answer w).error = .ok := hok _
  unfold slotsOf at h
  unfold Program.Returns storageDirRead Program.operation openedAt
  simp only [hanswer, ne_eq, not_true_eq_false, if_false, h]

lemma storageDirRead_some {pos j : Nat} {name : CardName} (hok : e.NoFailures)
    (h : nextEntry (e.slotsOf w p) pos = some (name, j)) :
    (e.storageDirRead (openedAt r p pos)).Returns w
      (some (decide (w.node (p.entry name) = some .dir), name.val), openedAt r p j)
      (w.record (.dirEntry name.val.length)) := by
  have hanswer : (e.answer w).error = .ok := hok _
  unfold slotsOf at h
  unfold Program.Returns storageDirRead Program.operation openedAt
  simp only [hanswer, ne_eq, not_true_eq_false, if_false, h]
  rfl

end StorageCaller

end FlipperZero
