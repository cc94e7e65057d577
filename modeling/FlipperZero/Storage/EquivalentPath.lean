import FlipperZero.Storage.ExternalApi
import FlipperZero.Storage.OpenFiles

/-!
# Equivalent paths and subdirectories

What `storage_common_equivalent_path` and `storage_common_is_subdir` should tell, on the components
of the paths, and what they tell. Two slashes are appended to both paths before the second is cut to
the length of the first, so a child is only recognised when it is written with two slashes behind
its parent; and a path below `/any` is equivalent to none, since only the first path gets its real
prefix.
-/

namespace FlipperZero

/-! ### The functions -/

def storagePathTrimTrailingSlashes (path : CPath) : CPath := path.rdropWhile (· == 0x2F)

namespace StorageService

variable (s : StorageService)

/-- `storage_process_common_equivalent_path`. The first path gets its real prefix, the second
one is compared as it is. -/
def processCommonEquivalentPath (path1 path2 : CPath) : Bool :=
  if storageGetTypeByPath path1 ≠ storageGetTypeByPath path2 then false
  else
    match s.getData path1 with
    | none            => false
    | some (t, path1) => storageEquivalentPath t path1 path2

/-- The request behind `storage_common_equivalent_path` and `storage_common_is_subdir`. -/
def processEquivalentPath (appid path1 path2 : CPath) (checkSubdir : Bool) : Bool :=
  let path1 := storageProcessAlias (storagePathTrimTrailingSlashes path1) appid ++ [0x2F]
  let path2 := storageProcessAlias (storagePathTrimTrailingSlashes path2) appid ++ [0x2F]
  if checkSubdir then
    let path1 := path1 ++ [0x2F]
    let path2 := (path2 ++ [0x2F]).take path1.length
    s.processCommonEquivalentPath path1 path2
  else s.processCommonEquivalentPath path1 path2

end StorageService

namespace StorageCaller

variable {κ : Type} (e : StorageCaller κ)

def storageCommonEquivalentPath (path1 path2 : CPath) : Bool :=
  e.service.processEquivalentPath e.appid path1 path2 false

def storageCommonIsSubdir (parent child : CPath) : Bool :=
  e.service.processEquivalentPath e.appid parent child true

end StorageCaller

/-! ### Components -/

section Components

variable {α : Type} [DecidableEq α] {sep : α} {a b : List α}

omit [DecidableEq α] in
lemma intercalate_append {ls ls' : List (List α)} (h : ls ≠ []) (h' : ls' ≠ []) :
    [sep].intercalate (ls ++ ls') = [sep].intercalate ls ++ sep :: [sep].intercalate ls' := by
  induction ls with
  | nil => exact absurd rfl h
  | cons l ls ih =>
    cases ls with
    | nil => simp [List.intercalate_cons_of_ne_nil h']
    | cons l' ls =>
      have htail := ih (List.cons_ne_nil l' ls)
      rw [List.cons_append] at htail
      simp [List.intercalate_cons_cons, htail]

lemma splitOn_inj : a.splitOn sep = b.splitOn sep ↔ a = b := by
  constructor
  · intro h
    have hself (xs : List α) : [sep].intercalate (xs.splitOn sep) = xs :=
      List.intercalate_splitOn sep
    rw [← hself a, h, hself b]
  · rintro rfl
    rfl

/-- The components of `b` start with those of `a` when `b` is `a`, or goes on with a separator. -/
lemma splitOn_prefix_iff :
    a.splitOn sep <+: b.splitOn sep ↔ a = b ∨ a ++ [sep] <+: b := by
  constructor
  · rintro ⟨rest, hrest⟩
    rcases eq_or_ne rest [] with rfl | hne
    · rw [List.append_nil] at hrest
      exact .inl (splitOn_inj.mp hrest)
    · refine .inr ⟨[sep].intercalate rest, ?_⟩
      have hb : [sep].intercalate (b.splitOn sep) = b := List.intercalate_splitOn sep
      rw [← hrest, intercalate_append (List.splitOn_ne_nil sep a) hne,
        List.intercalate_splitOn] at hb
      rw [← hb, List.append_assoc, List.singleton_append]
  · rintro (rfl | ⟨q, rfl⟩)
    · exact List.prefix_rfl
    · rw [List.append_assoc, List.singleton_append, List.splitOn_append_cons_self]
      exact List.prefix_append ..

omit [DecidableEq α] in
/-- Cutting `b` with two separators to the length of `a` with two separators gives the latter when
`b` is `a`, or goes on with two separators behind it. -/
lemma take_two_eq_iff :
    a ++ [sep, sep] = (b ++ [sep, sep]).take (a.length + 2) ↔
      a = b ∨ a ++ [sep, sep] <+: b ++ [sep] := by
  have hstarts : a ++ [sep, sep] = (b ++ [sep, sep]).take (a.length + 2) ↔
      a ++ [sep, sep] <+: (b ++ [sep]) ++ [sep] := by
    rw [List.prefix_iff_eq_take, List.length_append, List.append_assoc]
    rfl
  rw [hstarts, List.prefix_concat_iff, List.append_assoc]
  exact or_congr_left (List.append_left_inj _)

end Components

/-! ### What the functions should tell -/

namespace StorageService

variable (s : StorageService) (appid : CPath)

/-- What a path means: a storage and the components of the path, under the case rule of the storage
and without trailing slashes. -/
def denotes (path : CPath) : Option (StorageType × List CPath) :=
  (s.resolve (storagePathTrimTrailingSlashes path) appid).map fun r =>
    (r.1, (storagePathKey r.1 r.2).splitOn 0x2F)

def DenoteSame (path1 path2 : CPath) : Prop :=
  ∃ d, s.denotes appid path1 = some d ∧ s.denotes appid path2 = some d

def DenotesBelow (parent child : CPath) : Prop :=
  ∃ t cs ds, s.denotes appid parent = some (t, cs) ∧ s.denotes appid child = some (t, ds) ∧
    cs <+: ds

end StorageService

/-! ### The type of a path -/

variable {p q x y w : CPath} {t : StorageType} {s : StorageService} {appid : CPath}

/-- The text that is compared, without the slashes that are appended. -/
def storagePathText (appid path : CPath) : CPath :=
  storageProcessAlias (storagePathTrimTrailingSlashes path) appid

lemma storagePathKey_append :
    storagePathKey t (x ++ y) = storagePathKey t x ++ storagePathKey t y := by
  cases t with
  | int => rfl
  | ext | mnt | any => exact List.map_append

lemma storagePathKey_take {n : Nat} :
    storagePathKey t (x.take n) = (storagePathKey t x).take n := by
  cases t with
  | int => rfl
  | ext | mnt | any => exact List.map_take

lemma length_storagePathKey : (storagePathKey t x).length = x.length := by
  cases t with
  | int => rfl
  | ext | mnt | any => exact List.length_map _

lemma storagePathKey_slashes (n : Nat) :
    storagePathKey t (List.replicate n 0x2F) = List.replicate n 0x2F := by
  cases t with
  | int => rfl
  | ext | mnt | any => exact List.map_replicate

lemma storageGetTypeByPath_congr (h : x.take 5 = y.take 5) :
    storageGetTypeByPath x = storageGetTypeByPath y := by
  have hlen : 4 < x.length ↔ 4 < y.length := by
    have h' := congrArg List.length h
    rw [List.length_take, List.length_take] at h'
    omega
  have hget : x[4]? = y[4]? := by
    have h' := congrArg (·[4]?) h
    simpa [List.getElem?_take] using h'
  have htake : x.take 4 = y.take 4 := by
    have h' := congrArg (List.take 4) h
    simpa [List.take_take] using h'
  unfold storageGetTypeByPath
  rw [htake, hget]
  simp only [hlen]

lemma storageGetTypeByPath_none (h : x[3]? = none ∨ x[3]? = some 0x2F) :
    storageGetTypeByPath x = none := by
  have hne (prefix4 : CPath) (c : UInt8) (hc : prefix4[3]? = some c) (hslash : c ≠ 0x2F) :
      x.take 4 ≠ prefix4 := by
    rintro rfl
    rw [List.getElem?_take_of_lt (by decide)] at hc
    rw [hc] at h
    rcases h with h | h
    · cases h
    · exact hslash (Option.some.inj h)
  unfold storageGetTypeByPath
  rw [if_neg (hne storageExtPathPrefix _ rfl (by decide)),
    if_neg (hne storageIntPathPrefix _ rfl (by decide)),
    if_neg (hne storageMntPathPrefix _ rfl (by decide)),
    if_neg (hne storageAnyPathPrefix _ rfl (by decide)), ite_self]

lemma storageGetTypeByPath_slashes (n : Nat) :
    storageGetTypeByPath (x ++ List.replicate n 0x2F) = storageGetTypeByPath x := by
  rcases Nat.lt_trichotomy x.length 4 with hlt | heq | hgt
  · have hget : (x ++ List.replicate n (0x2F : UInt8))[3]? = none ∨
        (x ++ List.replicate n (0x2F : UInt8))[3]? = some 0x2F := by
      rw [List.getElem?_append_right (by omega), List.getElem?_replicate]
      split_ifs
      · exact .inr rfl
      · exact .inl rfl
    rw [storageGetTypeByPath_none hget,
      storageGetTypeByPath_none (.inl (List.getElem?_eq_none (by omega)))]
  · have htake : (x ++ List.replicate n 0x2F).take 4 = x.take 4 := by
      rw [← heq, List.take_left, List.take_length]
    have hget : ¬ (4 < (x ++ List.replicate n 0x2F).length ∧
        (x ++ List.replicate n (0x2F : UInt8))[4]? ≠ some 0x2F) := by
      rintro ⟨hlen, hne⟩
      rw [List.length_append, List.length_replicate] at hlen
      rw [List.getElem?_append_right (by omega), heq,
        List.getElem?_replicate_of_lt (by omega)] at hne
      exact hne rfl
    have hlen : ¬ (4 < x.length ∧ x[4]? ≠ some 0x2F) := fun h => by omega
    unfold storageGetTypeByPath
    rw [htake, if_neg hget, if_neg hlen]
  · apply storageGetTypeByPath_congr
    rw [List.take_append_of_le_length hgt]

lemma take_of_type_any (h : storageGetTypeByPath x = some .any) :
    x.take 4 = storageAnyPathPrefix := by
  unfold storageGetTypeByPath at h
  split_ifs at h <;> first | assumption | cases h

lemma processCommonEquivalentPath_iff :
    s.processCommonEquivalentPath x y = true ↔
      ∃ t, t ≠ .any ∧ storageGetTypeByPath x = some t ∧ storageGetTypeByPath y = some t ∧
        storagePathKey t x = storagePathKey t y := by
  unfold StorageService.processCommonEquivalentPath
  by_cases htype : storageGetTypeByPath x = storageGetTypeByPath y
  swap
  · rw [if_pos htype]
    refine ⟨nofun, ?_⟩
    rintro ⟨t, -, hx, hy, -⟩
    exact absurd (hx.trans hy.symm) htype
  rw [if_neg (not_not.mpr htype), ← htype]
  unfold StorageService.getData
  cases hx : storageGetTypeByPath x with
  | none => simp
  | some t =>
    cases t with
    | ext | int | mnt => simp [storageEquivalentPath_iff]
    | any =>
      -- the first path gets its real prefix, the second one keeps the other
      have htakex := take_of_type_any hx
      have htakey := take_of_type_any (htype ▸ hx)
      dsimp only
      simp only [ne_eq, Option.some.injEq, and_self_left]
      refine ⟨fun h => ?_, fun ⟨t, hne, ht, _⟩ => absurd ht.symm hne⟩
      rw [storageEquivalentPath_iff] at h
      have hstarts := congrArg (List.take 4) h
      rw [← storagePathKey_take, ← storagePathKey_take, htakey] at hstarts
      unfold storagePathChangeToRealStorage at hstarts
      rw [if_pos htakex] at hstarts
      split_ifs at hstarts
      · rw [show (storageExtPathPrefix ++ x.drop 4).take 4 = storageExtPathPrefix from rfl] at hstarts
        exact absurd hstarts (by decide)
      · rw [show (storageIntPathPrefix ++ x.drop 4).take 4 = storageIntPathPrefix from rfl] at hstarts
        exact absurd hstarts (by decide)

lemma denotes_of_type (ht : t ≠ .any)
    (htype : storageGetTypeByPath (storagePathText appid p) = some t) :
    s.denotes appid p = some (t, (storagePathKey t (storagePathText appid p)).splitOn 0x2F) := by
  unfold StorageService.denotes StorageService.resolve StorageService.getData
  rw [← storagePathText, htype]
  cases t with
  | any => exact absurd rfl ht
  | ext | int | mnt => rfl

lemma type_of_denotes {cs : List CPath} (h : s.denotes appid p = some (t, cs))
    (hany : storageGetTypeByPath (storagePathText appid p) ≠ some .any) :
    t ≠ .any ∧ storageGetTypeByPath (storagePathText appid p) = some t ∧
      cs = (storagePathKey t (storagePathText appid p)).splitOn 0x2F := by
  cases htype : storageGetTypeByPath (storagePathText appid p) with
  | none =>
    unfold StorageService.denotes StorageService.resolve StorageService.getData at h
    rw [← storagePathText, htype] at h
    cases h
  | some u =>
    have hu : u ≠ .any := fun hu => hany (hu ▸ htype)
    rw [denotes_of_type hu htype] at h
    cases h
    exact ⟨hu, rfl, rfl⟩

/-- When the service says that two paths are equivalent, neither is below `/any` and they denote
the same. -/
lemma processEquivalentPath_iff :
    s.processEquivalentPath appid p q false = true ↔
      ∃ t, t ≠ .any ∧ storageGetTypeByPath (storagePathText appid p) = some t ∧
        storageGetTypeByPath (storagePathText appid q) = some t ∧
        storagePathKey t (storagePathText appid p) =
          storagePathKey t (storagePathText appid q) := by
  have hslash (x : CPath) : storageGetTypeByPath (x ++ [0x2F]) = storageGetTypeByPath x :=
    storageGetTypeByPath_slashes 1
  rw [StorageService.processEquivalentPath, if_neg Bool.false_ne_true]
  simp only [processCommonEquivalentPath_iff, hslash, storagePathKey_append, List.append_left_inj]
  exact Iff.rfl

/-- When the service says that a path is a subdirectory, it is the parent itself, or goes on with two
slashes behind it. -/
lemma processSubdir_iff :
    s.processEquivalentPath appid p q true = true ↔
      ∃ t, t ≠ .any ∧ storageGetTypeByPath (storagePathText appid p) = some t ∧
        storageGetTypeByPath (storagePathText appid q) = some t ∧
        (storagePathKey t (storagePathText appid p) =
            storagePathKey t (storagePathText appid q) ∨
          storagePathKey t (storagePathText appid p) ++ [0x2F, 0x2F] <+:
            storagePathKey t (storagePathText appid q) ++ [0x2F]) := by
  rw [StorageService.processEquivalentPath, if_pos rfl]
  dsimp only
  rw [processCommonEquivalentPath_iff]
  change (∃ t, t ≠ StorageType.any ∧
    storageGetTypeByPath (storagePathText appid p ++ [0x2F] ++ [0x2F]) = some t ∧
    storageGetTypeByPath ((storagePathText appid q ++ [0x2F] ++ [0x2F]).take
      (storagePathText appid p ++ [0x2F] ++ [0x2F]).length) = some t ∧
    storagePathKey t (storagePathText appid p ++ [0x2F] ++ [0x2F]) =
      storagePathKey t ((storagePathText appid q ++ [0x2F] ++ [0x2F]).take
        (storagePathText appid p ++ [0x2F] ++ [0x2F]).length)) ↔ _
  generalize storagePathText appid p = x
  generalize storagePathText appid q = y
  have hslashes (z : CPath) : z ++ [0x2F] ++ [0x2F] = z ++ List.replicate 2 0x2F :=
    List.append_assoc ..
  have hlen : (x ++ List.replicate 2 (0x2F : UInt8)).length = x.length + 2 := by simp
  refine exists_congr fun t => and_congr_right fun ht => ?_
  rw [hslashes, hslashes, hlen, storageGetTypeByPath_slashes]
  refine and_congr_right fun hx => ?_
  have hlong : 4 ≤ x.length := by
    by_contra hshort
    rw [storageGetTypeByPath_none (.inl (List.getElem?_eq_none (by omega)))] at hx
    cases hx
  have htype : storageGetTypeByPath ((y ++ List.replicate 2 0x2F).take (x.length + 2)) =
      storageGetTypeByPath y := by
    rw [← storageGetTypeByPath_slashes (x := y) 2]
    apply storageGetTypeByPath_congr
    rw [List.take_take, Nat.min_eq_left (by omega)]
  rw [htype, storagePathKey_take, storagePathKey_append, storagePathKey_append,
    storagePathKey_slashes, ← length_storagePathKey (t := t)]
  exact and_congr_right fun _ => take_two_eq_iff

/-! ### When they tell it -/

section

variable (s : StorageService) (appid : CPath)

/-- A path below `/any`, after its alias is resolved. -/
def IsAnyPath (path : CPath) : Prop :=
  storageGetTypeByPath (storagePathText appid path) = some .any

def GoesOnWithTwoSlashes (parent child : CPath) : Prop :=
  ∃ t, storageGetTypeByPath (storagePathText appid parent) = some t ∧
    storagePathKey t (storagePathText appid parent) ++ [0x2F, 0x2F] <+:
      storagePathKey t (storagePathText appid child) ++ [0x2F]

end

lemma isAnyPath_of_type {path : CPath} (ht : t ≠ .any)
    (htype : storageGetTypeByPath (storagePathText appid path) = some t) :
    ¬ IsAnyPath appid path := fun h => ht (Option.some.inj (htype.symm.trans h))

lemma denoteSame_of_process (h : s.processEquivalentPath appid p q false = true) :
    s.DenoteSame appid p q ∧ ¬ IsAnyPath appid p ∧ ¬ IsAnyPath appid q := by
  obtain ⟨t, ht, hp, hq, heq⟩ := processEquivalentPath_iff.mp h
  exact ⟨⟨_, denotes_of_type ht hp, by rw [heq]; exact denotes_of_type ht hq⟩,
    isAnyPath_of_type ht hp, isAnyPath_of_type ht hq⟩

lemma foldCase_of_denoteSame (h : s.DenoteSame appid p q) (hp : ¬ IsAnyPath appid p)
    (hq : ¬ IsAnyPath appid q) :
    ∃ t, t ≠ .any ∧ storageGetTypeByPath (storagePathText appid p) = some t ∧
      storageGetTypeByPath (storagePathText appid q) = some t ∧
      storagePathKey t (storagePathText appid p) =
        storagePathKey t (storagePathText appid q) := by
  obtain ⟨⟨t, cs⟩, hdp, hdq⟩ := h
  obtain ⟨ht, htp, hcs⟩ := type_of_denotes hdp hp
  obtain ⟨-, htq, hcs'⟩ := type_of_denotes hdq hq
  exact ⟨t, ht, htp, htq, splitOn_inj.mp (hcs.symm.trans hcs')⟩

lemma process_of_denoteSame (h : s.DenoteSame appid p q) (hp : ¬ IsAnyPath appid p)
    (hq : ¬ IsAnyPath appid q) : s.processEquivalentPath appid p q false = true :=
  processEquivalentPath_iff.mpr (foldCase_of_denoteSame h hp hq)

lemma denotesBelow_of_process (h : s.processEquivalentPath appid p q true = true) :
    s.DenotesBelow appid p q ∧ ¬ IsAnyPath appid p ∧ ¬ IsAnyPath appid q ∧
      (s.DenoteSame appid p q ∨ GoesOnWithTwoSlashes appid p q) := by
  obtain ⟨t, ht, hp, hq, hcut⟩ := processSubdir_iff.mp h
  refine ⟨⟨t, _, _, denotes_of_type ht hp, denotes_of_type ht hq, ?_⟩,
    isAnyPath_of_type ht hp, isAnyPath_of_type ht hq, ?_⟩
  · refine splitOn_prefix_iff.mpr (hcut.imp_right fun hstarts => ?_)
    -- the first of the two slashes is what the components need
    have hone : storagePathKey t (storagePathText appid p) ++ [0x2F] <+:
        storagePathKey t (storagePathText appid p) ++ [0x2F, 0x2F] := ⟨[0x2F], by simp⟩
    refine List.prefix_of_prefix_length_le (hone.trans hstarts) (List.prefix_append ..) ?_
    have hlen := hstarts.length_le
    simp only [List.length_append, List.length_cons, List.length_nil] at hlen ⊢
    omega
  · rcases hcut with heq | hstarts
    · exact .inl ⟨_, denotes_of_type ht hp, by rw [heq]; exact denotes_of_type ht hq⟩
    · exact .inr ⟨t, hp, hstarts⟩

lemma process_of_denotesBelow (h : s.DenotesBelow appid p q) (hp : ¬ IsAnyPath appid p)
    (hq : ¬ IsAnyPath appid q)
    (hwritten : s.DenoteSame appid p q ∨ GoesOnWithTwoSlashes appid p q) :
    s.processEquivalentPath appid p q true = true := by
  refine processSubdir_iff.mpr ?_
  rcases hwritten with hsame | ⟨u, hu, hstarts⟩
  · obtain ⟨t, ht, htp, htq, heq⟩ := foldCase_of_denoteSame hsame hp hq
    exact ⟨t, ht, htp, htq, .inl heq⟩
  · obtain ⟨t, cs, ds, hdp, hdq, -⟩ := h
    obtain ⟨ht, htp, -⟩ := type_of_denotes hdp hp
    obtain ⟨-, htq, -⟩ := type_of_denotes hdq hq
    obtain rfl : t = u := Option.some.inj (htp.symm.trans hu)
    exact ⟨t, ht, htp, htq, .inr hstarts⟩

/-- `storage_common_equivalent_path` is right unless the paths denote the same and one of them is
below `/any`. `storage_common_is_subdir` is right unless the child is the parent or lies below it and
one of them is below `/any`, or the child lies strictly below the parent and is not written with
two slashes behind it. -/
theorem storageCommonEquivalentPath_and_isSubdir {κ : Type} [DecidableEq κ] (e : StorageCaller κ)
    (p q : CPath) :
    ((e.storageCommonEquivalentPath p q = true ↔ e.service.DenoteSame e.appid p q) ↔
      (e.service.DenoteSame e.appid p q → ¬ IsAnyPath e.appid p ∧ ¬ IsAnyPath e.appid q)) ∧
    ((e.storageCommonIsSubdir p q = true ↔ e.service.DenotesBelow e.appid p q) ↔
      (e.service.DenotesBelow e.appid p q → ¬ IsAnyPath e.appid p ∧ ¬ IsAnyPath e.appid q ∧
        (e.service.DenoteSame e.appid p q ∨ GoesOnWithTwoSlashes e.appid p q))) := by
  refine ⟨⟨fun h hsame => ?_, fun h => ⟨fun hp => ?_, fun hsame => ?_⟩⟩,
    ⟨fun h hbelow => ?_, fun h => ⟨fun hp => ?_, fun hbelow => ?_⟩⟩⟩
  · exact (denoteSame_of_process (h.mpr hsame)).2
  · exact (denoteSame_of_process hp).1
  · exact process_of_denoteSame hsame (h hsame).1 (h hsame).2
  · exact (denotesBelow_of_process (h.mpr hbelow)).2
  · exact (denotesBelow_of_process hp).1
  · obtain ⟨hp, hq, hwritten⟩ := h hbelow
    exact process_of_denotesBelow hbelow hp hq hwritten

def storagePathCaller : StorageCaller CardName where
  service := .init fun _ => .ok
  appid := [0x61]
  key name := name
  answers _ := .ok

/-- `/ext/a/b` lies below `/ext/a` and is not found to be a subdirectory of it; `/any/a` is not found
to be equivalent to itself. -/
theorem not_storageCommonIsSubdir_child :
    storagePathCaller.storageCommonIsSubdir (cBytes ['/', 'e', 'x', 't', '/', 'a'])
        (cBytes ['/', 'e', 'x', 't', '/', 'a', '/', 'b']) = false ∧
      storagePathCaller.service.DenotesBelow storagePathCaller.appid
        (cBytes ['/', 'e', 'x', 't', '/', 'a'])
        (cBytes ['/', 'e', 'x', 't', '/', 'a', '/', 'b']) ∧
      storagePathCaller.storageCommonEquivalentPath (cBytes ['/', 'a', 'n', 'y', '/', 'a'])
        (cBytes ['/', 'a', 'n', 'y', '/', 'a']) = false ∧
      storagePathCaller.service.DenoteSame storagePathCaller.appid
        (cBytes ['/', 'a', 'n', 'y', '/', 'a']) (cBytes ['/', 'a', 'n', 'y', '/', 'a']) := by
  refine ⟨by decide, ⟨.ext, [[], [0x65, 0x78, 0x74], [0x61]],
    [[], [0x65, 0x78, 0x74], [0x61], [0x62]], by decide, by decide, by decide⟩, by decide,
    ⟨(.ext, [[], [0x65, 0x78, 0x74], [0x61]]), by decide, by decide⟩⟩

end FlipperZero
