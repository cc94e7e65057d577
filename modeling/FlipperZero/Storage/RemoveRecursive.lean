import FlipperZero.Toolbox.DirWalkIter

/-!
# Removing a directory with all that it holds

`storage_simply_remove_recursive` opens a directory again after each directory that it has removed
below it. The names it reads go into a buffer of `removeMaxNameLength` bytes, so a longer name is
cut, and what the shorter name means is something else. A name that is not in the code page is read
as a question mark, which means nothing.
-/

namespace FlipperZero

open Foundation

namespace StorageCaller

variable {κ : Type} [DecidableEq κ] (e : StorageCaller κ)

/-- `MAX_NAME_LENGTH` of the buffer of `storage_simply_remove_recursive`. -/
def removeMaxNameLength : Nat := 254

/-- The inner loop of `storage_simply_remove_recursive`: remove files up to the first directory,
and tell its name. A file that cannot be removed stops the device. -/
def storageRemoveFiles : Nat → CPath → StorageDir →
    Program (StorageWorld e.key) (Option (List UInt8) × StorageDir)
  | 0, _, _                 => .stop
  | rounds + 1, curDir, dir => do
    let (entry, dir) ← e.storageDirRead dir
    match entry with
    | none               => pure (none, dir)
    | some (isDir, name) =>
      let name := name.take (removeMaxNameLength - 1)
      if isDir then pure (some name, dir)
      else do
        let error ← e.storageCommonRemove (entryPath curDir name)
        if error = .ok then storageRemoveFiles rounds curDir dir else .stop

/-- The outer loop of `storage_simply_remove_recursive`. -/
def storageRemoveLoop : Nat → CPath → CPath → Program (StorageWorld e.key) Bool
  | 0, _, _                  => .stop
  | rounds + 1, path, curDir => do
    let dir ← e.storageDirOpen curDir
    if dir.errorId ≠ .ok then do
      e.storageDirClose dir
      pure false
    else do
      let (name, dir) ← e.storageRemoveFiles rounds curDir dir
      e.storageDirClose dir
      match name with
      | some name => storageRemoveLoop rounds path (entryPath curDir name)
      | none      => do
        let error ← e.storageCommonRemove curDir
        if error ≠ .ok then .stop
        else if curDir = path then pure true
        else storageRemoveLoop rounds path (pathParent curDir)

def storageSimplyRemoveRecursive (rounds : Nat) (path : CPath) :
    Program (StorageWorld e.key) Bool := do
  let removed ← e.storageSimplyRemove path
  if removed then pure true else e.storageRemoveLoop rounds path path

end StorageCaller

/-! ### What is removed -/

/-- The cards. -/
abbrev Cards {κ : Type} (key : CardName → κ) : Type :=
  StorageType → FileTree CardName κ (List UInt8) key

variable {κ : Type} {key : CardName → κ}

/-- Some of what lies below a directory is removed, and nothing else. -/
structure RemovesBelow (p : CardPlace) (c c' : Cards key) : Prop where
  others : ∀ t, t ≠ p.type → c' t = c t
  tree : FileTree.RemovesBelow (p.names.map key) (c p.type) (c' p.type)

/-- The entry of a directory and all that lies below it is removed, and nothing else. -/
structure RemovesAt [DecidableEq κ] (p : CardPlace) (name : CardName) (c c' : Cards key) :
    Prop where
  others : ∀ t, t ≠ p.type → c' t = c t
  tree : FileTree.RemovesAt (p.names.map key) (key name) (c p.type) (c' p.type)

variable {p : CardPlace} {name : CardName} {c c' c'' : Cards key}

lemma RemovesBelow.refl (p : CardPlace) (c : Cards key) : RemovesBelow p c c where
  others _ _ := rfl
  tree := .refl _ _

lemma RemovesBelow.trans (h : RemovesBelow p c c') (h' : RemovesBelow p c' c'') :
    RemovesBelow p c c'' where
  others t ht := (h'.others t ht).trans (h.others t ht)
  tree := h.tree.trans h'.tree

lemma RemovesAt.below [DecidableEq κ] (h : RemovesAt p name c c') : RemovesBelow p c c' where
  others := h.others
  tree := h.tree.below

lemma RemovesBelow.removesAt [DecidableEq κ] (h : RemovesBelow (p.entry name) c c')
    (h' : RemovesAt p name c' c'') : RemovesAt p name c c'' where
  others t ht := (h'.others t ht).trans (h.others t ht)
  tree := by
    have htree := h.tree
    rw [CardPlace.entry, List.map_append, List.map_singleton] at htree
    exact htree.removesAt h'.tree

namespace StorageWorld

variable [DecidableEq κ] {w : StorageWorld key}

lemma names_reverse_entry (p : CardPlace) (name : CardName) :
    (p.entry name).names.reverse = name :: p.names.reverse := by
  rw [CardPlace.entry, List.reverse_append, List.reverse_singleton, List.singleton_append]

lemma remove_entry_eq (w : StorageWorld key) (p : CardPlace) (name : CardName)
    (hempty : ∀ x ∈ (w.cards p.type).slots (p.names.map key ++ [key name]), x = none) :
    w.remove (p.entry name) =
      w.setCard p.type ((w.cards p.type).remove (p.names.map key) (key name) hempty) := by
  unfold remove
  rw [names_reverse_entry]
  simp only [List.reverse_reverse]
  exact dif_pos hempty

lemma remove_full (w : StorageWorld key) (p : CardPlace) (name : CardName)
    (hfull : ¬∀ x ∈ (w.cards p.type).slots (p.names.map key ++ [key name]), x = none) :
    w.remove (p.entry name) = w := by
  unfold remove
  rw [names_reverse_entry]
  simp only [List.reverse_reverse]
  exact dif_neg hfull

lemma remove_entry (w : StorageWorld key) (p : CardPlace) (name : CardName)
    (hempty : ∀ x ∈ (w.cards p.type).slots (p.names.map key ++ [key name]), x = none) :
    RemovesAt p name w.cards (w.remove (p.entry name)).cards ∧
      (w.remove (p.entry name)).opened = w.opened := by
  rw [w.remove_entry_eq p name hempty]
  refine ⟨⟨fun t ht => Function.update_of_ne ht _ _, ?_⟩, rfl⟩
  simp only [setCard, Function.update_self]
  exact FileTree.remove_removesAt hempty

end StorageWorld

namespace StorageCaller

variable [DecidableEq κ] (e : StorageCaller κ)

/-- A place can be removed with all below it: nothing lies deeper below it than `depth`, the names
are in the code page and fit into the buffer, and no path there is open. -/
structure Removable (w : StorageWorld e.key) (depth : Nat) (r : StorageType × CPath)
    (p : CardPlace) : Prop where
  finite : ∀ l : List CardName, depth < l.length → w.node (p.below l) = none
  names : ∀ (l : List CardName) (name : CardName), some name ∈ e.slotsOf w (p.below l) →
    name.isOem = true ∧ name.length < removeMaxNameLength
  closed : ∀ l : List CardName,
    (r.1, l.foldl (fun path name => entryPath path name.val) r.2) ∉ w.opened

variable {e} {w w' : StorageWorld e.key} {r : StorageType × CPath} {q path : CPath} {depth : Nat}

omit [DecidableEq κ] in
lemma Removable.entry (h : e.Removable w (depth + 1) r p) (name : CardName) :
    e.Removable w depth (r.1, entryPath r.2 name.val) (p.entry name) := by
  refine ⟨fun l hl => ?_, fun l name' hname => ?_, fun l => h.closed (name :: l)⟩
  · rw [CardPlace.entry_below]
    exact h.finite _ (Nat.succ_lt_succ hl)
  · rw [CardPlace.entry_below] at hname
    exact h.names _ _ hname

omit [DecidableEq κ] in
/-- What can be removed can still be removed when something is gone. -/
lemma Removable.mono (h : e.Removable w depth r p) (hopened : w'.opened = w.opened)
    (hkept : (w'.cards p.type).Extends (w.cards p.type)) : e.Removable w' depth r p := by
  refine ⟨fun l hl => ?_, fun l name hname => ?_, fun l => hopened ▸ h.closed l⟩
  · cases hn : w'.node (p.below l) with
    | none => rfl
    | some n => cases (hkept.node _ n hn).symm.trans (h.finite l hl)
  · obtain ⟨i, hi⟩ := List.mem_iff_getElem?.mp hname
    exact h.names l name (List.mem_of_getElem? (hkept.slots _ i name hi))

omit [DecidableEq κ] in
lemma isSome_of_slot {i : Nat} (h : (e.slotsOf w p)[i]? = some (some name)) :
    (w.node (p.entry name)).isSome := by
  have hsome := ((w.cards p.type).isSome_iff (p.names.map e.key) (e.key name)).mpr
    ⟨name, List.mem_of_getElem? h, rfl⟩
  rw [StorageWorld.node, CardPlace.entry, List.map_append, List.map_singleton]
  exact hsome

omit [DecidableEq κ] in
lemma slotsOf_entry (w : StorageWorld e.key) (p : CardPlace) (name : CardName) :
    e.slotsOf w (p.entry name) = (w.cards p.type).slots (p.names.map e.key ++ [e.key name]) := by
  rw [slotsOf, CardPlace.entry, List.map_append, List.map_singleton]

lemma storageCommonRemove_returns (hok : e.NoFailures) (hpath : e.PathOf q r (p.entry name))
    (hclosed : r ∉ w.opened) (hempty : ∀ x ∈ e.slotsOf w (p.entry name), x = none) :
    ∃ w', (e.storageCommonRemove q).Returns w
        (if (w.node (p.entry name)).isSome then .ok else .notExist) w' ∧
      RemovesAt p name w.cards w'.cards ∧ w'.opened = w.opened := by
  have hanswer : (e.answer w).error = .ok := hok _
  have hcontains : (e.service.resolve q e.appid).any (fun r => w.opened.contains r) = false := by
    rw [hpath.resolve, Option.any_some]
    simpa using hclosed
  have herror : e.removeError w (p.entry name) =
      if (w.node (p.entry name)).isSome then .ok else .notExist := by
    have hnames : (p.entry name).names ≠ [] := by simp [CardPlace.entry]
    unfold removeError
    rw [if_neg hnames]
    cases w.node (p.entry name) with
    | none => rfl
    | some n => exact if_pos hempty
  obtain ⟨hremoves, hopened⟩ := w.remove_entry p name (slotsOf_entry w p name ▸ hempty)
  refine ⟨(w.remove (p.entry name)).record .other, ?_, hremoves, hopened⟩
  unfold Program.Returns storageCommonRemove Program.operation
  simp only [hcontains, hpath.find, hanswer, herror]
  cases (w.node (p.entry name)).isSome <;> rfl

/-! ### The inner loop -/

/-- Where the inner loop leaves a directory: it is empty, or its first entry is a directory. -/
def FilesRemoved (e : StorageCaller κ) (w : StorageWorld e.key) (p : CardPlace) :
    Option CardName → Prop
  | none      => ∀ x ∈ e.slotsOf w p, x = none
  | some name => w.node (p.entry name) = some .dir ∧
    ∃ i : Nat, (e.slotsOf w p)[i]? = some (some name) ∧ FreeBefore (e.slotsOf w p) i

omit [DecidableEq κ] in
lemma take_of_short (hoem : name.isOem = true) (hshort : name.length < removeMaxNameLength) :
    name.val.take (removeMaxNameLength - 1) = name.val := by
  refine List.take_of_length_le ?_
  rw [CardName.val_length_of_isOem hoem]
  exact Nat.le_pred_of_lt hshort

omit [DecidableEq κ] in
lemma take_of_unicode (hname : name.isOem = false) :
    name.val.take (removeMaxNameLength - 1) = name.val := by
  cases name with
  | oem name => cases hname
  | unicode name => rfl

lemma storageRemoveFiles_returns (hok : e.NoFailures) (hpath : e.PathOf q r p) (m pos : Nat)
    (w : StorageWorld e.key)
    (hnames : ∀ name, some name ∈ e.slotsOf w p →
      name.isOem = true ∧ name.length < removeMaxNameLength)
    (hclosed : ∀ name : CardName, (r.1, entryPath r.2 name.val) ∉ w.opened)
    (hm : (e.slotsOf w p).length - pos ≤ m)
    (hbefore : FreeBefore (e.slotsOf w p) pos) :
    ∃ (found : Option CardName) (dir : StorageDir) (w' : StorageWorld e.key),
      (∀ rounds, m < rounds → (e.storageRemoveFiles rounds q (openedAt r p pos)).Returns w
        (found.map CardName.val, dir) w') ∧
      dir.path = some r ∧ w'.opened = w.opened ∧ RemovesBelow p w.cards w'.cards ∧
      e.FilesRemoved w' p found := by
  induction m using Nat.strong_induction_on generalizing pos w with
  | _ m ih =>
    cases hnext : nextEntry (e.slotsOf w p) pos with
    | none =>
      refine ⟨none, ⟨some r, some (p, pos), .notExist⟩, w.record .other, fun rounds hr => ?_, rfl,
        rfl, .refl _ _, hbefore.all_none hnext⟩
      obtain ⟨rounds, rfl⟩ : ∃ n, rounds = n + 1 := ⟨rounds - 1, by omega⟩
      rw [storageRemoveFiles]
      exact (storageDirRead_none hok hnext).bind rfl
    | some found =>
      obtain ⟨name, j⟩ := found
      have hread := storageDirRead_some (r := r) hok hnext
      obtain ⟨i, hpos, rfl, hi, hbetween⟩ := nextEntry_some hnext
      have hlt := (List.getElem?_eq_some_iff.mp hi).1
      have hfree : FreeBefore (e.slotsOf w p) i := by
        intro k name hk
        rcases Nat.lt_or_ge k pos with hlt | hge
        · exact hbefore k name hlt
        · exact hbetween k name hge hk
      obtain ⟨hoem, hshort⟩ := hnames name (List.mem_of_getElem? hi)
      have htake := take_of_short hoem hshort
      by_cases hdir : w.node (p.entry name) = some .dir
      · refine ⟨some name, openedAt r p (i + 1), w.record (.dirEntry name.val.length),
          fun rounds hr => ?_, rfl, rfl, .refl _ _, hdir, i, hi, hfree⟩
        obtain ⟨rounds, rfl⟩ : ∃ n, rounds = n + 1 := ⟨rounds - 1, by omega⟩
        rw [storageRemoveFiles]
        refine hread.bind ?_
        simp only [decide_eq_true hdir, if_true, htake]
        rfl
      · have hempty : ∀ x ∈ e.slotsOf w (p.entry name), x = none :=
          FileTree.slots_of_node_ne_dir hdir
        obtain ⟨w₁, hremove, hremoves, hopened⟩ := storageCommonRemove_returns
          (w := w.record (.dirEntry name.val.length)) hok (hpath.entry hoem) (hclosed name) hempty
        have hsome : ((w.record (.dirEntry name.val.length)).node (p.entry name)).isSome :=
          isSome_of_slot hi
        rw [if_pos hsome] at hremove
        have hlength : (e.slotsOf w₁ p).length = (e.slotsOf w p).length :=
          hremoves.below.tree.length
        obtain ⟨found, dir, w', hrun, hdirPath, hopened', hbelow, hfound⟩ := ih (m - 1) (by omega)
          (i + 1) w₁
          (fun name' hname' => by
            obtain ⟨k, hk⟩ := List.mem_iff_getElem?.mp hname'
            exact hnames name' (List.mem_of_getElem? (hremoves.tree.slot hk).1))
          (fun name' => hopened ▸ hclosed name') (by omega)
          (hremoves.tree.freeBefore hi rfl hfree)
        refine ⟨found, dir, w', fun rounds hr => ?_, hdirPath, hopened'.trans hopened,
          hremoves.below.trans hbelow, hfound⟩
        obtain ⟨rounds, rfl⟩ : ∃ n, rounds = n + 1 := ⟨rounds - 1, by omega⟩
        rw [storageRemoveFiles]
        refine hread.bind ?_
        simp only [decide_eq_false hdir, htake]
        exact hremove.bind (hrun rounds (by omega))

/-! ### The outer loop -/

/-- The loop gets behind the removal of a directory, with as many rounds left as are asked for. -/
def RemovesDir (e : StorageCaller κ) (path q : CPath) (w w' : StorageWorld e.key) : Prop :=
  ∀ least, ∃ enough, ∀ rounds, enough ≤ rounds → ∃ rest, least ≤ rest ∧
    e.storageRemoveLoop rounds path q w =
      (if q = path then pure true else e.storageRemoveLoop rest path (pathParent q)) w'

lemma storageRemoveLoop_round (hok : e.NoFailures) (path : CPath) (hpath : e.PathOf q r p)
    (hdir : w.node p = some .dir) (hremovable : e.Removable w depth r p) :
    ∃ (found : Option CardName) (w' : StorageWorld e.key),
      (∀ rounds, (e.slotsOf w p).length < rounds →
        e.storageRemoveLoop (rounds + 1) path q w =
          (match found with
            | some name => e.storageRemoveLoop rounds path (entryPath q name.val)
            | none      => do
              let error ← e.storageCommonRemove q
              if error ≠ FSError.ok then .stop
              else if q = path then pure true
              else e.storageRemoveLoop rounds path (pathParent q)) w') ∧
      w'.opened = w.opened ∧ RemovesBelow p w.cards w'.cards ∧
      e.FilesRemoved w' p found := by
  have hopen := storageDirOpen_returns hok hpath hdir (hremovable.closed [])
  have hslots : e.slotsOf { w.record .other with opened := r :: w.opened } p = e.slotsOf w p := rfl
  obtain ⟨found, dir, w₁, hfiles, hdirPath, hopened, hbelow, hfound⟩ :=
    storageRemoveFiles_returns hok hpath (e.slotsOf w p).length 0
      { w.record .other with opened := r :: w.opened }
      (fun name hname => hremovable.names [] name (by rw [CardPlace.below_nil]; exact hname))
      (fun name hmem => by
        rcases List.mem_cons.mp hmem with heq | hmem
        · have hlength := congrArg (fun x : StorageType × CPath => x.2.length) heq
          simp only [entryPath, List.length_append, List.length_cons] at hlength
          omega
        · exact hremovable.closed [name] hmem)
      (by rw [hslots]; exact Nat.sub_le _ _) (.zero _)
  have hclose := storageDirClose_returns (e := e) (w := w₁) hdirPath hopened
  refine ⟨found, { w₁.record .other with opened := w.opened }, fun rounds hr => ?_, rfl, hbelow,
    hfound⟩
  have hopened₀ : ¬(openedAt r p 0).errorId ≠ .ok := fun h => h rfl
  rw [storageRemoveLoop, hopen.bind_eq, if_neg hopened₀, (hfiles rounds hr).bind_eq]
  dsimp only
  rw [hclose.bind_eq]
  cases found <;> rfl

/-- From a directory with no entry before a slot the loop removes the directory, when it removes the
directories in it. -/
lemma RemovesDir.fromSlot (hok : e.NoFailures) (hpath : e.PathOf q r (p.entry name))
    (hlength : path.length ≤ q.length)
    (hchild : ∀ (child : CardName) (w₁ : StorageWorld e.key), child.isOem = true →
      e.Removable w₁ depth r (p.entry name) →
      w₁.node ((p.entry name).entry child) = some .dir →
      ∃ w₂, e.RemovesDir path (entryPath q child.val) w₁ w₂ ∧
        RemovesAt (p.entry name) child w₁.cards w₂.cards ∧ w₂.opened = w₁.opened)
    (m pos : Nat) (w : StorageWorld e.key) (hdir : w.node (p.entry name) = some .dir)
    (hremovable : e.Removable w depth r (p.entry name))
    (hm : (e.slotsOf w (p.entry name)).length - pos ≤ m)
    (hbefore : FreeBefore (e.slotsOf w (p.entry name)) pos) :
    ∃ w', e.RemovesDir path q w w' ∧ RemovesAt p name w.cards w'.cards ∧
      w'.opened = w.opened := by
  induction m using Nat.strong_induction_on generalizing pos w with
  | _ m ih =>
    obtain ⟨found, w₁, hround, hopened, hbelow, hfound⟩ :=
      storageRemoveLoop_round hok path hpath hdir hremovable
    have hremovable₁ := hremovable.mono hopened hbelow.tree.kept
    have hself (k : κ) (rest : List κ) :
        (p.entry name).names.map e.key ≠ (p.entry name).names.map e.key ++ k :: rest := by simp
    cases found with
    | none =>
      have hdir₁ : w₁.node (p.entry name) = some .dir := (hbelow.tree.node _ hself).trans hdir
      obtain ⟨w₂, hremove, hremoves, hopened₂⟩ :=
        storageCommonRemove_returns hok hpath (hopened ▸ hremovable.closed []) hfound
      rw [hdir₁] at hremove
      refine ⟨w₂, fun least => ⟨max least (e.slotsOf w (p.entry name)).length + 2,
        fun rounds hr => ?_⟩, hbelow.removesAt hremoves, hopened₂.trans hopened⟩
      obtain ⟨rounds, rfl⟩ : ∃ n, rounds = n + 1 := ⟨rounds - 1, by omega⟩
      exact ⟨rounds, by omega, (hround rounds (by omega)).trans hremove.bind_eq⟩
    | some child =>
      obtain ⟨hchildDir, i, hi, hfree⟩ := hfound
      have hoem : child.isOem = true := by
        refine (hremovable₁.names [] child ?_).1
        rw [CardPlace.below_nil]
        exact List.mem_of_getElem? hi
      obtain ⟨w₂, hleads, hremoves, hopened₂⟩ := hchild child w₁ hoem hremovable₁ hchildDir
      have hbelow₂ := hbelow.trans hremoves.below
      have hlt := (List.getElem?_eq_some_iff.mp hi).1
      have hlength₁ : (e.slotsOf w₁ (p.entry name)).length =
          (e.slotsOf w (p.entry name)).length := hbelow.tree.length
      have hlength₂ : (e.slotsOf w₂ (p.entry name)).length =
          (e.slotsOf w (p.entry name)).length := hbelow₂.tree.length
      have hpos : pos ≤ i := by
        by_contra hlt
        exact hbefore i child (Nat.not_le.mp hlt) (hbelow.tree.kept.slots _ i child hi)
      obtain ⟨w', hrest, hremoves', hopened'⟩ := ih (m - 1) (by omega) (i + 1) w₂
        ((hbelow₂.tree.node _ hself).trans hdir)
        (hremovable.mono (hopened₂.trans hopened) hbelow₂.tree.kept) (by omega)
        (hremoves.tree.freeBefore hi rfl hfree)
      refine ⟨w', fun least => ?_, hbelow₂.removesAt hremoves',
        hopened'.trans (hopened₂.trans hopened)⟩
      obtain ⟨enough', hrest⟩ := hrest least
      obtain ⟨enough, hleads⟩ := hleads enough'
      refine ⟨max enough (e.slotsOf w (p.entry name)).length + 2, fun rounds hr => ?_⟩
      obtain ⟨rounds, rfl⟩ : ∃ n, rounds = n + 1 := ⟨rounds - 1, by omega⟩
      obtain ⟨rest, hle, heq⟩ := hleads rounds (by omega)
      obtain ⟨rest', hle', heq'⟩ := hrest rest hle
      have hne : entryPath q child.val ≠ path := fun heq => by
        have hlength := congrArg List.length heq
        rw [entryPath, List.length_append, List.length_cons] at hlength
        omega
      refine ⟨rest', hle', (hround rounds (by omega)).trans ?_⟩
      simp only
      rw [heq, if_neg hne, pathParent_entryPath, heq']

lemma storageRemoveLoop_removes (hok : e.NoFailures) (path : CPath) (depth : Nat)
    (w : StorageWorld e.key) (hpath : e.PathOf q r (p.entry name))
    (hlength : path.length ≤ q.length) (hdir : w.node (p.entry name) = some .dir)
    (hremovable : e.Removable w depth r (p.entry name)) :
    ∃ w', e.RemovesDir path q w w' ∧ RemovesAt p name w.cards w'.cards ∧
      w'.opened = w.opened := by
  induction depth generalizing q r p name w with
  | zero =>
    refine RemovesDir.fromSlot hok hpath hlength (fun child w₁ hoem hremovable₁ hchild => ?_) _ 0 w
      hdir hremovable (Nat.le_refl _) (.zero _)
    have hnone := hremovable₁.finite [child] Nat.zero_lt_one
    cases hnone.symm.trans hchild
  | succ depth ih =>
    refine RemovesDir.fromSlot hok hpath hlength (fun child w₁ hoem hremovable₁ hchild => ?_) _ 0 w
      hdir hremovable (Nat.le_refl _) (.zero _)
    refine ih w₁ (hpath.entry hoem) ?_ hchild (hremovable₁.entry child)
    rw [entryPath, List.length_append]
    omega

/-! ### The function -/

lemma storageCommonRemove_denied (hok : e.NoFailures) (hpath : e.PathOf q r (p.entry name))
    (hclosed : r ∉ w.opened) (hfull : ¬∀ x ∈ e.slotsOf w (p.entry name), x = none) :
    (e.storageCommonRemove q).Returns w .denied (w.record .other) ∧
      w.node (p.entry name) = some .dir := by
  have hdir : w.node (p.entry name) = some .dir := by
    by_contra hdir
    exact hfull (FileTree.slots_of_node_ne_dir hdir)
  refine ⟨?_, hdir⟩
  have hanswer : (e.answer w).error = .ok := hok _
  have hcontains : (e.service.resolve q e.appid).any (fun r => w.opened.contains r) = false := by
    rw [hpath.resolve, Option.any_some]
    simpa using hclosed
  have herror : e.removeError w (p.entry name) = .denied := by
    have hnames : (p.entry name).names ≠ [] := by simp [CardPlace.entry]
    unfold removeError
    rw [if_neg hnames, hdir]
    exact if_neg hfull
  rw [slotsOf_entry] at hfull
  unfold Program.Returns storageCommonRemove Program.operation
  simp only [hcontains, hpath.find, hanswer, herror, w.remove_full p name hfull]
  rfl

/-- `storage_simply_remove_recursive` returns true, and removes what lies at and below a path and
nothing else. -/
def RemovesTree (e : StorageCaller κ) (w : StorageWorld e.key) (path : CPath) (p : CardPlace)
    (name : CardName) : Prop :=
  ∃ w', (∃ enough, ∀ rounds, enough ≤ rounds →
      (e.storageSimplyRemoveRecursive rounds path).Returns w true w') ∧
    RemovesAt p name w.cards w'.cards ∧ w'.opened = w.opened

lemma Removable.removesTree (hok : e.NoFailures) (hpath : e.PathOf path r (p.entry name))
    (hremovable : e.Removable w depth r (p.entry name)) : e.RemovesTree w path p name := by
  have hclosed : r ∉ w.opened := hremovable.closed []
  by_cases hempty : ∀ x ∈ e.slotsOf w (p.entry name), x = none
  · -- the first attempt is enough
    obtain ⟨w', hremove, hremoves, hopened⟩ :=
      storageCommonRemove_returns hok hpath hclosed hempty
    refine ⟨w', ⟨0, fun rounds _ => ?_⟩, hremoves, hopened⟩
    refine Program.Returns.bind (hremove.bind (Program.returns_pure _ _)) ?_
    cases (w.node (p.entry name)).isSome <;> rfl
  · obtain ⟨hdenied, hdir⟩ := storageCommonRemove_denied hok hpath hclosed hempty
    obtain ⟨w', hleads, hremoves, hopened⟩ := storageRemoveLoop_removes hok path depth
      (w.record .other) hpath (Nat.le_refl _) hdir (hremovable.mono rfl (.refl _))
    obtain ⟨enough, hleads⟩ := hleads 0
    refine ⟨w', ⟨enough, fun rounds hr => ?_⟩, hremoves, hopened⟩
    obtain ⟨rest, -, heq⟩ := hleads rounds hr
    refine Program.Returns.bind (hdenied.bind (Program.returns_pure _ _)) ?_
    exact heq.trans (by rw [if_pos rfl]; rfl)

/-! ### What the loop keeps -/

omit [DecidableEq κ] in
lemma followPath_of_find {place : CardPlace} (h : e.find w q = .ok place) :
    e.followPath q = some (place, true) := by
  unfold StorageCaller.find at h
  split at h
  · cases h
  · rename_i heq
    cases h
    exact heq
  · cases h

/-- An invariant of the removal, and the paths it works on: the path it was given, and what it makes
of the names it reads. -/
structure LoopKeeps (e : StorageCaller κ) (path : CPath) (I : StorageWorld e.key → Prop)
    (P : CPath → Prop) : Prop where
  cards : ∀ {w w' : StorageWorld e.key}, I w → w'.cards = w.cards → I w'
  remove : ∀ {q : CPath} {w : StorageWorld e.key} {place : CardPlace}, P q → I w →
    e.find w q = .ok place → I (w.remove place)
  start : P path
  parent : ∀ {q : CPath}, P q → q ≠ path → P (pathParent q)
  entry : ∀ {q : CPath} {w : StorageWorld e.key} {place : CardPlace} {child : CardName}, P q →
    I w → e.followPath q = some (place, true) → some child ∈ e.slotsOf w place →
    P (entryPath q (child.val.take (removeMaxNameLength - 1)))

/-- A directory was opened with a path. -/
def ReadAt (e : StorageCaller κ) (q : CPath) (f : StorageDir) : Prop :=
  ∀ place pos, f.dir = some (place, pos) → e.followPath q = some (place, true)

namespace LoopKeeps

variable {I : StorageWorld e.key → Prop} {P : CPath → Prop} (h : e.LoopKeeps path I P)

include h

lemma storageCommonRemove (hq : P q) : (e.storageCommonRemove q).Keeps I fun _ => True := by
  refine .operation fun w hw => ⟨?_, trivial⟩
  by_cases hopen : (e.service.resolve q e.appid).any (fun r => w.opened.contains r) = true
  · rw [if_pos hopen]
    exact h.cards hw rfl
  · rw [if_neg hopen]
    cases hfind : e.find w q with
    | error error => exact h.cards hw rfl
    | ok place =>
      have hremove := h.remove hq hw hfind
      dsimp only
      split_ifs
      · exact h.cards hremove rfl
      · exact h.cards hw rfl

lemma storageDirClose (f : StorageDir) : (e.storageDirClose f).Keeps I fun _ => True := by
  refine .operation fun w hw => ⟨?_, trivial⟩
  cases f.path with
  | none => exact hw
  | some r => exact h.cards hw rfl

lemma storageDirOpen (q : CPath) : (e.storageDirOpen q).Keeps I (e.ReadAt q) := by
  intro w hw
  unfold Program.Returns StorageCaller.storageDirOpen
  cases e.service.resolve q e.appid with
  | none =>
    refine ⟨h.cards hw rfl, fun f w' hf => ?_⟩
    cases hf
    intro place pos hdir
    cases hdir
  | some r =>
    dsimp only
    by_cases hopen : w.opened.contains r = true
    · rw [if_pos hopen]
      refine ⟨hw, fun f w' hf => ?_⟩
      cases hf
    · rw [if_neg hopen]
      cases hfind : e.find w q with
      | error error =>
        refine ⟨h.cards hw rfl, fun f w' hf => ?_⟩
        cases hf
        intro place pos hdir
        cases hdir
      | ok place =>
        dsimp only
        split_ifs
        · refine ⟨h.cards hw rfl, fun f w' hf => ?_⟩
          cases hf
          intro place' pos hdir
          cases hdir
          exact followPath_of_find hfind
        · refine ⟨h.cards hw rfl, fun f w' hf => ?_⟩
          cases hf
          intro place' pos hdir
          cases hdir
        · refine ⟨h.cards hw rfl, fun f w' hf => ?_⟩
          cases hf
          intro place' pos hdir
          cases hdir

lemma storageDirRead (hq : P q) {f : StorageDir} (hf : e.ReadAt q f) :
    (e.storageDirRead f).Keeps I fun a => e.ReadAt q a.2 ∧ ∀ isDir text,
      a.1 = some (isDir, text) → P (entryPath q (text.take (removeMaxNameLength - 1))) := by
  refine .operation fun w hw => ?_
  have hnone {dir : StorageDir} (hdir : dir.dir = f.dir) {step : CardStep} :
      I (w.record step) ∧ e.ReadAt q dir ∧ ∀ isDir text,
        (none : Option (Bool × List UInt8)) = some (isDir, text) →
          P (entryPath q (text.take (removeMaxNameLength - 1))) := by
    refine ⟨h.cards hw rfl, fun place pos hplace => hf place pos (hdir ▸ hplace),
      fun isDir text heq => ?_⟩
    cases heq
  cases f.path with
  | none => exact hnone rfl
  | some r =>
    cases hdir : f.dir with
    | none => exact hnone hdir.symm
    | some found =>
      obtain ⟨place, pos⟩ := found
      dsimp only
      by_cases hfails : (e.answer w).error ≠ .ok
      · rw [if_pos hfails]
        exact hnone hdir.symm
      · rw [if_neg hfails]
        cases hnext : nextEntry ((w.cards place.type).slots (place.names.map e.key)) pos with
        | none => exact hnone hdir.symm
        | some next =>
          obtain ⟨child, j⟩ := next
          have hfollow := hf place pos hdir
          obtain ⟨i, -, -, hi, -⟩ := nextEntry_some hnext
          refine ⟨h.cards hw rfl, fun place' pos' hplace => ?_, fun isDir text heq => ?_⟩
          · cases hplace
            exact hfollow
          · cases heq
            exact h.entry hq hw hfollow (List.mem_of_getElem? hi)

lemma storageRemoveFiles (hq : P q) (rounds : Nat) {dir : StorageDir} (hdir : e.ReadAt q dir) :
    (e.storageRemoveFiles rounds q dir).Keeps I fun a => ∀ text, a.1 = some text →
      P (entryPath q text) := by
  induction rounds generalizing dir with
  | zero => exact .stop
  | succ rounds ih =>
    rw [StorageCaller.storageRemoveFiles]
    refine (h.storageDirRead hq hdir).bind ?_
    rintro ⟨entry, file⟩ ⟨hfile, hentry⟩
    cases entry with
    | none =>
      refine .pure fun text heq => ?_
      cases heq
    | some found =>
      obtain ⟨isDir, text⟩ := found
      have hchild := hentry isDir text rfl
      cases isDir with
      | true =>
        refine .pure fun text' heq => ?_
        cases heq
        exact hchild
      | false =>
        exact (h.storageCommonRemove hchild).bind fun error _ =>
          .ite (fun _ => ih hfile) fun _ => .stop

lemma storageRemoveLoop (hq : P q) (rounds : Nat) :
    (e.storageRemoveLoop rounds path q).Keeps I fun _ => True := by
  induction rounds generalizing q with
  | zero => exact .stop
  | succ rounds ih =>
    rw [StorageCaller.storageRemoveLoop]
    refine (h.storageDirOpen q).bind fun dir hdir => .ite
      (fun _ => (h.storageDirClose dir).bind fun _ _ => .pure trivial) fun _ => ?_
    refine (h.storageRemoveFiles hq rounds hdir).bind ?_
    rintro ⟨found, dir'⟩ hfound
    refine (h.storageDirClose dir').bind fun _ _ => ?_
    cases found with
    | some text => exact ih (hfound text rfl)
    | none =>
      exact (h.storageCommonRemove hq).bind fun error _ =>
        .ite (fun _ => .stop) fun _ => .ite (fun _ => .pure trivial) fun hne => ih (h.parent hq hne)

lemma storageSimplyRemoveRecursive (rounds : Nat) :
    (e.storageSimplyRemoveRecursive rounds path).Keeps I fun _ => True := by
  have hremove : (e.storageSimplyRemove path).Keeps I fun _ => True :=
    (h.storageCommonRemove h.start).bind fun _ _ => .pure trivial
  exact hremove.bind fun _ _ =>
    .ite (fun _ => .pure trivial) fun _ => h.storageRemoveLoop h.start rounds

end LoopKeeps

/-! ### Entries that are spared -/

/-- No entry was added below a place, and those with a name in `K` are still there. -/
structure Kept (e : StorageCaller κ) (K : CardName → Prop) (p : CardPlace)
    (w₀ w : StorageWorld e.key) : Prop where
  old : ∀ (l : List CardName) (child : CardName), some child ∈ e.slotsOf w (p.below l) →
    some child ∈ e.slotsOf w₀ (p.below l)
  kept : ∀ (l : List CardName) (child : CardName), K child →
    some child ∈ e.slotsOf w₀ (p.below l) → some child ∈ e.slotsOf w (p.below l)

variable {K : CardName → Prop} {w₀ : StorageWorld e.key}

omit [DecidableEq κ] in
lemma Kept.of_cards (h : e.Kept K p w₀ w) (hcards : w'.cards = w.cards) : e.Kept K p w₀ w' := by
  have hslots (place : CardPlace) : e.slotsOf w' place = e.slotsOf w place := by
    rw [slotsOf, hcards]
    rfl
  refine ⟨fun l child hchild => h.old l child ?_, fun l child hK hchild => ?_⟩
  · rw [← hslots]
    exact hchild
  · rw [hslots]
    exact h.kept l child hK hchild

lemma Kept.remove (h : e.Kept K p w₀ w) {dir : CardPlace} {name' : CardName}
    (hspared : dir.entry name' = p ∨ ∀ (l : List CardName) (child : CardName), K child →
      some child ∈ e.slotsOf w₀ (p.below l) → (p.below l).type = dir.type →
      (p.below l).names.map e.key = dir.names.map e.key → e.key child ≠ e.key name') :
    e.Kept K p w₀ (w.remove (dir.entry name')) := by
  by_cases hempty : ∀ x ∈ (w.cards dir.type).slots (dir.names.map e.key ++ [e.key name']), x = none
  · have hremoves := (w.remove_entry dir name' hempty).1
    refine ⟨fun l child hchild => h.old l child ?_, fun l child hK hchild => ?_⟩
    · by_cases htype : p.type = dir.type
      · obtain ⟨i, hi⟩ := List.mem_iff_getElem?.mp hchild
        unfold slotsOf at hi ⊢
        rw [show (p.below l).type = dir.type from htype] at hi ⊢
        exact List.mem_of_getElem? (hremoves.tree.kept.slots _ i child hi)
      · unfold slotsOf at hchild ⊢
        rw [hremoves.others (p.below l).type htype] at hchild
        exact hchild
    · have hkept := h.kept l child hK hchild
      rw [w.remove_entry_eq dir name' hempty]
      unfold slotsOf at hkept ⊢
      by_cases htype : (p.below l).type = dir.type
      · rw [htype] at hkept ⊢
        simp only [StorageWorld.setCard, Function.update_self, FileTree.remove]
        split_ifs with hslots
        · refine List.mem_map.mpr ⟨some child, hkept, ?_⟩
          rw [Option.bind_some, if_neg]
          rcases hspared with rfl | hspared
          · -- the entry is not below itself
            have hlength := congrArg List.length hslots
            simp only [CardPlace.below, CardPlace.entry, List.map_append, List.length_append,
              List.length_map, List.length_cons] at hlength
            omega
          · exact hspared l child hK hchild htype hslots
        · exact hkept
      · simp only [StorageWorld.setCard, Function.update_of_ne htype]
        exact hkept
  · rw [w.remove_full dir name' hempty]
    exact h

lemma RemovesTree.not_kept {P : CPath → Prop}
    (hloop : e.LoopKeeps path (e.Kept K (p.entry name) w) P) (h : e.RemovesTree w path p name)
    (l : List CardName) (child : CardName)
    (hchild : some child ∈ e.slotsOf w ((p.entry name).below l)) : ¬K child := by
  intro hK
  obtain ⟨w', ⟨enough, hrun⟩, hremoves, -⟩ := h
  have hkept := (hloop.storageSimplyRemoveRecursive enough).returns
    ⟨fun _ _ hmem => hmem, fun _ _ _ hmem => hmem⟩ (hrun enough (Nat.le_refl _))
  obtain ⟨i, hi⟩ := List.mem_iff_getElem?.mp (hkept.1.kept l child hK hchild)
  have hsome := isSome_of_slot hi
  have hnames : (((p.entry name).below l).entry child).names.map e.key =
      p.names.map e.key ++ e.key name :: (l ++ [child]).map e.key := by
    simp [CardPlace.entry, CardPlace.below]
  have hgone : w'.node (((p.entry name).below l).entry child) = none := by
    rw [StorageWorld.node, hnames]
    exact hremoves.tree.gone _
  rw [hgone] at hsome
  cases hsome

/-! ### Long names -/

/-- The paths of the loop: to the path it was given it appends names as they are in the buffer. -/
inductive CutPath (path : CPath) : CPath → Prop where
  | start : CutPath path path
  | entry {q : CPath} (h : CutPath path q) (name : CardName) :
    CutPath path (entryPath q (name.val.take (removeMaxNameLength - 1)))

omit [DecidableEq κ] in
lemma CutPath.parent (h : CutPath path q) (hne : q ≠ path) : CutPath path (pathParent q) := by
  cases h with
  | start => exact absurd rfl hne
  | entry h name =>
    rw [pathParent_append fun c hc => ne_slash_of_mem name (List.mem_of_mem_take hc)]
    exact h

omit [DecidableEq κ] in
lemma CutPath.resolve (hpath : e.PathOf path r p) (h : CutPath path q) :
    ∃ r', e.service.resolve q e.appid = some r' ∧ IsPrintable (r'.2.drop 4) := by
  induction h with
  | start => exact ⟨r, hpath.resolve, hpath.printable⟩
  | entry h name ih =>
    obtain ⟨r', hresolve, hprint⟩ := ih
    obtain ⟨hchild, hlength⟩ := StorageService.resolve_child hresolve
      (name.val.take (removeMaxNameLength - 1))
    refine ⟨_, hchild, ?_⟩
    rw [List.drop_append_of_le_length hlength]
    intro c hc
    rcases List.mem_append.mp hc with hc | hc
    · exact hprint c hc
    · rcases List.mem_cons.mp hc with rfl | hc
      · decide
      · exact (name.readable (List.mem_of_mem_take hc)).2

omit [DecidableEq κ] in
lemma CutPath.find (hpath : e.PathOf path r p) (h : CutPath path q) {place : CardPlace}
    (hfind : e.find w q = .ok place) :
    place = p ∨ ∃ (dir : CardPlace) (name : CardName), place = dir.entry name ∧
      name.length < removeMaxNameLength := by
  cases h with
  | start =>
    rw [hpath.find] at hfind
    cases hfind
    exact .inl rfl
  | @entry q h name =>
    refine .inr ?_
    obtain ⟨r', hresolve, hprint⟩ := h.resolve hpath
    obtain ⟨hchild, hlength⟩ := StorageService.resolve_child hresolve
      (name.val.take (removeMaxNameLength - 1))
    have hnil : name.val.take (removeMaxNameLength - 1) ≠ [] := by
      rw [ne_eq, List.take_eq_nil_iff, not_or]
      exact ⟨by decide, name.ne_nil⟩
    have hfollow := followPath_of_find hfind
    unfold followPath at hfollow
    rw [entryPath, hchild, Option.map_some, List.drop_append_of_le_length hlength] at hfollow
    obtain ⟨hplace, hall⟩ := Prod.mk.inj (Option.some.inj hfollow)
    obtain ⟨name', hlast, hcreate⟩ := fatFollowPath_last hprint
      (fun c hc => (name.readable (List.mem_of_mem_take hc)).2) hnil
      (fun c hc => (name.readable (List.mem_of_mem_take hc)).1) (Prod.ext rfl hall)
    refine ⟨⟨place.type, place.names.dropLast⟩, name', ?_, ?_⟩
    · subst hplace
      rw [CardPlace.entry, List.dropLast_append_getLast? name' hlast]
    · have hle := (fatCreateName_length hcreate).trans (List.length_take_le _ _)
      exact Nat.lt_of_le_of_lt hle (by decide)

section Long

variable (hkey : ∀ a b : CardName, e.key a = e.key b → a.length = b.length)
  (hpath : e.PathOf path r (p.entry name))

include hkey hpath

lemma loopKeeps_long : e.LoopKeeps path
    (e.Kept (fun child => removeMaxNameLength ≤ child.length) (p.entry name) w) (CutPath path) where
  cards := .of_cards
  remove hq hw hfind := by
    rcases hq.find hpath hfind with rfl | ⟨dir, name', rfl, hshort⟩
    · exact hw.remove (.inl rfl)
    · refine hw.remove (.inr fun l child hlong _ _ _ heq => ?_)
      have hsame := hkey child name' heq
      omega
  start := .start
  parent := .parent
  entry hq _ _ _ := hq.entry _

lemma RemovesTree.short (h : e.RemovesTree w path p name) (l : List CardName) (child : CardName)
    (hchild : some child ∈ e.slotsOf w ((p.entry name).below l)) :
    child.length < removeMaxNameLength :=
  Nat.not_le.mp (h.not_kept (loopKeeps_long hkey hpath) l child hchild)

end Long

/-! ### Names that are not in the code page -/

/-- The paths of the loop, when no name is cut: a name that is not in the code page leads nowhere. -/
inductive ReadPath (e : StorageCaller κ) (w₀ : StorageWorld e.key) (path : CPath) (p : CardPlace) :
    CPath → List CardName → Prop where
  | start : ReadPath e w₀ path p path []
  | entry {q : CPath} {l : List CardName} {child : CardName} (h : ReadPath e w₀ path p q l)
    (hoem : ∀ name ∈ l, name.isOem = true) (hchild : some child ∈ e.slotsOf w₀ (p.below l)) :
    ReadPath e w₀ path p (entryPath q child.val) (l ++ [child])

variable {l : List CardName}

omit [DecidableEq κ] in
lemma ReadPath.parent (h : ReadPath e w₀ path p q l) (hne : q ≠ path) :
    ∃ l', ReadPath e w₀ path p (pathParent q) l' := by
  cases h with
  | start => exact absurd rfl hne
  | @entry q l child h _ _ =>
    rw [pathParent_entryPath]
    exact ⟨l, h⟩

omit [DecidableEq κ] in
lemma ReadPath.pathOf (hpath : e.PathOf path r p) (h : ReadPath e w₀ path p q l)
    (hoem : ∀ name ∈ l, name.isOem = true) : ∃ r', e.PathOf q r' (p.below l) := by
  induction h with
  | start =>
    rw [CardPlace.below_nil]
    exact ⟨r, hpath⟩
  | @entry q l child h hoem' hchild ih =>
    obtain ⟨r', hq⟩ := ih hoem'
    have hentry := hq.entry (hoem child (List.mem_append_right _ List.mem_cons_self))
    rw [CardPlace.entry, CardPlace.below, List.append_assoc] at hentry
    exact ⟨_, hentry⟩

omit [DecidableEq κ] in
lemma ReadPath.oem (hpath : e.PathOf path r p) (h : ReadPath e w₀ path p q l) {place : CardPlace}
    (hfollow : e.followPath q = some (place, true)) : ∀ name ∈ l, name.isOem = true := by
  cases h with
  | start => exact fun name hname => absurd hname List.not_mem_nil
  | @entry q l child h hoem' hchild =>
    obtain ⟨r', hq⟩ := h.pathOf hpath hoem'
    intro name hname
    rcases List.mem_append.mp hname with hname | hname
    · exact hoem' name hname
    · obtain rfl := List.mem_singleton.mp hname
      refine Bool.of_not_eq_false fun hunicode => ?_
      obtain ⟨hchild, hlength⟩ := StorageService.resolve_child hq.resolve name.val
      have hnot := fatFollowPath_unicode hq.printable hunicode
      unfold followPath at hfollow
      rw [entryPath, hchild, Option.map_some, List.drop_append_of_le_length hlength] at hfollow
      have hall := (Prod.mk.inj (Option.some.inj hfollow)).2
      rw [hnot] at hall
      cases hall

lemma loopKeeps_unicode (hpath : e.PathOf path r (p.entry name))
    (hshort : ∀ (l : List CardName) (child : CardName),
      some child ∈ e.slotsOf w ((p.entry name).below l) → child.length < removeMaxNameLength) :
    e.LoopKeeps path (e.Kept (fun child => child.isOem = false) (p.entry name) w)
      (fun q => ∃ l, ReadPath e w path (p.entry name) q l) where
  cards := .of_cards
  remove := by
    rintro q w' place ⟨l, hq⟩ hw hfind
    have hfollow := followPath_of_find hfind
    have hoem := hq.oem hpath hfollow
    obtain ⟨r', hplace⟩ := hq.pathOf hpath hoem
    rw [hplace.find] at hfind
    cases hfind
    cases hq with
    | start =>
      rw [CardPlace.below_nil]
      exact hw.remove (.inl rfl)
    | @entry q l child h hoem' hchild =>
      have hentry : (p.entry name).below (l ++ [child]) = ((p.entry name).below l).entry child := by
        simp only [CardPlace.below, CardPlace.entry, List.append_assoc]
      rw [hentry]
      refine hw.remove (.inr fun l' child' hunicode hchild' htype hnames heq => ?_)
      -- the two names would be the same entry
      obtain ⟨i, hi⟩ := List.mem_iff_getElem?.mp hchild
      obtain ⟨j, hj⟩ := List.mem_iff_getElem?.mp hchild'
      unfold slotsOf at hi hj
      rw [hnames, htype] at hj
      obtain rfl := (w.cards _).distinct _ i j child child' hi hj heq.symm
      rw [hi] at hj
      cases hj
      rw [hoem child (List.mem_append_right _ List.mem_cons_self)] at hunicode
      cases hunicode
  start := ⟨[], .start⟩
  parent := by
    rintro q ⟨l, hq⟩ hne
    exact hq.parent hne
  entry := by
    rintro q w' place child ⟨l, hq⟩ hw hfollow hchild
    have hoem := hq.oem hpath hfollow
    obtain ⟨r', hplace⟩ := hq.pathOf hpath hoem
    obtain ⟨rfl, -⟩ := Prod.mk.inj
      (Option.some.inj ((followPath_of_find (hplace.find w')).symm.trans hfollow))
    have hold := hw.old l child hchild
    have htake : child.val.take (removeMaxNameLength - 1) = child.val := by
      cases hchildOem : child.isOem with
      | true => exact take_of_short hchildOem (hshort l child hold)
      | false => exact take_of_unicode hchildOem
    rw [htake]
    exact ⟨_, .entry hq hoem hold⟩

end StorageCaller

def removeLongName : CardName := .oem ⟨List.replicate 254 0x78, by decide +kernel⟩

/-- Cards with a directory `a` that holds a file with a name of 254 characters. -/
def removeLongWorld : StorageWorld storagePathCaller.key where
  cards _ :=
    (FileTree.empty.create [] dirWalkNames.1 0 .dir emptyCard_root emptyCard_a).create
      [dirWalkNames.1] removeLongName 0 (.file []) dirInEmptyCard (by decide +kernel)
  opened := []
  trace := []

end FlipperZero
