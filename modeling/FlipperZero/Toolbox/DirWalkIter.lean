import FlipperZero.Storage.PathBelow

/-!
# What a walk returns

`dir_walk_iter` with its filters. The calls on a tree that stays as it is return the entries of the
tree in order (`walkEntries`): an entry, then what lies below it, then the entry behind it. Names
that are not in the code page are all read as a question mark, and no path leads behind them.

Between two calls anything may happen that changes neither the cards nor the list of open files.
-/

namespace FlipperZero

open Foundation

/-- `FileInfo`: the flag for a directory, and the size. -/
structure FileInfo where
  isDir : Bool
  size : Nat
  deriving DecidableEq, Repr

/-- What `dir_walk_set_filter_cb` and `dir_walk_set_recurse_filter` set. -/
structure DirWalkFilters where
  filterCb : Option (List UInt8 → FileInfo → Bool)
  recurseFilter : List CPath

/-- `dir_walk_filter`. -/
def DirWalkFilters.filter (f : DirWalkFilters) (name : List UInt8) (info : FileInfo) : Bool :=
  match f.filterCb with
  | some cb => cb name info
  | none    => true

/-- What a call of `dir_walk_read` returns of an entry. -/
abbrev DirWalkEntry : Type := CPath × FileInfo

/-- The information of an entry: a directory has no size. -/
def StorageWorld.info {κ : Type} {key : CardName → κ} (w : StorageWorld key) (p : CardPlace) :
    FileInfo :=
  match w.node p with
  | some (.file content) => ⟨false, content.length⟩
  | some .dir            => ⟨true, 0⟩
  | none                 => ⟨false, 0⟩

namespace StorageCaller

variable {κ : Type} (e : StorageCaller κ)

/-- `storage_dir_read` with a `FileInfo`. -/
def storageDirReadInfo (f : StorageDir) :
    Program (StorageWorld e.key) (Option (FileInfo × List UInt8) × StorageDir) :=
  .operation fun w =>
    let a := e.answer w
    match f.path, f.dir with
    | none, _ => ((none, { f with errorId := .invalidParameter }), w.record .other)
    | _, none =>
      ((none, { f with errorId := dirReadError a .invalidParameter }),
        w.record (.dirFailed a.endOfDir))
    | _, some (p, pos) =>
      if a.error ≠ .ok then
        ((none, { f with errorId := dirReadError a .internal }), w.record (.dirFailed a.endOfDir))
      else
        match nextEntry ((w.cards p.type).slots (p.names.map e.key)) pos with
        | none             => ((none, { f with errorId := .notExist }), w.record .other)
        | some (name, pos) =>
          ((some (w.info (p.entry name), name.val),
              { f with dir := some (p, pos), errorId := .ok }),
            w.record (.dirEntry name.val.length))

/-- `dir_walk_iter` appends the name of a directory to the path, and steps into it, unless its path
is one of those that are not entered: then the path is cut again. -/
def dirWalkEnter (f : DirWalkFilters) (walk : DirWalk) (path : CPath) (info : FileInfo) :
    Program (StorageWorld e.key) DirWalk :=
  if info.isDir && walk.recursive then
    if f.recurseFilter.contains path then pure { walk with path := pathParent path }
    else e.dirWalkStepInto walk path
  else pure walk

/-- `dir_walk_iter`: the result, the entry, and the walk after it. -/
def dirWalkIter (f : DirWalkFilters) : Nat → DirWalk →
    Program (StorageWorld e.key) (DirWalkResult × Option DirWalkEntry × DirWalk)
  | 0, _           => .stop
  | rounds + 1, walk => do
    let (entry, file) ← e.storageDirReadInfo walk.file
    match entry with
    | some (info, name) => do
      let name := name.take (dirWalkMaxNameLen - 1)
      let path := entryPath walk.path name
      let walk ← e.dirWalkEnter f
        { walk with file := file, currentIndex := walk.currentIndex + 1 } path info
      if f.filter name info then pure (.ok, some (path, info), walk) else dirWalkIter f rounds walk
    | none =>
      let walk : DirWalk := { walk with file := file }
      if file.errorId = .notExist then
        match walk.indexList with
        | []                 => pure (.last, none, walk)
        | index :: indexList => do
          let (found, walk) ← e.dirWalkStepOut walk index indexList
          if found then dirWalkIter f rounds walk else pure (.error, none, walk)
      else pure (.error, none, walk)

end StorageCaller

/-! ### The entries below a directory -/

/-- The walk goes into an entry. -/
def DirWalkFilters.enters (f : DirWalkFilters) (recursive : Bool) (path : CPath)
    (info : FileInfo) : Bool := info.isDir && recursive && !f.recurseFilter.contains path

namespace StorageCaller

variable {κ : Type} (e : StorageCaller κ)

/-- An entry, if it is accepted, and what lies below it, if the walk goes there. -/
def entryWalk (f : DirWalkFilters) (recursive : Bool) (w : StorageWorld e.key)
    (below : CPath → CardPlace → List DirWalkEntry) (path : CPath) (p : CardPlace)
    (name : CardName) : List DirWalkEntry :=
  let child := entryPath path name.val
  let info := w.info (p.entry name)
  (if f.filter name.val info then [(child, info)] else []) ++
    if f.enters recursive child info then below child (p.entry name) else []

/-- The accepted entries below a directory, down to a depth. -/
def walkEntries (f : DirWalkFilters) (recursive : Bool) (w : StorageWorld e.key) :
    Nat → CPath → CardPlace → List DirWalkEntry
  | 0, _, _             => []
  | depth + 1, path, p =>
    (entriesFrom (e.slotsOf w p) 0).flatMap
      (e.entryWalk f recursive w (walkEntries f recursive w depth) path p)

/-- A directory that can be walked: nothing lies deeper below it than `depth`, the names are in the
code page and fit into the buffer, and no directory there is one of the paths that are open
already. -/
structure Walkable (w : StorageWorld e.key) (others : List (StorageType × CPath)) (depth : Nat)
    (r : StorageType × CPath) (p : CardPlace) : Prop where
  finite : ∀ l : List CardName, depth < l.length → w.node (p.below l) = none
  names : ∀ (l : List CardName) (name : CardName), some name ∈ e.slotsOf w (p.below l) →
    name.isOem = true ∧ name.length < dirWalkMaxNameLen
  closed : ∀ l : List CardName, w.node (p.below l) = some .dir →
    (r.1, l.foldl (fun path name => entryPath path name.val) r.2) ∉ others

/-! ### Calls -/

/-- A call of `dir_walk_read` returns: enough rounds lead to the result. -/
def WalkCall (f : DirWalkFilters) (w : StorageWorld e.key) (walk : DirWalk)
    (result : DirWalkResult) (entry : Option DirWalkEntry) (walk' : DirWalk)
    (w' : StorageWorld e.key) : Prop :=
  ∃ least, ∀ rounds, least ≤ rounds →
    (e.dirWalkIter f rounds walk).Returns w (result, entry, walk') w'

/-- The calls return these entries and then `DirWalkLast`, and leave the cards as they are. -/
def WalkYields (f : DirWalkFilters) (cards : StorageType → FileTree CardName κ (List UInt8) e.key) :
    List DirWalkEntry → List (StorageType × CPath) → DirWalk → Prop
  | [], opened, walk           => ∀ w : StorageWorld e.key, w.cards = cards → w.opened = opened →
    ∃ walk' w', e.WalkCall f w walk .last none walk' w' ∧ w'.cards = cards
  | entry :: entries, opened, walk => ∀ w : StorageWorld e.key, w.cards = cards →
    w.opened = opened → ∃ walk' w', e.WalkCall f w walk .ok (some entry) walk' w' ∧
      w'.cards = cards ∧ WalkYields f cards entries w'.opened walk'

variable {e} {f : DirWalkFilters} {cards : StorageType → FileTree CardName κ (List UInt8) e.key}
  {w w' : StorageWorld e.key} {walk walk' : DirWalk} {r : StorageType × CPath} {p : CardPlace}
  {path : CPath} {name : CardName} {pos j depth : Nat} {others : List (StorageType × CPath)}

lemma WalkCall.round {w'' : StorageWorld e.key} {walk'' : DirWalk} {result : DirWalkResult}
    {entry : Option DirWalkEntry} (h : e.WalkCall f w' walk' result entry walk'' w'')
    (hround : ∀ rounds, e.dirWalkIter f (rounds + 1) walk w = e.dirWalkIter f rounds walk' w') :
    e.WalkCall f w walk result entry walk'' w'' := by
  obtain ⟨least, hleast⟩ := h
  refine ⟨least + 1, fun rounds hle => ?_⟩
  obtain ⟨rounds, rfl⟩ : ∃ n, rounds = n + 1 := ⟨rounds - 1, by omega⟩
  exact (hround rounds).trans (hleast rounds (by omega))

lemma WalkCall.eq_of_returns {w'' : StorageWorld e.key} {result : DirWalkResult}
    {entry : Option DirWalkEntry} {x : DirWalkResult × Option DirWalkEntry × DirWalk}
    (h : e.WalkCall f w walk result entry walk' w')
    (h' : ∀ rounds, (e.dirWalkIter f (rounds + 1) walk).Returns w x w'') :
    x = (result, entry, walk') ∧ w' = w'' := by
  obtain ⟨least, hleast⟩ := h
  have hboth := (h' least).symm.trans (hleast (least + 1) (Nat.le_succ _))
  obtain ⟨hx, hw⟩ := Prod.mk.inj hboth
  exact ⟨Option.some.inj hx, hw.symm⟩

lemma WalkYields.round {entries : List DirWalkEntry} {opened opened' : List (StorageType × CPath)}
    (h : e.WalkYields f cards entries opened' walk')
    (hround : ∀ w : StorageWorld e.key, w.cards = cards → w.opened = opened →
      ∃ w', w'.cards = cards ∧ w'.opened = opened' ∧
        ∀ rounds, e.dirWalkIter f (rounds + 1) walk w = e.dirWalkIter f rounds walk' w') :
    e.WalkYields f cards entries opened walk := by
  cases entries with
  | nil =>
    intro w hcards hopened
    obtain ⟨w', hcards', hopened', heq⟩ := hround w hcards hopened
    obtain ⟨walk'', w'', hcall, hkept⟩ := h w' hcards' hopened'
    exact ⟨walk'', w'', hcall.round heq, hkept⟩
  | cons entry entries =>
    intro w hcards hopened
    obtain ⟨w', hcards', hopened', heq⟩ := hround w hcards hopened
    obtain ⟨walk'', w'', hcall, hkept, hrest⟩ := h w' hcards' hopened'
    exact ⟨walk'', w'', hcall.round heq, hkept, hrest⟩

/-! ### Reading a directory -/

lemma info_congr (h : w'.cards = w.cards) : w'.info p = w.info p := by
  unfold StorageWorld.info StorageWorld.node
  rw [h]

lemma storageDirReadInfo_none (hok : e.NoFailures) (hcards : w'.cards = w.cards)
    (h : nextEntry (e.slotsOf w p) pos = none) :
    (e.storageDirReadInfo (openedAt r p pos)).Returns w'
      (none, ⟨some r, some (p, pos), .notExist⟩) (w'.record .other) := by
  have hanswer : (e.answer w').error = .ok := hok _
  unfold slotsOf at h
  rw [← hcards] at h
  unfold Program.Returns storageDirReadInfo Program.operation openedAt
  simp only [hanswer, ne_eq, not_true_eq_false, if_false, h]

lemma storageDirReadInfo_some (hok : e.NoFailures) (hcards : w'.cards = w.cards)
    (h : nextEntry (e.slotsOf w p) pos = some (name, j)) :
    (e.storageDirReadInfo (openedAt r p pos)).Returns w'
      (some (w.info (p.entry name), name.val), openedAt r p j)
      (w'.record (.dirEntry name.val.length)) := by
  have hanswer : (e.answer w').error = .ok := hok _
  rw [← info_congr hcards]
  unfold slotsOf at h
  rw [← hcards] at h
  unfold Program.Returns storageDirReadInfo Program.operation openedAt
  simp only [hanswer, ne_eq, not_true_eq_false, if_false, h]

/-- Skipping as many entries as stand before a slot leads to it, when an entry stands right
before it. -/
lemma dirWalkRewind_returns (hok : e.NoFailures) (w w' : StorageWorld e.key) {i : Nat}
    (n pos : Nat) (walk : DirWalk) (hi : (e.slotsOf w p)[i]? = some (some name))
    (hpos : pos ≤ i + 1)
    (hn : entriesBefore (e.slotsOf w p) (i + 1) = entriesBefore (e.slotsOf w p) pos + n)
    (hfile : walk.file = openedAt r p pos) (hcards : w'.cards = w.cards) :
    ∃ w'', (e.dirWalkRewind n walk).Returns w'
        (true, { walk with file := openedAt r p (i + 1), currentIndex := walk.currentIndex + n })
        w'' ∧
      w''.cards = w.cards ∧ w''.opened = w'.opened := by
  induction n generalizing pos walk w' with
  | zero =>
    have hend : pos = i + 1 := by
      by_contra hne
      have hbefore := entriesBefore_mono (s := e.slotsOf w p) (show pos ≤ i by omega)
      rw [entriesBefore_succ hi] at hn
      omega
    refine ⟨w', ?_, hcards, rfl⟩
    subst hend
    rw [dirWalkRewind, ← hfile]
    exact Program.returns_pure _ _
  | succ n ih =>
    have hlt : pos ≤ i := by
      by_contra hlt
      rw [show pos = i + 1 by omega] at hn
      omega
    cases hnext : nextEntry (e.slotsOf w p) pos with
    | none => exact absurd hi (nextEntry_none hnext hlt)
    | some found =>
      obtain ⟨name', j⟩ := found
      obtain ⟨k, hk, rfl, hentry, hbetween⟩ := nextEntry_some hnext
      have hki : k ≤ i := by
        by_contra hki
        exact hbetween i name hlt (by omega) hi
      have hcount : entriesBefore (e.slotsOf w p) (k + 1) =
          entriesBefore (e.slotsOf w p) pos + 1 := by
        rw [entriesBefore_succ hentry, entriesBefore_of_free hk hbetween]
      have hslots : e.slotsOf w' p = e.slotsOf w p := by
        unfold slotsOf
        rw [hcards]
      have hread := storageDirRead_some (w := w') (r := r) hok (hslots ▸ hnext)
      obtain ⟨w'', hrun, hcards'', hopened⟩ := ih (w'.record (.dirEntry name'.val.length)) (k + 1)
        { walk with file := openedAt r p (k + 1), currentIndex := walk.currentIndex + 1 }
        (by omega) (by omega) rfl hcards
      refine ⟨w'', ?_, hcards'', hopened⟩
      rw [dirWalkRewind, hfile]
      refine hread.bind ?_
      rw [show walk.currentIndex + (n + 1) = walk.currentIndex + 1 + n by omega]
      exact hrun

/-! ### Rounds of the loop -/

/-- A walk that stands before a slot of a directory. -/
def walkAt (e : StorageCaller κ) (w : StorageWorld e.key) (recursive : Bool)
    (r : StorageType × CPath) (p : CardPlace) (path : CPath) (indexList : List Nat) (pos : Nat) :
    DirWalk where
  file := openedAt r p pos
  path := path
  indexList := indexList
  currentIndex := entriesBefore (e.slotsOf w p) pos
  recursive := recursive

variable {recursive : Bool} {indexList : List Nat} {entries : List DirWalkEntry}

lemma entriesBefore_next {s : List (Option CardName)} (h : nextEntry s pos = some (name, j)) :
    entriesBefore s j = entriesBefore s pos + 1 := by
  obtain ⟨k, hk, rfl, hentry, hbetween⟩ := nextEntry_some h
  rw [entriesBefore_succ hentry, entriesBefore_of_free hk hbetween]

lemma not_mem_slotsOf_of_finite (hfinite : ∀ l : List CardName, 0 < l.length →
    w.node (p.below l) = none) : some name ∉ e.slotsOf w p := by
  intro hname
  have hsome := ((w.cards p.type).isSome_iff (p.names.map e.key) (e.key name)).mpr
    ⟨name, hname, rfl⟩
  have hnone := hfinite [name] Nat.zero_lt_one
  unfold StorageWorld.node CardPlace.below at hnone
  rw [List.map_append, List.map_singleton] at hnone
  rw [hnone] at hsome
  cases hsome

lemma Walkable.entry (h : e.Walkable w others (depth + 1) r p) (name : CardName) :
    e.Walkable w others depth (r.1, entryPath r.2 name.val) (p.entry name) := by
  refine ⟨fun l hl => ?_, fun l name' hname => ?_, fun l hdir => ?_⟩
  · rw [CardPlace.entry_below]
    exact h.finite _ (Nat.succ_lt_succ hl)
  · rw [CardPlace.entry_below] at hname
    exact h.names _ _ hname
  · rw [CardPlace.entry_below] at hdir
    exact h.closed _ hdir

lemma WalkYields.found (hok : e.NoFailures) {opened' : List (StorageType × CPath)}
    (hnext : nextEntry (e.slotsOf w p) pos = some (name, j))
    (hname : name.val.length < dirWalkMaxNameLen)
    (henter : ∀ w' : StorageWorld e.key, w'.cards = w.cards → w'.opened = r :: others →
      ∃ w'', (e.dirWalkEnter f (e.walkAt w recursive r p path indexList j)
          (entryPath path name.val) (w.info (p.entry name))).Returns w' walk' w'' ∧
        w''.cards = w.cards ∧ w''.opened = opened')
    (h : e.WalkYields f w.cards entries opened' walk') :
    e.WalkYields f w.cards
      ((if f.filter name.val (w.info (p.entry name)) then
          [(entryPath path name.val, w.info (p.entry name))] else []) ++ entries)
      (r :: others) (e.walkAt w recursive r p path indexList pos) := by
  have htake : name.val.take (dirWalkMaxNameLen - 1) = name.val :=
    List.take_of_length_le (Nat.le_pred_of_lt hname)
  -- a round up to the question whether the entry is accepted
  have hrun (w' : StorageWorld e.key) (hcards : w'.cards = w.cards)
      (hopened : w'.opened = r :: others) :
      ∃ w'', w''.cards = w.cards ∧ w''.opened = opened' ∧ ∀ rounds,
        e.dirWalkIter f (rounds + 1) (e.walkAt w recursive r p path indexList pos) w' =
          (if f.filter name.val (w.info (p.entry name)) then
            pure (.ok, some (entryPath path name.val, w.info (p.entry name)), walk')
            else e.dirWalkIter f rounds walk') w'' := by
    have hread := storageDirReadInfo_some (r := r) hok hcards hnext
    obtain ⟨w'', hrun, hcards'', hopened''⟩ := henter (w'.record (.dirEntry name.val.length))
      hcards hopened
    have hwalk : e.walkAt w recursive r p path indexList j =
        { e.walkAt w recursive r p path indexList pos with
          file := openedAt r p j
          currentIndex := (e.walkAt w recursive r p path indexList pos).currentIndex + 1 } := by
      simp only [walkAt, entriesBefore_next hnext]
    rw [hwalk] at hrun
    refine ⟨w'', hcards'', hopened'', fun rounds => ?_⟩
    rw [dirWalkIter, show (e.walkAt w recursive r p path indexList pos).file = openedAt r p pos
      from rfl, hread.bind_eq]
    simp only [htake]
    exact hrun.bind_eq
  by_cases haccept : f.filter name.val (w.info (p.entry name)) = true
  · rw [if_pos haccept]
    intro w' hcards hopened
    obtain ⟨w'', hcards'', hopened'', heq⟩ := hrun w' hcards hopened
    refine ⟨walk', w'', ⟨1, fun rounds hle => ?_⟩, hcards'', hopened'' ▸ h⟩
    obtain ⟨rounds, rfl⟩ : ∃ n, rounds = n + 1 := ⟨rounds - 1, by omega⟩
    exact (heq rounds).trans (by rw [if_pos haccept]; rfl)
  · rw [if_neg haccept, List.nil_append]
    refine h.round fun w' hcards hopened => ?_
    obtain ⟨w'', hcards'', hopened'', heq⟩ := hrun w' hcards hopened
    exact ⟨w'', hcards'', hopened'', fun rounds => (heq rounds).trans (by rw [if_neg haccept])⟩

lemma WalkYields.stepOut (hok : e.NoFailures) (hpath : e.PathOf path r p)
    (hdir : w.node p = some .dir) (hclosed : r ∉ others) {i : Nat} {r' : StorageType × CPath}
    {p' : CardPlace} (hi : (e.slotsOf w p)[i]? = some (some name))
    (hend : nextEntry (e.slotsOf w p') pos = none)
    (h : e.WalkYields f w.cards entries (r :: others)
      (e.walkAt w recursive r p path indexList (i + 1))) :
    e.WalkYields f w.cards entries (r' :: others)
      (e.walkAt w recursive r' p' (entryPath path name.val)
        (entriesBefore (e.slotsOf w p) (i + 1) :: indexList) pos) := by
  refine h.round fun w' hcards hopened => ?_
  have hread := storageDirReadInfo_none (r := r') hok hcards hend
  have hclose := storageDirClose_returns (e := e) (w := w'.record .other)
    (f := ⟨some r', some (p', pos), .notExist⟩) rfl hopened
  have hopen := storageDirOpen_returns (e := e)
    (w := { (w'.record .other).record .other with opened := others }) hok hpath
    (by rw [← hdir]; unfold StorageWorld.node; rw [← hcards]; rfl) hclosed
  obtain ⟨w'', hrewind, hcards'', hopened''⟩ := dirWalkRewind_returns hok w
    { { (w'.record .other).record .other with opened := others }.record .other with
      opened := r :: others }
    (entriesBefore (e.slotsOf w p) (i + 1)) 0
    { e.walkAt w recursive r p path indexList 0 with currentIndex := 0 } hi (Nat.zero_le _)
    (by rw [show entriesBefore (e.slotsOf w p) 0 = 0 from rfl, Nat.zero_add]) rfl hcards
  refine ⟨w'', hcards'', hopened'', fun rounds => ?_⟩
  have hstep : (e.dirWalkStepOut
      { e.walkAt w recursive r' p' (entryPath path name.val)
          (entriesBefore (e.slotsOf w p) (i + 1) :: indexList) pos with
        file := ⟨some r', some (p', pos), .notExist⟩ }
      (entriesBefore (e.slotsOf w p) (i + 1)) indexList).Returns (w'.record .other)
      (true, e.walkAt w recursive r p path indexList (i + 1)) w'' := by
    unfold dirWalkStepOut
    refine hclose.bind ?_
    simp only [walkAt, pathParent_entryPath]
    refine hopen.bind ?_
    simp only [Nat.zero_add, walkAt] at hrewind
    exact hrewind
  rw [dirWalkIter, show (e.walkAt w recursive r' p' (entryPath path name.val)
    (entriesBefore (e.slotsOf w p) (i + 1) :: indexList) pos).file = openedAt r' p' pos from rfl,
    hread.bind_eq]
  exact hstep.bind_eq

lemma info_isDir (h : (w.info p).isDir = true) : w.node p = some .dir := by
  unfold StorageWorld.info at h
  split at h
  · cases h
  · assumption
  · cases h

lemma dirWalkEnter_enters (hok : e.NoFailures) (hpath : e.PathOf path r p)
    (hwalkable : e.Walkable w others (depth + 1) r p) (hoem : name.isOem = true)
    (henters : f.enters recursive (entryPath path name.val) (w.info (p.entry name)) = true)
    (hcards : w'.cards = w.cards) (hopened : w'.opened = r :: others) :
    ∃ w'', (e.dirWalkEnter f (e.walkAt w recursive r p path indexList j)
        (entryPath path name.val) (w.info (p.entry name))).Returns w'
        (e.walkAt w recursive (r.1, entryPath r.2 name.val) (p.entry name)
          (entryPath path name.val) (entriesBefore (e.slotsOf w p) j :: indexList) 0) w'' ∧
      w''.cards = w.cards ∧ w''.opened = (r.1, entryPath r.2 name.val) :: others := by
  unfold DirWalkFilters.enters at henters
  rw [Bool.and_eq_true, Bool.not_eq_true'] at henters
  obtain ⟨hdirRecursive, hfilter⟩ := henters
  have hdir : w.node (p.entry name) = some .dir :=
    info_isDir (Bool.and_eq_true_iff.mp hdirRecursive).1
  have hclose := storageDirClose_returns (e := e) (w := w') (f := openedAt r p j) rfl hopened
  have hopen := storageDirOpen_returns (w := { w'.record .other with opened := others }) hok
    (hpath.entry hoem) (by rw [← hdir]; unfold StorageWorld.node; rw [← hcards]; rfl)
    (hwalkable.closed [name] hdir)
  refine ⟨{ { w'.record .other with opened := others }.record .other with
    opened := (r.1, entryPath r.2 name.val) :: others }, ?_, hcards, rfl⟩
  unfold dirWalkEnter
  rw [show (e.walkAt w recursive r p path indexList j).recursive = recursive from rfl,
    if_pos hdirRecursive, if_neg (by rw [hfilter]; exact Bool.false_ne_true)]
  exact hclose.bind (hopen.bind rfl)

lemma dirWalkEnter_stays
    (hstays : ¬f.enters recursive (entryPath path name.val) (w.info (p.entry name)) = true) :
    (e.dirWalkEnter f (e.walkAt w recursive r p path indexList j)
      (entryPath path name.val) (w.info (p.entry name))).Returns w'
      (e.walkAt w recursive r p path indexList j) w' := by
  unfold dirWalkEnter
  rw [show (e.walkAt w recursive r p path indexList j).recursive = recursive from rfl]
  by_cases hdir : ((w.info (p.entry name)).isDir && recursive) = true
  · -- the name is cut off again
    have hfilter : f.recurseFilter.contains (entryPath path name.val) = true := by
      by_contra hfilter
      refine hstays ?_
      rw [DirWalkFilters.enters, hdir, Bool.eq_false_iff.mpr hfilter]
      rfl
    rw [if_pos hdir, if_pos hfilter, pathParent_entryPath]
    rfl
  · rw [if_neg hdir]
    rfl

/-- From a slot on the walk returns what it finds in the directory, when it returns below an entry
what it finds there. -/
lemma WalkYields.fromSlot (hok : e.NoFailures) (hpath : e.PathOf path r p)
    (hdir : w.node p = some .dir) (hwalkable : e.Walkable w others (depth + 1) r p)
    {below : CPath → CardPlace → List DirWalkEntry}
    (hbelow : ∀ (name : CardName) (indexList : List Nat) (entries : List DirWalkEntry),
      name.isOem = true → w.node (p.entry name) = some .dir →
      (∀ pos, nextEntry (e.slotsOf w (p.entry name)) pos = none →
        e.WalkYields f w.cards entries ((r.1, entryPath r.2 name.val) :: others)
          (e.walkAt w recursive (r.1, entryPath r.2 name.val) (p.entry name)
            (entryPath path name.val) indexList pos)) →
      e.WalkYields f w.cards (below (entryPath path name.val) (p.entry name) ++ entries)
        ((r.1, entryPath r.2 name.val) :: others)
        (e.walkAt w recursive (r.1, entryPath r.2 name.val) (p.entry name)
          (entryPath path name.val) indexList 0))
    (hend : ∀ pos, nextEntry (e.slotsOf w p) pos = none →
      e.WalkYields f w.cards entries (r :: others) (e.walkAt w recursive r p path indexList pos))
    (pos : Nat) :
    e.WalkYields f w.cards
      ((entriesFrom (e.slotsOf w p) pos).flatMap (e.entryWalk f recursive w below path p) ++
        entries)
      (r :: others) (e.walkAt w recursive r p path indexList pos) := by
  have hclosed : r ∉ others := by
    have h := hwalkable.closed [] (by rw [CardPlace.below_nil]; exact hdir)
    exact h
  induction hl : entriesFrom (e.slotsOf w p) pos generalizing pos with
  | nil =>
    cases hnext : nextEntry (e.slotsOf w p) pos with
    | none => exact hend pos hnext
    | some found => rw [entriesFrom_of_some hnext] at hl; cases hl
  | cons name names ih =>
    cases hnext : nextEntry (e.slotsOf w p) pos with
    | none => rw [entriesFrom_of_none hnext] at hl; cases hl
    | some found =>
      obtain ⟨name', j⟩ := found
      rw [entriesFrom_of_some hnext] at hl
      obtain ⟨rfl, htail⟩ := List.cons.inj hl
      have hrest := ih j htail
      obtain ⟨i, -, rfl, hi, -⟩ := nextEntry_some hnext
      obtain ⟨hoem, hname⟩ : name'.isOem = true ∧ name'.length < dirWalkMaxNameLen := by
        refine hwalkable.names [] name' ?_
        rw [CardPlace.below_nil]
        exact List.mem_of_getElem? hi
      rw [← CardName.val_length_of_isOem hoem] at hname
      rw [List.flatMap_cons, entryWalk, List.append_assoc, List.append_assoc]
      by_cases henters :
          f.enters recursive (entryPath path name'.val) (w.info (p.entry name')) = true
      · rw [if_pos henters]
        have hdir' : w.node (p.entry name') = some .dir := by
          unfold DirWalkFilters.enters at henters
          rw [Bool.and_eq_true, Bool.and_eq_true] at henters
          exact info_isDir henters.1.1
        exact .found hok hnext hname
          (fun w' hcards hopened =>
            dirWalkEnter_enters hok hpath hwalkable hoem henters hcards hopened)
          (hbelow name' _ _ hoem hdir' fun pos' hend' => hrest.stepOut hok hpath hdir hclosed hi hend')
      · rw [if_neg henters, List.nil_append]
        exact .found hok hnext hname
          (fun w' hcards hopened => ⟨w', dirWalkEnter_stays henters, hcards, hopened⟩) hrest

/-- From the start of a directory the walk returns what lies below it. -/
lemma WalkYields.walkEntries (hok : e.NoFailures) (hpath : e.PathOf path r p)
    (hdir : w.node p = some .dir) (hwalkable : e.Walkable w others depth r p)
    (hend : ∀ pos, nextEntry (e.slotsOf w p) pos = none →
      e.WalkYields f w.cards entries (r :: others) (e.walkAt w recursive r p path indexList pos)) :
    e.WalkYields f w.cards (e.walkEntries f recursive w depth path p ++ entries) (r :: others)
      (e.walkAt w recursive r p path indexList 0) := by
  induction depth generalizing r p path indexList entries with
  | zero =>
    refine hend 0 ?_
    cases hnext : nextEntry (e.slotsOf w p) 0 with
    | none => rfl
    | some found =>
      obtain ⟨name, j⟩ := found
      obtain ⟨i, -, -, hi, -⟩ := nextEntry_some hnext
      exact absurd (List.mem_of_getElem? hi) (not_mem_slotsOf_of_finite hwalkable.finite)
  | succ depth ih =>
    refine .fromSlot hok hpath hdir hwalkable (fun name indexList entries hoem hdir' hend' => ?_)
      hend 0
    exact ih (hpath.entry hoem) hdir' (hwalkable.entry name) hend'

lemma WalkYields.last (hok : e.NoFailures) (hend : nextEntry (e.slotsOf w p) pos = none) :
    e.WalkYields f w.cards [] (r :: others) (e.walkAt w recursive r p path [] pos) := by
  intro w' hcards hopened
  have hread := storageDirReadInfo_none (r := r) hok hcards hend
  refine ⟨{ e.walkAt w recursive r p path [] pos with file := ⟨some r, some (p, pos), .notExist⟩ },
    w'.record .other, ⟨1, fun rounds hle => ?_⟩, hcards⟩
  obtain ⟨rounds, rfl⟩ : ∃ n, rounds = n + 1 := ⟨rounds - 1, by omega⟩
  rw [dirWalkIter]
  exact hread.bind rfl

/-! ### The entries that are returned -/

/-- An entry that a walk should return: it is accepted, and the directories that lead to it are
entered. -/
inductive WalkListed (e : StorageCaller κ) (f : DirWalkFilters) (recursive : Bool)
    (w : StorageWorld e.key) : CPath → CardPlace → DirWalkEntry → Prop where
  | entry {path : CPath} {p : CardPlace} {name : CardName} (hname : some name ∈ e.slotsOf w p)
    (haccept : f.filter name.val (w.info (p.entry name)) = true) :
    WalkListed e f recursive w path p (entryPath path name.val, w.info (p.entry name))
  | inside {path : CPath} {p : CardPlace} {name : CardName} {entry : DirWalkEntry}
    (hname : some name ∈ e.slotsOf w p)
    (henters : f.enters recursive (entryPath path name.val) (w.info (p.entry name)) = true)
    (h : WalkListed e f recursive w (entryPath path name.val) (p.entry name) entry) :
    WalkListed e f recursive w path p entry

lemma mem_walkEntries_iff (entry : DirWalkEntry)
    (hfinite : ∀ l : List CardName, depth < l.length → w.node (p.below l) = none) :
    entry ∈ e.walkEntries f recursive w depth path p ↔
      e.WalkListed f recursive w path p entry := by
  induction depth generalizing path p with
  | zero =>
    refine ⟨fun h => absurd h List.not_mem_nil, fun h => ?_⟩
    cases h with
    | entry hname _ => exact absurd hname (not_mem_slotsOf_of_finite hfinite)
    | inside hname _ _ => exact absurd hname (not_mem_slotsOf_of_finite hfinite)
  | succ depth ih =>
    have hbelow (name : CardName) (l : List CardName) (hl : depth < l.length) :
        w.node ((p.entry name).below l) = none := by
      rw [CardPlace.entry_below]
      exact hfinite _ (Nat.succ_lt_succ hl)
    rw [walkEntries, List.mem_flatMap]
    constructor
    · rintro ⟨name, hname, hentry⟩
      rw [mem_entriesFrom_zero] at hname
      rw [entryWalk, List.mem_append] at hentry
      rcases hentry with hentry | hentry
      · split_ifs at hentry with haccept
        · cases List.mem_singleton.mp hentry
          exact .entry hname haccept
        · cases hentry
      · split_ifs at hentry with henters
        · exact .inside hname henters ((ih (hbelow name)).mp hentry)
        · cases hentry
    · intro h
      cases h with
      | @entry _ _ name hname haccept =>
        refine ⟨name, mem_entriesFrom_zero.mpr hname, ?_⟩
        rw [entryWalk, if_pos haccept]
        exact List.mem_cons_self
      | @inside _ _ name _ hname henters h =>
        refine ⟨name, mem_entriesFrom_zero.mpr hname, ?_⟩
        rw [entryWalk, if_pos henters]
        exact List.mem_append_right _ ((ih (hbelow name)).mpr h)

/-- A path is another one or leads to it. -/
def LeadsTo (path path' : CPath) : Prop := path ++ [0x2F] <+: path' ++ [0x2F]

lemma leadsTo_entryPath (path : CPath) (text : List UInt8) :
    LeadsTo path (entryPath path text) := by
  refine ⟨text ++ [0x2F], ?_⟩
  simp [entryPath]

lemma eq_of_leadsTo {a b : CardName} {path' : CPath} (haOem : a.isOem = true)
    (hbOem : b.isOem = true) (ha : LeadsTo (entryPath path a.val) path')
    (hb : LeadsTo (entryPath path b.val) path') : a = b := by
  have hname (c : CardName) (h : LeadsTo (entryPath path c.val) path') :
      ((path' ++ [0x2F]).drop (path.length + 1)).takeWhile (fun x => decide (x ≠ 0x2F)) =
        c.val := by
    obtain ⟨rest, hrest⟩ := h
    have hsplit : path' ++ [0x2F] = (path ++ [0x2F]) ++ (c.val ++ 0x2F :: rest) := by
      rw [← hrest]
      simp [entryPath]
    have hlength : (path ++ [0x2F]).length = path.length + 1 := by simp
    rw [hsplit, ← hlength, List.drop_left,
      List.takeWhile_append_of_pos fun x hx => decide_eq_true (ne_slash_of_mem c hx)]
    simp
  exact CardName.eq_of_val haOem hbOem ((hname a ha).symm.trans (hname b hb))

lemma WalkListed.leadsTo {entry : DirWalkEntry} (h : e.WalkListed f recursive w path p entry) :
    LeadsTo path entry.1 ∧ path.length < entry.1.length := by
  have hlonger (path : CPath) (name : CardName) :
      path.length < (entryPath path name.val).length := by
    rw [entryPath, List.length_append, List.length_cons]
    omega
  induction h with
  | entry hname haccept => exact ⟨leadsTo_entryPath _ _, hlonger _ _⟩
  | inside hname henters h ih =>
    exact ⟨(leadsTo_entryPath _ _).trans ih.1, (hlonger _ _).trans ih.2⟩

lemma walkEntries_pairwise
    (hfinite : ∀ l : List CardName, depth < l.length → w.node (p.below l) = none)
    (hoem : ∀ (l : List CardName) (name : CardName), some name ∈ e.slotsOf w (p.below l) →
      name.isOem = true) :
    (e.walkEntries f recursive w depth path p).Pairwise fun x y => ¬LeadsTo y.1 x.1 := by
  induction depth generalizing path p with
  | zero => exact List.Pairwise.nil
  | succ depth ih =>
    have hbelow (name : CardName) (l : List CardName) (hl : depth < l.length) :
        w.node ((p.entry name).below l) = none := by
      rw [CardPlace.entry_below]
      exact hfinite _ (Nat.succ_lt_succ hl)
    have hnames (name : CardName) (hname : name ∈ entriesFrom (e.slotsOf w p) 0) :
        name.isOem = true := by
      refine hoem [] name ?_
      rw [CardPlace.below_nil]
      exact mem_entriesFrom_zero.mp hname
    -- what is returned of an entry
    have hentry (name : CardName) (x : DirWalkEntry)
        (hx : x ∈ e.entryWalk f recursive w (e.walkEntries f recursive w depth) path p name) :
        LeadsTo (entryPath path name.val) x.1 := by
      rw [entryWalk, List.mem_append] at hx
      rcases hx with hx | hx
      · split_ifs at hx
        · cases List.mem_singleton.mp hx
          exact List.prefix_rfl
        · cases hx
      · split_ifs at hx
        · exact ((mem_walkEntries_iff x (hbelow name)).mp hx).leadsTo.1
        · cases hx
    rw [walkEntries, List.pairwise_flatMap]
    refine ⟨fun name _ => ?_, ?_⟩
    · rw [entryWalk, List.pairwise_append]
      refine ⟨?_, ?_, fun x hx y hy hleads => ?_⟩
      · split_ifs
        · exact List.pairwise_singleton _ _
        · exact List.Pairwise.nil
      · split_ifs
        · refine ih (hbelow name) fun l child hchild => ?_
          rw [CardPlace.entry_below] at hchild
          exact hoem _ child hchild
        · exact List.Pairwise.nil
      · -- what lies below the entry has a longer path
        split_ifs at hx hy
        · cases List.mem_singleton.mp hx
          have hlonger := ((mem_walkEntries_iff y (hbelow name)).mp hy).leadsTo.2
          have hle := hleads.length_le
          rw [List.length_append, List.length_append] at hle
          exact absurd hlonger (Nat.not_lt.mpr (Nat.add_le_add_iff_right.mp hle))
        · cases hy
        · cases hx
        · cases hx
    · have hnodup : (entriesFrom (e.slotsOf w p) 0).Nodup := (w.cards p.type).nodup_entries _
      refine List.Pairwise.imp_of_mem (fun ha hb hne x hx y hy hleads => hne ?_) hnodup
      exact eq_of_leadsTo (hnames _ ha) (hnames _ hb) (hentry _ x hx)
        ((hentry _ y hy).trans hleads)

end StorageCaller

lemma isCardName_a : isCardName [0x61] = true := by decide

/-- The names `a` and `b`. -/
def dirWalkNames : CardName × CardName := (.oem ⟨[0x61], isCardName_a⟩, .oem ⟨[0x62], by decide⟩)

/-- A card without entries. -/
abbrev emptyCard : FileTree CardName CardName (List UInt8) storagePathCaller.key := FileTree.empty

lemma emptyCard_root : emptyCard.node [] = some .dir := rfl

lemma emptyCard_a : emptyCard.node ([] ++ [storagePathCaller.key dirWalkNames.1]) = none := rfl

lemma dirInEmptyCard :
    (FileTree.empty.create [] dirWalkNames.1 0 .dir emptyCard_root emptyCard_a).node
      [dirWalkNames.1] = some .dir := by decide

/-- Cards with a directory `a` that holds a file `b`. -/
def dirWalkWorld : StorageWorld storagePathCaller.key where
  cards _ :=
    (FileTree.empty.create [] dirWalkNames.1 0 .dir emptyCard_root emptyCard_a).create
      [dirWalkNames.1] dirWalkNames.2 0 (.file [1, 2]) dirInEmptyCard (by decide)
  opened := []
  trace := []

lemma dirWalkWorld_walkable : storagePathCaller.Walkable dirWalkWorld [] 2
    (.ext, cBytes ['/', 'e', 'x', 't']) ⟨.ext, []⟩ where
  finite l hl := by
    obtain _ | ⟨a, _ | ⟨b, _ | ⟨c, l⟩⟩⟩ := l
    · simp at hl
    · simp at hl
    · simp at hl
    · simp [StorageWorld.node, CardPlace.below, dirWalkWorld, storagePathCaller, FileTree.create,
        FileTree.empty]
  names l name hname := by
    have hcard : name = dirWalkNames.1 ∨ name = dirWalkNames.2 := by
      simp only [StorageCaller.slotsOf, dirWalkWorld, FileTree.create, FileTree.empty] at hname
      split_ifs at hname <;> simp [fillSlot] at hname <;> simp [hname]
    rcases hcard with rfl | rfl <;> decide
  closed l hdir := List.not_mem_nil

/-- The name `д`, which is not in the code page. -/
def unicodeName : CardName := .unicode [0x434]

lemma unicodeDir :
    (FileTree.empty.create [] unicodeName 0 .dir emptyCard_root
      (show emptyCard.node ([] ++ [storagePathCaller.key unicodeName]) = none from rfl)).node
      [unicodeName] = some .dir := by decide

/-- Cards with a directory `д` that holds a file `b`. -/
def unicodeWorld : StorageWorld storagePathCaller.key where
  cards _ :=
    (FileTree.empty.create [] unicodeName 0 .dir emptyCard_root rfl).create
      [unicodeName] dirWalkNames.2 0 (.file [1, 2]) unicodeDir (by decide)
  opened := []
  trace := []

/-- The cards with the directory of the card open. -/
def unicodeStart : StorageWorld storagePathCaller.key :=
  { unicodeWorld.record .other with opened := [(.ext, cBytes ['/', 'e', 'x', 't'])] }

/-- What is left of the walk behind the entry `/ext/?`. -/
def unicodeWalk : DirWalk where
  file := ⟨some (.ext, cBytes ['/', 'e', 'x', 't', '/', '?']), none, .invalidName⟩
  path := cBytes ['/', 'e', 'x', 't', '/', '?']
  indexList := [1]
  currentIndex := 0
  recursive := true

end FlipperZero
