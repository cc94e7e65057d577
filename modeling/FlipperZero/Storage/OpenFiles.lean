import FlipperZero.Storage.Processing

/-!
# Open files are not opened twice and not removed

The service compares the path of a request with the paths of open files as strings. What file a
path denotes is up to the file system below (`key`): names on FAT cards differ in letter case.
So the lists protect a file only against requests that spell its path as it was opened
(`SpelledAlike`), and formatting a card does not look at the list at all.
-/

namespace FlipperZero

open Foundation

namespace StorageService

variable {κ : Type} (key : StorageType → CPath → κ)

/-- No two open handles of one storage denote the same file. -/
def Exclusive (s : StorageService) : Prop :=
  ∀ t, (s.storage t).files.Pairwise fun f g =>
    f.opened = true → g.opened = true → key t f.path ≠ key t g.path

def RemovesOpen (s : StorageService) (request : StorageRequest) : Prop :=
  match (s.process request).1.removed with
  | none => False
  | some (.path t path) => ∃ f ∈ (s.storage t).files, f.opened = true ∧ key t f.path = key t path
  | some (.all t) => ∃ f ∈ (s.storage t).files, f.opened = true

/-- Every open handle of the file that a path denotes was opened with the same spelling. -/
def SpelledAlike (s : StorageService) (path appid : CPath) : Prop :=
  match s.resolve path appid with
  | none => True
  | some (t, path) =>
    ∀ f ∈ (s.storage t).files, f.opened = true → key t f.path = key t path → f.path = path

def NothingOpen (s : StorageService) (t : StorageType) : Prop :=
  ∀ f ∈ (s.storage t).files, f.opened = false

/-- The condition on a request and the state before it. -/
def RequestGuarded (s : StorageService) : StorageRequest → Prop
  | .fileOpen _ _ path appid _ | .dirOpen _ _ path appid _ | .remove path appid _ =>
    s.SpelledAlike key path appid
  | .sdFormat .. => s.NothingOpen .ext
  | .virtualFormat _ => s.NothingOpen .mnt
  | _ => True

section Decidable

variable [DecidableEq κ]

instance (s : StorageService) (path appid : CPath) : Decidable (s.SpelledAlike key path appid) := by
  unfold SpelledAlike
  split <;> infer_instance

instance (s : StorageService) (t : StorageType) : Decidable (s.NothingOpen t) :=
  inferInstanceAs (Decidable (∀ f ∈ (s.storage t).files, f.opened = false))

instance (s : StorageService) (request : StorageRequest) :
    Decidable (s.RequestGuarded key request) := by
  unfold RequestGuarded
  split <;> infer_instance

end Decidable

variable {s : StorageService}

@[simp] lemma setStorage_self (s : StorageService) (t : StorageType) (d : StorageData) :
    (s.setStorage t d).storage t = d := if_pos rfl

lemma setStorage_other (s : StorageService) {t u : StorageType} (h : u ≠ t) (d : StorageData) :
    (s.setStorage t d).storage u = s.storage u := if_neg h

/-! ### The lists -/

variable {key}

lemma Exclusive.init (status : StorageType → StorageStatus) : (init status).Exclusive key :=
  fun _ => List.Pairwise.nil

lemma Exclusive.setStorage (h : s.Exclusive key) {t : StorageType} {d : StorageData}
    (hd : d.files.Pairwise fun f g =>
      f.opened = true → g.opened = true → key t f.path ≠ key t g.path) :
    (s.setStorage t d).Exclusive key := by
  intro u
  by_cases hu : u = t
  · subst hu
    rw [setStorage_self]
    exact hd
  · rw [setStorage_other s hu]
    exact h u

lemma Exclusive.setStatus (h : s.Exclusive key) (t : StorageType) (status : StorageStatus) :
    (s.setStorage t { s.storage t with status := status }).Exclusive key :=
  h.setStorage (h t)

lemma SpelledAlike.not_open {path path' appid : CPath} {t : StorageType}
    (hs : s.SpelledAlike key path appid) (hresolve : s.resolve path appid = some (t, path'))
    (hnew : s.pathAlreadyOpen t path' = false) {f : StorageFile} (hf : f ∈ (s.storage t).files)
    (hopen : f.opened = true) : key t f.path ≠ key t path' := by
  intro hkey
  simp only [SpelledAlike, hresolve] at hs
  have hpath := hs f hf hopen hkey
  have hany : s.pathAlreadyOpen t path' = true :=
    List.any_eq_true.mpr ⟨f, hf, beq_iff_eq.mpr hpath⟩
  exact Bool.false_ne_true (hnew.symm.trans hany)

lemma Exclusive.processOpen (h : s.Exclusive key) (file node : Nat) {path appid : CPath}
    (hs : s.SpelledAlike key path appid) (error : FSError) :
    (s.processOpen file node path appid error).2.Exclusive key := by
  unfold StorageService.processOpen
  cases hresolve : s.resolve path appid with
  | none => exact h
  | some r =>
    obtain ⟨t, path'⟩ := r
    dsimp only
    split_ifs with hopen
    · exact h
    · have hnew : s.pathAlreadyOpen t path' = false := by simpa using hopen
      have hlist : (s.setStorage t { s.storage t with
          files := ⟨file, path', decide (error = .ok)⟩ :: (s.storage t).files }).Exclusive key :=
        h.setStorage (List.Pairwise.cons
          (fun g hg _ hgo hkey => hs.not_open hresolve hnew hg hgo hkey.symm) (h t))
      exact hlist

lemma Exclusive.processClose (h : s.Exclusive key) (file : Nat) (error : FSError) :
    (s.processClose file error).2.Exclusive key := by
  unfold StorageService.processClose
  cases s.getStorageByFile file with
  | none => exact h
  | some t => exact h.setStorage ((h t).sublist (List.eraseP_sublist ..))

lemma Exclusive.process (h : s.Exclusive key) {request : StorageRequest}
    (hs : s.RequestGuarded key request) : (s.process request).2.Exclusive key := by
  cases request with
  | fileOpen file node path appid error => exact h.processOpen file node hs error
  | dirOpen file node path appid error => exact h.processOpen file node hs error
  | fileClose file error => exact h.processClose file error
  | dirClose file error => exact h.processClose file error
  | remove path appid error =>
    simp only [StorageService.process, processCommonRemove]
    cases s.resolve path appid with
    | none => exact h
    | some r => dsimp only; split_ifs <;> exact h
  | sdFormat formatted status error =>
    simp only [StorageService.process, processSdFormat]
    split_ifs
    · exact h
    · exact h.setStatus .ext status
    · exact h.setStatus .ext status
  | sdUnmount =>
    simp only [StorageService.process, processSdUnmount]
    split_ifs
    · exact h
    · exact h
    · exact h.setStatus .ext .notReady
  | cardStatus status => exact h.setStatus .ext status
  | virtualInit => simp only [StorageService.process]; split_ifs <;> exact h
  | virtualFormat formatted =>
    simp only [StorageService.process, processVirtualFormat]
    split_ifs <;> exact h
  | virtualQuit => simp only [StorageService.process]; split_ifs <;> exact h

/-! ### Removing -/

lemma processOpen_removed (s : StorageService) (file node : Nat) (path appid : CPath)
    (error : FSError) : (s.processOpen file node path appid error).1.removed = none := by
  unfold processOpen
  split
  · rfl
  · split_ifs <;> rfl

lemma processClose_removed (s : StorageService) (file : Nat) (error : FSError) :
    (s.processClose file error).1.removed = none := by
  unfold processClose
  split <;> rfl

lemma RequestGuarded.not_removesOpen {request : StorageRequest}
    (hs : s.RequestGuarded key request) : ¬ s.RemovesOpen key request := by
  have hnone : (s.process request).1.removed = none → ¬ s.RemovesOpen key request := by
    intro hr h
    simp only [RemovesOpen, hr] at h
  cases request with
  | remove path appid error =>
    intro h
    simp only [RemovesOpen, StorageService.process, processCommonRemove] at h
    cases hresolve : s.resolve path appid with
    | none => simp only [hresolve] at h
    | some r =>
      obtain ⟨t, path'⟩ := r
      simp only [hresolve] at h
      split_ifs at h with hopen hok
      · exact h
      · obtain ⟨f, hf, hfo, hkey⟩ := h
        exact SpelledAlike.not_open hs hresolve (by simpa using hopen) hf hfo hkey
      · exact h
  | sdFormat formatted status error =>
    intro h
    simp only [RemovesOpen, StorageService.process, processSdFormat] at h
    split_ifs at h with hready hformatted
    · exact h
    · obtain ⟨f, hf, hfo⟩ := h
      exact Bool.false_ne_true ((hs f hf).symm.trans hfo)
    · exact h
  | virtualFormat formatted =>
    intro h
    simp only [RemovesOpen, StorageService.process, processVirtualFormat] at h
    split_ifs at h with himage hformatted
    · exact h
    · obtain ⟨f, hf, hfo⟩ := h
      exact Bool.false_ne_true ((hs f hf).symm.trans hfo)
    · exact h
  | fileOpen file node path appid error => exact hnone (processOpen_removed ..)
  | dirOpen file node path appid error => exact hnone (processOpen_removed ..)
  | fileClose file error => exact hnone (processClose_removed ..)
  | dirClose file error => exact hnone (processClose_removed ..)
  | sdUnmount =>
    refine hnone ?_
    simp only [StorageService.process, processSdUnmount]
    split_ifs <;> rfl
  | cardStatus status => exact hnone rfl
  | virtualInit =>
    refine hnone ?_
    simp only [StorageService.process]
    split_ifs <;> rfl
  | virtualQuit =>
    refine hnone ?_
    simp only [StorageService.process]
    split_ifs <;> rfl

end StorageService

/-- Whatever files the paths denote, in every run of guarded requests the open handles of a
storage denote different files, and no request removes a file that has an open handle. -/
theorem storageService_exclusive {κ : Type} (key : StorageType → CPath → κ)
    (status : StorageType → StorageStatus) (requests : List StorageRequest)
    (hrun : storageService.Along (StorageService.RequestGuarded key) (.init status) requests) :
    (storageService.final (.init status) requests).Exclusive key ∧
      storageService.Along (fun s request => ¬ s.RemovesOpen key request) (.init status)
        requests :=
  ⟨hrun.invariant (fun _ _ h hs => h.process hs) (.init status),
    hrun.mono (I := fun _ => True) (fun _ _ _ _ => trivial) (fun _ _ _ hs => hs.not_removesOpen)
      trivial⟩

/-- The file that a path denotes under the path equivalence of its storage. -/
def storagePathKey (t : StorageType) (path : CPath) : CPath :=
  if t = .int then path else path.map cToLower

lemma storageEquivalentPath_iff (t : StorageType) (path1 path2 : CPath) :
    storageEquivalentPath t path1 path2 = true ↔ storagePathKey t path1 = storagePathKey t path2 := by
  cases t <;> exact beq_iff_eq

/-- A file is opened through `/any`, opened again through `/ext`, which is refused, closed,
removed and opened again. -/
theorem storageService_exclusive_any :
    let a := storageAnyPathPrefix ++ cBytes ['/', 'a']
    let b := storageExtPathPrefix ++ cBytes ['/', 'a']
    let requests : List StorageRequest :=
      [.fileOpen 1 100 a [] .ok, .fileOpen 2 200 b [] .ok, .remove b [] .ok, .fileClose 1 .ok,
        .remove a [] .ok, .sdFormat true .ok .ok, .fileOpen 2 100 b [] .ok]
    storageService.Along (StorageService.RequestGuarded storagePathKey) (.init fun _ => .ok)
        requests ∧
      (storageService.final (.init fun _ => .ok) requests).Exclusive storagePathKey ∧
      storageService.Along (fun s request => ¬ s.RemovesOpen storagePathKey request)
        (.init fun _ => .ok) requests := by
  intro a b requests
  have hrun : storageService.Along (StorageService.RequestGuarded storagePathKey)
      (.init fun _ => .ok) requests := by decide +kernel
  exact ⟨hrun, storageService_exclusive storagePathKey (fun _ => .ok) requests hrun⟩

/-- On the card a file is opened as `a` and as `A`, then `A` is removed after its close while
`a` is open, and the card is formatted. -/
theorem storageService_not_exclusive :
    let a := storageExtPathPrefix ++ cBytes ['/', 'a']
    let b := storageExtPathPrefix ++ cBytes ['/', 'A']
    let start : StorageService := .init fun _ => .ok
    let opened := storageService.final start [.fileOpen 1 100 a [] .ok, .fileOpen 2 200 b [] .ok]
    let closed := storageService.final opened [.fileClose 2 .ok]
    storageEquivalentPath .ext a b = true ∧ ¬ opened.Exclusive storagePathKey ∧
      closed.RemovesOpen storagePathKey (.remove b [] .ok) ∧
      closed.RemovesOpen storagePathKey (.sdFormat true .ok .ok) := by
  intro a b start opened closed
  have hopened : (opened.storage .ext).files = [⟨2, b, true⟩, ⟨1, a, true⟩] := by decide +kernel
  have hclosed : (closed.storage .ext).files = [⟨1, a, true⟩] := by decide +kernel
  have hkey : storagePathKey .ext b = storagePathKey .ext a := by decide +kernel
  have hremove : (closed.process (.remove b [] .ok)).1.removed = some (.path .ext b) := by
    decide +kernel
  have hformat : (closed.process (.sdFormat true .ok .ok)).1.removed = some (.all .ext) := by
    decide +kernel
  refine ⟨by decide +kernel, fun h => ?_, ?_, ?_⟩
  · have hpair := h .ext
    rw [hopened, List.pairwise_cons] at hpair
    exact hpair.1 ⟨1, a, true⟩ (List.mem_singleton.mpr rfl) rfl rfl hkey
  · simp only [StorageService.RemovesOpen, hremove]
    exact ⟨⟨1, a, true⟩, by rw [hclosed]; exact List.mem_singleton.mpr rfl, rfl, hkey.symm⟩
  · simp only [StorageService.RemovesOpen, hformat]
    exact ⟨⟨1, a, true⟩, by rw [hclosed]; exact List.mem_singleton.mpr rfl, rfl⟩

end FlipperZero
