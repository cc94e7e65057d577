import FlipperZero.Foundation.Mealy
import FlipperZero.Storage.FilesystemApi

/-!
# The storage service

The requests of `storage_processing.c` that open, close or remove files, and the lists of open
files of the storages. A request carries what the file system answers. A list entry is made
before the file system is asked, and stays after a failed open until the file is closed.

An entry is found by the `file_id` of its `File`, which is the address of the list node: it is
chosen by the allocator, and a `File` keeps it after its entry is gone.
-/

namespace FlipperZero

open Foundation

inductive StorageType where
  | ext
  | int
  | mnt
  | any
  deriving DecidableEq, Repr

inductive StorageStatus where
  | ok
  | notReady
  | notMounted
  | noFS
  | notAccessible
  | errorInternal
  deriving DecidableEq, Repr

/-- `StorageFile`: an entry of a list of open files. `opened` is false after a failed open. -/
structure StorageFile where
  file : Nat
  path : CPath
  opened : Bool
  deriving DecidableEq, Repr

structure StorageData where
  status : StorageStatus
  files : List StorageFile

/-- `Storage`, the `file_id` of every `File`, and whether a virtual image is set. -/
structure StorageService where
  storage : StorageType → StorageData
  fileId : Nat → Nat
  mntImage : Bool

/-- What a request takes away: a path of a storage, or all of it. -/
inductive StorageRemoval where
  | path (type : StorageType) (path : CPath)
  | all (type : StorageType)
  deriving DecidableEq, Repr

/-- The answer to a request, and what it removed. -/
structure StorageReply where
  error : FSError
  removed : Option StorageRemoval
  deriving DecidableEq, Repr

/-- The requests, with the id of the calling application, the address of a new list node and
the answers of the file system. -/
inductive StorageRequest where
  | fileOpen (file node : Nat) (path appid : CPath) (error : FSError)
  | fileClose (file : Nat) (error : FSError)
  | dirOpen (file node : Nat) (path appid : CPath) (error : FSError)
  | dirClose (file : Nat) (error : FSError)
  | remove (path appid : CPath) (error : FSError)
  | sdFormat (formatted : Bool) (status : StorageStatus) (error : FSError)
  | sdUnmount
  | cardStatus (status : StorageStatus)
  | virtualInit
  | virtualFormat (formatted : Bool)
  | virtualQuit

/-! ### Paths -/

/-- `storage_get_type_by_path`, `none` for `ST_ERROR`. -/
def storageGetTypeByPath (path : CPath) : Option StorageType :=
  if 4 < path.length ∧ path[4]? ≠ some 0x2F then none
  else if path.take 4 = storageExtPathPrefix then some .ext
  else if path.take 4 = storageIntPathPrefix then some .int
  else if path.take 4 = storageMntPathPrefix then some .mnt
  else if path.take 4 = storageAnyPathPrefix then some .any
  else none

def storagePathChangeToRealStorage (path : CPath) (realStorage : StorageType) : CPath :=
  if path.take 4 = storageAnyPathPrefix then
    match realStorage with
    | .ext => storageExtPathPrefix ++ path.drop 4
    | .int => storageIntPathPrefix ++ path.drop 4
    | _    => path
  else path

/-- `storage_process_alias`, on the path. -/
def storageProcessAlias (path appid : CPath) : CPath :=
  if storageAppDataPathPrefix.isPrefixOf path then
    appsDataPath ++ appid ++ path.drop storageAppDataPathPrefix.length
  else if storageAppAssetsPathPrefix.isPrefixOf path then
    appsAssetsPath ++ appid ++ path.drop storageAppAssetsPathPrefix.length
  else path

/-- `common.equivalent_path` of a storage: the cards have FAT file systems. -/
def storageEquivalentPath : StorageType → CPath → CPath → Bool
  | .int, path1, path2 => path1 == path2
  | _, path1, path2    => cStrCaseEq path1 path2

namespace StorageService

def init (status : StorageType → StorageStatus) : StorageService where
  storage t := ⟨status t, []⟩
  fileId := fun _ => 0
  mntImage := false

def setStorage (s : StorageService) (t : StorageType) (d : StorageData) : StorageService :=
  { s with storage := fun u => if u = t then d else s.storage u }

/-- `storage_get_data`: the storage of a path, and the path with its real prefix. -/
def getData (s : StorageService) (path : CPath) : Option (StorageType × CPath) :=
  match storageGetTypeByPath path with
  | none      => none
  | some .any =>
    let type : StorageType := if (s.storage .ext).status = .ok then .ext else .int
    some (type, storagePathChangeToRealStorage path type)
  | some type => some (type, path)

/-- What a request means by a path. -/
def resolve (s : StorageService) (path appid : CPath) : Option (StorageType × CPath) :=
  s.getData (storageProcessAlias path appid)

/-- `storage_path_already_open`. -/
def pathAlreadyOpen (s : StorageService) (t : StorageType) (path : CPath) : Bool :=
  (s.storage t).files.any fun f => f.path == path

/-- An entry belongs to a `File` when the two ids are equal. -/
def isEntryOf (s : StorageService) (file : Nat) (f : StorageFile) : Bool :=
  s.fileId f.file == s.fileId file

/-- `get_storage_by_file`: the last storage that has the file. -/
def getStorageByFile (s : StorageService) (file : Nat) : Option StorageType :=
  [StorageType.mnt, .int, .ext].find? fun t => (s.storage t).files.any (s.isEntryOf file)

/-- `storage_push_storage_file`, with the result of the open that follows. -/
def pushStorageFile (s : StorageService) (file node : Nat) (t : StorageType) (path : CPath)
    (opened : Bool) : StorageService :=
  { s.setStorage t { s.storage t with files := ⟨file, path, opened⟩ :: (s.storage t).files } with
    fileId := fun g => if g = file then node else s.fileId g }

/-- `storage_pop_storage_file`. -/
def popStorageFile (s : StorageService) (file : Nat) (t : StorageType) : StorageService :=
  s.setStorage t { s.storage t with files := (s.storage t).files.eraseP (s.isEntryOf file) }

/-- What `storage_process_file_open` and `storage_process_dir_open` do to the lists. -/
def processOpen (s : StorageService) (file node : Nat) (path appid : CPath) (error : FSError) :
    StorageReply × StorageService :=
  match s.resolve path appid with
  | none           => (⟨.invalidName, none⟩, s)
  | some (t, path) =>
    if s.pathAlreadyOpen t path then (⟨.alreadyOpen, none⟩, s)
    else (⟨error, none⟩, s.pushStorageFile file node t path (decide (error = .ok)))

/-- What `storage_process_file_close` and `storage_process_dir_close` do to the lists. -/
def processClose (s : StorageService) (file : Nat) (error : FSError) :
    StorageReply × StorageService :=
  match s.getStorageByFile file with
  | none   => (⟨.invalidParameter, none⟩, s)
  | some t => (⟨error, none⟩, s.popStorageFile file t)

/-- `storage_process_common_remove`. -/
def processCommonRemove (s : StorageService) (path appid : CPath) (error : FSError) :
    StorageReply × StorageService :=
  match s.resolve path appid with
  | none           => (⟨.invalidName, none⟩, s)
  | some (t, path) =>
    if s.pathAlreadyOpen t path then (⟨.alreadyOpen, none⟩, s)
    else (⟨error, if error = .ok then some (.path t path) else none⟩, s)

/-- `storage_process_sd_format`. -/
def processSdFormat (s : StorageService) (formatted : Bool) (status : StorageStatus)
    (error : FSError) : StorageReply × StorageService :=
  if (s.storage .ext).status = .notReady then (⟨.notReady, none⟩, s)
  else
    (⟨error, if formatted then some (.all .ext) else none⟩,
      s.setStorage .ext { s.storage .ext with status := status })

/-- `storage_process_sd_unmount`. -/
def processSdUnmount (s : StorageService) : StorageReply × StorageService :=
  if (s.storage .ext).status = .notReady then (⟨.notReady, none⟩, s)
  else if (s.storage .ext).files ≠ [] then (⟨.denied, none⟩, s)
  else (⟨.ok, none⟩, s.setStorage .ext { s.storage .ext with status := .notReady })

/-- `storage_process_virtual_format`. -/
def processVirtualFormat (s : StorageService) (formatted : Bool) :
    StorageReply × StorageService :=
  if s.mntImage = false then (⟨.notReady, none⟩, s)
  else if formatted then (⟨.ok, some (.all .mnt)⟩, s)
  else (⟨.internal, none⟩, s)

def process (s : StorageService) : StorageRequest → StorageReply × StorageService
  | .fileOpen file node path appid error => s.processOpen file node path appid error
  | .fileClose file error                => s.processClose file error
  | .dirOpen file node path appid error  => s.processOpen file node path appid error
  | .dirClose file error                 => s.processClose file error
  | .remove path appid error             => s.processCommonRemove path appid error
  | .sdFormat formatted status error     => s.processSdFormat formatted status error
  | .sdUnmount                           => s.processSdUnmount
  | .cardStatus status                   =>
    (⟨.ok, none⟩, s.setStorage .ext { s.storage .ext with status := status })
  | .virtualInit                         =>
    if s.mntImage then (⟨.alreadyOpen, none⟩, s) else (⟨.ok, none⟩, { s with mntImage := true })
  | .virtualFormat formatted             => s.processVirtualFormat formatted
  | .virtualQuit                         =>
    if s.mntImage then (⟨.ok, none⟩, { s with mntImage := false }) else (⟨.notReady, none⟩, s)

end StorageService

def storageService : Mealy StorageService StorageRequest StorageReply where
  step := StorageService.process

end FlipperZero
