import FlipperZero.Foundation.Mealy
import FlipperZero.Foundation.Overwrite
import FlipperZero.Storage.FilesystemApi

/-!
# The storage part of the RPC

The handlers of `rpc_storage.c`. A handler runs a request to its end, except a write, which
comes in chunks: the first one opens the file, the others continue while the command id stays
the same, and every other request interrupts it. What the storage service answers to a handler
is part of the input of a step.
-/

namespace FlipperZero

open Foundation

/-- `PB_CommandStatus`, the values the storage part uses. -/
inductive PBCommandStatus where
  | ok
  | error
  | errorInvalidParameters
  | errorContinuousCommandInterrupted
  | errorStorageNotReady
  | errorStorageExist
  | errorStorageNotExist
  | errorStorageInvalidParameter
  | errorStorageDenied
  | errorStorageInvalidName
  | errorStorageInternal
  | errorStorageNotImplemented
  | errorStorageAlreadyOpen
  | errorStorageDirNotEmpty
  deriving DecidableEq, Repr

def rpcSystemStorageGetError : FSError → PBCommandStatus
  | .ok               => .ok
  | .invalidName      => .errorStorageInvalidName
  | .invalidParameter => .errorStorageInvalidParameter
  | .internal         => .errorStorageInternal
  | .alreadyOpen      => .errorStorageAlreadyOpen
  | .denied           => .errorStorageDenied
  | .exist            => .errorStorageExist
  | .notExist         => .errorStorageNotExist
  | .notReady         => .errorStorageNotReady
  | .notImplemented   => .errorStorageNotImplemented

/-- A file entry of a list response. -/
structure RpcListFile where
  isDir : Bool
  name : List UInt8
  size : Nat
  md5sum : List UInt8
  deriving DecidableEq, Repr

/-- The content of a response. -/
inductive RpcContent where
  | empty
  | info (totalSpace freeSpace : Nat)
  | timestamp (timestamp : Nat)
  | stat (isDir : Bool) (size : Nat)
  | list (file : List RpcListFile)
  | read (data : List UInt8)
  | md5sum (md5sum : List UInt8)
  deriving DecidableEq, Repr

/-- A `PB_Main` that is sent. The last one of a command has `hasNext` false. -/
structure RpcResponse where
  commandId : Nat
  status : PBCommandStatus
  hasNext : Bool
  content : RpcContent
  deriving DecidableEq, Repr

/-- `rpc_send_and_release_empty`. -/
def rpcSendEmpty (commandId : Nat) (status : PBCommandStatus) : RpcResponse where
  commandId := commandId
  status := status
  hasNext := false
  content := .empty

/-! ### Requests -/

/-- A directory entry that the storage service reads, with its checksum. -/
structure RpcDirEntry where
  isDir : Bool
  name : List UInt8
  size : Nat
  md5 : Option (List UInt8)
  deriving DecidableEq, Repr

/-- A request without its command id, with what the storage service answers to the calls of its
handler. A path that was not sent is a null pointer. -/
inductive RpcRequestContent where
  | info (error : FSError) (totalSpace freeSpace : Nat)
  | timestamp (error : FSError) (timestamp : Nat)
  | stat (error : FSError) (isDir : Bool) (size : Nat)
  | list (path : List UInt8) (includeMd5 : Bool) (filterMaxSize : Nat) (opened : Bool)
      (error : FSError) (entries : List RpcDirEntry)
  | read (opened : Bool) (size : Nat) (reads : Nat → List UInt8) (error : FSError)
  | write (path : Option (List UInt8)) (data : List UInt8) (hasNext : Bool) (opened : Bool)
      (openError : FSError) (written : Nat) (writeError : FSError)
  | delete (path : Option (List UInt8)) (recursive : Bool) (errorRemove : FSError)
      (dirIsEmpty deleted : Bool)
  | mkdir (path : Option (List UInt8)) (error : FSError)
  | md5sum (path : Option (List UInt8)) (result : Except FSError (List UInt8))
  | rename (newPath : Option (List UInt8)) (error : FSError)
  | backupCreate (backupOk : Bool)
  | backupRestore (backupOk : Bool)
  | tarExtract (outPath : Option (List UInt8)) (opened unpacked : Bool)

/-- The files of the storage. -/
abbrev RpcFiles : Type := List UInt8 → Option (List UInt8)

/-- A request, what a handler other than that of a write does to the files, and how the file of a
write that is interrupted is closed, and the file of the write itself. -/
structure RpcRequest where
  commandId : Nat
  content : RpcRequestContent
  effect : RpcFiles → RpcFiles
  closeInterrupted : StorageFileClose (List UInt8)
  close : StorageFileClose (List UInt8)

/-- `path_contains_only_ascii`: the name behind the last slash has only printable characters
that no file system forbids. -/
def pathContainsOnlyAscii : Option (List UInt8) → Bool
  | none      => false
  | some path =>
    (path.reverse.takeWhile (· ≠ 0x2F)).all fun c =>
      decide (0x20 ≤ c ∧ c ≤ 0x7E) && !([0x5C, 0x3C, 0x3E, 0x2A, 0x7C, 0x22, 0x3A, 0x3F].contains c)

/-! ### Handlers that run to their end -/

/-- `MAX_DATA_SIZE`. -/
def rpcMaxDataSize : Nat := 512

/-- The loop of `rpc_system_storage_read_process`: the responses, and whether all reads
succeeded. -/
def rpcSystemStorageReadLoop (commandId : Nat) (reads : Nat → List UInt8) (sizeLeft : Nat) :
    List RpcResponse × Bool :=
  let readSize := min sizeLeft rpcMaxDataSize
  if readSize = 0 then ([⟨commandId, .ok, false, .read []⟩], true)
  else
    let data := (reads sizeLeft).take readSize
    if data.length = readSize then
      let left := sizeLeft - readSize
      let response : RpcResponse := ⟨commandId, .ok, decide (0 < left), .read data⟩
      if left = 0 then ([response], true)
      else
        let rest := rpcSystemStorageReadLoop commandId reads left
        (response :: rest.1, rest.2)
    else ([], false)
termination_by sizeLeft

def rpcSystemStorageReadProcess (commandId : Nat) (opened : Bool) (size : Nat)
    (reads : Nat → List UInt8) (error : FSError) : List RpcResponse :=
  let r := if opened then rpcSystemStorageReadLoop commandId reads size else ([], false)
  if r.2 then r.1 else r.1 ++ [rpcSendEmpty commandId (rpcSystemStorageGetError error)]

def rpcSystemStorageListFilter (filterMaxSize : Nat) (e : RpcDirEntry) : Bool :=
  pathContainsOnlyAscii (some e.name) && (filterMaxSize == 0 || decide (e.size ≤ filterMaxSize))

/-- The loop of `rpc_system_storage_list_process`, with the entries collected for the next
response. `fileCount` is the number of entries a response has room for. The entries are reused,
so a checksum that is not written is that of `slots`, the last response sent. -/
def rpcSystemStorageListLoop (commandId fileCount : Nat) (includeMd5 : Bool)
    (filterMaxSize : Nat) (slots : List RpcListFile) :
    List RpcListFile → List RpcDirEntry → List RpcResponse
  | file, []     => [⟨commandId, .ok, false, .list file⟩]
  | file, e :: es =>
    if rpcSystemStorageListFilter filterMaxSize e then
      let isFull := file.length = fileCount
      let old := ((if isFull then file[0]? else slots[file.length]?).map (·.md5sum)).getD []
      let md5sum := if includeMd5 && !e.isDir then e.md5.getD old else old
      let entry : RpcListFile := ⟨e.isDir, e.name, e.size, md5sum⟩
      if isFull then
        ⟨commandId, .ok, true, .list file⟩ ::
          rpcSystemStorageListLoop commandId fileCount includeMd5 filterMaxSize file [entry] es
      else
        rpcSystemStorageListLoop commandId fileCount includeMd5 filterMaxSize slots
          (file ++ [entry]) es
    else rpcSystemStorageListLoop commandId fileCount includeMd5 filterMaxSize slots file es

/-- `rpc_system_storage_list_root`: the directories `any`, `int` and `ext`. -/
def rpcSystemStorageListRoot (commandId : Nat) : List RpcResponse :=
  [⟨commandId, .ok, false, .list
    [⟨true, [0x61, 0x6E, 0x79], 0, []⟩, ⟨true, [0x69, 0x6E, 0x74], 0, []⟩,
      ⟨true, [0x65, 0x78, 0x74], 0, []⟩]⟩]

def rpcSystemStorageListProcess (commandId fileCount : Nat) (path : List UInt8)
    (includeMd5 : Bool) (filterMaxSize : Nat) (opened : Bool) (error : FSError)
    (entries : List RpcDirEntry) : List RpcResponse :=
  if path = [0x2F] then rpcSystemStorageListRoot commandId
  else if opened then
    rpcSystemStorageListLoop commandId fileCount includeMd5 filterMaxSize [] [] entries
  else [rpcSendEmpty commandId (rpcSystemStorageGetError error)]

/-- `rpc_system_storage_delete_process`, its status. -/
def rpcSystemStorageDeleteStatus (path : Option (List UInt8)) (recursive : Bool)
    (errorRemove : FSError) (dirIsEmpty deleted : Bool) : PBCommandStatus :=
  if path = none then .errorInvalidParameters
  else if errorRemove = .denied ∧ dirIsEmpty = false then
    if recursive then (if deleted then .ok else .error) else .errorStorageDirNotEmpty
  else if errorRemove = .notExist then .ok
  else rpcSystemStorageGetError errorRemove

/-- `rpc_system_storage_mkdir_process`, its status. -/
def rpcSystemStorageMkdirStatus (path : Option (List UInt8)) (error : FSError) :
    PBCommandStatus :=
  if path = none then .errorInvalidParameters
  else if pathContainsOnlyAscii path then rpcSystemStorageGetError error
  else .errorStorageInvalidName

def rpcSystemStorageMd5sumProcess (commandId : Nat) (path : Option (List UInt8))
    (result : Except FSError (List UInt8)) : List RpcResponse :=
  if path = none then [rpcSendEmpty commandId .errorInvalidParameters]
  else
    match result with
    | .ok md5sum   => [⟨commandId, .ok, false, .md5sum md5sum⟩]
    | .error error => [rpcSendEmpty commandId (rpcSystemStorageGetError error)]

/-- `rpc_system_storage_rename_process`, its status. -/
def rpcSystemStorageRenameStatus (newPath : Option (List UInt8)) (error : FSError) :
    PBCommandStatus :=
  if pathContainsOnlyAscii newPath then rpcSystemStorageGetError error
  else .errorStorageInvalidName

/-- `rpc_system_storage_tar_extract_process`, its status. -/
def rpcSystemStorageTarExtractStatus (outPath : Option (List UInt8)) (opened unpacked : Bool) :
    PBCommandStatus :=
  if pathContainsOnlyAscii outPath = false then .errorStorageInvalidName
  else if opened = false then .errorStorageInvalidParameter
  else if unpacked = false then .errorStorageInternal
  else .ok

/-- The content that comes with the status `OK` only. -/
def rpcContentIfOk (error : FSError) (content : RpcContent) : RpcContent :=
  if error = .ok then content else .empty

/-- What the handlers other than that of a write send. -/
def rpcSystemStorageProcess (fileCount commandId : Nat) : RpcRequestContent → List RpcResponse
  | .info error total free =>
    [⟨commandId, rpcSystemStorageGetError error, false, rpcContentIfOk error (.info total free)⟩]
  | .timestamp error t =>
    [⟨commandId, rpcSystemStorageGetError error, false, rpcContentIfOk error (.timestamp t)⟩]
  | .stat error isDir size =>
    [⟨commandId, rpcSystemStorageGetError error, false, rpcContentIfOk error (.stat isDir size)⟩]
  | .list path includeMd5 filterMaxSize opened error entries =>
    rpcSystemStorageListProcess commandId fileCount path includeMd5 filterMaxSize opened error
      entries
  | .read opened size reads error =>
    rpcSystemStorageReadProcess commandId opened size reads error
  | .delete path recursive errorRemove dirIsEmpty deleted =>
    [rpcSendEmpty commandId
      (rpcSystemStorageDeleteStatus path recursive errorRemove dirIsEmpty deleted)]
  | .mkdir path error => [rpcSendEmpty commandId (rpcSystemStorageMkdirStatus path error)]
  | .md5sum path result => rpcSystemStorageMd5sumProcess commandId path result
  | .rename newPath error =>
    [rpcSendEmpty commandId (rpcSystemStorageRenameStatus newPath error)]
  | .backupCreate ok | .backupRestore ok =>
    [rpcSendEmpty commandId (if ok then .ok else .error)]
  | .tarExtract outPath opened unpacked =>
    [rpcSendEmpty commandId (rpcSystemStorageTarExtractStatus outPath opened unpacked)]
  | .write .. => []

/-! ### Writing -/

/-- The file of a write: the path it was opened with, its position and its last error. -/
structure RpcFile where
  path : List UInt8
  pos : Nat
  error : FSError
  deriving DecidableEq, Repr

/-- `RpcStorageState`, with the file that is open while writing. -/
inductive RpcStorageState where
  | idle
  | writing (file : RpcFile)
  deriving DecidableEq, Repr

/-- `RpcStorageSystem`, and the files. -/
structure RpcStorageSystem where
  state : RpcStorageState
  currentCommandId : Nat
  files : RpcFiles

namespace RpcStorageSystem

/-- `rpc_system_storage_alloc`. -/
def alloc (files : RpcFiles) : RpcStorageSystem where
  state := .idle
  currentCommandId := 0
  files := files

/-- `storage_file_close` of the file at a path. -/
def closeFile (files : RpcFiles) (path : List UInt8) (close : StorageFileClose (List UInt8)) :
    RpcFiles :=
  fun p => if p = path then close.content (files p) else files p

/-- `rpc_system_storage_reset_state`. What closing the file returns is not looked at. -/
def resetState (s : RpcStorageSystem) (close : StorageFileClose (List UInt8)) (sendError : Bool) :
    List RpcResponse × RpcStorageSystem :=
  match s.state with
  | .idle         => ([], s)
  | .writing file =>
    (if sendError then [rpcSendEmpty s.currentCommandId .errorContinuousCommandInterrupted] else [],
      { s with state := .idle, files := closeFile s.files file.path close })

/-- `storage_file_open` with `FSOM_CREATE_ALWAYS`. -/
def openFile (s : RpcStorageSystem) (commandId : Nat) (path : List UInt8) (opened : Bool)
    (error : FSError) : RpcStorageSystem where
  state := .writing ⟨path, 0, error⟩
  currentCommandId := commandId
  files := if opened then fun p => if p = path then some [] else s.files p else s.files

/-- `storage_file_write`, of which the first `written` bytes arrive. -/
def writeFile (s : RpcStorageSystem) (file : RpcFile) (data : List UInt8) (written : Nat)
    (error : FSError) : RpcStorageSystem where
  state := .writing { file with pos := file.pos + min written data.length, error := error }
  currentCommandId := s.currentCommandId
  files := fun p =>
    if p = file.path then
      (s.files p).map fun content => overwrite content file.pos (data.take written)
    else s.files p

/-- `rpc_system_storage_write_process` from the choice of the file on. -/
def writeChunk (s : RpcStorageSystem) (file : RpcFile) (fsOperationSuccess : Bool)
    (data : List UInt8) (hasNext : Bool) (written : Nat) (writeError : FSError)
    (close : StorageFileClose (List UInt8)) : List RpcResponse × RpcStorageSystem :=
  let r : Bool × RpcFile × RpcStorageSystem :=
    if fsOperationSuccess = true ∧ data ≠ [] then
      (decide (min written data.length = data.length), { file with error := writeError },
        s.writeFile file data written writeError)
    else (fsOperationSuccess, file, s)
  if r.1 then
    if hasNext then ([], r.2.2)
    else ([rpcSendEmpty r.2.2.currentCommandId .ok], (r.2.2.resetState close false).2)
  else
    let status := rpcSystemStorageGetError r.2.1.error
    ([rpcSendEmpty r.2.2.currentCommandId (if status = .ok then .errorStorageInternal else status)],
      (r.2.2.resetState close false).2)

/-- `rpc_system_storage_write_process`. -/
def writeProcess (s : RpcStorageSystem) (commandId : Nat) (path : Option (List UInt8))
    (data : List UInt8) (hasNext opened : Bool) (openError : FSError) (written : Nat)
    (writeError : FSError) (closeInterrupted close : StorageFileClose (List UInt8)) :
    List RpcResponse × RpcStorageSystem :=
  if pathContainsOnlyAscii path = false then
    ([rpcSendEmpty commandId .errorStorageInvalidName],
      ({ s with currentCommandId := commandId }.resetState closeInterrupted false).2)
  else
    let interrupted :=
      if commandId ≠ s.currentCommandId then s.resetState closeInterrupted true else ([], s)
    let r :=
      match interrupted.2.state with
      | .writing file => interrupted.2.writeChunk file true data hasNext written writeError close
      | .idle =>
        let file : RpcFile := ⟨path.getD [], 0, openError⟩
        (interrupted.2.openFile commandId (path.getD []) opened openError).writeChunk file opened
          data hasNext written writeError close
    (interrupted.1 ++ r.1, r.2)

/-- One request. Every handler but that of a write resets the state first. -/
def process (fileCount : Nat) (s : RpcStorageSystem) (request : RpcRequest) :
    List RpcResponse × RpcStorageSystem :=
  match request.content with
  | .write path data hasNext opened openError written writeError =>
    s.writeProcess request.commandId path data hasNext opened openError written writeError
      request.closeInterrupted request.close
  | content =>
    let r := s.resetState request.closeInterrupted true
    (r.1 ++ rpcSystemStorageProcess fileCount request.commandId content,
      { r.2 with files := request.effect r.2.files })

end RpcStorageSystem

/-- The storage part as a machine. `fileCount` is the room of a list response. -/
def rpcStorage (fileCount : Nat) : Mealy RpcStorageSystem RpcRequest (List RpcResponse) where
  step := RpcStorageSystem.process fileCount

end FlipperZero
