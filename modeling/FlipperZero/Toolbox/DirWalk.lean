import FlipperZero.Storage.ExternalApi

/-!
# Walking a directory

`dir_walk.c`: every entry below a directory is reported with its path, a directory before its
entries. Only one directory is open at a time. To come back to a directory the walk opens it
again and skips as many entries as it had read.
-/

namespace FlipperZero

open Foundation

inductive DirWalkResult where
  | ok
  | error
  | last
  deriving DecidableEq, Repr

/-- `MAX_NAME_LEN`, with the terminating zero. -/
def dirWalkMaxNameLen : Nat := 254

/-- `DirWalk`. No caller here sets a filter. The last index of the list is the first here. -/
structure DirWalk where
  file : StorageDir
  path : CPath
  indexList : List Nat
  currentIndex : Nat
  recursive : Bool

/-- The path of an entry: `"%s/%s"`. -/
def entryPath (path : CPath) (name : List UInt8) : CPath := path ++ 0x2F :: name

def pathParent (path : CPath) : CPath :=
  if path.contains 0x2F then (path.rdropWhile (· ≠ 0x2F)).dropLast else path

namespace StorageCaller

variable {κ : Type} [DecidableEq κ] (e : StorageCaller κ)

/-- `dir_walk_open` of a walk that was just allocated. -/
def dirWalkOpen (path : CPath) (recursive : Bool) : Program (StorageWorld e.key) DirWalk := do
  let file ← e.storageDirOpen path
  pure ⟨file, path, [], 0, recursive⟩

/-- The loop of `dir_walk_iter` that skips entries: `n` of them are left. -/
def dirWalkRewind : Nat → DirWalk → Program (StorageWorld e.key) (Bool × DirWalk)
  | 0, walk     => pure (true, walk)
  | n + 1, walk => do
    let (entry, file) ← e.storageDirRead walk.file
    if entry.isNone then pure (false, { walk with file := file })
    else
      dirWalkRewind n { walk with file := file, currentIndex := walk.currentIndex + 1 }

/-- `dir_walk_iter` steps into a directory it has read. -/
def dirWalkStepInto (walk : DirWalk) (path : CPath) : Program (StorageWorld e.key) DirWalk := do
  e.storageDirClose walk.file
  let file ← e.storageDirOpen path
  pure { walk with
    file := file
    path := path
    indexList := walk.currentIndex :: walk.indexList
    currentIndex := 0 }

/-- `dir_walk_iter` goes back to the directory above, to the entry it came from. -/
def dirWalkStepOut (walk : DirWalk) (index : Nat) (indexList : List Nat) :
    Program (StorageWorld e.key) (Bool × DirWalk) := do
  e.storageDirClose walk.file
  let file ← e.storageDirOpen (pathParent walk.path)
  e.dirWalkRewind index { walk with
    file := file
    path := pathParent walk.path
    indexList := indexList
    currentIndex := 0 }

end StorageCaller

end FlipperZero
