import FlipperZero.Foundation.FileTree
import FlipperZero.Foundation.Program
import FlipperZero.Storage.FatPath

/-!
# The storage API

What a caller of `storage_external_api.c` can do with the entries of the cards: ask for the kind of
an entry, remove it, and read a directory.

Every operation can fail. The `n`-th operation of a run is answered as `answers n` says, so an
answer sequence is a choice of the points of failure. A run keeps a trace of its operations.
-/

namespace FlipperZero

open Foundation

/-- How the card answers an operation. -/
structure CardAnswer where
  /-- what the operation fails with -/
  error : FSError
  /-- an operation that fails took effect before -/
  done : Bool
  /-- a directory read that fails finds a zero where it looks for the name -/
  endOfDir : Bool
  deriving DecidableEq, Repr

/-- An operation that succeeds. -/
def CardAnswer.ok : CardAnswer where
  error := .ok
  done := false
  endOfDir := false

/-- What is recorded of an operation. -/
inductive CardStep where
  /-- `f_readdir` with the length of the name found -/
  | dirEntry (nameLength : Nat)
  /-- a failed `f_readdir`, and whether it looks like the end of the directory -/
  | dirFailed (endOfDir : Bool)
  /-- any other operation -/
  | other
  deriving DecidableEq, Repr

/-- A caller of the storage service: the state of the service that tells what a path means, the
application, the case folding of names, and the answers of the cards. -/
structure StorageCaller (κ : Type) where
  service : StorageService
  appid : CPath
  key : CardName → κ
  answers : Nat → CardAnswer

/-- An entry of a card, by the names that lead to it. The card itself has no names. -/
structure CardPlace where
  type : StorageType
  names : List CardName
  deriving DecidableEq

/-- The cards, the paths that are open, and the operations so far, the last one first. -/
structure StorageWorld {κ : Type} (key : CardName → κ) where
  cards : StorageType → FileTree CardName κ (List UInt8) key
  opened : List (StorageType × CPath)
  trace : List CardStep

namespace StorageWorld

variable {κ : Type} {key : CardName → κ} (w : StorageWorld key)

def record (step : CardStep) : StorageWorld key := { w with trace := step :: w.trace }

def node (p : CardPlace) : Option (FileNode (List UInt8)) :=
  (w.cards p.type).node (p.names.map key)

def setCard (type : StorageType) (t : FileTree CardName κ (List UInt8) key) : StorageWorld key :=
  { w with cards := Function.update w.cards type t }

variable [DecidableEq κ]

/-- Remove an entry, if it is not a directory with entries. -/
def remove (p : CardPlace) : StorageWorld key :=
  match p.names.reverse with
  | []          => w
  | name :: dir =>
    let l := dir.reverse.map key
    if h : ∀ x ∈ (w.cards p.type).slots (l ++ [key name]), x = none then
      w.setCard p.type ((w.cards p.type).remove l (key name) h)
    else w

end StorageWorld

/-- A directory that is read: its entry in the list of open files, the directory and the next
slot when it could be opened, and the error of the last operation. -/
structure StorageDir where
  path : Option (StorageType × CPath)
  dir : Option (CardPlace × Nat)
  errorId : FSError
  deriving DecidableEq

namespace StorageCaller

variable {κ : Type} [DecidableEq κ] (e : StorageCaller κ)

/-- The place a path means, and whether all of its segments are names. -/
def followPath (path : CPath) : Option (CardPlace × Bool) :=
  (e.service.resolve path e.appid).map fun r =>
    (⟨r.1, (fatFollowPath (r.2.drop 4)).1⟩, (fatFollowPath (r.2.drop 4)).2)

/-- The place a path means, or the error of an operation with that path: a segment that is not a
name is noticed in a directory only. -/
def find (w : StorageWorld e.key) (path : CPath) : Except FSError CardPlace :=
  match e.followPath path with
  | none            => .error .invalidName
  | some (p, true)  => .ok p
  | some (p, false) => .error (if w.node p = some .dir then .invalidName else .notExist)

/-- The answer to the next operation. -/
def answer (w : StorageWorld e.key) : CardAnswer := e.answers w.trace.length

/-! ### Entries -/

/-- What `f_stat` finds: the error, and whether it is a directory. The card itself has no
entry. -/
def statPlace (w : StorageWorld e.key) (p : CardPlace) : FSError × Bool :=
  if p.names = [] then (.invalidName, false)
  else
    match w.node p with
    | none           => (.notExist, false)
    | some (.file _) => (.ok, false)
    | some .dir      => (.ok, true)

def storageCommonStat (path : CPath) : Program (StorageWorld e.key) (FSError × Bool) :=
  .operation fun w =>
    (match e.find w path with
      | .error error => (error, false)
      | .ok p        =>
        if (e.answer w).error = .ok then e.statPlace w p else ((e.answer w).error, false),
      w.record .other)

/-- The error of `f_unlink` when the card does not fail. -/
def removeError (w : StorageWorld e.key) (p : CardPlace) : FSError :=
  if p.names = [] then .invalidName
  else
    match w.node p with
    | none   => .notExist
    | some _ =>
      if ∀ x ∈ (w.cards p.type).slots (p.names.map e.key), x = none then .ok else .denied

/-- `storage_common_remove`. A path that is open is not removed. -/
def storageCommonRemove (path : CPath) : Program (StorageWorld e.key) FSError :=
  .operation fun w =>
    if (e.service.resolve path e.appid).any fun r => w.opened.contains r then
      (.alreadyOpen, w.record .other)
    else
      match e.find w path with
      | .error error => (error, w.record .other)
      | .ok p        =>
        let a := e.answer w
        let error := if e.removeError w p = .ok then a.error else e.removeError w p
        let w' := if a.error = .ok || a.done then w.remove p else w
        (error, w'.record .other)

def storageSimplyRemove (path : CPath) : Program (StorageWorld e.key) Bool := do
  let error ← e.storageCommonRemove path
  pure (error = .ok || error = .notExist)

/-! ### Directories -/

/-- `storage_dir_open`. The list entry is made even when the directory cannot be opened. -/
def storageDirOpen (path : CPath) : Program (StorageWorld e.key) StorageDir := fun w =>
  match e.service.resolve path e.appid with
  | none   => (some ⟨none, none, .invalidName⟩, w.record .other)
  | some r =>
    if w.opened.contains r then (none, w)
    else
      let wOpened : StorageWorld e.key := { w.record .other with opened := r :: w.opened }
      match e.find w path with
      | .error error => (some ⟨some r, none, error⟩, wOpened)
      | .ok p        =>
        let a := e.answer w
        if w.node p = some .dir then
          (some ⟨some r, if a.error = .ok then some (p, 0) else none, a.error⟩, wOpened)
        else (some ⟨some r, none, .notExist⟩, wOpened)

def storageDirClose (f : StorageDir) : Program (StorageWorld e.key) Unit :=
  .operation fun w =>
    match f.path with
    | none   => ((), w)
    | some r => ((), { w.record .other with opened := w.opened.erase r })

/-- The error of a failed `f_readdir`, unless the name it did not write looks empty. -/
def dirReadError (a : CardAnswer) (error : FSError) : FSError :=
  if a.endOfDir then .notExist else error

/-- `storage_dir_read`: whether the next entry is a directory, and its name. -/
def storageDirRead (f : StorageDir) :
    Program (StorageWorld e.key) (Option (Bool × List UInt8) × StorageDir) :=
  .operation fun w =>
    let a := e.answer w
    match f.path, f.dir with
    | none, _ => ((none, { f with errorId := .invalidParameter }), w.record .other)
    | _, none =>
      ((none, { f with errorId := dirReadError a .invalidParameter }),
        w.record (.dirFailed a.endOfDir))
    | _, some (p, pos) =>
      if a.error ≠ .ok then
        ((none, { f with errorId := dirReadError a .internal }), w.record (.dirFailed a.endOfDir))
      else
        match nextEntry ((w.cards p.type).slots (p.names.map e.key)) pos with
        | none             => ((none, { f with errorId := .notExist }), w.record .other)
        | some (name, pos) =>
          ((some (w.node { p with names := p.names ++ [name] } = some .dir, name.val),
              { f with dir := some (p, pos), errorId := .ok }),
            w.record (.dirEntry name.val.length))

end StorageCaller

end FlipperZero
