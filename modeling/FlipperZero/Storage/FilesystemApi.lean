import Mathlib.Tactic.Common

/-!
# The interface of the file systems

What the storage service and its callers share: errors and path prefixes.
-/

namespace FlipperZero

inductive FSError where
  | ok
  | notReady
  | exist
  | notExist
  | invalidParameter
  | denied
  | invalidName
  | internal
  | notImplemented
  | alreadyOpen
  deriving DecidableEq, Repr

/-- What `storage_file_close` does: everything that was written arrives, or the service fails on what
it still holds back, and leaves the file with something else, or without it. -/
inductive StorageFileClose (γ : Type) where
  | closed
  | failed (left : Option γ)
  deriving DecidableEq, Repr

/-- What the file holds behind `storage_file_close`, of what it held before. -/
def StorageFileClose.content {γ : Type} (before : Option γ) : StorageFileClose γ → Option γ
  | .closed      => before
  | .failed left => left

/-- A path or another C string, as its bytes. -/
abbrev CPath : Type := List UInt8

/-- The bytes of a string literal. -/
def cBytes (s : List Char) : List UInt8 := s.map Char.toUInt8

def storageExtPathPrefix : CPath := cBytes ['/', 'e', 'x', 't']

def storageIntPathPrefix : CPath := cBytes ['/', 'i', 'n', 't']

def storageMntPathPrefix : CPath := cBytes ['/', 'm', 'n', 't']

def storageAnyPathPrefix : CPath := cBytes ['/', 'a', 'n', 'y']

def storageAppDataPathPrefix : CPath := cBytes ['/', 'd', 'a', 't', 'a']

def storageAppAssetsPathPrefix : CPath := cBytes ['/', 'a', 's', 's', 'e', 't', 's']

/-- `APPS_DATA_PATH` and the separator behind it. -/
def appsDataPath : CPath :=
  cBytes ['/', 'e', 'x', 't', '/', 'a', 'p', 'p', 's', '_', 'd', 'a', 't', 'a', '/']

/-- `APPS_ASSETS_PATH` and the separator behind it. -/
def appsAssetsPath : CPath :=
  cBytes ['/', 'e', 'x', 't', '/', 'a', 'p', 'p', 's', '_', 'a', 's', 's', 'e', 't', 's', '/']

/-- `tolower` on ASCII. -/
def cToLower (c : UInt8) : UInt8 := if 0x41 ≤ c ∧ c ≤ 0x5A then c + 0x20 else c

/-- `strcasecmp` finds no difference. -/
def cStrCaseEq (a b : CPath) : Bool := a.map cToLower == b.map cToLower

end FlipperZero
