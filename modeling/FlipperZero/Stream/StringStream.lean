import Mathlib.Data.List.TakeWhile
import FlipperZero.Stream.FileStream

/-!
# String streams

`string_stream`, a stream over a string in memory. The strings come from a string library: a
string knows its size, so it can hold any bytes, but the library also reads C strings, which
end at the first zero byte.
-/

namespace FlipperZero

open Foundation

/-- What a C string pointer into these bytes denotes. -/
def cString (bytes : List UInt8) : List UInt8 := bytes.takeWhile (· ≠ 0)

@[simp] lemma cString_nil : cString [] = [] := rfl

lemma cString_eq_self_iff (bytes : List UInt8) : cString bytes = bytes ↔ 0 ∉ bytes := by
  rw [cString, List.takeWhile_eq_self_iff]
  constructor
  · intro h hzero
    simpa using h 0 hzero
  · intro h c hc
    have hne : c ≠ 0 := fun heq => h (heq ▸ hc)
    simpa using hne

/-- The string library behind `FuriString`: its functions, and what they do to the bytes. -/
class FuriString (σ : Type) where
  bytes : σ → List UInt8
  allocSetStr : List UInt8 → σ
  pushBack : σ → UInt8 → σ
  setChar : σ → Nat → UInt8 → σ
  replaceAt : σ → Nat → Nat → List UInt8 → σ
  left : σ → Nat → σ
  cat : σ → σ → σ
  bytes_allocSetStr : ∀ cstr, bytes (allocSetStr cstr) = cString cstr
  bytes_pushBack : ∀ s c, bytes (pushBack s c) = bytes s ++ [c]
  bytes_setChar : ∀ s i c, i < (bytes s).length → bytes (setChar s i c) = (bytes s).set i c
  bytes_replaceAt : ∀ s pos len cstr, pos + len ≤ (bytes s).length →
    bytes (replaceAt s pos len cstr) =
      (bytes s).take pos ++ cString cstr ++ (bytes s).drop (pos + len)
  bytes_left : ∀ s n, bytes (left s n) = (bytes s).take n
  bytes_cat : ∀ s t, bytes (cat s t) = bytes s ++ bytes t

/-- Strings as their bytes. -/
instance : FuriString (List UInt8) where
  bytes s := s
  allocSetStr := cString
  pushBack s c := s ++ [c]
  setChar s i c := s.set i c
  replaceAt s pos len cstr := s.take pos ++ cString cstr ++ s.drop (pos + len)
  left s n := s.take n
  cat s t := s ++ t
  bytes_allocSetStr _ := rfl
  bytes_pushBack _ _ := rfl
  bytes_setChar _ _ _ _ := rfl
  bytes_replaceAt _ _ _ _ _ := rfl
  bytes_left _ _ := rfl
  bytes_cat _ _ := rfl

attribute [simp] FuriString.bytes_allocSetStr FuriString.bytes_pushBack FuriString.bytes_left
  FuriString.bytes_cat

/-- The stream: a string and an index into it. -/
structure StringStream (σ : Type) [FuriString σ] where
  string : σ
  index : Nat
  index_le : index ≤ (FuriString.bytes string).length

namespace StringStream

open FuriString

variable {σ : Type} [FuriString σ]

def tell (s : StringStream σ) : Nat := s.index

def size (s : StringStream σ) : Nat := (bytes s.string).length

def eof (s : StringStream σ) : Bool := decide (s.tell ≥ s.size)

/-- `string_stream_write_char`: append at the end, overwrite before it. -/
def writeChar (s : StringStream σ) (c : UInt8) : StringStream σ where
  string := if s.eof then pushBack s.string c else setChar s.string s.index c
  index := s.index + 1
  index_le := by
    have hle := s.index_le
    by_cases hlt : s.index < (bytes s.string).length
    · have heof : s.eof = false := by simpa [eof, tell, size] using hlt
      rw [heof, if_neg Bool.false_ne_true, bytes_setChar _ _ _ hlt, List.length_set]
      exact hlt
    · have heof : s.eof = true := by simpa [eof, tell, size] using hlt
      rw [heof, if_pos rfl, bytes_pushBack, List.length_append]
      exact Nat.add_le_add_right hle 1

/-- `string_stream_write`: how many bytes were written, and the stream behind them. -/
def write (s : StringStream σ) (data : List UInt8) : Nat × StringStream σ :=
  (data.length, data.foldl writeChar s)

/-- The bytes behind the index that `string_stream_delete_and_insert` deletes. -/
def remainSize (s : StringStream σ) (deleteSize : Nat) : Nat :=
  min deleteSize (s.size - s.tell)

/-- The deletion of `string_stream_delete_and_insert`. -/
def delete (s : StringStream σ) (deleteSize : Nat) : StringStream σ where
  string :=
    if deleteSize ≠ 0 ∧ s.remainSize deleteSize ≠ 0 then
      replaceAt s.string s.index (s.remainSize deleteSize) []
    else s.string
  index := s.index
  index_le := by
    have hle := s.index_le
    have hfit : s.index + s.remainSize deleteSize ≤ (bytes s.string).length := by
      simp only [remainSize, size, tell]
      omega
    split_ifs
    · rw [bytes_replaceAt _ _ _ _ hfit]
      simp only [List.length_append, List.length_take]
      omega
    · exact hle

/-- Keep what lies before the index. -/
def leftPart (s : StringStream σ) : StringStream σ where
  string := left s.string s.tell
  index := s.index
  index_le := by
    have hle := s.index_le
    rw [bytes_left, List.length_take, tell]
    omega

def append (s : StringStream σ) (right : σ) : StringStream σ where
  string := cat s.string right
  index := s.index
  index_le := by
    rw [bytes_cat, List.length_append]
    exact Nat.le_add_right_of_le s.index_le

/-- `string_stream_delete_and_insert`, with a callback that writes `data` through the stream.
The part right of the index is set aside as a C string. -/
def deleteAndInsert (s : StringStream σ) (deleteSize : Nat) :
    Option (List UInt8) → Bool × StringStream σ
  | none      => (true, s.delete deleteSize)
  | some data =>
    let s := s.delete deleteSize
    let right : σ := allocSetStr ((bytes s.string).drop s.index)
    let r := s.leftPart.write data
    (r.1 == data.length, r.2.append right)

variable (s : StringStream σ) (d : List UInt8) (n : Nat)

@[simp] lemma writeChar_index (c : UInt8) : (s.writeChar c).index = s.index + 1 := rfl

lemma writeChar_bytes (h : s.index = (bytes s.string).length) (c : UInt8) :
    bytes (s.writeChar c).string = bytes s.string ++ [c] := by
  have heof : s.eof = true := by simp [eof, tell, size, h]
  have hstring : (s.writeChar c).string = pushBack s.string c := if_pos heof
  rw [hstring, bytes_pushBack]

lemma write_bytes (h : s.index = (bytes s.string).length) :
    bytes (s.write d).2.string = bytes s.string ++ d ∧
      (s.write d).2.index = s.index + d.length := by
  induction d generalizing s with
  | nil => exact ⟨(List.append_nil _).symm, rfl⟩
  | cons c d ih =>
    have hnext : (s.writeChar c).index = (bytes (s.writeChar c).string).length := by
      rw [s.writeChar_bytes h, writeChar_index, h, List.length_append, List.length_singleton]
    obtain ⟨hbytes, hindex⟩ := ih (s.writeChar c) hnext
    refine ⟨hbytes.trans ?_, hindex.trans ?_⟩
    · rw [s.writeChar_bytes h, List.append_assoc]
      rfl
    · rw [writeChar_index, List.length_cons]
      omega

@[simp] lemma delete_index : (s.delete n).index = s.index := rfl

/-- The deletion removes what there is behind the index, at most as much as was asked for. -/
lemma delete_bytes :
    bytes (s.delete n).string =
      (bytes s.string).take s.index ++ (bytes s.string).drop (s.index + s.remainSize n) := by
  have hle := s.index_le
  simp only [delete]
  split_ifs with h
  · rw [bytes_replaceAt _ _ _ _ (by simp only [remainSize, size, tell]; omega), cString_nil,
      List.append_nil]
  · have hzero : s.remainSize n = 0 := by
      by_contra hne
      refine h ⟨fun hn => hne ?_, hne⟩
      rw [remainSize, hn, Nat.zero_min]
    rw [hzero, Nat.add_zero, List.take_append_drop]

lemma deleteAndInsert_none :
    bytes (s.deleteAndInsert n none).2.string = splice (bytes s.string) s.index n [] := by
  rw [splice, List.append_nil]
  exact s.delete_bytes n

lemma deleteAndInsert_some :
    (s.deleteAndInsert n (some d)).1 = true ∧
      bytes (s.deleteAndInsert n (some d)).2.string = (bytes s.string).take s.index ++ d ++
        cString ((bytes s.string).drop (s.index + s.remainSize n)) ∧
      (s.deleteAndInsert n (some d)).2.index = s.index + d.length := by
  have hle := s.index_le
  have htake : ((bytes s.string).take s.index).length = s.index := by simp [hle]
  have hleft : bytes (s.delete n).leftPart.string = (bytes s.string).take s.index := by
    simp only [leftPart, tell, bytes_left, delete_index]
    rw [delete_bytes, List.take_left' htake]
  have hend : (s.delete n).leftPart.index = (bytes (s.delete n).leftPart.string).length := by
    rw [hleft, htake]
    rfl
  obtain ⟨hbytes, hindex⟩ := (s.delete n).leftPart.write_bytes d hend
  refine ⟨beq_self_eq_true _, ?_, hindex⟩
  simp only [deleteAndInsert, append, bytes_cat, bytes_allocSetStr, hbytes, hleft, delete_index]
  rw [delete_bytes, List.drop_left' htake]

/-! ### Seeking and reading -/

/-- The index that `string_stream_seek` aims at, `none` when it lies below the start. A string is
shorter than 2 GiB, so that the casts of its size and index change nothing. -/
def seekTarget (offset : Int) : StreamOffset → Option Nat
  | .fromStart   => if 0 ≤ offset then some offset.toNat else none
  | .fromCurrent => if 0 ≤ (s.index : Int) + offset then some (s.index + offset).toNat else none
  | .fromEnd     => if 0 ≤ (s.size : Int) + offset then some (s.size + offset).toNat else none

/-- `string_stream_seek`: the index is limited to the string, and the seek fails when a limit was
applied. -/
def seek (offset : Int) (kind : StreamOffset) : Bool × StringStream σ :=
  match s.seekTarget offset kind with
  | none   => (false, ⟨s.string, 0, Nat.zero_le _⟩)
  | some t =>
    if s.size < t then (false, ⟨s.string, s.size, Nat.le_refl _⟩)
    else (true, ⟨s.string, min t s.size, Nat.min_le_right _ _⟩)

/-- The loop of `string_stream_read`. -/
def readLoop (s : StringStream σ) : Nat → List UInt8 × StringStream σ
  | 0     => ([], s)
  | n + 1 =>
    let c := (bytes s.string).getD s.index 0
    let next := (s.seek 1 .fromCurrent).2
    if next.eof then ([c], next)
    else
      let r := readLoop next n
      (c :: r.1, r.2)

def read (size : Nat) : List UInt8 × StringStream σ := if s.eof then ([], s) else s.readLoop size

end StringStream

end FlipperZero
