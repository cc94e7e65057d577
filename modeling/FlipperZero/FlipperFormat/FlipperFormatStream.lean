import FlipperZero.Storage.FilesystemApi
import FlipperZero.Stream.DeleteAndInsert
import FlipperZero.Stream.ScanStream
import FlipperZero.Toolbox.Strint

/-!
# Flipper format streams

`flipper_format_stream`: text files of keys and values. A line is a key, a colon and a space, and
values separated by spaces; a line that starts with `#` is a comment. The readers scan the stream
in chunks and seek back to where they stopped. Floats are the texts that `printf` makes of them.
-/

namespace FlipperZero

open Foundation

namespace FlipperFormatStream

/-! ### Characters -/

/-- `flipper_format_delimiter`. -/
def delimiter : UInt8 := 58

/-- `flipper_format_comment`. -/
def comment : UInt8 := 35

/-- `flipper_format_eoln`. -/
def eoln : UInt8 := 10

/-- `flipper_format_eolr`. -/
def eolr : UInt8 := 13

/-- The space that separates values. -/
def space : UInt8 := 32

def isSpace (c : UInt8) : Bool := c = space ∨ c = 9 ∨ c = eolr

/-! ### Searching keys -/

/-- The variables of `flipper_format_stream_read_valid_key`. -/
structure KeyScan where
  key : List UInt8
  accumulate : Bool
  newLine : Bool

namespace KeyScan

/-- At the start of a line. -/
def init : KeyScan := ⟨[], true, true⟩

/-- One byte; the scan is left with the key at a delimiter. -/
def step (s : KeyScan) (data : UInt8) : Round KeyScan (List UInt8) :=
  if data = eoln then .again init
  else if data = eolr then .again s
  else if data = comment ∧ s.newLine = true then
    .again { s with accumulate := false, newLine := false }
  else if data = delimiter then
    -- a delimiter at the start of a line follows a key that was found before
    if s.newLine then .again ⟨[], false, false⟩
    else if s.accumulate then .leave s.key
    else .again s
  else .again ⟨if s.accumulate then s.key ++ [data] else s.key, s.accumulate, false⟩

end KeyScan

/-- `flipper_format_stream_read_valid_key`: the key, with the stream at its delimiter. -/
def readValidKey (f : File) : Option (List UInt8) × File :=
  match scanStream KeyScan.step 0 f KeyScan.init with
  | (.leave (key, ok), g) => (if ok then some key else none, g)
  | (.again _, g)         => (none, g)

/-- One round of the loop of `flipper_format_stream_seek_to_key`. -/
def seekToKeyRound (key : List UInt8) (strictMode : Bool) (f : File) : Round File (Bool × File) :=
  if f.eof then .leave (false, f)
  else
    match readValidKey f with
    | (some readKey, g) =>
      if cString readKey = key then .leave (fileStreamSeek g 2 .fromCurrent)
      else if strictMode then .leave (false, g)
      else .again g
    | (none, g) => .again g

/-- `flipper_format_stream_seek_to_key`, if it takes at most that many rounds. -/
def seekToKey (rounds : Nat) (key : List UInt8) (strictMode : Bool) (f : File) :
    Option (Bool × File) :=
  loop (seekToKeyRound key strictMode) rounds f

/-! ### Reading values -/

/-- The states of `flipper_format_stream_read_value`. -/
inductive ValueState where
  | leadingSpace
  | readValue
  | trailingSpace
  deriving DecidableEq, Repr

/-- The variables of `flipper_format_stream_read_value`. -/
structure ValueScan where
  state : ValueState
  value : List UInt8

namespace ValueScan

def init : ValueScan := ⟨.leadingSpace, []⟩

/-- One byte; the scan is left with the value and whether it is the last one of the line, or with
nothing on an empty rest of a line. -/
def step (s : ValueScan) (data : UInt8) : Round ValueScan (Option (List UInt8 × Bool)) :=
  match s.state with
  | .leadingSpace =>
    if isSpace data then .again s
    else if data = eoln then .leave none
    else .again ⟨.readValue, s.value ++ [data]⟩
  | .readValue =>
    if isSpace data then .again { s with state := .trailingSpace }
    else if data = eoln then .leave (some (s.value, true))
    else .again { s with value := s.value ++ [data] }
  | .trailingSpace =>
    if isSpace data then .again s
    else .leave (some (s.value, data == eoln))

end ValueScan

/-- `flipper_format_stream_read_value`: the value and whether it is the last one. -/
def readValue (f : File) : Option (List UInt8 × Bool) × File :=
  match scanStream ValueScan.step 0 f ValueScan.init with
  | (.leave (r, ok), g) => (if ok then r else none, g)
  | (.again s, g)       =>
    (if s.state ≠ .leadingSpace ∧ g.eof = true then some (s.value, true) else none, g)

/-- One byte of `flipper_format_stream_read_line`. -/
def lineStep (str : List UInt8) (data : UInt8) : Round (List UInt8) (List UInt8) :=
  if data = eoln then .leave str
  else if data = eolr then .again str
  else .again (str ++ [data])

/-- `flipper_format_stream_read_line`: the line, which must not be empty. -/
def readLine (f : File) : (Bool × List UInt8) × File :=
  match scanStream lineStep 0 f [] with
  | (.leave (str, _), g) => ((str ≠ [], str), g)
  | (.again str, g)      => ((str ≠ [], str), g)

/-- One byte of `flipper_format_stream_seek_to_next_line`. -/
def nextLineStep (_ : Unit) (data : UInt8) : Round Unit Unit :=
  if data = eoln then .leave () else .again ()

/-- `flipper_format_stream_seek_to_next_line`. A read that gives nothing is at the end. -/
def seekToNextLine (f : File) : Bool × File :=
  match scanStream nextLineStep 0 f () with
  | (.leave (_, ok), g) => (ok, g)
  | (.again _, g)       => (g.eof, g)

/-- The loop of `flipper_format_stream_read_value_line` over `size` values that `scan` reads; the
values that were read before a failure are left in the result. -/
def readValues {α : Type*} (scan : List UInt8 → Option α) : Nat → File → (Bool × List α) × File
  | 0, f        => ((true, []), f)
  | size + 1, f =>
    match readValue f with
    | (none, g)               => ((false, []), g)
    | (some (value, last), g) =>
      match scan value with
      | none   => ((false, []), g)
      | some a =>
        if last = true ∧ size ≠ 0 then ((false, [a]), g)
        else
          let r := readValues scan size g
          ((r.1.1, a :: r.1.2), r.2)

/-- `flipper_format_stream_read_value_line` for a string. -/
def readStringLine (rounds : Nat) (key : List UInt8) (strictMode : Bool) (f : File) :
    Option ((Bool × List UInt8) × File) :=
  (seekToKey rounds key strictMode f).map fun (found, g) =>
    if found then readLine g else ((false, []), g)

/-- `flipper_format_stream_read_value_line` for an array of values that `scan` reads. -/
def readValueLine {α : Type*} (scan : List UInt8 → Option α) (rounds : Nat) (key : List UInt8)
    (size : Nat) (strictMode : Bool) (f : File) : Option ((Bool × List α) × File) :=
  (seekToKey rounds key strictMode f).map fun (found, g) =>
    if found then readValues scan size g else ((false, []), g)

/-- How `FlipperStreamValueHex` is read. -/
def scanHex (value : List UInt8) : Option Nat :=
  if 2 ≤ value.length then hexCharToUint8 (value.getD 0 0) (value.getD 1 0) else none

/-- How `FlipperStreamValueInt32` is read. -/
def scanInt32 (value : List UInt8) : Option Int :=
  (strintToInt32 value 10).toOption.map Prod.fst

/-- How `FlipperStreamValueUint32` is read. -/
def scanUint32 (value : List UInt8) : Option Nat :=
  (strintToUint32 value 10).toOption.map Prod.fst

/-- How `FlipperStreamValueHexUint64` is read. -/
def scanHexUint64 (value : List UInt8) : Option Nat :=
  if 16 ≤ value.length then hexCharsToUint64 value else none

/-- How `FlipperStreamValueBool` is read: the letter case of `true` does not matter. -/
def scanBool (value : List UInt8) : Option Bool :=
  some (cStrCaseEq value [116, 114, 117, 101])

/-! ### Writing -/

/-- The data to write, by `FlipperStreamValue`. -/
inductive FlipperStreamValue where
  | ignore
  | str (data : List UInt8)
  | hex (data : List UInt8)
  | float (texts : List (List UInt8))
  | int32 (data : List Int32)
  | uint32 (data : List UInt32)
  | hexUint64 (data : List UInt64)
  | bool (data : List Bool)
  deriving DecidableEq

/-- `FlipperStreamWriteData`. The key is a C string. -/
structure FlipperStreamWriteData where
  key : List UInt8
  value : FlipperStreamValue
  deriving DecidableEq

namespace FlipperStreamValue

/-- What `printf` makes of the values. -/
def printed : FlipperStreamValue → List (List UInt8)
  | .ignore         => []
  | .str data       => [data]
  | .hex data       => data.map fun n => hexText 2 n.toNat
  | .float texts    => texts
  | .int32 data     => data.map fun n => integerText n.toInt
  | .uint32 data    => data.map fun n => decimalText n.toNat
  | .hexUint64 data => data.map fun n => hexText 8 (n.toNat / 4294967296) ++ hexText 8 n.toNat
  | .bool data      =>
    data.map fun b => if b then [116, 114, 117, 101] else [102, 97, 108, 115, 101]

/-- What a call gets of a value: a string up to its first zero byte, and as many values of an array
as its `uint16_t` count says. -/
def passed : FlipperStreamValue → FlipperStreamValue
  | .ignore         => .ignore
  | .str data       => .str (cString data)
  | .hex data       => .hex (data.take (data.length % 65536))
  | .float texts    => .float (texts.take (texts.length % 65536))
  | .int32 data     => .int32 (data.take (data.length % 65536))
  | .uint32 data    => .uint32 (data.take (data.length % 65536))
  | .hexUint64 data => .hexUint64 (data.take (data.length % 65536))
  | .bool data      => .bool (data.take (data.length % 65536))

/-- A call gets the whole value: a string without zero bytes, or an array with a count below
65536. -/
def Passed : FlipperStreamValue → Prop
  | .ignore         => True
  | .str data       => 0 ∉ data
  | .hex data       => data.length < 65536
  | .float texts    => texts.length < 65536
  | .int32 data     => data.length < 65536
  | .uint32 data    => data.length < 65536
  | .hexUint64 data => data.length < 65536
  | .bool data      => data.length < 65536

instance : ∀ value : FlipperStreamValue, Decidable value.Passed
  | .ignore         => inferInstanceAs (Decidable True)
  | .str data       => inferInstanceAs (Decidable (0 ∉ data))
  | .hex data       => inferInstanceAs (Decidable (data.length < 65536))
  | .float texts    => inferInstanceAs (Decidable (texts.length < 65536))
  | .int32 data     => inferInstanceAs (Decidable (data.length < 65536))
  | .uint32 data    => inferInstanceAs (Decidable (data.length < 65536))
  | .hexUint64 data => inferInstanceAs (Decidable (data.length < 65536))
  | .bool data      => inferInstanceAs (Decidable (data.length < 65536))

lemma passed_eq {value : FlipperStreamValue} (h : value.Passed) : value.passed = value := by
  have harray {α : Type} {data : List α} (hlen : data.length < 65536) :
      data.take (data.length % 65536) = data := by
    rw [Nat.mod_eq_of_lt hlen, List.take_length]
  cases value with
  | ignore         => rfl
  | str data       => exact congrArg str ((cString_eq_self_iff data).mpr h)
  | hex data       => exact congrArg hex (harray h)
  | float texts    => exact congrArg float (harray h)
  | int32 data     => exact congrArg int32 (harray h)
  | uint32 data    => exact congrArg uint32 (harray h)
  | hexUint64 data => exact congrArg hexUint64 (harray h)
  | bool data      => exact congrArg bool (harray h)

end FlipperStreamValue

def write (f : File) (data : List UInt8) : Bool × File :=
  ((f.write data).1 == data.length, (f.write data).2)

/-- Writes in a row, up to the first one that fails. -/
def writeAll : List (List UInt8) → File → Bool × File
  | [], f            => (true, f)
  | data :: rest, f =>
    let r := write f data
    if r.1 then writeAll rest r.2 else (false, r.2)

/-- The writes of the values, with a space behind each but the last. -/
def valueWrites : List (List UInt8) → List (List UInt8)
  | []          => []
  | [v]         => [v]
  | v :: w :: vs => (v ++ [space]) :: valueWrites (w :: vs)

/-- `flipper_format_stream_write_value_line`, with the writes of
`flipper_format_stream_write_key`. -/
def writeValueLine (data : FlipperStreamWriteData) (f : File) : Bool × File :=
  if data.value = .ignore then (true, f)
  else
    writeAll ([data.key, [delimiter], [space]] ++ valueWrites data.value.passed.printed ++
      [[eoln]]) f

/-- `flipper_format_stream_write_comment_cstr`. -/
def writeComment (data : List UInt8) (f : File) : Bool × File :=
  writeAll [[comment, space], cString data, [eoln]] f

/-- The bytes that a value line consists of. -/
def FlipperStreamWriteData.line (data : FlipperStreamWriteData) : List UInt8 :=
  if data.value = .ignore then []
  else
    data.key ++ [delimiter, space] ++ (valueWrites data.value.passed.printed).flatten ++ [eoln]

/-- The part of `flipper_format_stream_delete_key_and_write` behind the search: the stream stands
behind the key of the line to replace. -/
def replaceLine (writeData : FlipperStreamWriteData) (size : Nat) (f : File) : Bool × File :=
  let startPosition := asUInt32 (f.tell - writeData.key.length)
  if startPosition < 2 then (false, f)
  else
    let startPosition := startPosition - 2
    let next := seekToNextLine f
    if next.1 = false then (false, next.2)
    else
      let endPosition := next.2.tell
      -- the newline symbol
      let endPosition := if endPosition < size then endPosition + 1 else endPosition
      let start := fileStreamSeek next.2 (asInt32 startPosition) .fromStart
      if start.1 = false then (false, start.2)
      else
        start.2.deleteAndInsert (asUInt32 (endPosition - startPosition)) (some writeData.line)

/-- `flipper_format_stream_delete_key_and_write`, if the search takes at most that many rounds. -/
def deleteKeyAndWrite (rounds : Nat) (writeData : FlipperStreamWriteData) (strictMode : Bool)
    (f : File) : Option (Bool × File) :=
  let size := f.size
  if size = 0 then some (false, f)
  else
    let r := fileStreamSeek f 0 .fromStart
    if r.1 = false then some (false, r.2)
    else
      (seekToKey rounds writeData.key strictMode r.2).map fun (found, g) =>
        if found then replaceLine writeData size g else (false, g)

variable (f : File) (data : FlipperStreamWriteData)

lemma writeAll_eq (pieces : List (List UInt8)) (f : File) :
    writeAll pieces f = (true, (f.write pieces.flatten).2) := by
  induction pieces generalizing f with
  | nil =>
    rw [List.flatten_nil, File.write_nil]
    rfl
  | cons data rest ih =>
    have hwrite : write f data = (true, (f.write data).2) := by simp [write]
    rw [writeAll, hwrite, if_pos rfl, ih, File.write_write, List.flatten_cons]

lemma writeValueLine_eq : writeValueLine data f = (true, (f.write data.line).2) := by
  unfold writeValueLine FlipperStreamWriteData.line
  split_ifs with h
  · rw [File.write_nil]
  · rw [writeAll_eq]
    simp

lemma writeComment_eq (text : List UInt8) :
    writeComment text f =
      (true, (f.write ([comment, space] ++ cString text ++ [eoln])).2) := by
  rw [writeComment, writeAll_eq]
  simp

end FlipperFormatStream

end FlipperZero
