import FlipperZero.Foundation.Lines
import FlipperZero.Stream.DeleteAndInsert
import FlipperZero.Stream.ScanStream
import FlipperZero.Toolbox.Strint

/-!
# Dictionaries of keys

`keys_dict.c` keeps a text file with one key in hexadecimal on each line. A line is a key if it is
no comment and has enough characters; what follows them is ignored. Whether a key is present is
decided by comparing texts, while the keys themselves are read through a 64-bit number.

The loops over the lines are left at the end of the file; below 2 GiB each round takes at least
one byte, so that there are no more rounds than bytes, and the last one.
-/

namespace FlipperZero

open Foundation

structure KeysDict where
  stream : File
  keySize : Nat
  totalKeys : Nat

/-! ### Reading lines -/

/-- One character of `stream_read_line`: a carriage return is ignored, and a line feed ends the
line. -/
def lineStep (text : List UInt8) (c : UInt8) : Round (List UInt8) (List UInt8) :=
  if c = 10 then .leave text else if c = 13 then .again text else .again (text ++ [c])

/-- `stream_read_line`: the line with its line feed. It succeeds if there is one. -/
def streamReadLine (f : File) : List UInt8 × File :=
  match scanStream lineStep 1 f [] with
  | (.again text, f')       => (text, f')
  | (.leave (text, ok), f') => (if ok then text ++ [10] else text, f')

def streamRewind (f : File) : Bool × File := fileStreamSeek f 0 .fromStart

namespace KeysDict

/-- The key that a line holds, as text, when it holds one. -/
def lineKey (keySize : Nat) (line : List UInt8) : Option (List UInt8) :=
  if line.head? = some 35 then none
  else if (line.take (keySize * 2)).length = keySize * 2 then some (line.take (keySize * 2))
  else none

/-- `keys_dict_read_key_line`: `none` at the end of the file, else the key of the line. -/
def readKeyLine (keySize : Nat) (f : File) : Option (Option (List UInt8)) × File :=
  let (line, f') := streamReadLine f
  if line = [] then (none, f') else (some (lineKey keySize line), f')

/-- The rounds of a loop over the lines. -/
def rounds (f : File) : Nat := f.content.length + 1

/-! ### Opening -/

def addEndingNewLine (f : File) : File :=
  let (ok, f₁) := fileStreamSeek f (-1) .fromEnd
  if ok then
    let (lastChar, f₂) := f₁.read 1
    (streamRewind (if lastChar.length = 1 ∧ lastChar ≠ [10] then (f₂.write [10]).2 else f₂)).2
  else f₁

def countStep (keySize : Nat) (s : File × Nat) : Round (File × Nat) (File × Nat) :=
  match readKeyLine keySize s.1 with
  | (none, f')          => .leave (f', s.2)
  | (some none, f')     => .again (f', s.2)
  | (some (some _), f') => .again (f', s.2 + 1)

/-- `keys_dict_alloc` of a file that was opened. -/
def alloc (content : List UInt8) (keySize : Nat) : Option KeysDict :=
  if keySize = 0 then none
  else
    let f := addEndingNewLine ⟨content, 0, File.zero_le_length content⟩
    (loop (countStep keySize) (rounds f) (f, 0)).map fun r =>
      { stream := (streamRewind r.1).2, keySize := keySize, totalKeys := r.2 }

/-! ### Keys and their text -/

def intToStr (key : List UInt8) : List UInt8 := key.flatMap fun b => hexText 2 b.toNat

/-- One byte of `keys_dict_str_to_int`: `key_byte_tmp` keeps its value when the two characters are
no digits. A shift of 64 bits or more leaves nothing. -/
def strToIntStep (keySize : Nat) (str : List UInt8) (s : Nat × Nat) (i : Nat) : Nat × Nat :=
  let keyByteTmp := (hexCharToUint8 (str.getD (2 * i) 0) (str.getD (2 * i + 1) 0)).getD s.1
  (keyByteTmp, (s.2 ||| keyByteTmp <<< (8 * (keySize - 1 - i))) % 18446744073709551616)

/-- `keys_dict_str_to_int`. `stale` is what stands in `key_byte_tmp`, which is not initialised. -/
def strToInt (stale : UInt8) (keySize : Nat) (str : List UInt8) : Nat :=
  ((List.range keySize).foldl (strToIntStep keySize str) (stale.toNat, 0)).2

/-- The bytes that `keys_dict_get_next_key` takes from the number, the last one first. -/
def keyBytes : Nat → Nat → List UInt8
  | 0, _          => []
  | tmpLen + 1, v => keyBytes tmpLen (v >>> 8) ++ [v.toUInt8]

/-! ### Iterating -/

def rewind (d : KeysDict) : KeysDict := { d with stream := (streamRewind d.stream).2 }

/-- One round of `keys_dict_get_next_key_str`. -/
def nextKeyStep (keySize : Nat) (f : File) : Round File (Option (List UInt8) × File) :=
  match readKeyLine keySize f with
  | (none, f')          => .leave (none, f')
  | (some none, f')     => .again f'
  | (some (some l), f') => .leave (some l, f')

/-- `keys_dict_get_next_key`: the key, when there is one. -/
def getNextKey (stale : UInt8) (d : KeysDict) : Option (Option (List UInt8) × KeysDict) :=
  (loop (nextKeyStep d.keySize) (rounds d.stream) d.stream).map fun r =>
    (r.1.map fun str => keyBytes d.keySize (strToInt stale d.keySize str), { d with stream := r.2 })

/-- What the call of `keys_dict_get_next_key` behind `m` others gives. -/
def nthKey (stale : UInt8) : Nat → KeysDict → Option (Option (List UInt8))
  | 0, d     => (d.getNextKey stale).map Prod.fst
  | m + 1, d => (d.getNextKey stale).bind fun r => nthKey stale m r.2

/-- Iterating from a dictionary that was rewound gives these keys, and no others. -/
def Reads (stale : UInt8) (d : KeysDict) (keys : List (List UInt8)) : Prop :=
  ∀ m, nthKey stale m d.rewind = some keys[m]?

/-! ### Searching and editing -/

/-- One round of `keys_dict_is_key_present_str`. -/
def presentStep (keySize : Nat) (key : List UInt8) (f : File) : Round File (Bool × File) :=
  match readKeyLine keySize f with
  | (none, f')          => .leave (false, f')
  | (some none, f')     => .again f'
  | (some (some l), f') => if key = l then .leave (true, f') else .again f'

/-- `keys_dict_is_key_present`. The position of the stream is restored. -/
def isKeyPresent (d : KeysDict) (key : List UInt8) : Option (Bool × KeysDict) :=
  let actualPos := d.stream.tell
  let f := (streamRewind d.stream).2
  (loop (presentStep d.keySize (intToStr key)) (rounds f) f).map fun r =>
    (r.1, { d with stream := (fileStreamSeek r.2 (asInt32 actualPos) .fromStart).2 })

/-- The part of `keys_dict_add_key_str` behind the seek to the end of the file, which gave `r`. -/
def addKeyStr (d : KeysDict) (key : List UInt8) (r : Bool × File) : Bool × KeysDict :=
  let actualPos := d.stream.tell
  let w := if r.1 then r.2.deleteAndInsert 0 (some (key ++ [10])) else (false, r.2)
  (w.1, { d with
    stream := (fileStreamSeek w.2 (asInt32 actualPos) .fromStart).2
    totalKeys := if w.1 then d.totalKeys + 1 else d.totalKeys })

/-- `keys_dict_add_key`. The position of the stream is restored. -/
def addKey (d : KeysDict) (key : List UInt8) : Bool × KeysDict :=
  d.addKeyStr (intToStr key) (fileStreamSeek d.stream 0 .fromEnd)

/-- The number of symbols of a key, and one for the end of its line. -/
def keySizeSymbols (d : KeysDict) : Nat := d.keySize * 2 + 1

/-- What follows the `stream_delete` of `keys_dict_delete_key`, which gave `r`. -/
def keyDeleted (d : KeysDict) (r : Bool × File) : Bool × KeysDict :=
  if r.1 then (true, { d with stream := r.2, totalKeys := d.totalKeys - 1 })
  else (false, { d with stream := r.2 })

/-- The key that was read last is deleted: the stream is moved back by the symbols of a key. -/
def deleteLast (d : KeysDict) : Bool × KeysDict :=
  let f := (fileStreamSeek d.stream (asInt32 (-(d.keySizeSymbols : Int))) .fromCurrent).2
  d.keyDeleted (f.deleteAndInsert d.keySizeSymbols none)

/-- One round of `keys_dict_delete_key`. -/
def deleteStep (stale : UInt8) (key : List UInt8) (d : KeysDict) :
    Round KeysDict (Option (Bool × KeysDict)) :=
  match d.getNextKey stale with
  | none              => .leave none
  | some (none, d')   => .leave (some (false, d'))
  | some (some k, d') => if k = key then .leave (some d'.deleteLast) else .again d'

def deleteKey (stale : UInt8) (d : KeysDict) (key : List UInt8) : Option (Bool × KeysDict) :=
  ((loop (deleteStep stale key) (rounds d.stream) d.rewind).bind id).map fun r => (r.1, r.2.rewind)

end KeysDict

end FlipperZero
