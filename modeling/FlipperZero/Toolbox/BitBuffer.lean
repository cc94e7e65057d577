import FlipperZero.Foundation.Memory

/-!
# Bit buffers

`BitBuffer` of the toolbox: an array of bytes with a parity bit for each, and a size in bits. The
operations that check the capacity of the array return `none` when the check stops the system.
-/

namespace FlipperZero

open Foundation

structure BitBuffer where
  data : Memory
  parity : Nat → Bool
  capacityBytes : Nat
  sizeBits : Nat

namespace BitBuffer

def alloc (capacityBytes : Nat) : BitBuffer where
  data := fun _ => 0
  parity := fun _ => false
  capacityBytes := capacityBytes
  sizeBits := 0

/-- A received frame of whole bytes, in a buffer of 256 bytes. -/
def ofBytes (bytes : List (BitVec 8)) : BitBuffer where
  data := fun i => bytes.getD i 0
  parity := fun _ => false
  capacityBytes := 256
  sizeBits := bytes.length * 8

variable (buf : BitBuffer)

def getSize : Nat := buf.sizeBits

def getSizeBytes : Nat := buf.sizeBits / 8 + if buf.sizeBits % 8 = 0 then 0 else 1

/-- `bit_buffer_get_byte`. Its callers stay inside the array, whatever the size is. -/
def getByte (index : Nat) : BitVec 8 := buf.data index

/-- Bytes of the array from an index on. -/
def bytes (start size : Nat) : List (BitVec 8) := (List.range size).map fun i => buf.data (start + i)

@[simp] lemma length_bytes (start size : Nat) : (buf.bytes start size).length = size := by
  simp [bytes]

def writeBytesMid (start size : Nat) : Option (List (BitVec 8)) :=
  if start + size ≤ buf.getSizeBytes then some (buf.bytes start size) else none

def setSize (newSize : Nat) : Option BitBuffer :=
  if newSize ≤ buf.capacityBytes * 8 then some { buf with sizeBits := newSize } else none

def setSizeBytes (newSizeBytes : Nat) : Option BitBuffer :=
  if newSizeBytes ≤ buf.capacityBytes then some { buf with sizeBits := newSizeBytes * 8 } else none

def setByte (index : Nat) (byte : BitVec 8) : Option BitBuffer :=
  if index < buf.getSizeBytes then some { buf with data := Function.update buf.data index byte }
  else none

/-- `bit_buffer_set_byte_with_parity`. The first byte of eight clears the parity bits behind it,
the others set theirs by an or. -/
def setByteWithParity (index : Nat) (byte : BitVec 8) (bit : Bool) : Option BitBuffer :=
  if index < buf.sizeBits / 8 then
    some { buf with
      data := Function.update buf.data index byte
      parity := fun i =>
        if i = index then if index % 8 = 0 then bit else buf.parity index || bit
        else if index % 8 = 0 ∧ index < i ∧ i < index + 8 then false
        else buf.parity i }
  else none

def copyBytes (bytes : List (BitVec 8)) : Option BitBuffer :=
  if bytes.length ≤ buf.capacityBytes then
    some { buf with data := buf.data.copy 0 bytes, sizeBits := bytes.length * 8 }
  else none

def appendBytes (bytes : List (BitVec 8)) : Option BitBuffer :=
  if buf.getSizeBytes + bytes.length ≤ buf.capacityBytes then
    some { buf with
      data := buf.data.copy buf.getSizeBytes bytes
      sizeBits := buf.sizeBits + bytes.length * 8 }
  else none

def hasPartialByte : Bool := buf.sizeBits % 8 != 0

def reset : BitBuffer := alloc buf.capacityBytes

/-- `bit_buffer_copy`. A buffer that is copied to itself stays as it is. -/
def copy (other : BitBuffer) : Option BitBuffer :=
  if other.sizeBits ≤ buf.capacityBytes * 8 then
    some { buf with
      data := buf.data.copy 0 (other.bytes 0 other.getSizeBytes)
      sizeBits := other.sizeBits }
  else none

def copyRight (other : BitBuffer) (startIndex : Nat) : Option BitBuffer :=
  if startIndex < other.getSizeBytes ∧ other.getSizeBytes - startIndex ≤ buf.capacityBytes then
    some { buf with
      data := buf.data.copy 0 (other.bytes startIndex (other.getSizeBytes - startIndex))
      sizeBits := other.sizeBits - startIndex * 8 }
  else none

def copyLeft (other : BitBuffer) (endIndex : Nat) : Option BitBuffer :=
  if endIndex ≤ buf.capacityBytes ∧ endIndex ≤ other.getSizeBytes then
    some { buf with
      data := buf.data.copy 0 (other.bytes 0 endIndex)
      sizeBits := endIndex * 8 }
  else none

def copyBits (data : Memory) (sizeBits : Nat) : Option BitBuffer :=
  if sizeBits ≤ buf.capacityBytes * 8 then
    some { buf with
      data := buf.data.copy 0 ((List.range ((sizeBits + 7) / 8)).map data)
      sizeBits := sizeBits }
  else none

/-- `bit_buffer_append_right`. With a start index behind the end of the other buffer the number
of bytes wraps around, and the copy leaves both arrays. -/
def appendRight (other : BitBuffer) (startIndex : Nat) : Option BitBuffer :=
  if startIndex ≤ other.getSizeBytes ∧
      buf.getSizeBytes + (other.getSizeBytes - startIndex) ≤ buf.capacityBytes then
    some { buf with
      data := buf.data.copy buf.getSizeBytes
        (other.bytes startIndex (other.getSizeBytes - startIndex))
      -- the start may lie behind the last bit of a partial byte
      sizeBits :=
        if startIndex * 8 ≤ buf.sizeBits + other.sizeBits then
          buf.sizeBits + other.sizeBits - startIndex * 8
        else buf.sizeBits + other.sizeBits + 4294967296 - startIndex * 8 }
  else none

def append (other : BitBuffer) : Option BitBuffer := buf.appendRight other 0

def appendByte (byte : BitVec 8) : Option BitBuffer :=
  if buf.getSizeBytes + 1 ≤ buf.capacityBytes then
    some { buf with
      data := Function.update buf.data buf.getSizeBytes byte
      sizeBits := (buf.getSizeBytes + 1) * 8 }
  else none

def appendBit (bit : Bool) : Option BitBuffer :=
  if buf.getSizeBytes ≤ buf.capacityBytes - (if buf.hasPartialByte then 0 else 1) then
    some { buf with
      data :=
        if bit then
          Function.update buf.data (buf.sizeBits / 8)
            (buf.data (buf.sizeBits / 8) ||| 1#8 <<< (buf.sizeBits % 8))
        else buf.data
      sizeBits := buf.sizeBits + 1 }
  else none

variable {buf} in
/-- A byte is appended behind the last one, which is filled up. -/
lemma appendByte_cases {byte : BitVec 8} {out : BitBuffer} (h : buf.appendByte byte = some out) :
    buf.getSizeBytes + 1 ≤ buf.capacityBytes ∧ out.getSizeBytes = buf.getSizeBytes + 1 ∧
      out.capacityBytes = buf.capacityBytes ∧
      out.data = Function.update buf.data buf.getSizeBytes byte := by
  rw [appendByte] at h
  split_ifs at h with hfits
  have hout := Option.some.inj h
  have hsize : out.sizeBits = (buf.getSizeBytes + 1) * 8 := by rw [← hout]
  refine ⟨hfits, ?_, by rw [← hout], by rw [← hout]⟩
  rw [getSizeBytes, hsize, if_pos (Nat.mul_mod_left _ _), Nat.mul_div_cancel _ (by decide),
    Nat.add_zero]

variable {buf} in
lemma data_append {other out : BitBuffer} {i : Nat} (h : buf.append other = some out)
    (hi : i < buf.getSizeBytes) : out.data i = buf.data i := by
  rw [append, appendRight] at h
  split_ifs at h
  all_goals
    rw [← Option.some.inj h]
    exact Memory.copy_of_lt hi

/-! ### Frames with parity bits -/

/-- Set the parity bit of a byte. The first of eight bytes clears the bits of the bytes behind it,
the others set theirs by an or. -/
def storeParity (parity : Nat → Bool) (index : Nat) (bit : Bool) : Nat → Bool := fun i =>
  if i = index then if index % 8 = 0 then bit else parity index || bit
  else if index % 8 = 0 ∧ index < i ∧ i < index + 8 then false
  else parity i

/-- The loop of `bit_buffer_copy_bytes_with_parity` for one symbol of nine bits: a byte and its
parity bit. -/
def copySymbol (data : Memory) (buf : BitBuffer) (currByte : Nat) : BitBuffer :=
  let bitsProcessed := 9 * currByte
  { buf with
    data := Function.update buf.data currByte
      (data (bitsProcessed / 8) >>> (bitsProcessed % 8) |||
        data (bitsProcessed / 8 + 1) <<< (8 - bitsProcessed % 8))
    parity := storeParity buf.parity currByte
      ((data (bitsProcessed / 8 + 1)).getLsbD (bitsProcessed % 8)) }

/-- `bit_buffer_copy_bytes_with_parity`. It does not check the capacity. -/
def copyBytesWithParity (data : Memory) (sizeBits : Nat) : Option BitBuffer :=
  if sizeBits < 9 then
    some { buf with data := Function.update buf.data 0 (data 0), sizeBits := sizeBits }
  else if sizeBits % 9 = 0 then
    some { (List.range (sizeBits / 9)).foldl (copySymbol data) buf with
      sizeBits := sizeBits / 9 * 8 }
  else none

/-- The `next_par_bit` of the loop. -/
def nextParBit (i : Nat) : BitVec 8 := if buf.parity i then 1 else 0

/-- The loop of `bit_buffer_write_bytes_with_parity` for one byte. The position is a
`uint16_t`. -/
def writeSymbol (dest : Memory × Nat) (i : Nat) : Memory × Nat :=
  let (bitstream, currBitPos) := dest
  if currBitPos % 8 = 0 then
    let next := (currBitPos + 8) % 65536
    (Function.update (Function.update bitstream (currBitPos / 8) (buf.data i)) (next / 8)
        (buf.nextParBit i),
      (next + 1) % 65536)
  else
    let low := Function.update bitstream (currBitPos / 8)
      (bitstream (currBitPos / 8) ||| buf.data i <<< (currBitPos % 8))
    (Function.update low (currBitPos / 8 + 1)
      (buf.data i >>> (8 - currBitPos % 8) ||| buf.nextParBit i <<< (currBitPos % 8)),
      (currBitPos + 9) % 65536)

/-- `bit_buffer_write_bytes_with_parity`: the memory behind `dest` and the number of bits. -/
def writeBytesWithParity (dest : Memory) (sizeBytes : Nat) : Option (Memory × Nat) :=
  if (buf.getSizeBytes * 9 + 8) / 8 ≤ sizeBytes then
    some ((List.range buf.getSizeBytes).foldl buf.writeSymbol (dest, 0))
  else none

end BitBuffer

end FlipperZero
