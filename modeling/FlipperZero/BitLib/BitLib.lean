import FlipperZero.Foundation.BitString
import FlipperZero.Foundation.Memory

/-!
# Bits in arrays of bytes

`bit_lib.c` counts the bits of a byte from the highest one. `bit_lib_add_parity` puts a parity
bit behind every word, `bit_lib_test_parity` checks the blocks that it made and
`bit_lib_remove_bit_every_nth` takes the parity bits out again. The lengths are bytes.
-/

namespace FlipperZero

open Foundation

inductive BitLibParity where
  | even
  | odd
  | always0
  | always1
deriving DecidableEq

/-! ### Bits -/

def bitLibSetBit (data : Memory) (position : Nat) (bit : Bool) : Memory :=
  let shift := 7 - position % 8
  Function.update data (position / 8)
    (if bit then data (position / 8) ||| 1#8 <<< shift else data (position / 8) &&& ~~~(1#8 <<< shift))

def bitLibSetBits (data : Memory) (position : Nat) (byte : BitVec 8) (length : Nat) : Option Memory :=
  if 0 < length ∧ length ≤ 8 then
    some ((List.range length).foldl (fun data i =>
      bitLibSetBit data (position + i) (byte.getLsbD (length - 1 - i))) data)
  else none

def bitLibGetBit (data : Memory) (position : Nat) : Bool :=
  (data (position / 8) >>> (7 - position % 8)).getLsbD 0

/-- `bit_lib_get_bits` for at most eight bits. -/
def bitLibGetBits (data : Memory) (position length : Nat) : BitVec 8 :=
  let shift := position % 8
  if shift = 0 then data (position / 8) >>> (8 - length)
  else (data (position / 8) <<< shift ||| data (position / 8 + 1) >>> (8 - shift)) >>> (8 - length)

/-- The bits of `bit_lib_get_bits`, shifted in a word. -/
def bitLibWord (data : Memory) (position length shift : Nat) : BitVec 32 :=
  (bitLibGetBits data position length).setWidth 32 <<< shift

/-- `bit_lib_get_bits_32`. A length over 32 shifts by more than the width of the word. -/
def bitLibGetBits32 (data : Memory) (position length : Nat) : Option (BitVec 32) :=
  if length ≤ 8 then some (bitLibWord data position length 0)
  else if length ≤ 16 then
    some (bitLibWord data position 8 (length - 8) |||
      bitLibWord data (position + 8) (length - 8) 0)
  else if length ≤ 24 then
    some (bitLibWord data position 8 (length - 8) |||
      bitLibWord data (position + 8) 8 (length - 16) |||
      bitLibWord data (position + 16) (length - 16) 0)
  else if length ≤ 32 then
    some (bitLibWord data position 8 (length - 8) |||
      bitLibWord data (position + 8) 8 (length - 16) |||
      bitLibWord data (position + 16) 8 (length - 24) |||
      bitLibWord data (position + 24) (length - 24) 0)
  else none

/-! ### Parity -/

/-- `bit_lib_test_parity_32`. Other kinds of parity crash. -/
def bitLibTestParity32 (bits : BitVec 32) : BitLibParity → Option Bool
  | .even => some (parity bits)
  | .odd  => some (!parity bits)
  | _     => none

/-- The check of a block of `bit_lib_test_parity`. -/
def bitLibTestBlock (bits : Memory) (position : Nat) (kind : BitLibParity) (parityLength : Nat) :
    Option Bool :=
  match kind with
  | .even | .odd => (bitLibGetBits32 bits position parityLength).bind fun parityBlock =>
      bitLibTestParity32 parityBlock kind
  | .always0 => some (!bitLibGetBit bits (position + parityLength - 1))
  | .always1 => some (bitLibGetBit bits (position + parityLength - 1))

/-- The loop of `bit_lib_test_parity`, which ends at the first block that fails. -/
def bitLibTestBlocks (test : Nat → Option Bool) : List Nat → Option Bool
  | []      => some true
  | i :: is => do
    let result ← test i
    if result then bitLibTestBlocks test is else return false

/-- `bit_lib_test_parity`. It divides by the parity length. -/
def bitLibTestParity (bits : Memory) (position : Nat) (length : BitVec 8) (kind : BitLibParity)
    (parityLength : BitVec 8) : Option Bool :=
  if parityLength = 0 then none
  else
    bitLibTestBlocks (fun i =>
      bitLibTestBlock bits (position + i * parityLength.toNat) kind parityLength.toNat)
        (List.range (length.toNat / parityLength.toNat))

/-- The state of `bit_lib_add_parity`. -/
structure BitLibAddParity where
  parityWord : BitVec 32
  dest : Memory
  j : Nat
  bitCount : Nat

def bitLibAddBit (data : Memory) (destPosition : Nat) (s : BitLibAddParity) (position : Nat) :
    BitLibAddParity :=
  let bit := bitLibGetBit data position
  { s with
    parityWord := shiftIn s.parityWord bit
    dest := bitLibSetBit s.dest (destPosition + s.j) bit
    j := s.j + 1 }

/-- The bit behind a word. The kind of parity is 0 for even and 1 for odd. -/
def bitLibParityBit (parityWord : BitVec 32) : BitLibParity → Option Bool
  | .always0 => some false
  | .always1 => some true
  | .even    => (bitLibTestParity32 parityWord .odd).map fun test => (test ^^ false) ^^ true
  | .odd     => (bitLibTestParity32 parityWord .odd).map fun test => (test ^^ true) ^^ true

/-- One word of `bit_lib_add_parity`. -/
def bitLibAddWord (data : Memory) (position destPosition parityLength : Nat) (kind : BitLibParity)
    (s : BitLibAddParity) : Option BitLibAddParity :=
  let s := (List.range (parityLength - 1)).foldl (fun s bit =>
    bitLibAddBit data destPosition s (position + bit)) s
  (bitLibParityBit s.parityWord kind).map fun bit =>
    { parityWord := 0
      dest := bitLibSetBit s.dest (destPosition + s.j) bit
      j := s.j + 1
      bitCount := s.bitCount + parityLength }

/-- `bit_lib_add_parity`: the destination and the number of bits. Without a bit in a word the loop
does not come to its end. -/
def bitLibAddParity (data : Memory) (position : Nat) (dest : Memory) (destPosition : Nat)
    (sourceLength parityLength : BitVec 8) (kind : BitLibParity) : Option (Memory × Nat) :=
  if sourceLength = 0 then some (dest, 0)
  else if parityLength.toNat ≤ 1 then none
  else
    let wordLength := parityLength.toNat - 1
    -- the words that begin below the source length
    let words := (sourceLength.toNat + wordLength - 1) / wordLength
    ((List.range words).foldlM (fun s i =>
      bitLibAddWord data (position + i * wordLength) destPosition parityLength.toNat kind s)
        ⟨0, dest, 0, 0⟩).map fun s => (s.dest, s.bitCount)

/-- The state of `bit_lib_remove_bit_every_nth`. -/
structure BitLibRemove where
  data : Memory
  resultCounter : Nat
  bitBuffer : BitVec 8
  bitCounter : Nat

/-- A round of `bit_lib_remove_bit_every_nth`. -/
def bitLibRemoveRound (position n : Nat) (s : BitLibRemove) (counter : Nat) : Option BitLibRemove :=
  let s :=
    if (counter + 1) % n ≠ 0 then
      { s with
        bitBuffer := shiftIn s.bitBuffer (bitLibGetBit s.data (position + counter))
        bitCounter := s.bitCounter + 1 }
    else s
  if s.bitCounter = 8 then
    (bitLibSetBits s.data (position + s.resultCounter) s.bitBuffer 8).map fun data =>
      { data := data, resultCounter := s.resultCounter + 8, bitBuffer := 0, bitCounter := 0 }
  else some s

/-- `bit_lib_remove_bit_every_nth`: the array and the number of bits that remain. -/
def bitLibRemoveBitEveryNth (data : Memory) (position : Nat) (length n : BitVec 8) :
    Option (Memory × Nat) := do
  if n = 0 ∧ length ≠ 0 then none
  let s ← (List.range length.toNat).foldlM (bitLibRemoveRound position n.toNat) ⟨data, 0, 0, 0⟩
  if s.bitCounter ≠ 0 then
    let data ← bitLibSetBits s.data (position + s.resultCounter) s.bitBuffer s.bitCounter
    return (data, s.resultCounter + s.bitCounter)
  else return (s.data, s.resultCounter)

end FlipperZero
