import FlipperZero.BitLib.ParityRoundTrip
import FlipperZero.Foundation.BigEndian
import FlipperZero.Foundation.Reads

/-!
# The bytes that are read for bits

`bit_lib_get_bits` takes its bits from two bytes whenever they do not start with a byte, also if
all of them lie in the first one. The longer reads are made of pieces of eight bits and one that is
left; only for the last piece may the second byte hold none of the bits.
-/

namespace FlipperZero

open Foundation

/-! ### The functions -/

/-- `bit_lib_get_bits`, with the bytes that it reads. -/
def bitLibReadBits (data : Memory) (position length : Nat) : Reads (BitVec 8) :=
  let shift := position % 8
  if shift = 0 then do
    let byte ← Reads.readAt data (position / 8)
    return byte >>> (8 - length)
  else do
    let byte ← Reads.readAt data (position / 8)
    let next ← Reads.readAt data (position / 8 + 1)
    return (byte <<< shift ||| next >>> (8 - shift)) >>> (8 - length)

/-- A branch of the longer reads: a number of pieces of eight bits, and the bits that are left. -/
def bitLibReadPieces (w : Nat) (data : Memory) (position length : Nat) : Nat → Reads (BitVec w)
  | 0     => do
    let bits ← bitLibReadBits data position length
    return bits.setWidth w
  | n + 1 => do
    let bits ← bitLibReadBits data position 8
    let rest ← bitLibReadPieces w data (position + 8) (length - 8) n
    return bits.setWidth w <<< (length - 8) ||| rest

/-- `bit_lib_get_bits_16`. -/
def bitLibReadBits16 (data : Memory) (position length : Nat) : Reads (BitVec 16) :=
  if length ≤ 8 then bitLibReadPieces 16 data position length 0
  else bitLibReadPieces 16 data position length 1

/-- `bit_lib_get_bits_32`. -/
def bitLibReadBits32 (data : Memory) (position length : Nat) : Reads (BitVec 32) :=
  if length ≤ 8 then bitLibReadPieces 32 data position length 0
  else if length ≤ 16 then bitLibReadPieces 32 data position length 1
  else if length ≤ 24 then bitLibReadPieces 32 data position length 2
  else bitLibReadPieces 32 data position length 3

/-- `bit_lib_get_bits_64`. -/
def bitLibReadBits64 (data : Memory) (position length : Nat) : Reads (BitVec 64) :=
  if length ≤ 8 then bitLibReadPieces 64 data position length 0
  else if length ≤ 16 then bitLibReadPieces 64 data position length 1
  else if length ≤ 24 then bitLibReadPieces 64 data position length 2
  else if length ≤ 32 then bitLibReadPieces 64 data position length 3
  else if length ≤ 40 then bitLibReadPieces 64 data position length 4
  else if length ≤ 48 then bitLibReadPieces 64 data position length 5
  else if length ≤ 56 then bitLibReadPieces 64 data position length 6
  else bitLibReadPieces 64 data position length 7

/-- A read of bits returns their number and stays in the bytes that hold them. -/
structure ReadsBits {w : Nat} (m : Reads (BitVec w)) (data : Memory) (position length : Nat) :
    Prop where
  value : m.value.map BitVec.toNat =
    some (bigEndian (fun k => bitLibGetBit data (position + k)) length)
  inside : m.Inside ((position + length - 1) / 8 + 1)

/-- The bits start with a byte, or those that are left behind whole pieces end in the next one. -/
def LastPieceFits (position length : Nat) : Prop :=
  position % 8 = 0 ∨ 8 < position % 8 + ((length - 1) % 8 + 1)

/-! ### The value -/

lemma bitLibReadBits_value (data : Memory) (position length : Nat) :
    (bitLibReadBits data position length).value = some (bitLibGetBits data position length) := by
  rw [bitLibReadBits, bitLibGetBits]
  split_ifs <;> rfl

lemma setWidth_bitLibGetBits {w : Nat} (data : Memory) (position : Nat) {length : Nat}
    (hlength : length ≤ 8) : (bitLibGetBits data position length).setWidth w =
      packed w (fun k => bitLibGetBit data (position + k)) length := by
  apply BitVec.eq_of_getLsbD_eq
  intro i hi
  rw [BitVec.getLsbD_setWidth, getLsbD_packed _ hi, getLsbD_bitLibGetBits _ _ hlength,
    decide_eq_true hi, Bool.true_and]

lemma bitLibReadPieces_value (w : Nat) (data : Memory) {n position length : Nat}
    (hmore : 8 * n ≤ length) (hlength : length ≤ 8 * (n + 1)) :
    (bitLibReadPieces w data position length n).value =
      some (packed w (fun k => bitLibGetBit data (position + k)) length) := by
  induction n generalizing position length with
  | zero =>
    rw [bitLibReadPieces, Reads.value_bind, bitLibReadBits_value, Option.bind_some, Reads.value_pure,
      setWidth_bitLibGetBits data position (by omega)]
  | succ n ih =>
    obtain ⟨rest, rfl⟩ : ∃ rest, length = 8 + rest := ⟨length - 8, by omega⟩
    rw [bitLibReadPieces, Reads.value_bind, bitLibReadBits_value, Option.bind_some, Reads.value_bind,
      Nat.add_sub_cancel_left, ih (by omega) (by omega), Option.bind_some, Reads.value_pure,
      setWidth_bitLibGetBits data position (Nat.le_refl 8), packed_add]
    simp only [Nat.add_assoc]

/-! ### The bytes -/

lemma bitLibReadBits_inside (data : Memory) (position length size : Nat) :
    (bitLibReadBits data position length).Inside size ↔
      position / 8 < size ∧ (position % 8 ≠ 0 → position / 8 + 1 < size) := by
  rw [bitLibReadBits]
  split_ifs with hshift
  · rw [Reads.inside_readAt_bind]
    simp [hshift]
  · rw [Reads.inside_readAt_bind, Reads.inside_readAt_bind]
    simp [hshift]

lemma bitLibReadPieces_inside (w : Nat) (data : Memory) {n position length : Nat}
    (hmore : 8 * n < length) (hlength : length ≤ 8 * (n + 1)) :
    (bitLibReadPieces w data position length n).Inside ((position + length - 1) / 8 + 1) ↔
      position % 8 = 0 ∨ 8 < position % 8 + (length - 8 * n) := by
  induction n generalizing position length with
  | zero =>
    rw [bitLibReadPieces, Reads.inside_bind_of_value (bitLibReadBits_value data position length),
      bitLibReadBits_inside]
    simp only [Reads.inside_pure, and_true]
    omega
  | succ n ih =>
    have hvalue : (bitLibReadPieces w data (position + 8) (length - 8) n).value =
        some (packed w (fun k => bitLibGetBit data (position + 8 + k)) (length - 8)) :=
      bitLibReadPieces_value w data (by omega) (by omega)
    have hrest : (bitLibReadPieces w data (position + 8) (length - 8) n).Inside
        ((position + 8 + (length - 8) - 1) / 8 + 1) ↔
          (position + 8) % 8 = 0 ∨ 8 < (position + 8) % 8 + (length - 8 - 8 * n) :=
      ih (by omega) (by omega)
    have hend : position + 8 + (length - 8) - 1 = position + length - 1 := by omega
    rw [hend] at hrest
    rw [bitLibReadPieces, Reads.inside_bind_of_value (bitLibReadBits_value data position 8),
      Reads.inside_bind_of_value hvalue, hrest, bitLibReadBits_inside]
    simp only [Reads.inside_pure, and_true]
    omega

lemma bitLibReadPieces_right_iff (w : Nat) (data : Memory) {n position length : Nat}
    (hmore : 8 * n < length) (hlength : length ≤ 8 * (n + 1)) (hw : length ≤ w) :
    ReadsBits (bitLibReadPieces w data position length n) data position length ↔
      LastPieceFits position length := by
  have hlast : length - 8 * n = (length - 1) % 8 + 1 := by omega
  have hinside : (bitLibReadPieces w data position length n).Inside
      ((position + length - 1) / 8 + 1) ↔
        position % 8 = 0 ∨ 8 < position % 8 + (length - 8 * n) :=
    bitLibReadPieces_inside w data hmore hlength
  rw [hlast] at hinside
  refine ⟨fun h => hinside.mp h.inside, fun h => ⟨?_, hinside.mpr h⟩⟩
  rw [bitLibReadPieces_value w data hmore.le hlength, Option.map_some, toNat_packed hw]

/-- Every variant returns the number of the bits, and reads no byte behind them exactly if the last
piece fits. -/
theorem bitLibReadBits_right_iff (data : Memory) (position length : Nat) (hpos : 0 < length) :
    (length ≤ 8 → (ReadsBits (bitLibReadBits data position length) data position length ↔
      LastPieceFits position length)) ∧
    (length ≤ 16 → (ReadsBits (bitLibReadBits16 data position length) data position length ↔
      LastPieceFits position length)) ∧
    (length ≤ 32 → (ReadsBits (bitLibReadBits32 data position length) data position length ↔
      LastPieceFits position length)) ∧
    (length ≤ 64 → (ReadsBits (bitLibReadBits64 data position length) data position length ↔
      LastPieceFits position length)) := by
  refine ⟨fun h => ?_, fun h => ?_, fun h => ?_, fun h => ?_⟩
  · have hpieces : ReadsBits (bitLibReadPieces 8 data position length 0) data position length ↔
        LastPieceFits position length := bitLibReadPieces_right_iff 8 data hpos h h
    have hvalue := bitLibReadBits_value data position length
    rw [bitLibReadPieces] at hpieces
    rw [← hpieces]
    constructor
    · rintro ⟨hnumber, hinside⟩
      refine ⟨?_, (Reads.inside_bind_of_value hvalue).mpr ⟨hinside, Reads.inside_pure _⟩⟩
      rw [Reads.value_bind, hvalue, Option.bind_some, Reads.value_pure, BitVec.setWidth_eq, ← hvalue]
      exact hnumber
    · rintro ⟨hnumber, hinside⟩
      refine ⟨?_, ((Reads.inside_bind_of_value hvalue).mp hinside).1⟩
      rw [Reads.value_bind, hvalue, Option.bind_some, Reads.value_pure, BitVec.setWidth_eq, ← hvalue]
        at hnumber
      exact hnumber
  · rw [bitLibReadBits16]
    split_ifs
    all_goals exact bitLibReadPieces_right_iff 16 data (by omega) (by omega) h
  · rw [bitLibReadBits32]
    split_ifs
    all_goals exact bitLibReadPieces_right_iff 32 data (by omega) (by omega) h
  · rw [bitLibReadBits64]
    split_ifs
    all_goals exact bitLibReadPieces_right_iff 64 data (by omega) (by omega) h

theorem bitLibReadBits_right_iff_word :
    ReadsBits (bitLibReadBits64 (fun _ => 0x5A) 4 14) (fun _ => 0x5A) 4 14 :=
  ((bitLibReadBits_right_iff (fun _ => 0x5A) 4 14 (by decide)).2.2.2 (by decide)).mpr
    (.inr (by decide))

/-- Four bits of the first byte are read from two bytes. -/
theorem not_bitLibReadBits_right :
    1 ∈ (bitLibReadBits64 (fun _ => 0x5A) 1 4).indexes ∧
      ¬ReadsBits (bitLibReadBits64 (fun _ => 0x5A) 1 4) (fun _ => 0x5A) 1 4 := by
  have hread : 1 ∈ (bitLibReadBits64 (fun _ => 0x5A) 1 4).indexes := by decide
  exact ⟨hread, fun h => absurd (h.inside.2 1 hread) (by decide)⟩

end FlipperZero
