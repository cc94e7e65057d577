import FlipperZero.BitLib.BitWindow
import Mathlib.Tactic.IntervalCases

/-!
# Fields in arrays of bits

A field is read as it was written, and writes elsewhere do not change it. A frame that is sent over
and over stands in the array of a decoder with the start of the next one behind it.
-/

namespace FlipperZero

open Foundation

/-- The round of `bit_lib_crc16` for a bit. -/
def bitLibCrc16Round (polynom crc : BitVec 16) (bit : Bool) : BitVec 16 :=
  if crc.getLsbD 15 ^^ bit then crc <<< 1 ^^^ polynom else crc <<< 1

def bitLibCrc16 (data : List (BitVec 8)) (polynom init : BitVec 16) (refIn refOut : Bool)
    (xorOut : BitVec 16) : BitVec 16 :=
  let crc := data.foldl (fun crc byte =>
    let byte := if refIn then byte.reverse else byte
    (List.range 8).foldl (fun crc j => bitLibCrc16Round polynom crc (byte.getLsbD (7 - j))) crc) init
  (if refOut then crc.reverse else crc) ^^^ xorOut

def bytesOf (data : Memory) (n : Nat) : List (BitVec 8) := (List.range n).map data

/-- The array of a decoder behind a whole frame of some bytes. -/
def repeatedFrame (size : Nat) (frame : Memory) : Memory := fun i => frame (i % size)

/-- What `bit_lib_set_bits` writes. -/
def bitLibPutBits (data : Memory) (position : Nat) (byte : BitVec 8) (length : Nat) : Memory :=
  (List.range length).foldl (fun data i =>
    bitLibSetBit data (position + i) (byte.getLsbD (length - 1 - i))) data

variable {data : Memory} {position length p n : Nat} {byte : BitVec 8} {bit : Bool}

lemma bitLibSetBits_eq (data : Memory) (position : Nat) (byte : BitVec 8) (h : 0 < length ∧ length ≤ 8) :
    bitLibSetBits data position byte length = some (bitLibPutBits data position byte length) :=
  if_pos h

lemma bitLibGetBit_putBits (data : Memory) (position : Nat) (byte : BitVec 8) (length q : Nat) :
    bitLibGetBit (bitLibPutBits data position byte length) q =
      if position ≤ q ∧ q < position + length then byte.getLsbD (length - 1 - (q - position))
      else bitLibGetBit data q :=
  bitLibGetBit_foldl (fun i => byte.getLsbD (length - 1 - i)) data position length q

lemma bitLibGetBit_putBits_of_disjoint (h : p < position ∨ position + length ≤ p) :
    bitLibGetBit (bitLibPutBits data position byte length) p = bitLibGetBit data p := by
  rw [bitLibGetBit_putBits, if_neg (by omega)]

lemma bitLibGetBit_setBit_of_ne (h : p ≠ position) :
    bitLibGetBit (bitLibSetBit data position bit) p = bitLibGetBit data p := by
  rw [bitLibGetBit_setBit, if_neg h]

lemma bitLibGetBit_setBit_self : bitLibGetBit (bitLibSetBit data position bit) position = bit := by
  rw [bitLibGetBit_setBit, if_pos rfl]

/-! ### Fields -/

lemma bitLibGetBits_congr {data' : Memory} {p' : Nat} (hn : n ≤ 8)
    (h : ∀ k < n, bitLibGetBit data' (p' + k) = bitLibGetBit data (p + k)) :
    bitLibGetBits data' p' n = bitLibGetBits data p n := by
  apply BitVec.eq_of_getLsbD_eq
  intro i hi
  rw [getLsbD_bitLibGetBits _ _ hn, getLsbD_bitLibGetBits _ _ hn]
  by_cases hlt : i < n
  · rw [h (n - 1 - i) (by omega)]
  · rw [decide_eq_false hlt, Bool.false_and, Bool.false_and]

lemma bitLibGetBits_putBits (data : Memory) (position : Nat) (byte : BitVec 8) :
    bitLibGetBits (bitLibPutBits data position byte 8) position 8 = byte := by
  apply BitVec.eq_of_getLsbD_eq
  intro i hi
  have hindex : 8 - 1 - (position + (8 - 1 - i) - position) = i := by omega
  rw [getLsbD_bitLibGetBits _ _ (Nat.le_refl 8), decide_eq_true hi, Bool.true_and,
    bitLibGetBit_putBits, if_pos (by omega), hindex]

lemma bitLibGetBits_putBits_of_disjoint (hn : n ≤ 8)
    (h : p + n ≤ position ∨ position + length ≤ p) :
    bitLibGetBits (bitLibPutBits data position byte length) p n = bitLibGetBits data p n :=
  bitLibGetBits_congr hn fun _ _ => bitLibGetBit_putBits_of_disjoint (by omega)

lemma bitLibGetBits_setBit_of_disjoint (hn : n ≤ 8) (h : p + n ≤ position ∨ position < p) :
    bitLibGetBits (bitLibSetBit data position bit) p n = bitLibGetBits data p n :=
  bitLibGetBits_congr hn fun _ _ => bitLibGetBit_setBit_of_ne (by omega)

lemma bitLibGetBit_of_getBits (h : bitLibGetBits data p 8 = byte) {k : Nat} (hk : k < 8) :
    bitLibGetBit data (p + k) = byte.getLsbD (7 - k) := by
  have hindex : 8 - 1 - (7 - k) = k := by omega
  rw [← h, getLsbD_bitLibGetBits _ _ (Nat.le_refl 8), decide_eq_true (by omega), Bool.true_and, hindex]

lemma byte_eq_of_bits {j : Nat} (h : ∀ k < 8, bitLibGetBit data (8 * j + k) = byte.getLsbD (7 - k)) :
    data j = byte := by
  apply BitVec.eq_of_getLsbD_eq
  intro i hi
  have hbit := h (7 - i) (by omega)
  have hbyte : (8 * j + (7 - i)) / 8 = j := by omega
  have hrest : 7 - (8 * j + (7 - i)) % 8 = i := by omega
  have hback : 7 - (7 - i) = i := by omega
  rw [bitLibGetBit_eq, hbyte, hrest, hback] at hbit
  exact hbit

lemma bitLibGetBit_repeatedFrame (size : Nat) (frame : Memory) (q : Nat) :
    bitLibGetBit (repeatedFrame size frame) q = bitLibGetBit frame (q % (8 * size)) := by
  have hdiv : q / 8 % size = q % (8 * size) / 8 := (Nat.mod_mul_right_div_self q 8 size).symm
  have hmod : q % (8 * size) % 8 = q % 8 := Nat.mod_mul_right_mod q 8 size
  rw [bitLibGetBit_eq, bitLibGetBit_eq, repeatedFrame, hdiv, hmod]

lemma bitLibGetBits_repeatedFrame {size : Nat} (frame : Memory) {p : Nat} (hn : n ≤ 8)
    (h : p % (8 * size) + n ≤ 8 * size) :
    bitLibGetBits (repeatedFrame size frame) p n = bitLibGetBits frame (p % (8 * size)) n := by
  apply bitLibGetBits_congr hn
  intro k hk
  have hmod : (p + k) % (8 * size) = p % (8 * size) + k := by
    rw [Nat.add_mod, Nat.mod_eq_of_lt (by omega : k < 8 * size), Nat.mod_eq_of_lt (by omega)]
  rw [bitLibGetBit_repeatedFrame, hmod]

/-- `bit_lib_get_bits_16` puts the bits of a string together. -/
lemma bitLibGetBits16_eq (data : Memory) (position : Nat) (hn : n ≤ 16) :
    bitLibGetBits16 data position n = packed 16 (fun k => bitLibGetBit data (position + k)) n := by
  have hword (start length : Nat) (hle : length ≤ 8) :
      (bitLibGetBits data start length).setWidth 16 =
        packed 16 (fun k => bitLibGetBit data (start + k)) length := by
    apply BitVec.eq_of_getLsbD_eq
    intro i hi
    rw [BitVec.getLsbD_setWidth, getLsbD_packed _ hi, getLsbD_bitLibGetBits _ _ hle,
      decide_eq_true hi, Bool.true_and]
  rw [bitLibGetBits16]
  split_ifs with h8
  · exact hword position n h8
  · obtain ⟨rest, rfl⟩ : ∃ rest, n = 8 + rest := ⟨n - 8, by omega⟩
    rw [Nat.add_sub_cancel_left, hword _ 8 (Nat.le_refl 8), hword _ rest (by omega), packed_add]
    simp only [Nat.add_assoc]

lemma bitLibTestParity_always1 (data : Memory) (position : Nat) (length : BitVec 8)
    {parityLength : BitVec 8} (hpos : parityLength ≠ 0) :
    bitLibTestParity data position length .always1 parityLength =
      some ((List.range (length.toNat / parityLength.toNat)).all fun i =>
        bitLibGetBit data (position + i * parityLength.toNat + parityLength.toNat - 1)) := by
  rw [bitLibTestParity, if_neg hpos]
  exact bitLibTestBlocks_some _ _

lemma bitLibGetBit_foldl_pushBit (data : Memory) (m n : Nat) {k : Nat} (hk : k + n < 8 * (m + 1)) :
    bitLibGetBit ((List.range n).foldl (fun data _ => bitLibPushBit data (m + 1) bit) data) k =
      bitLibGetBit data (k + n) := by
  induction n generalizing k with
  | zero => rfl
  | succ n ih =>
    rw [List.range_succ, List.foldl_append, List.foldl_cons, List.foldl_nil,
      bitLibGetBit_pushBit _ m bit (by omega), if_neg (by omega), ih (by omega), Nat.add_assoc,
      Nat.add_comm 1 n]

end FlipperZero
