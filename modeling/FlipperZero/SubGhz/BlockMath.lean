import FlipperZero.Foundation.BitString
import Mathlib.Tactic.SplitIfs
import Mathlib.Algebra.Ring.Nat

/-!
# Arithmetic of the Sub-GHz protocols

`lib/subghz/blocks/math.c`: a key with its bits reversed, the distance of two durations, and two
words of 32 bits in one.
-/

namespace FlipperZero

open Foundation

def durationDiff (x y : Nat) : Nat := if x < y then y - x else x - y

def subghzProtocolBlocksReverseKey (key : BitVec 64) (bitCount : BitVec 8) : BitVec 64 :=
  packed 64 key.getLsbD bitCount.toNat

/-- Two words in one, the high one first. -/
def joinWords (high low : BitVec 32) : BitVec 64 :=
  high.setWidth 64 <<< 32 ||| low.setWidth 64

/-! ### Reversed keys -/

lemma subghzProtocolBlocksReverseKey_twice {key : BitVec 64} {bitCount : BitVec 8}
    (hcount : bitCount.toNat ≤ 64) (h : key.toNat < 2 ^ bitCount.toNat) :
    subghzProtocolBlocksReverseKey (subghzProtocolBlocksReverseKey key bitCount) bitCount = key := by
  apply BitVec.eq_of_getLsbD_eq
  intro i hi
  simp only [subghzProtocolBlocksReverseKey]
  rw [getLsbD_packed _ hi]
  by_cases hlt : i < bitCount.toNat
  · rw [getLsbD_packed _ (by omega), decide_eq_true hlt, decide_eq_true (by omega), Bool.true_and,
      Bool.true_and]
    congr 1
    omega
  · rw [decide_eq_false hlt, Bool.false_and, BitVec.getLsbD]
    exact (Nat.testBit_lt_two_pow (Nat.lt_of_lt_of_le h
      (Nat.pow_le_pow_right Nat.two_pos (Nat.not_lt.mp hlt)))).symm

lemma subghzProtocolBlocksReverseKey_involutive (key : BitVec 64) :
    subghzProtocolBlocksReverseKey (subghzProtocolBlocksReverseKey key 64) 64 = key :=
  subghzProtocolBlocksReverseKey_twice (Nat.le_refl 64) key.isLt

lemma subghzProtocolBlocksReverseKey_lt (key : BitVec 64) (bitCount : BitVec 8) :
    (subghzProtocolBlocksReverseKey key bitCount).toNat < 2 ^ bitCount.toNat := by
  refine Nat.lt_pow_two_of_testBit _ fun i hi => ?_
  by_cases h64 : i < 64
  · have hbit := getLsbD_packed key.getLsbD h64 (n := bitCount.toNat)
    rwa [decide_eq_false (Nat.not_lt.mpr hi), Bool.false_and] at hbit
  · exact BitVec.getLsbD_of_ge _ i (Nat.not_lt.mp h64)

/-! ### Words in one -/

lemma getLsbD_joinWords (high low : BitVec 32) {i : Nat} (hi : i < 64) :
    (joinWords high low).getLsbD i = if i < 32 then low.getLsbD i else high.getLsbD (i - 32) := by
  rw [joinWords, BitVec.getLsbD_or, BitVec.getLsbD_shiftLeft, BitVec.getLsbD_setWidth,
    BitVec.getLsbD_setWidth]
  split_ifs with hlow
  · simp [hlow, hi]
  · have hsub : i - 32 < 64 := by omega
    rw [BitVec.getLsbD_of_ge low i (Nat.not_lt.mp hlow)]
    simp [hlow, hi, hsub]

lemma joinWords_high (high low : BitVec 32) : (joinWords high low >>> 32).setWidth 32 = high := by
  apply BitVec.eq_of_getLsbD_eq
  intro i hi
  have hread := getLsbD_joinWords high low (by omega : 32 + i < 64)
  rw [if_neg (by omega), Nat.add_sub_cancel_left] at hread
  rw [BitVec.getLsbD_setWidth, BitVec.getLsbD_ushiftRight, decide_eq_true hi, hread, Bool.true_and]

lemma joinWords_low (high low : BitVec 32) : (joinWords high low).setWidth 32 = low := by
  apply BitVec.eq_of_getLsbD_eq
  intro i hi
  rw [BitVec.getLsbD_setWidth, getLsbD_joinWords high low (by omega), if_pos hi, decide_eq_true hi,
    Bool.true_and]

lemma joinWords_parts (key : BitVec 64) :
    joinWords ((key >>> 32).setWidth 32) (key.setWidth 32) = key := by
  apply BitVec.eq_of_getLsbD_eq
  intro i hi
  rw [getLsbD_joinWords _ _ hi]
  split_ifs with hlow
  · rw [BitVec.getLsbD_setWidth, decide_eq_true hlow, Bool.true_and]
  · rw [BitVec.getLsbD_setWidth, BitVec.getLsbD_ushiftRight, decide_eq_true (by omega),
      Bool.true_and, Nat.add_sub_cancel' (Nat.not_lt.mp hlow)]

end FlipperZero
