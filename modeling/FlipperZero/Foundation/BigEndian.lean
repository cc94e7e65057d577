import FlipperZero.Foundation.BitString
import Mathlib.Tactic.Ring

/-!
# The number of a string of bits

A string of bits is a number with its first bit as the highest one. The number of a string in two
parts is put together from those of the parts.
-/

namespace Foundation

/-- The number of the first bits of a string. -/
def bigEndian (f : Nat → Bool) : Nat → Nat
  | 0     => 0
  | n + 1 => 2 * bigEndian f n + (f n).toNat

variable {f g : Nat → Bool}

lemma bigEndian_lt (f : Nat → Bool) (n : Nat) : bigEndian f n < 2 ^ n := by
  induction n with
  | zero => exact Nat.one_pos
  | succ n ih =>
    have hbit := Bool.toNat_le (f n)
    rw [bigEndian, Nat.pow_succ]
    omega

lemma bigEndian_add (f : Nat → Bool) (a b : Nat) :
    bigEndian f (a + b) = 2 ^ b * bigEndian f a + bigEndian (fun k => f (a + k)) b := by
  induction b with
  | zero => rw [Nat.pow_zero, Nat.one_mul]; rfl
  | succ b ih =>
    rw [← Nat.add_assoc, bigEndian, bigEndian, ih, Nat.pow_succ]
    ring

/-- The number of a string is that of the word in which it is packed. -/
lemma toNat_packed {w n : Nat} (hn : n ≤ w) : (packed w f n).toNat = bigEndian f n := by
  induction n with
  | zero => exact BitVec.toNat_zero
  | succ n ih =>
    have hlt : 2 * bigEndian f n + 1 < 2 ^ w := by
      have hpow : 2 ^ (n + 1) ≤ 2 ^ w := Nat.pow_le_pow_right Nat.two_pos hn
      have hle := bigEndian_lt f n
      rw [Nat.pow_succ] at hpow
      omega
    have hbit : (BitVec.ofBool (f n)).toNat % 2 ^ w = (f n).toNat := by
      have hle := Bool.toNat_le (f n)
      rw [BitVec.toNat_ofBool, Nat.mod_eq_of_lt (by omega)]
    have hdouble : (packed w f n).toNat <<< 1 % 2 ^ w = 2 * bigEndian f n := by
      rw [ih (Nat.le_of_succ_le hn), Nat.shiftLeft_eq, Nat.mod_eq_of_lt (by omega), Nat.pow_one,
        Nat.mul_comm]
    rw [packed, shiftIn, BitVec.toNat_or, BitVec.toNat_shiftLeft, BitVec.toNat_setWidth, hdouble, hbit,
      bigEndian]
    have hor := Nat.two_pow_add_eq_or_of_lt (i := 1) (b := (f n).toNat)
      (by have := Bool.toNat_le (f n); omega) (bigEndian f n)
    rw [Nat.pow_one] at hor
    exact hor.symm

end Foundation
